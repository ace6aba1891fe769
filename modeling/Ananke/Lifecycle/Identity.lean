import Ananke.Store.Journal

/-! The identity record of a supervisor, the transcript's file identity, and the errors the
daemon and the supervisor tell apart. -/
namespace Ananke.Lifecycle

open Store

/-- An error value. The processes test for store errors, for `ESRCH`, for a missing file and
for the two context errors; every other error is a text. -/
inductive Err
  | store (e : StoreError)
  | esrch
  | notExist
  | canceled
  | deadlineExceeded
  | other (text : String)
deriving DecidableEq

def Err.text : Err → String
  | .store e => e.text
  | .esrch => "no such process"
  | .notExist => "file does not exist"
  | .canceled => "context canceled"
  | .deadlineExceeded => "context deadline exceeded"
  | .other text => text

/-- The durable record of one run's supervisor, less its worker arguments and launch time,
which no check reads. -/
structure Identity where
  runID : String
  (supervisorPID supervisorPGID workerPID : Int)
  (socketPath token transcriptPath : String)
  transcriptIdentity : TranscriptFileIdentity
deriving DecidableEq

/-- The parts of a stat result the identity checks read. -/
structure FileInfo where
  mode : String
  regular : Bool
  (device inode : Nat)
  size : Int

def maxInt64 : Nat := 9223372036854775807

def transcriptIdentityFromInfo (info : FileInfo) : Except String TranscriptFileIdentity :=
  if ¬ info.regular then
    .error ("lifecycle: transcript mode " ++ info.mode ++ " is not regular")
  else if info.device > maxInt64 ∨ info.inode > maxInt64 then
    .error ("lifecycle: transcript identity exceeds signed 64-bit range: device=" ++
      toString info.device ++ " inode=" ++ toString info.inode)
  else
    let ident : TranscriptFileIdentity := ⟨info.device, info.inode⟩
    match ident.validate with
    | .error e => .error ("lifecycle: invalid transcript identity: " ++ e.text)
    | .ok () => .ok ident

/-- `none` when the file is the expected one, else the error's text. -/
def validateTranscriptIdentity (info : FileInfo) (want : TranscriptFileIdentity) :
    Option String :=
  match want.validate with
  | .error e => some ("lifecycle: expected transcript identity: " ++ e.text)
  | .ok () =>
    match transcriptIdentityFromInfo info with
    | .error text => some text
    | .ok actual =>
      if actual ≠ want then
        some ("lifecycle: transcript identity mismatch: expected " ++ want.text ++ ", got " ++
          actual.text)
      else none

end Ananke.Lifecycle
