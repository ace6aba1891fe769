import Ananke.Lifecycle.Question

/-! The transcript tailer: how the daemon opens a run's transcript, turns its lines into
journaled events, and hands the file over once all its writers are gone. Errors that are
only reported to the background log are dropped. -/
namespace Ananke.Lifecycle

open Store Interaction Text

def isSpaceByte (b : UInt8) : Bool := b = 9 || b = 10 || b = 11 || b = 12 || b = 13 || b = 32

/-- `bytes.TrimSpace` of a raw JSON value, which neither starts nor ends outside ASCII. -/
def trimBytes (bytes : List UInt8) : List UInt8 :=
  ((bytes.dropWhile isSpaceByte).reverse.dropWhile isSpaceByte).reverse

def nullBytes : List UInt8 := [110, 117, 108, 108]

/-- `json.Unmarshal` into the envelope's type and raw payload, which is empty when the
field is missing. -/
abbrev Unmarshal := List UInt8 → Option (String × List UInt8)

section

variable (tail : Option Tail) (unmarshal : Unmarshal) (fuel : Nat)

/-- The envelope of a line, unless it is malformed. -/
def parseEnvelope (trimmed : List UInt8) : Option (String × List UInt8) :=
  match unmarshal trimmed with
  | none => none
  | some (type, payload) =>
    if trimSpace type = "" then none
    else if trimBytes payload = [] ∨ trimBytes payload = nullBytes then none
    else some (type, payload)

def trimNewline (line : List UInt8) : List UInt8 :=
  if line.getLast? = some newline then line.dropLast else line

def markTranscriptAuthorityFailure (r : Run) (reason : String) : RunProg Unit :=
  if isTerminal r.state ∨ r.state = .cleanupRequired ∨
      ¬ canTransition r.state .cleanupRequired then pure ()
  else do
    let _ ← write (.transition .cleanupRequired reason)
    pure ()

/-- Marks the failure and leaves the tail as it is. -/
def refuseTail (r : Run) (reason : String) (tail : Option Tail) : RunProg (Option Tail) := do
  markTranscriptAuthorityFailure r reason
  pure tail

def waitingForPrelaunch (r : Run) : Bool :=
  r.state = .created && r.supervisorPID = 0 && r.workerPID = 0

/-- The end of `startTailing`, once the file is open and checked. A tail that is there
already stays. -/
def placeTail (off : Int) : RunProg (Option Tail) := do
  match ← call (.seek off) with
  | some _ => pure tail
  | none => if ← call .closing then pure tail else pure (some (tail.getD (.at off)))

def openTail (r : Run) (path : String) (off : Int) : RunProg (Option Tail) := do
  match ← call (.openTranscript path) with
  | some _ =>
    if waitingForPrelaunch r then pure tail
    else refuseTail r "durable transcript path is unavailable" tail
  | none =>
    match ← call .statOpened with
    | .error _ => refuseTail r "cannot stat opened durable transcript" tail
    | .ok info =>
      if (validateTranscriptIdentity info r.transcriptIdentity).isSome then
        refuseTail r "named transcript does not match durable file identity" tail
      else if off < 0 ∨ off > info.size then
        refuseTail r "durable transcript offset is outside the named file" tail
      else placeTail tail off

/-- Opens the transcript at `offset`; the result is the tail afterwards. -/
def startTailing (path : String) (off : Int) : RunProg (Option Tail) := do
  match ← call .getRun with
  | .error _ => pure tail
  | .ok r =>
    if isTerminal r.state then pure tail
    else if path ≠ r.transcriptPath then
      refuseTail r "transcript path does not match durable run authority" tail
    else
      match r.transcriptIdentity.validate with
      | .error _ =>
        if waitingForPrelaunch r then pure tail
        else refuseTail r "transcript durable file identity is missing or invalid" tail
      | .ok () => openTail tail r path off

variable (t : Tail)

/-- Puts a line back. Where the seek fails the reader stays behind the line. -/
def retryTranscriptLine : RunProg Tail := do
  match ← call (.rewind t.offset) with
  | some _ => pure t
  | none => pure (.at t.offset)

/-- Leaves the read loop for this tick with the line put back. -/
def retryLater : RunProg (Tail ⊕ Tail) := do
  pure (.inr (← retryTranscriptLine t))

/-- A terminator makes a line complete, and so does a seal at its very end. -/
def lineComplete (line : List UInt8) (status : ReadEnd) (lineOffset : Int) : RunProg Bool := do
  if line.getLast? = some newline then pure true
  else if status = .eof then
    match ← call .getTranscriptProgress with
    | .error _ => pure false
    | .ok progress => pure (progress.finalSize ≥ 0 ∧ lineOffset = progress.finalSize)
  else pure false

/-- Sees to it that the corrupted run owes a cleanup; the result is the error, if any. -/
def requireCleanup (r : Run) : RunProg (Option Err) :=
  if r.state = .cleanupRequired then pure none
  else if canTransition r.state .cleanupRequired then
    write (.transition .cleanupRequired "transcript corruption: malformed event envelope")
  else pure (some (.other ("cannot transition from " ++ r.state.text.quote)))

/-- A complete malformed envelope is durable transcript corruption. -/
def accountCorruption (lineOffset : Int) : RunProg (Tail ⊕ Tail) := do
  match ← call .getRun with
  | .error _ => retryLater t
  | .ok r =>
    if isTerminal r.state then pure (.inl { t with offset := lineOffset })
    else
      match ← requireCleanup r with
      | some _ => retryLater t
      | none =>
        match ← write (.accountMalformed lineOffset) with
        | some _ => retryLater t
        | none => pure (.inl { t with offset := lineOffset })

/-- A complete line: skipped when empty, journaled when well formed, else accounted. The
tail's reader is already behind the line. -/
def accountLine (line : List UInt8) (status : ReadEnd) (lineOffset : Int) :
    RunProg (Tail ⊕ Tail) := do
  if trimNewline line = [] then
    match ← write (.advanceTranscriptConsumed lineOffset) with
    | some _ => retryLater t
    | none => pure (.inl { t with offset := lineOffset })
  else
    match parseEnvelope unmarshal (trimNewline line) with
    | none => accountCorruption t lineOffset
    | some (type, payload) =>
      match ← write (.appendEvent type payload lineOffset) with
      | some _ => retryLater t
      | none =>
        if status = .complete then pure (.inl { t with offset := lineOffset })
        else pure (.inr { t with offset := lineOffset })

/-- What was read from the tail: nothing, or a line whose completeness decides. -/
def handleLine (line : List UInt8) (status : ReadEnd) : RunProg (Tail ⊕ Tail) := do
  if line = [] then
    if status = .complete then pure (.inl t) else pure (.inr t)
  else
    if ← lineComplete line status (t.offset + line.length) then
      accountLine unmarshal { t with pos := t.pos + line.length } line status
        (t.offset + line.length)
    else retryLater { t with pos := t.pos + line.length }

/-- One round of the read loop: `inl` goes round again. -/
def tailRound : RunProg (Tail ⊕ Tail) := do
  let (line, status) ← call (.readLine t.pos)
  handleLine unmarshal t line status

def sameFile (a b : FileInfo) : Bool := a.device = b.device && a.inode = b.inode

/-- Why the tail may not be read any more. -/
def tailFailure (r : Run) (trackedOffset : Int) :
    Except Err FileInfo → Except Err FileInfo → Option String
  | .error _, _ => some "transcript path became unavailable while tailing"
  | .ok pathInfo, tailInfo =>
    if (validateTranscriptIdentity pathInfo r.transcriptIdentity).isSome then
      some "transcript path no longer matches durable file identity"
    else
      match tailInfo with
      | .error _ => some "open transcript handle became unavailable while tailing"
      | .ok tailInfo =>
        if (validateTranscriptIdentity tailInfo r.transcriptIdentity).isSome then
          some "open transcript handle no longer matches durable file identity"
        else if ¬ sameFile pathInfo tailInfo then some "transcript replaced while tailing"
        else if pathInfo.size < trackedOffset then
          some "transcript truncated below committed offset"
        else none

/-- Reads on from the tail until nothing complete is left. -/
def readTail : RunProg (Option Tail) := do
  pure (some (← Prog.loop (tailRound unmarshal) fuel t))

variable (path : String)

def followTail (t : Tail) : RunProg (Option Tail) := do
  match ← call .getRun with
  | .error _ => pure (some t)
  | .ok r =>
    if isTerminal r.state then pure (some t)
    else do
      let pathInfo ← call (.statPath path)
      let tailInfo ← call .statTail
      -- the error is ignored, which leaves the zero progress
      let prog ← call .getTranscriptProgress
      match tailFailure r (max t.offset (prog.toOption.getD {}).consumedOffset)
          pathInfo tailInfo with
      | some reason => refuseTail r reason (some t)
      | none => readTail unmarshal fuel t

/-- One tick of tailing. A tail that is missing is opened at the start of the file. -/
def tailTranscript (tail : Option Tail) : RunProg (Option Tail) := do
  match tail with
  | some t => followTail unmarshal fuel path t
  | none =>
    match ← startTailing none path 0 with
    | none => pure none
    | some t => followTail unmarshal fuel path t

/-- The file is not the one that was expected, or not as long. -/
def fileChanged (want info : FileInfo) : Bool :=
  !sameFile want info || !info.regular || info.size ≠ want.size

def openBoundTail (off : Int) (want : FileInfo) : RunProg (Except String Tail) := do
  match ← call (.openTranscript path) with
  | some e => pure (.error ("open transcript " ++ path.quote ++ ": " ++ e.text))
  | none =>
    match ← call .statOpened with
    | .error e => pure (.error ("stat opened transcript " ++ path.quote ++ ": " ++ e.text))
    | .ok info =>
      if fileChanged want info then
        pure (.error ("transcript " ++ path.quote ++ " changed identity or size while opening"))
      else
        match ← call (.seek off) with
        | some e =>
          pure (.error ("seek transcript " ++ path.quote ++ " to durable offset " ++
            toString off ++ ": " ++ e.text))
        | none => pure (.ok (.at off))

def moveBoundTail (runID : String) (t : Tail) (off : Int) (want : FileInfo) :
    RunProg (Except String Tail) := do
  match ← call .statTail with
  | .error e => pure (.error ("stat open transcript for run " ++ runID ++ ": " ++ e.text))
  | .ok info =>
    if fileChanged want info then
      pure (.error ("open transcript identity or size changed for run " ++ runID))
    else if t.offset = off then pure (.ok t)
    else
      match ← call (.seek off) with
      | some e =>
        pure (.error ("seek transcript for run " ++ runID ++ " to durable offset " ++
          toString off ++ ": " ++ e.text))
      | none => pure (.ok (.at off))

/-- Places the tail at the durable offset; on an error the tail is as before. -/
def bindTranscriptTail (runID : String) (tail : Option Tail) (path : String) (off : Int)
    (want : FileInfo) : RunProg (Except String Tail) := do
  if ← call .closing then pure (.error "engine is closing")
  else
    match tail with
    | some t => moveBoundTail runID t off want
    | none => openBoundTail path off want

def statFailure : Err → String
  | .notExist => "required process transcript " ++ path.quote ++ " is missing"
  | e => "stat transcript " ++ path.quote ++ ": " ++ e.text

variable (r : Run)

/-- Why the named file cannot be sealed. -/
def namedFailure (prog : TranscriptProgress) (pathInfo : FileInfo) : Option String :=
  if ¬ pathInfo.regular then
    some ("transcript " ++ r.transcriptPath.quote ++ " is not a regular file")
  else
    match validateTranscriptIdentity pathInfo r.transcriptIdentity with
    | some text => some ("named transcript " ++ r.transcriptPath.quote ++
        " does not match durable identity: " ++ text)
    | none =>
      if prog.consumedOffset > pathInfo.size then
        some ("transcript " ++ r.transcriptPath.quote ++ " size " ++ toString pathInfo.size ++
          " is below consumed offset " ++ toString prog.consumedOffset)
      else none

def reloadSeal (pathInfo : FileInfo) : RunProg (Except String (FileInfo × TranscriptProgress)) := do
  match ← call .getTranscriptProgress with
  | .error e => pure (.error ("reload transcript seal for run " ++ r.id ++ ": " ++ e.text))
  | .ok prog =>
    if prog.finalSize ≠ pathInfo.size ∨ prog.consumedOffset > pathInfo.size then
      pure (.error ("transcript progress for run " ++ r.id ++ " does not match observed size " ++
        toString pathInfo.size))
    else pure (.ok (pathInfo, prog))

/-- Seals the named file at its present size. -/
def sealNamedTranscript : RunProg (Except String (FileInfo × TranscriptProgress)) := do
  match ← call .getTranscriptProgress with
  | .error e => pure (.error ("load transcript progress for run " ++ r.id ++ ": " ++ e.text))
  | .ok prog =>
    match ← call (.statPath r.transcriptPath) with
    | .error e => pure (.error (statFailure r.transcriptPath e))
    | .ok pathInfo =>
      match namedFailure r prog pathInfo with
      | some text => pure (.error text)
      | none =>
        match ← write (.sealTranscript pathInfo.size) with
        | some e =>
          pure (.error ("seal transcript for run " ++ r.id ++ " at " ++ toString pathInfo.size ++
            " bytes: " ++ e.text))
        | none => reloadSeal r pathInfo

def statBoundTail : Option Tail → RunProg (Option FileInfo)
  | none => pure none
  | some _ => do
    match ← call .statTail with
    | .error _ => pure none
    | .ok info => pure (some info)

/-- Compares the file with what was sealed, after it was read to its end. -/
def handoffResult (sealed postInfo : FileInfo) (tailInfo : Option FileInfo)
    (prog : TranscriptProgress) : Except String Bool :=
  match validateTranscriptIdentity postInfo r.transcriptIdentity,
      tailInfo.bind (validateTranscriptIdentity · r.transcriptIdentity) with
  | some text, _ => .error ("rechecked transcript " ++ r.transcriptPath.quote ++
      " does not match durable identity: " ++ text)
  | none, some text => .error ("open transcript for run " ++ r.id ++
      " does not match durable identity: " ++ text)
  | none, none =>
    match tailInfo with
    | none => .error ("transcript " ++ r.transcriptPath.quote ++
        " changed identity or size during handoff")
    | some tailInfo =>
      if ¬ sameFile sealed postInfo ∨ ¬ sameFile sealed tailInfo ∨ ¬ postInfo.regular ∨
          postInfo.size ≠ sealed.size ∨ tailInfo.size ≠ sealed.size then
        .error ("transcript " ++ r.transcriptPath.quote ++
          " changed identity or size during handoff")
      else .ok (prog.finalSize = sealed.size ∧ prog.consumedOffset = sealed.size)

def recheckHandoff (sealed : FileInfo) (tail : Option Tail) : RunProg (Except String Bool) := do
  match ← call .getTranscriptProgress with
  | .error e =>
    pure (.error ("load accounted transcript progress for run " ++ r.id ++ ": " ++ e.text))
  | .ok prog =>
    match ← call (.statPath r.transcriptPath) with
    | .error e => pure (.error ("recheck transcript " ++ r.transcriptPath.quote ++ ": " ++ e.text))
    | .ok postInfo =>
      let tailInfo ← statBoundTail tail
      pure (handoffResult r sealed postInfo tailInfo prog)

def drainTranscript (sealed : FileInfo) (prog : TranscriptProgress) (t : Tail) :
    RunProg (Option Tail) :=
  if prog.consumedOffset < sealed.size then
    tailTranscript unmarshal fuel r.transcriptPath (some t)
  else pure (some t)

/-- The handoff of a sealed transcript: place the tail, drain, look again. -/
def handOffSealed (tail : Option Tail) (sealed : FileInfo)
    (prog : TranscriptProgress) : RunProg (Except String Bool × Option Tail) := do
  match ← bindTranscriptTail r.id tail r.transcriptPath prog.consumedOffset sealed with
  | .error text => pure (.error text, tail)
  | .ok t => do
    let tail ← drainTranscript unmarshal fuel r sealed prog t
    let res ← recheckHandoff r sealed tail
    pure (res, tail)

/-- Takes over the transcript of a run whose supervisor, worker and group are gone: true
once it is sealed and wholly consumed. -/
def progressQuiescentTranscriptHandoff (tail : Option Tail) :
    RunProg (Except String Bool × Option Tail) := do
  if ¬ r.transcriptRequired then pure (.ok true, tail)
  else if trimSpace r.transcriptPath = "" then
    pure (.error "required transcript path is empty", tail)
  else
    match r.transcriptIdentity.validate with
    | .error e => pure (.error ("required transcript identity is invalid: " ++ e.text), tail)
    | .ok () =>
      match ← sealNamedTranscript r with
      | .error text => pure (.error text, tail)
      | .ok (sealed, prog) => handOffSealed unmarshal fuel r tail sealed prog

end

end Ananke.Lifecycle
