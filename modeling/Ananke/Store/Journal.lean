import Ananke.Store.State
import Ananke.Relational.Table
import Ananke.Text.Space

/-! The durable run journal: the tables of the store and the operations that write them.
Every operation is one SQLite transaction, so a failing one returns no new tables. The
build-time mutation hooks are off. -/
namespace Ananke.Store

open Relational

/-- The durable device and inode of a transcript; zero and zero is "unknown". -/
structure TranscriptFileIdentity where
  device : Int := 0
  inode : Int := 0
deriving DecidableEq

inductive StoreError
  | runIDRequired
  | workerPathRequired
  | runNotFound
  | transcriptIdentityUnknown
  | transcriptIdentityInvalid (identity : TranscriptFileIdentity)
  | transcriptIdentityConflict (have_ got : TranscriptFileIdentity)
  | invalidTransition (source target : State)
  | terminalRequiresOutbox (target : State)
  | transitionNotTerminal (target : State)
  | noProcessIdentity (supervisor pgid worker : Int)
  | terminalTranscriptIncomplete (consumed final : Int)
  | terminalTranscriptIdentity (cause : StoreError)
  | runTerminal (state : State)
  | cancellationRequested (state : State)
  | transcriptFinalSizeNegative
  | transcriptConsumedNegative
  | transcriptFinalSizeChanged (have_ got : Int)
  | transcriptOffsetBeyondEnd
  | outboxNotFound
  | outboxDiagnosticRequired
  | constraint (statement : String)
deriving DecidableEq

def TranscriptFileIdentity.text (id : TranscriptFileIdentity) : String :=
  "device=" ++ toString id.device ++ " inode=" ++ toString id.inode

def StoreError.text : StoreError → String
  | .runIDRequired => "run id required"
  | .workerPathRequired => "worker path required"
  | .runNotFound => "run not found"
  | .transcriptIdentityUnknown => "transcript file identity is unknown"
  | .transcriptIdentityInvalid id => "transcript file identity is invalid: " ++ id.text
  | .transcriptIdentityConflict have_ got =>
    "transcript file identity conflicts with durable authority: have " ++ have_.text ++ ", got " ++
      got.text
  | .invalidTransition source target =>
    "invalid state transition: " ++ source.text.quote ++ " -> " ++ target.text.quote
  | .terminalRequiresOutbox target =>
    "terminal transitions require CommitTerminal with an outbox row: " ++ target.text.quote ++
      " is terminal"
  | .transitionNotTerminal target =>
    "CommitTerminal requires a terminal state: " ++ target.text.quote ++ " is not terminal"
  | .noProcessIdentity supervisor pgid worker =>
    "no-process failure requires zero process identity: supervisor=" ++ toString supervisor ++
      " pgid=" ++ toString pgid ++ " worker=" ++ toString worker
  | .terminalTranscriptIncomplete consumed final =>
    "terminal transition requires complete transcript handoff: consumed=" ++ toString consumed ++
      " final=" ++ toString final
  | .terminalTranscriptIdentity cause =>
    "terminal transition requires durable transcript file identity: " ++ cause.text
  | .runTerminal state => "run is already terminal: " ++ state.text.quote
  | .cancellationRequested state =>
    "cancellation was requested: " ++ state.text.quote ++ " cannot complete"
  | .transcriptFinalSizeNegative => "transcript final size must be nonnegative"
  | .transcriptConsumedNegative => "transcript consumed offset must be nonnegative"
  | .transcriptFinalSizeChanged have_ got =>
    "transcript final size already sealed with a different value: have " ++ toString have_ ++
      ", got " ++ toString got
  | .transcriptOffsetBeyondEnd => "transcript consumed offset exceeds sealed final size"
  | .outboxNotFound => "outbox row not found or not pending"
  | .outboxDiagnosticRequired => "outbox abandonment diagnostic required"
  | .constraint statement => "constraint failed: " ++ statement

def TranscriptFileIdentity.validate (id : TranscriptFileIdentity) : Except StoreError Unit :=
  if id.device = 0 ∧ id.inode = 0 then .error .transcriptIdentityUnknown
  else if id.device ≤ 0 ∨ id.inode ≤ 0 then .error (.transcriptIdentityInvalid id)
  else .ok ()

/-- The launch configuration recorded at run creation. -/
structure RunSpec where
  workerPath : String
  workerArgs : List String := []
  workerEnv : List String := []
  transcriptPath : String := ""
  socketPath : String := ""
  token : String := ""
  identityPath : String := ""
  transcriptRequired : Bool := false

structure Run where
  (id projectID workstreamID : String)
  state : State
  workerPath : String
  (workerArgs workerEnv : List String)
  (transcriptPath socketPath token identityPath : String)
  transcriptIdentity : TranscriptFileIdentity
  (supervisorPID supervisorPGID workerPID committedOffset : Int)
  (transcriptRequired cancelRequested : Bool)
  (transcriptConsumedOffset transcriptFinalSize : Int)
  (createdAt updatedAt : String)

structure Event where
  runID : String
  seq : Nat
  type : String
  payload : List UInt8
  transcriptOffset : Int
  writtenAt : String

structure TransitionRecord where
  runID : String
  seq : Nat
  (fromState toState : State)
  (reason writtenAt : String)

/-- A row of `finalization_outbox`; `acknowledged` is 0 pending, 1 acknowledged,
-1 abandoned. -/
structure OutboxRow where
  runID : String := ""
  terminalState : State := .other ""
  supervisorPID : Int := 0
  supervisorPGID : Int := 0
  socketPath : String := ""
  token : String := ""
  acknowledged : Int := 0
  diagnostic : String := ""
  createdAt : String := ""
  acknowledgedAt : Option String := none

structure Workstream where
  (id projectID : String)

/-- The tables behind a store. -/
structure DB where
  projects : List String := []
  workstreams : List Workstream := []
  runs : List Run := []
  events : List Event := []
  transitions : List TransitionRecord := []
  outbox : List OutboxRow := []

namespace DB

section

variable (s : DB)

variable (runID : String)

def getRun : Option Run := select Run.id runID s.runs

def updateRun (f : Run → Run) : DB :=
  { s with runs := update Run.id runID f s.runs }

def insertRun (run : Run) : DB := { s with runs := s.runs ++ [run] }

def insertTransition (t : TransitionRecord) : DB :=
  { s with transitions := s.transitions ++ [t] }

def insertEvent (e : Event) : DB := { s with events := s.events ++ [e] }

def insertOutbox (row : OutboxRow) : DB := { s with outbox := s.outbox ++ [row] }

def updateOutbox (f : OutboxRow → OutboxRow) : DB :=
  { s with outbox := update OutboxRow.runID runID f s.outbox }

def transitionsOf : List TransitionRecord :=
  rowsOf TransitionRecord.runID runID s.transitions

def eventsOf : List Event := rowsOf Event.runID runID s.events

def outboxOf : List OutboxRow :=
  rowsOf OutboxRow.runID runID s.outbox

end

end DB

section

variable (s : DB)

/-- `SELECT MAX(seq)`, then one more; 1 when the run has no row. -/
def nextSeq (seqs : List Nat) : Nat :=
  match seqs.max? with
  | none => 1
  | some m => m + 1

variable (runID : String)

def nextTransition (history : List TransitionRecord) (source target : State)
    (reason now : String) : TransitionRecord :=
  ⟨runID, nextSeq (history.map (·.seq)), source, target, reason, now⟩

def createProject (id : String) : Except StoreError DB :=
  if id ∈ s.projects then .error (.constraint "projects")
  else .ok { s with projects := s.projects ++ [id] }

def createWorkstream (id projectID : String) : Except StoreError DB :=
  if id ∈ s.workstreams.map Workstream.id ∨ projectID ∉ s.projects then
    .error (.constraint "workstreams")
  else .ok { s with workstreams := s.workstreams ++ [⟨id, projectID⟩] }

def newRun (id projectID workstreamID : String) (spec : RunSpec) (now : String) : Run where
  id := id
  projectID := projectID
  workstreamID := workstreamID
  state := .created
  workerPath := spec.workerPath
  workerArgs := spec.workerArgs
  workerEnv := spec.workerEnv
  transcriptPath := spec.transcriptPath
  socketPath := spec.socketPath
  token := spec.token
  identityPath := spec.identityPath
  transcriptIdentity := {}
  supervisorPID := 0
  supervisorPGID := 0
  workerPID := 0
  committedOffset := 0
  transcriptRequired := spec.transcriptRequired
  cancelRequested := false
  transcriptConsumedOffset := 0
  -- the column default of the transcript handoff migration
  transcriptFinalSize := -1
  createdAt := now
  updatedAt := now

def createRun (id projectID workstreamID : String) (spec : RunSpec) (now : String) :
    Except StoreError DB :=
  if id = "" then .error .runIDRequired
  else if spec.workerPath = "" then .error .workerPathRequired
  else if id ∈ s.runs.map Run.id ∨ projectID ∉ s.projects ∨
      workstreamID ∉ s.workstreams.map Workstream.id then .error (.constraint "runs")
  -- the primary key (run_id, seq) of the first history row
  else if ∃ t ∈ s.transitions, t.runID = id ∧ t.seq = 0 then
    .error (.constraint "state_transitions")
  else .ok ((s.insertRun (newRun id projectID workstreamID spec now)).insertTransition
    ⟨id, 0, .other "", .created, "created", now⟩)

structure TransitionCommit where
  terminal : Bool := false
  noProcess : Bool := false
  outbox : OutboxRow := {}

/-- The checks of `commitTransition`, in its order. -/
def checkTransition (run : Run) (target : State) (commit : TransitionCommit) :
    Except StoreError Unit :=
  if commit.terminal ∧ target = .completed ∧ run.cancelRequested then
    .error (.cancellationRequested run.state)
  else if commit.noProcess then
    if target ≠ .failed ∨ (run.state ≠ .created ∧ run.state ≠ .running) then
      .error (.invalidTransition run.state target)
    else if run.supervisorPID ≠ 0 ∨ run.supervisorPGID ≠ 0 ∨ run.workerPID ≠ 0 then
      .error (.noProcessIdentity run.supervisorPID run.supervisorPGID run.workerPID)
    else .ok ()
  else if ¬ canTransition run.state target then .error (.invalidTransition run.state target)
  else if commit.terminal ∧ run.transcriptRequired then
    if run.transcriptFinalSize < 0 ∨ run.transcriptConsumedOffset ≠ run.transcriptFinalSize then
      .error (.terminalTranscriptIncomplete run.transcriptConsumedOffset run.transcriptFinalSize)
    else match run.transcriptIdentity.validate with
      | .error cause => .error (.terminalTranscriptIdentity cause)
      | .ok () => .ok ()
  else .ok ()

variable (target : State)

/-- The updates of the run row in `commitTransition`. A no-process failure forgets the
transcript identity and, where a transcript is required, seals an empty one. -/
def transitionRun (now : String) (commit : TransitionCommit) (run : Run) : Run :=
  { run with
    transcriptIdentity := if commit.noProcess then {} else run.transcriptIdentity
    transcriptConsumedOffset :=
      if commit.noProcess ∧ run.transcriptRequired then 0 else run.transcriptConsumedOffset
    transcriptFinalSize :=
      if commit.noProcess ∧ run.transcriptRequired then 0 else run.transcriptFinalSize
    state := target
    updatedAt := now }

/-- The outbox row a terminal commit inserts; a no-process failure owes no finalization,
so its row is acknowledged from the start. -/
def terminalOutbox (now : String) (commit : TransitionCommit) : OutboxRow where
  runID := runID
  terminalState := target
  supervisorPID := commit.outbox.supervisorPID
  supervisorPGID := commit.outbox.supervisorPGID
  socketPath := commit.outbox.socketPath
  token := commit.outbox.token
  acknowledged := if commit.noProcess then 1 else 0
  createdAt := now
  acknowledgedAt := if commit.noProcess then some now else none

variable (reason now : String)

def commitTransition (commit : TransitionCommit) : Except StoreError DB :=
  match s.getRun runID with
  | none => .error .runNotFound
  | some run =>
    match checkTransition run target commit with
    | .error e => .error e
    | .ok () =>
      let record := nextTransition runID (s.transitionsOf runID) run.state target reason now
      let s' := (s.updateRun runID (transitionRun target now commit)).insertTransition record
      if commit.terminal then
        if s.outboxOf runID ≠ [] then .error (.constraint "finalization_outbox")
        else .ok (s'.insertOutbox (terminalOutbox runID target now commit))
      else .ok s'

def transition : Except StoreError DB :=
  if isTerminal target then .error (.terminalRequiresOutbox target)
  else commitTransition s runID target reason now {}

def commitTerminal (outbox : OutboxRow) : Except StoreError DB :=
  if ¬ isTerminal target then .error (.transitionNotTerminal target)
  else commitTransition s runID target reason now { terminal := true, outbox := outbox }

def commitNoProcessFailure (runID reason now : String) : Except StoreError DB :=
  commitTransition s runID .failed reason now { terminal := true, noProcess := true }

def requestCancellation (runID now : String) : Except StoreError (DB × State) :=
  match s.getRun runID with
  | none => .error .runNotFound
  | some run =>
    if isTerminal run.state then .error (.runTerminal run.state)
    else
      let target := if run.state = .running then .cancelling else run.state
      if run.cancelRequested ∧ target = run.state then .ok (s, target)
      else
        let s' := s.updateRun runID fun r =>
          { r with state := target, cancelRequested := true, updatedAt := now }
        if target ≠ run.state then
          let record := nextTransition runID (s.transitionsOf runID) run.state target
            "cancellation requested" now
          .ok (s'.insertTransition record, target)
        else .ok (s', target)

def setRunSupervisor (supervisorPID supervisorPGID workerPID : Int)
    (now : String) : Except StoreError DB :=
  if (s.getRun runID).isNone then .error .runNotFound
  else .ok (s.updateRun runID fun r =>
    { r with supervisorPID := supervisorPID, supervisorPGID := supervisorPGID,
             workerPID := workerPID, updatedAt := now })

def setTranscriptIdentity (ident : TranscriptFileIdentity) (now : String) :
    Except StoreError DB :=
  match ident.validate with
  | .error e => .error e
  | .ok () =>
    match s.getRun runID with
    | none => .error .runNotFound
    | some run =>
      if run.transcriptIdentity = ident then .ok s
      else if run.transcriptIdentity ≠ {} then
        .error (.transcriptIdentityConflict run.transcriptIdentity ident)
      else .ok (s.updateRun runID fun r =>
        { r with transcriptIdentity := ident, updatedAt := now })

/-- The guard `transcript_final_size < 0 OR ? <= transcript_final_size` of both writers. -/
def withinSeal (run : Run) (off : Int) : Bool :=
  run.transcriptFinalSize < 0 || off ≤ run.transcriptFinalSize

def appendEvent (runID type : String) (payload : List UInt8) (transcriptOffset : Int)
    (now : String) : Except StoreError (DB × Event) :=
  if runID = "" then .error .runIDRequired
  else match s.getRun runID with
    -- the foreign key of `events` refuses a row of an absent run
    | none => .error (.constraint "events")
    | some run =>
      let ev : Event :=
        ⟨runID, nextSeq ((s.eventsOf runID).map (·.seq)), type, payload, transcriptOffset, now⟩
      if ¬ withinSeal run transcriptOffset then .error .transcriptOffsetBeyondEnd
      else
        let s' := s.updateRun runID fun r =>
          { r with committedOffset := max r.committedOffset transcriptOffset,
                   transcriptConsumedOffset := max r.transcriptConsumedOffset transcriptOffset,
                   updatedAt := now }
        .ok (s'.insertEvent ev, ev)

/-- The durable daemon/supervisor handoff; `finalSize` is -1 until sealed. -/
structure TranscriptProgress where
  required : Bool := false
  consumedOffset : Int := 0
  finalSize : Int := 0

def getTranscriptProgress : Except StoreError TranscriptProgress :=
  match s.getRun runID with
  | none => .error .runNotFound
  | some run =>
    .ok ⟨run.transcriptRequired, run.transcriptConsumedOffset, run.transcriptFinalSize⟩

def sealTranscript (finalSize : Int) (now : String) : Except StoreError DB :=
  if finalSize < 0 then .error .transcriptFinalSizeNegative
  else match s.getRun runID with
    | none => .error .runNotFound
    | some run =>
      if 0 ≤ run.transcriptFinalSize then
        if run.transcriptFinalSize ≠ finalSize then
          .error (.transcriptFinalSizeChanged run.transcriptFinalSize finalSize)
        else .ok s
      else .ok (s.updateRun runID fun r =>
        { r with transcriptFinalSize := finalSize, updatedAt := now })

def advanceTranscriptConsumed (off : Int) (now : String) : Except StoreError DB :=
  if off < 0 then .error .transcriptConsumedNegative
  else match s.getRun runID with
    | none => .error .runNotFound
    | some run =>
      if ¬ withinSeal run off then .error .transcriptOffsetBeyondEnd
      else .ok (s.updateRun runID fun r =>
        { r with transcriptConsumedOffset := max r.transcriptConsumedOffset off,
                 updatedAt := now })

/-- `UPDATE finalization_outbox … WHERE run_id = ? AND acknowledged = 0`. -/
def resolveOutbox (f : OutboxRow → OutboxRow) : Except StoreError DB :=
  if ∃ row ∈ s.outboxOf runID, row.acknowledged = 0 then
    .ok (s.updateOutbox runID fun row => if row.acknowledged = 0 then f row else row)
  else .error .outboxNotFound

def acknowledgeOutbox (runID now : String) : Except StoreError DB :=
  resolveOutbox s runID fun row => { row with acknowledged := 1, acknowledgedAt := some now }

def abandonOutbox (runID reason now : String) : Except StoreError DB :=
  let reason := Text.trimSpace reason
  if reason = "" then .error .outboxDiagnosticRequired
  else resolveOutbox s runID fun row =>
    { row with acknowledged := -1, acknowledgedAt := some now, diagnostic := reason }

end

/-! The operations as one machine. -/

inductive Op
  | createProject (id : String)
  | createWorkstream (id projectID : String)
  | createRun (id projectID workstreamID : String) (spec : RunSpec) (now : String)
  | transition (runID : String) (target : State) (reason now : String)
  | commitTerminal (runID : String) (target : State) (reason now : String) (outbox : OutboxRow)
  | commitNoProcessFailure (runID reason now : String)
  | requestCancellation (runID now : String)
  | setRunSupervisor (runID : String) (supervisorPID supervisorPGID workerPID : Int) (now : String)
  | setTranscriptIdentity (runID : String) (identity : TranscriptFileIdentity) (now : String)
  | appendEvent (runID type : String) (payload : List UInt8) (transcriptOffset : Int) (now : String)
  | sealTranscript (runID : String) (finalSize : Int) (now : String)
  | advanceTranscriptConsumed (runID : String) (offset : Int) (now : String)
  | acknowledgeOutbox (runID now : String)
  | abandonOutbox (runID reason now : String)

/-- What the operation computes, with the return values dropped. -/
def perform (s : DB) : Op → Except StoreError DB
  | .createProject id => createProject s id
  | .createWorkstream id projectID => createWorkstream s id projectID
  | .createRun id projectID workstreamID spec now => createRun s id projectID workstreamID spec now
  | .transition runID target reason now => transition s runID target reason now
  | .commitTerminal runID target reason now outbox =>
    commitTerminal s runID target reason now outbox
  | .commitNoProcessFailure runID reason now => commitNoProcessFailure s runID reason now
  | .requestCancellation runID now => (requestCancellation s runID now).map Prod.fst
  | .setRunSupervisor runID supervisorPID supervisorPGID workerPID now =>
    setRunSupervisor s runID supervisorPID supervisorPGID workerPID now
  | .setTranscriptIdentity runID identity now => setTranscriptIdentity s runID identity now
  | .appendEvent runID type payload transcriptOffset now =>
    (appendEvent s runID type payload transcriptOffset now).map Prod.fst
  | .sealTranscript runID finalSize now => sealTranscript s runID finalSize now
  | .advanceTranscriptConsumed runID offset now => advanceTranscriptConsumed s runID offset now
  | .acknowledgeOutbox runID now => acknowledgeOutbox s runID now
  | .abandonOutbox runID reason now => abandonOutbox s runID reason now

/-- One transaction: a failing operation is rolled back and leaves the tables alone. -/
def exec (s : DB) (op : Op) : DB × Except StoreError Unit :=
  match perform s op with
  | .ok s' => (s', .ok ())
  | .error e => (s, .error e)

end Ananke.Store
