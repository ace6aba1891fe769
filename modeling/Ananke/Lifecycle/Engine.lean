import Ananke.Lifecycle.Tailing

/-! The daemon's recovery engine: startup reconciliation, the periodic tick, and the loop
that runs them. Work on one run is a program about that run; the engine goes through the
runs one after the other and keeps their tails. -/
namespace Ananke.Lifecycle

open Store Interaction Text

section

variable (unmarshal : Unmarshal) (fuel : Nat)

def firstFailure : List (Bool × String) → Option String
  | [] => none
  | (failed, text) :: rest => if failed then some text else firstFailure rest

def matchingText (name stored got : String) : List (Bool × String) :=
  [(trimSpace stored = "", "store " ++ name ++ " is empty"),
    (trimSpace got = "", "identity " ++ name ++ " is empty"),
    (got ≠ stored, "identity " ++ name ++ " does not match store " ++ name)]

def matchingPID (name : String) (stored got : Int) : List (Bool × String) :=
  [(stored ≤ 0, "store " ++ name ++ " is not positive"),
    (got ≤ 0, "identity " ++ name ++ " is not positive"),
    (got ≠ stored, "identity " ++ name ++ " does not match store " ++ name)]

def identityError : Except StoreError Unit → String
  | .error e => e.text
  | .ok () => ""

variable (r : Run)

def matchingTranscriptIdentity (id : Identity) : List (Bool × String) :=
  [(r.transcriptIdentity.validate ≠ .ok (),
      "store transcript identity is invalid: " ++ identityError r.transcriptIdentity.validate),
    (id.transcriptIdentity.validate ≠ .ok (), "identity transcript identity is invalid: " ++
        identityError id.transcriptIdentity.validate),
    (id.transcriptIdentity ≠ r.transcriptIdentity,
      "identity transcript identity does not match store transcript identity")]

def validateRecoveryIdentity (id : Identity) : Option String :=
  firstFailure (matchingText "run_id" r.id id.runID ++
    matchingPID "supervisor_pid" r.supervisorPID id.supervisorPID ++
    matchingPID "supervisor_pgid" r.supervisorPGID id.supervisorPGID ++
    matchingPID "worker_pid" r.workerPID id.workerPID ++
    matchingText "socket_path" r.socketPath id.socketPath ++
    matchingText "token" r.token id.token ++
    matchingText "transcript_path" r.transcriptPath id.transcriptPath ++
    if r.transcriptRequired then matchingTranscriptIdentity r id else [])

def readRecoveryIdentity : RunProg (Except String Identity) := do
  match ← call (.readIdentity r.identityPath) with
  | .error e => pure (.error ("read identity " ++ r.identityPath.quote ++ ": " ++ e.text))
  | .ok id =>
    match validateRecoveryIdentity r id with
    | some text => pure (.error text)
    | none => pure (.ok id)

/-- The command fails before it is sent when a part of it is blank. -/
def sendSupervisorCmd (socketPath token cmd : String) : RunProg (Except Err SupCmdResponse) :=
  if trimSpace socketPath = "" then pure (.error (.other "supervisor socket path is empty"))
  else if trimSpace token = "" then pure (.error (.other "supervisor token is empty"))
  else if trimSpace cmd = "" then pure (.error (.other "supervisor command is empty"))
  else call (.sendSupervisorCmd socketPath token cmd)

/-- The checks of a reply against the durable run, past its state. -/
def replyMismatches (command : String) (r : Run) (resp : SupCmdResponse) : List (Bool × String) :=
  [(resp.runID = "" ∨ resp.runID ≠ r.id, command ++ " response run_id does not match store run_id"),
    (resp.supervisorPID ≤ 0 ∨ resp.supervisorPID ≠ r.supervisorPID,
      command ++ " response supervisor_pid does not match store supervisor_pid"),
    (resp.workerPID ≤ 0 ∨ resp.workerPID ≠ r.workerPID,
      command ++ " response worker_pid does not match store worker_pid"),
    (resp.pgid ≤ 0 ∨ resp.pgid ≠ r.supervisorPGID,
      command ++ " response pgid does not match store supervisor_pgid"),
    (r.transcriptRequired ∧ r.transcriptIdentity.validate ≠ .ok (),
      command ++ " durable transcript identity is invalid: " ++
        identityError r.transcriptIdentity.validate),
    (r.transcriptRequired ∧ (resp.transcriptDevice ≠ r.transcriptIdentity.device ∨
        resp.transcriptInode ≠ r.transcriptIdentity.inode),
      command ++ " response transcript identity does not match durable identity")]

def validateRecoveredSupervisorResponse (command : String) (r : Run) (resp : SupCmdResponse) :
    Option String :=
  firstFailure ( [(!resp.ok && resp.error = "", command ++ " response not OK"),
      (!resp.ok, command ++ " response not OK: " ++ resp.error),
      (resp.state ≠ .running ∧ resp.state ≠ .cancelling ∧ resp.state ≠ .cleanupRequired,
        command ++ " response has incompatible nonterminal state " ++ resp.state.text.quote)] ++
    replyMismatches command r resp)

def validatedCmd (command : String) : RunProg (Except String SupCmdResponse) := do
  match ← sendSupervisorCmd r.socketPath r.token command with
  | .error e => pure (.error (command ++ " command: " ++ e.text))
  | .ok resp =>
    match validateRecoveredSupervisorResponse command r resp with
    | some text => pure (.error text)
    | none => pure (.ok resp)

def replyDisagreement (status adopt : SupCmdResponse) : Option String :=
  firstFailure [(status.state ≠ adopt.state, "status/adopt state disagreement: " ++
        status.state.text.quote ++ " != " ++ adopt.state.text.quote),
      (status.runID ≠ adopt.runID ∨ status.supervisorPID ≠ adopt.supervisorPID ∨
          status.workerPID ≠ adopt.workerPID ∨ status.pgid ≠ adopt.pgid ∨
          (r.transcriptRequired ∧ (status.transcriptDevice ≠ adopt.transcriptDevice ∨
            status.transcriptInode ≠ adopt.transcriptInode)),
        "status/adopt identity disagreement")]

/-- The state both commands report. -/
def authenticateRecoveredSupervisor : RunProg (Except String State) := do
  match ← validatedCmd r "status" with
  | .error text => pure (.error text)
  | .ok status =>
    match ← validatedCmd r "adopt" with
    | .error text => pure (.error text)
    | .ok adopt =>
      match replyDisagreement r status adopt with
      | some text => pure (.error text)
      | none => pure (.ok status.state)

/-- What the daemon found out about the supervisor of a run. -/
inductive RecoveryResult
  | ambiguous (diagnostic : String)
  | authenticated (reportedState : State)
  | supervisorDead (identity : Identity) (diagnostic : String)

def RecoveryResult.diagnostic : RecoveryResult → String
  | .ambiguous diagnostic => diagnostic
  | .authenticated _ => "authenticated supervisor adoption"
  | .supervisorDead _ diagnostic => diagnostic

/-- Asks the supervisor itself. A local exit seen meanwhile outweighs a failed command. -/
def inspectByCommand (id : Identity) : RunProg RecoveryResult := do
  match ← authenticateRecoveredSupervisor r with
  | .ok state => pure (.authenticated state)
  | .error text =>
    match ← call (.localSupervisorStatus r.supervisorPID) with
    | (true, true) =>
      pure (.supervisorDead id "exact local supervisor exit observed during authentication")
    | _ => pure (.ambiguous ("recovery supervisor authentication failed: " ++ text))

def inspectRecoverySupervisor : RunProg RecoveryResult := do
  match ← readRecoveryIdentity r with
  | .error text => pure (.ambiguous ("recovery identity rejected: " ++ text))
  | .ok id =>
    match ← call (.localSupervisorStatus r.supervisorPID) with
    | (true, true) => pure (.supervisorDead id "exact local supervisor exit observed")
    | (true, false) => inspectByCommand r id
    | (false, _) =>
      if ← call (.processAlive r.supervisorPID) then inspectByCommand r id
      else pure (.supervisorDead id "validated non-child supervisor PID is absent")

/-- The worker is gone, and nothing but an exited local supervisor is left of the group. -/
def groupQuiescent (id : Identity) : RunProg Bool := do
  if ← call (.processAlive id.workerPID) then pure false
  else
    match ← call (.groupMembers id.supervisorPGID) with
    | .error _ => pure false
    | .ok [] => pure true
    | .ok members =>
      match ← call (.localSupervisorStatus id.supervisorPID) with
      | (true, true) => pure (members.all (· = id.supervisorPID))
      | _ => pure false

def failedOutbox (supervisorPID supervisorPGID : Int) (socketPath token : String) : OutboxRow where
  runID := r.id
  terminalState := .failed
  supervisorPID := supervisorPID
  supervisorPGID := supervisorPGID
  socketPath := socketPath
  token := token

def labelled {α : Type} (label : String) (res : Option String × α) : Option String × α :=
  (res.1.map (label ++ ·), res.2)

variable (tail : Option Tail)

/-- Commits a quiescent run as failed once its transcript is handed off; a committed run
needs no tail any more. -/
def commitQuiescentFailure (label reason : String)
    (outbox : OutboxRow) : RunProg (Option String × Option Tail) := do
  match ← progressQuiescentTranscriptHandoff unmarshal fuel r tail with
  | (.error text, tail) => pure (some (label ++ text), tail)
  | (.ok false, tail) => pure (none, tail)
  | (.ok true, tail) =>
    match ← write (.commitTerminal .failed reason outbox) with
    | some e => pure (some e.text, tail)
    | none => pure (none, none)

def recoveryQuiescentFailureReason : String :=
  "recovery supervisor confirmed dead; worker and group quiescent"

/-- The state an ambiguous run takes on when its supervisor has answered, and why. -/
def adoptedState (reported : State) : State × String :=
  if r.cancelRequested ∧ reported = .running then
    (.cancelling, "authenticated supervisor adopted with durable cancellation intent")
  else (reported, "authenticated supervisor reported " ++ reported.text)

def adoptRun (target : State) (reason : String) : RunProg (Option String × Option Tail) := do
  if ¬ canTransition r.state target then
    pure (some ("cannot transition " ++ r.state.text.quote ++ " to authenticated state " ++
      target.text.quote), tail)
  else
    match ← write (.transition target reason) with
    | some e => pure (some e.text, tail)
    | none =>
      if r.transcriptPath ≠ "" then do
        let tail ← startTailing tail r.transcriptPath r.transcriptConsumedOffset
        pure (none, tail)
      else pure (none, tail)

def progressRecoveryUnknown : RecoveryResult → RunProg (Option String × Option Tail)
  | .ambiguous _ => pure (none, tail)
  | .authenticated reported =>
    adoptRun r tail (adoptedState r reported).1 (adoptedState r reported).2
  | .supervisorDead id _ => do
    if id.workerPID ≤ 0 ∨ id.supervisorPGID ≤ 0 then pure (none, tail)
    else
      if ← groupQuiescent id then
        commitQuiescentFailure unmarshal fuel r tail "progress recovery transcript handoff: "
          recoveryQuiescentFailureReason
          (failedOutbox r id.supervisorPID id.supervisorPGID id.socketPath id.token)
      else pure (none, tail)

/-- The failed move to `recovery_unknown` is forgiven when the run got there, or ended. -/
def rejectionError (e : Err) : Except Err Run → Option String
  | .ok current =>
    if isTerminal current.state ∨ current.state = .recoveryUnknown then none
    else some ("reject recovery for run " ++ r.id ++ ": " ++ e.text)
  | .error _ => some ("reject recovery for run " ++ r.id ++ ": " ++ e.text)

def rejectRecovery (diagnostic : String) : RunProg (Option String) := do
  if isTerminal r.state ∨ r.state = .recoveryUnknown then pure none
  else if ¬ canTransition r.state .recoveryUnknown then
    pure (some ("reject recovery for run " ++ r.id ++ ": cannot transition " ++
      r.state.text.quote ++ " to recovery_unknown"))
  else
    match ← write (.transition .recoveryUnknown diagnostic) with
    | none => pure none
    | some e => do
      let cur ← call .getRun
      pure (rejectionError r e cur)

def requestCleanup : RunProg Unit := do
  if r.socketPath = "" ∨ r.token = "" then pure ()
  else
    if ← call .closing then pure ()
    else
      if ← call .cleanupRequested then pure ()
      else call (.deliverCancel r.socketPath r.token)

def supervisorAlive (pid : Int) : RunProg Bool := do
  match ← call (.localSupervisorStatus pid) with
  | (true, exited) => pure (!exited)
  | (false, _) => call (.processAlive pid)

/-- The dead supervisor left nothing alive behind. -/
def cleanupQuiescent : RunProg Bool := do
  if r.workerPID ≤ 0 ∨ r.supervisorPGID ≤ 0 then pure false
  else
    if ← call (.processAlive r.workerPID) then pure false
    else
      match ← call (.groupMembers r.supervisorPGID) with
      | .ok [] => pure true
      | _ => pure false

def progressCleanupRequired : RunProg (Option Tail) := do
  if r.supervisorPID ≤ 0 then pure tail
  else
    if ← supervisorAlive r.supervisorPID then do
      requestCleanup r
      pure tail
    else
      if ← cleanupQuiescent r then do
        let (_, tail) ← commitQuiescentFailure unmarshal fuel r tail
          ("progress cleanup transcript handoff for run " ++ r.id ++ ": ")
          "transcript corruption required group cleanup"
          (failedOutbox r r.supervisorPID r.supervisorPGID r.socketPath r.token)
        pure tail
      else pure tail

/-- A supervisor of this run that answered. -/
def authenticated : RecoveryResult → Bool
  | .authenticated _ => true
  | _ => false

def requestCleanupIf (wanted : Bool) (r : Run) : RunProg Unit :=
  if wanted then requestCleanup r else pure ()

def resumeCleanup : RunProg (Option Tail) :=
  if r.state = .cleanupRequired then progressCleanupRequired unmarshal fuel r tail
  else pure tail

def resumeRun : RunProg (Option Tail) := do
  requestCleanupIf r.cancelRequested r
  let tail ← resumeCleanup unmarshal fuel r tail
  if r.transcriptPath ≠ "" ∧ ¬ isTerminal r.state then
    startTailing tail r.transcriptPath r.transcriptConsumedOffset
  else pure tail

/-- Startup recovery of one listed run, by what its supervisor's inspection gave. -/
def recoverInspected (res : RecoveryResult) : RunProg (Option String × Option Tail) := do
  if r.state = .created ∧ r.cancelRequested ∧ ¬ authenticated res then do
    requestCleanupIf (← call .localSupervisorRunning) r
    pure (none, tail)
  else if r.state = .recoveryUnknown then
    match ← progressRecoveryUnknown unmarshal fuel r tail res with
    | (some text, tail) =>
      pure (labelled ("progress recovery for run " ++ r.id ++ ": ") (some text, tail))
    | (none, tail) => do
      requestCleanupIf (r.cancelRequested && authenticated res) r
      pure (none, tail)
  else if ¬ authenticated res then do
    pure (← rejectRecovery r res.diagnostic, tail)
  else do
    pure (none, ← resumeRun unmarshal fuel r tail)

def recoverRun : RunProg (Option String × Option Tail) := do
  if isTerminal r.state then pure (none, tail)
  else
    let res ← inspectRecoverySupervisor r
    recoverInspected unmarshal fuel r tail res

/-- The cancel request of a tick; it keeps the inspection it had to make. -/
def tickCancel : RunProg (Option RecoveryResult) := do
  if r.cancelRequested then
    if ← call .localSupervisorRunning then do
      requestCleanup r
      pure none
    else do
      let res ← inspectRecoverySupervisor r
      requestCleanupIf (authenticated res) r
      pure (some res)
  else pure none

/-- A run whose supervisor cannot be seen any more becomes ambiguous. -/
def tickUnreachable : RunProg Unit := do
  if r.supervisorPID > 0 ∧ ¬ isTerminal r.state then
    if ← supervisorAlive r.supervisorPID then pure ()
    else if canTransition r.state .recoveryUnknown then do
      let _ ← write (.transition .recoveryUnknown "supervisor unreachable")
      pure ()
    else pure ()
  else pure ()

/-- Tails the transcript of a live run. -/
def tickTail : RunProg (Option Tail) :=
  if r.transcriptPath ≠ "" ∧ ¬ isTerminal r.state then
    tailTranscript unmarshal fuel r.transcriptPath tail
  else pure tail

/-- One tick for one listed run. Everything after the listing works on the listed row. -/
def tickRun : RunProg (Option String × Option Tail) := do
  let inspected ← tickCancel r
  if r.state = .recoveryUnknown then do
    let res ← inspectRecoverySupervisor r
    let (_, tail) ← progressRecoveryUnknown unmarshal fuel r tail (inspected.getD res)
    pure (none, tail)
  else do
    let tail ← tickTail unmarshal fuel r tail
    if r.state = .cleanupRequired then do
      let tail ← progressCleanupRequired unmarshal fuel r tail
      pure (none, tail)
    else do
      tickUnreachable r
      pure (none, tail)

def validatePendingOutboxAuthority (row : OutboxRow) (r : Run) (id : Identity) : Option String :=
  firstFailure [(trimSpace row.runID = "" ∨ row.runID ≠ r.id ∨ row.runID ≠ id.runID,
        "outbox run_id does not match durable identity"),
      (!isTerminal r.state, "durable run state " ++ r.state.text.quote ++ " is not terminal"),
      (!isTerminal row.terminalState,
        "outbox terminal_state " ++ row.terminalState.text.quote ++ " is not terminal"),
      (row.terminalState ≠ r.state, "outbox terminal_state does not match durable run state"),
      (row.supervisorPID ≤ 0 ∨ row.supervisorPID ≠ r.supervisorPID ∨
          row.supervisorPID ≠ id.supervisorPID,
        "outbox supervisor_pid does not match durable identity"),
      (row.supervisorPGID ≤ 0 ∨ row.supervisorPGID ≠ r.supervisorPGID ∨
          row.supervisorPGID ≠ id.supervisorPGID,
        "outbox supervisor_pgid does not match durable identity"),
      (trimSpace row.socketPath = "" ∨ row.socketPath ≠ r.socketPath ∨
          row.socketPath ≠ id.socketPath,
        "outbox socket_path does not match durable identity"),
      (trimSpace row.token = "" ∨ row.token ≠ r.token ∨ row.token ≠ id.token,
        "outbox token does not match durable identity")]

def validateFinalizationResponse (row : OutboxRow) (r : Run) (resp : SupCmdResponse) :
    Option String :=
  firstFailure [(!resp.ok && resp.error = "", "finalize response not OK"),
      (!resp.ok, "finalize response not OK: " ++ resp.error),
      (!isTerminal resp.state,
        "finalize response state " ++ resp.state.text.quote ++ " is not terminal"),
      (resp.state ≠ row.terminalState ∨ resp.state ≠ r.state,
        "finalize response state does not match durable terminal state"),
      (resp.runID = "" ∨ resp.runID ≠ row.runID ∨ resp.runID ≠ r.id,
        "finalize response run_id does not match durable identity"),
      (resp.supervisorPID ≤ 0 ∨ resp.supervisorPID ≠ row.supervisorPID ∨
          resp.supervisorPID ≠ r.supervisorPID,
        "finalize response supervisor_pid does not match durable identity"),
      (resp.workerPID ≤ 0 ∨ resp.workerPID ≠ r.workerPID,
        "finalize response worker_pid does not match durable identity"),
      (resp.pgid ≤ 0 ∨ resp.pgid ≠ row.supervisorPGID ∨ resp.pgid ≠ r.supervisorPGID,
        "finalize response pgid does not match durable identity"),
      (r.transcriptRequired ∧ r.transcriptIdentity.validate ≠ .ok (),
        "durable transcript identity is invalid: " ++ identityError r.transcriptIdentity.validate),
      (r.transcriptRequired ∧ (resp.transcriptDevice ≠ r.transcriptIdentity.device ∨
          resp.transcriptInode ≠ r.transcriptIdentity.inode),
        "finalize response transcript identity does not match durable identity")]

def resolved : Except Err OutboxRow → Bool
  | .ok row => row.acknowledged ≠ 0
  | .error _ => false

/-- Resolves the row and releases the tail, also when another got there first. -/
def resolvePendingOutbox (tail : Option Tail) (cmd : Write) :
    RunProg (Option String × Option Tail) := do
  match ← write cmd with
  | none => pure (none, none)
  | some e =>
    if e ≠ .store .outboxNotFound then pure (some e.text, tail)
    else
      if resolved (← call .getOutbox) then pure (none, none) else pure (some e.text, tail)

def abandonedOutboxDiagnostic : String :=
  "validated durable identity; supervisor confirmed dead; worker absent; process group quiescent"

variable (row : OutboxRow)

def reconcileConfirmedDeadOutbox (tail : Option Tail) (id : Identity) :
    RunProg (Option String × Option Tail) := do
  if ← groupQuiescent id then do
    let res ← resolvePendingOutbox tail (.abandonOutbox abandonedOutboxDiagnostic)
    pure (labelled ("reconcile dead outbox " ++ row.runID ++ ": ") res)
  else pure (none, tail)

/-- Asks a live supervisor whether it has finalized. -/
def finalizeByCommand (r : Run) (id : Identity) (tail : Option Tail) :
    RunProg (Option String × Option Tail) := do
  match ← sendSupervisorCmd id.socketPath id.token "finalize" with
  | .error _ => pure (none, tail)
  | .ok resp =>
    if (validateFinalizationResponse row r resp).isSome then pure (none, tail)
    else do
      let res ← resolvePendingOutbox tail .acknowledgeOutbox
      pure (labelled ("acknowledge outbox " ++ row.runID ++ ": ") res)

/-- A pending row whose authority is established. -/
def reconcileAuthorized (r : Run) (id : Identity) (tail : Option Tail) :
    RunProg (Option String × Option Tail) := do
  match ← call (.localSupervisorStatus id.supervisorPID) with
  | (true, true) => reconcileConfirmedDeadOutbox row tail id
  | (true, false) => finalizeByCommand row r id tail
  | (false, _) =>
    if ← call (.processAlive id.supervisorPID) then finalizeByCommand row r id tail
    else reconcileConfirmedDeadOutbox row tail id

/-- One pending row; invalid or ambiguous authority leaves it pending. -/
def reconcileRow (tail : Option Tail) : RunProg (Option String × Option Tail) := do
  match ← call .getRun with
  | .error _ => pure (none, tail)
  | .ok r =>
    match ← readRecoveryIdentity r with
    | .error _ => pure (none, tail)
    | .ok id =>
      if (validatePendingOutboxAuthority row r id).isSome then pure (none, tail)
      else reconcileAuthorized row r id tail

/-- Releases the tail of a run whose local supervisor exited after finalization. Reaping the
child is left out. -/
def finalizeLocalSupervisor (tail : Option Tail) : RunProg (Option String × Option Tail) := do
  match ← call .getRun with
  | .error _ => pure (none, tail)
  | .ok r =>
    if ¬ isTerminal r.state then pure (none, tail)
    else
      if resolved (← call .getOutbox) then pure (none, none) else pure (none, tail)

/-- The tails in memory, by run. -/
abbrev Tails := String → Option Tail

/-- Goes through `items`, each one's work being about the run `key` names, and stops at the
first error. -/
def forEach {β : Type} (key : β → String)
    (body : β → Option Tail → RunProg (Option String × Option Tail)) :
    List β → Tails → Daemon (Option String × Tails)
  | [], tails => pure (none, tails)
  | x :: rest, tails => do
    match ← onRun (key x) (body x (tails (key x))) with
    | (some text, tail) => pure (some text, Function.update tails (key x) tail)
    | (none, tail) => forEach key body rest (Function.update tails (key x) tail)

/-- Drops the tails of all runs but the listed live ones. -/
def releaseUnneededTranscriptTails (runs : List Run) (tails : Tails) : Tails := fun id =>
  if ∃ r ∈ runs, r.id = id ∧ ¬ isTerminal r.state then tails id else none

variable (tails : Tails)

def reconcilePendingOutbox : Daemon (Option String × Tails) := do
  match ← ask .listPendingOutbox with
  | .error e => pure (some ("list pending outbox: " ++ e.text), tails)
  | .ok pending => forEach OutboxRow.runID reconcileRow pending tails

def finalizeLocalSupervisors : Daemon Tails := do
  let exited ← ask .exitedSupervisors
  let (_, tails) ← forEach (fun id => id) (fun _ => finalizeLocalSupervisor) exited tails
  pure tails

/-- Startup reconciliation; an error ends the daemon. -/
def recover : Daemon (Option String × Tails) := do
  match ← reconcilePendingOutbox tails with
  | (some text, tails) => pure (some text, tails)
  | (none, tails) =>
    match ← ask .listActiveRuns with
    | .error e => pure (some ("list active runs: " ++ e.text), tails)
    | .ok runs => forEach Run.id (recoverRun unmarshal fuel) runs tails

def tick : Daemon Tails := do
  match ← ask .listActiveRuns with
  | .error _ => pure tails
  | .ok runs => do
    let (_, tails) ← forEach Run.id (tickRun unmarshal fuel) runs
      (releaseUnneededTranscriptTails runs tails)
    match ← reconcilePendingOutbox tails with
    | (some _, tails) => pure tails
    | (none, tails) => finalizeLocalSupervisors tails

/-- Ticks until the context is done. -/
def recoveryLoop : Daemon Unit :=
  Prog.loop (fun tails : Tails => do
    if ← ask .nextTick then pure (.inl (← tick unmarshal fuel tails)) else pure (.inr ()))
    fuel tails

/-- The daemon from its start: recovery once, then the ticks. -/
def engine : Daemon Unit := do
  match ← recover unmarshal fuel fun _ => none with
  | (some _, _) => pure ()
  | (none, tails) => recoveryLoop unmarshal fuel tails

end

end Ananke.Lifecycle
