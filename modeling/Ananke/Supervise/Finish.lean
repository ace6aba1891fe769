import Ananke.Interaction.Prog
import Ananke.Lifecycle.Identity

/-! The supervisor's way from a worker's exit to a committed terminal state. Everything it
asks of the process backend, the store, the files and the clock is a question of the
program, so its behaviour is what it does under all answers. The mutation hooks are off. -/
namespace Ananke.Supervise

open Store Lifecycle Interaction

inductive Signal
  | term
  | kill

/-- The status reply over the authority socket, as far as the probe compares it. -/
structure CmdResponse where
  ok : Bool
  runID : String
  (supervisorPID workerPID pgid : Int)
  transcriptIdentity : TranscriptFileIdentity

inductive Call
  | groupMembers (pgid : Int)
  | signalGroup (pgid : Int) (signal : Signal)
  | reapWorker (pid : Int)
  /-- `time.Now().Before(deadline)`, the deadline a timeout after the kill. -/
  | beforeDeadline (timeout : Int)
  | wait (duration : Int)
  | getRun
  | transition (target : State) (reason : String)
  | sealTranscript (finalSize : Int)
  | getTranscriptProgress
  | setRunSupervisor (supervisorPID supervisorPGID workerPID : Int)
  | commitTerminal (target : State) (reason : String) (outbox : OutboxRow)
  | acknowledgeOutbox
  | getOutbox
  | writeIdentity (id : Identity)
  | readIdentity
  | statAnchor
  | statPath
  | listen
  | probe

/-- What each call returns; an `Option Err` is a Go error, `none` being nil. -/
@[reducible] def Answer : Call → Type
  | .groupMembers _ => Except Err (List Int)
  | .signalGroup _ _ => Option Err
  | .reapWorker _ => Int × Option Err
  | .beforeDeadline _ => Bool
  | .wait _ => Unit
  | .getRun => Except Err Run
  | .transition _ _ => Option Err
  | .sealTranscript _ => Option Err
  | .getTranscriptProgress => Except Err TranscriptProgress
  | .setRunSupervisor _ _ _ => Option Err
  | .commitTerminal _ _ _ => Option Err
  | .acknowledgeOutbox => Option Err
  | .getOutbox => Except Err OutboxRow
  | .writeIdentity _ => Option Err
  | .readIdentity => Except Err Identity
  | .statAnchor => Except Err FileInfo
  | .statPath => Except Err FileInfo
  | .listen => Option Err
  | .probe => Except Err CmdResponse

abbrev Sup := Prog Call Answer

def call (q : Call) : Sup (Answer q) := Prog.call q

structure Config where
  runID : String
  identityPath : String := ""
  socketPath : String
  transcriptPath : String := ""
  token : String
  gracePeriod : Int := 2000
  cleanupTimeout : Int := 5000
  cleanupPollInterval : Int := 100
  cleanupRetryMin : Int := 50
  cleanupRetryMax : Int := 1000

/-- The supervisor's own state once it owns a worker. -/
structure Supervisor where
  cfg : Config
  id : Identity
  transcriptRequired : Bool
  /-- The transcript descriptor is open. -/
  (transcriptFile cancelled : Bool)
  /-- The authority socket is listening. -/
  listener : Bool

section

variable (s : Supervisor) (fuel : Nat)

def nextCleanupBackoff (cur maximum : Int) : Int :=
  if cur ≥ maximum ∨ cur > maximum / 2 then maximum else cur * 2

/-- `errors.Join` of the failure so far with one more error. -/
def join (fail : Option String) (text : String) : Option String :=
  match fail with
  | none => some text
  | some first => some (first ++ "\n" ++ text)

/-- The error of a signal, unless it says that the group is gone. -/
def refused (e : Option Err) : Option Err := e.filter (· ≠ .esrch)

def fmtInts (xs : List Int) : String :=
  "[" ++ String.intercalate " " (xs.map toString) ++ "]"

/-- Polls until the killed group is gone; the result is the error text, if any. -/
def awaitEmptyGroup (pgid : Int) : Sup (Option String) :=
  Prog.loop (fun _ : Unit => do
    match ← call (.groupMembers pgid) with
    | .error e => pure (.inr (some ("final group members: " ++ e.text)))
    | .ok [] => pure (.inr none)
    | .ok remaining =>
      if ← call (.beforeDeadline s.cfg.cleanupTimeout) then
        call (.wait s.cfg.cleanupPollInterval)
        pure (.inl ())
      else
        pure (.inr (some ("group members still alive at cleanup deadline: " ++ fmtInts remaining))))
    fuel ()

/-- The second half of a cleanup attempt: KILL what survived TERM. -/
def killGroup (pgid : Int) : Sup (Option String) := do
  match ← call (.groupMembers pgid) with
  | .error e => pure (some ("re-enumerate group before SIGKILL: " ++ e.text))
  | .ok [] => pure none
  | .ok _ =>
    match refused (← call (.signalGroup pgid .kill)) with
    | some e => pure (some ("SIGKILL group " ++ toString pgid ++ ": " ++ e.text))
    | none => awaitEmptyGroup s fuel pgid

/-- One cleanup attempt: TERM, a grace period, KILL, then proof that the group is empty. -/
def cleanupGroup (pgid : Int) : Sup (Option String) := do
  match ← call (.groupMembers pgid) with
  | .error e => pure (some ("group members: " ++ e.text))
  | .ok [] => pure none
  | .ok _ =>
    match refused (← call (.signalGroup pgid .term)) with
    | some e => pure (some ("SIGTERM group " ++ toString pgid ++ ": " ++ e.text))
    | none =>
      if s.cfg.gracePeriod > 0 then
        call (.wait s.cfg.gracePeriod)
        killGroup s fuel pgid
      else killGroup s fuel pgid

/-- `none` once `cleanup_required` is durable. -/
def retainCleanupObligation (reason : String) : Sup (Option Err) := do
  match ← call .getRun with
  | .error e => pure (some e)
  | .ok run =>
    if run.state = .cleanupRequired then pure none
    else if isTerminal run.state ∨ ¬ canTransition run.state .cleanupRequired then
      pure (some (.other ("cannot retain cleanup obligation from " ++ run.state.text.quote)))
    else call (.transition .cleanupRequired reason)

def retainCleanupObligationUntilPersisted (reason : String) : Sup Unit :=
  Prog.loop (fun backoff : Int => do
    match ← retainCleanupObligation reason with
    | none => pure (.inr ())
    | some _ =>
      call (.wait backoff)
      pure (.inl (nextCleanupBackoff backoff s.cfg.cleanupRetryMax)))
    fuel s.cfg.cleanupRetryMin

/-- The loop variables of `cleanupGroupUntilProven`. -/
structure CleanupLoop where
  failure : Option String
  (obligationPersisted cleanupFailureRecorded : Bool)
  backoff : Int

/-- Whether the obligation is durable, after one more attempt if there is a failure. -/
def persistObligation (l : CleanupLoop) : Sup Bool :=
  match l.failure, l.obligationPersisted with
  | some text, false => do pure (← retainCleanupObligation text).isNone
  | _, persisted => pure persisted

/-- The loop variables after an attempt; the first cleanup error joins the failure. -/
def recordCleanup (l : CleanupLoop) (persisted : Bool) (cleanupErr : Option String) : CleanupLoop :=
  let backoff := nextCleanupBackoff l.backoff s.cfg.cleanupRetryMax
  match cleanupErr, l.cleanupFailureRecorded with
  | some text, false => ⟨join l.failure ("cleanup group: " ++ text), false, true, backoff⟩
  | _, recorded => ⟨l.failure, persisted, recorded, backoff⟩

/-- Retries for ever: the supervisor stays the group's anchor until it has seen the group
empty, and returns the failure recorded by then. -/
def cleanupGroupUntilProven (pgid : Int) (fail : Option String) : Sup (Option String) :=
  Prog.loop (fun l : CleanupLoop => do
    let persisted ← persistObligation l
    let cleanupErr ← cleanupGroup s fuel pgid
    if cleanupErr.isNone ∧ persisted then pure (.inr l.failure)
    else
      call (.wait l.backoff)
      pure (.inl (recordCleanup s l persisted cleanupErr)))
    fuel ⟨fail, fail.isNone, false, s.cfg.cleanupRetryMin⟩

/-- The named file, the retained descriptor, the run row and the identity record must all
name the transcript the supervisor created. -/
def validateTranscriptAuthority : Sup (Except String FileInfo) := do
  match s.id.transcriptIdentity.validate with
  | .error e => pure (.error ("supervisor transcript identity: " ++ e.text))
  | .ok () =>
    if ¬ s.transcriptFile then pure (.error "supervisor transcript anchor is not open")
    else match ← call .statAnchor with
    | .error e => pure (.error ("stat retained transcript anchor: " ++ e.text))
    | .ok anchorInfo =>
      match validateTranscriptIdentity anchorInfo s.id.transcriptIdentity with
      | some text => pure (.error ("retained transcript anchor: " ++ text))
      | none =>
        match ← call .statPath with
        | .error e =>
          pure (.error ("stat named transcript " ++ s.cfg.transcriptPath.quote ++ ": " ++ e.text))
        | .ok pathInfo =>
          match validateTranscriptIdentity pathInfo s.id.transcriptIdentity with
          | some text =>
            pure (.error ("named transcript " ++ s.cfg.transcriptPath.quote ++ ": " ++ text))
          | none =>
            if pathInfo.size ≠ anchorInfo.size then
              pure (.error ("named transcript size " ++ toString pathInfo.size ++
                " does not match retained anchor size " ++ toString anchorInfo.size))
            else match ← call .getRun with
            | .error e => pure (.error ("load durable transcript authority: " ++ e.text))
            | .ok run =>
              if run.transcriptPath ≠ s.cfg.transcriptPath ∨
                  run.transcriptIdentity ≠ s.id.transcriptIdentity then
                pure (.error "durable run transcript authority does not match supervisor")
              else match ← call .readIdentity with
              | .error e => pure (.error ("read transcript identity record: " ++ e.text))
              | .ok identity =>
                if identity.transcriptPath ≠ s.cfg.transcriptPath ∨
                    identity.transcriptIdentity ≠ s.id.transcriptIdentity then
                  pure (.error "identity record transcript authority does not match supervisor")
                else pure (.ok anchorInfo)

/-- Store errors that no retry can cure. -/
def permanentTranscriptStoreError : Err → Bool
  | .store .runNotFound => true
  | .store (.transcriptFinalSizeChanged _ _) => true
  | .canceled => true
  | .deadlineExceeded => true
  | _ => false

/-- The loop variables of `awaitTranscriptDurability`. -/
structure HandoffLoop where
  isSealed : Bool := false
  backoff : Int

/-- Sleeps and goes round again. -/
def retryHandoff (l : HandoffLoop) : Sup (HandoffLoop ⊕ Option String) := do
  call (.wait l.backoff)
  pure (.inl { l with backoff := nextCleanupBackoff l.backoff s.cfg.cleanupRetryMax })

/-- Waits for the daemon to have consumed the sealed transcript. -/
def awaitConsumed (finalSize : Int) (l : HandoffLoop) : Sup (HandoffLoop ⊕ Option String) := do
  match ← call .getTranscriptProgress with
  | .error e =>
    if permanentTranscriptStoreError e then
      pure (.inr (some ("load transcript progress: " ++ e.text)))
    else retryHandoff s l
  | .ok progress =>
    if progress.finalSize ≠ finalSize then
      pure (.inr (some ("sealed size changed from " ++ toString finalSize ++ " to " ++
        toString progress.finalSize)))
    else if progress.consumedOffset = finalSize then
      match ← validateTranscriptAuthority s with
      | .error text => pure (.inr (some ("revalidate transcript authority: " ++ text)))
      | .ok currentInfo =>
        if currentInfo.size ≠ finalSize then
          pure (.inr (some ("transcript size changed from " ++ toString finalSize ++ " to " ++
            toString currentInfo.size ++ " during handoff")))
        else pure (.inr none)
    else if progress.consumedOffset > finalSize then
      pure (.inr (some ("consumed offset " ++ toString progress.consumedOffset ++
        " exceeds final size " ++ toString finalSize)))
    else retryHandoff s l

def handoffRound (finalSize : Int) (l : HandoffLoop) : Sup (HandoffLoop ⊕ Option String) := do
  match ← call .getRun with
  | .error e =>
    if permanentTranscriptStoreError e then
      pure (.inr (some ("load run before transcript handoff: " ++ e.text)))
    else retryHandoff s l
  | .ok run =>
    if isTerminal run.state then
      pure (.inr (some ("terminal state " ++ run.state.text.quote ++
        " published before transcript handoff completed")))
    else if run.transcriptIdentity ≠ s.id.transcriptIdentity then
      pure (.inr (some "durable transcript identity changed during handoff"))
    else if l.isSealed then awaitConsumed s finalSize l
    else match ← call (.sealTranscript finalSize) with
    | some e =>
      if permanentTranscriptStoreError e then
        pure (.inr (some ("seal transcript at " ++ toString finalSize ++ " bytes: " ++ e.text)))
      else retryHandoff s l
    | none => awaitConsumed s finalSize { l with isSealed := true }

/-- Seals the transcript at the anchor's size and waits until it is consumed; the result is
the error text, if any. -/
def awaitTranscriptDurability : Sup (Option String) := do
  match ← validateTranscriptAuthority s with
  | .error text => pure (some text)
  | .ok info =>
    Prog.loop (handoffRound s info.size) fuel { backoff := s.cfg.cleanupRetryMin }

def listenAuthority (listener : Bool) : Sup (Option Err) :=
  if listener then pure none else call .listen

/-- Makes the socket answer for this supervisor; also returns whether it listens now. -/
def ensureSocketAuthority (listener : Bool) : Sup (Option String × Bool) := do
  match ← listenAuthority listener with
  | some e => pure (some e.text, false)
  | none =>
    match ← call .probe with
    | .error e => pure (some e.text, true)
    | .ok response =>
      if ¬ response.ok ∨ response.runID ≠ s.id.runID ∨
          response.supervisorPID ≠ s.id.supervisorPID ∨ response.workerPID ≠ s.id.workerPID ∨
          response.pgid ≠ s.id.supervisorPGID ∨
          response.transcriptIdentity ≠ s.id.transcriptIdentity then
        pure (some "authority probe identity mismatch", true)
      else pure (none, true)

/-- Publishes the identity everywhere and reads it back. -/
def establishFinalizationAuthority (listener : Bool) : Sup (Option String × Bool) := do
  match ← call (.writeIdentity s.id) with
  | some e => pure (some ("write final identity: " ++ e.text), listener)
  | none =>
    match ← call .readIdentity with
    | .error e => pure (some ("read final identity: " ++ e.text), listener)
    | .ok identity =>
      if identity ≠ s.id then
        pure (some "final identity does not match supervisor authority", listener)
      else match ← call (.setRunSupervisor s.id.supervisorPID s.id.supervisorPGID
        s.id.workerPID) with
      | some e => pure (some ("set final run identity: " ++ e.text), listener)
      | none =>
        match ← call .getRun with
        | .error e => pure (some ("read final run identity: " ++ e.text), listener)
        | .ok run =>
          if run.id ≠ s.id.runID ∨ run.supervisorPID ≠ s.id.supervisorPID ∨
              run.supervisorPGID ≠ s.id.supervisorPGID ∨ run.workerPID ≠ s.id.workerPID ∨
              run.socketPath ≠ s.id.socketPath ∨ run.token ≠ s.id.token ∨
              run.transcriptPath ≠ s.id.transcriptPath ∨
              run.transcriptIdentity ≠ s.id.transcriptIdentity then
            pure (some "durable run does not match supervisor authority", listener)
          else if s.transcriptRequired then
            match ← validateTranscriptAuthority s with
            | .error text => pure (some ("validate final transcript authority: " ++ text), listener)
            | .ok _ => ensureSocketAuthority s listener
          else ensureSocketAuthority s listener

def ensureFinalizationAuthority : Sup Unit :=
  Prog.loop (fun l : Bool × Int => do
    match ← establishFinalizationAuthority s l.1 with
    | (none, _) => pure (.inr ())
    | (some _, listener) =>
      call (.wait l.2)
      pure (.inl (listener, nextCleanupBackoff l.2 s.cfg.cleanupRetryMax)))
    fuel (s.listener, s.cfg.cleanupRetryMin)

/-- Picks the terminal state from the durable run, the cancel flag and the exit code. -/
def decideTerminal (exitCode : Int) : Sup (State × String) := do
  match ← call .getRun with
  | .error e => pure (.failed, "durable run state unavailable: " ++ e.text)
  | .ok run =>
    if run.state = .cleanupRequired then
      pure (.failed, "transcript corruption required group cleanup")
    else if run.cancelRequested ∨ run.state = .cancelling ∨ s.cancelled then
      pure (.cancelled, "cancelled by request")
    else if exitCode = 0 then pure (.completed, "worker exited 0")
    else pure (.failed, "worker exited " ++ toString exitCode)

/-- The row read back is acknowledged. -/
def acknowledged : Except Err OutboxRow → Bool
  | .ok row => row.acknowledged = 1
  | .error _ => false

def acknowledgeOutboxUntilDurable : Sup Unit :=
  Prog.loop (fun backoff : Int => do
    match ← call .acknowledgeOutbox with
    | none => pure (.inr ())
    | some _ =>
      if acknowledged (← call .getOutbox) then pure (.inr ())
      else
        call (.wait backoff)
        pure (.inl (nextCleanupBackoff backoff s.cfg.cleanupRetryMax)))
    fuel s.cfg.cleanupRetryMin

def finalOutbox (term : State) : OutboxRow where
  runID := s.cfg.runID
  terminalState := term
  supervisorPID := s.id.supervisorPID
  supervisorPGID := s.id.supervisorPGID
  socketPath := s.cfg.socketPath
  token := s.cfg.token

variable (fail : Option String)

/-- Commits, and falls back to `cancelled` when the store refuses to complete a run whose
cancellation was requested meanwhile. -/
def commitTerminalOrCancel (term : State) (reason : String) : Sup (State × Option Err) := do
  match ← call (.commitTerminal term reason (finalOutbox s term)), fail with
  | some (.store (.cancellationRequested _)), none => do
    pure (.cancelled, ← call (.commitTerminal .cancelled "cancelled by durable request"
      (finalOutbox s .cancelled)))
  | commitErr, _ => pure (term, commitErr)

/-- A recorded failure overrides what the exit code and the run say. -/
def finalDecision (decided : State × String) : State × String :=
  match fail with
  | none => decided
  | some text => (.failed, "lifecycle failure after worker start: " ++ text)

/-- Decides, commits and sees the outbox row acknowledged. -/
def commitFinal (exitCode : Int) (fail : Option String) : Sup (State × Option String) := do
  let decision := finalDecision fail (← decideTerminal s exitCode)
  match ← commitTerminalOrCancel s fail decision.1 decision.2 with
  | (_, some e) => pure (.other "", some ("commit terminal: " ++ e.text))
  | (term, none) =>
    acknowledgeOutboxUntilDurable s fuel
    pure (term, fail)

def handOff : Sup (Option String) :=
  if s.transcriptRequired then awaitTranscriptDurability s fuel else pure none

def finishReaped (reaped : Int × Option Err) : Sup (State × Option String) := do
  match reaped.2 with
  | some e =>
    let fail := join fail ("reap worker: " ++ e.text)
    retainCleanupObligationUntilPersisted s fuel (fail.getD "")
    ensureFinalizationAuthority s fuel
    commitFinal s fuel reaped.1 fail
  | none =>
    match ← handOff s fuel with
    | some text =>
      let fail := join fail ("final transcript durability: " ++ text)
      retainCleanupObligationUntilPersisted s fuel (fail.getD "")
      pure (.cleanupRequired, fail)
    | none =>
      ensureFinalizationAuthority s fuel
      commitFinal s fuel reaped.1 fail

/-- The whole path: clean up until proven, reap, hand the transcript off, decide, commit. -/
def finishOwnedWorker (workerPID : Int) (fail : Option String) : Sup (State × Option String) := do
  let fail ← cleanupGroupUntilProven s fuel s.id.supervisorPGID fail
  let reaped ← call (.reapWorker workerPID)
  finishReaped s fuel fail reaped

end

end Ananke.Supervise
