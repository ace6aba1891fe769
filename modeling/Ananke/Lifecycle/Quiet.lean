import Ananke.Lifecycle.Engine

/-! The parts of the daemon's work on a run that journal nothing. -/
namespace Ananke.Lifecycle

open Store Interaction

/-- Writes that move the journal or its consumed offset. -/
def Write.journals : Write → Bool
  | .appendEvent _ _ _ | .advanceTranscriptConsumed _ | .accountMalformed _ => true
  | _ => false

def QuietCall : RunCall → Prop
  | .write cmd => cmd.journals = false
  | _ => True

/-- Calls that look around, talk to the supervisor, or move the run between live states. -/
def MildCall : RunCall → Prop
  | .write (.transition _ _) => True
  | .write _ | .signalGroup _ _ => False
  | _ => True

theorem MildCall.quiet {c : RunCall} (h : MildCall c) : QuietCall c := by
  cases c with
  | write cmd => cases cmd <;> first | rfl | cases h
  | _ => trivial

/-- Questions that journal nothing for the run. -/
def Quiet (id : String) : Question → Prop
  | .about id' c => id' = id → QuietCall c
  | _ => True

variable (r : Run)

theorem mild_markFailure (reason : String) :
    Asks MildCall (markTranscriptAuthorityFailure r reason) := by
  unfold markTranscriptAuthorityFailure
  split
  · exact asks_pure
  · exact asks_then trivial fun _ => asks_pure

theorem mild_lineComplete (line : List UInt8) (status : Text.ReadEnd) (lineOffset : Int) :
    Asks MildCall (lineComplete line status lineOffset) := by
  unfold lineComplete
  repeat' first
    | split
    | exact asks_pure
    | refine asks_then trivial fun _ => ?_

theorem mild_sendCmd (socketPath token cmd : String) :
    Asks MildCall (sendSupervisorCmd socketPath token cmd) := by
  unfold sendSupervisorCmd
  repeat' first
    | split
    | exact asks_pure
    | exact asks_call trivial

theorem mild_readIdentity : Asks MildCall (readRecoveryIdentity r) := by
  unfold readRecoveryIdentity
  repeat' first
    | split
    | exact asks_pure
    | refine asks_then trivial fun _ => ?_

theorem mild_validatedCmd (command : String) : Asks MildCall (validatedCmd r command) := by
  unfold validatedCmd
  refine asks_bind (mild_sendCmd ..) fun resp => ?_
  repeat' first
    | split
    | exact asks_pure

theorem mild_authenticate : Asks MildCall (authenticateRecoveredSupervisor r) := by
  unfold authenticateRecoveredSupervisor
  refine asks_bind (mild_validatedCmd r "status") fun status => ?_
  split
  · exact asks_pure
  · refine asks_bind ?_ fun adopt => ?_
    · exact mild_validatedCmd r "adopt"
    · repeat' first
        | split
        | exact asks_pure

theorem mild_inspectByCommand (id : Identity) : Asks MildCall (inspectByCommand r id) := by
  unfold inspectByCommand
  refine asks_bind (mild_authenticate r) fun state => ?_
  split
  · exact asks_pure
  · refine asks_bind ?_ fun status => ?_
    · exact asks_call trivial
    · split <;> exact asks_pure

theorem mild_inspect : Asks MildCall (inspectRecoverySupervisor r) := by
  unfold inspectRecoverySupervisor
  refine asks_bind (mild_readIdentity r) fun id => ?_
  split
  · exact asks_pure
  · refine asks_bind ?_ fun status => ?_
    · exact asks_call trivial
    · split
      · exact asks_pure
      · exact mild_inspectByCommand r _
      · refine asks_bind ?_ fun alive => ?_
        · exact asks_call trivial
        · split
          · exact mild_inspectByCommand r _
          · exact asks_pure

theorem mild_groupQuiescent (id : Identity) : Asks MildCall (groupQuiescent id) := by
  unfold groupQuiescent
  repeat' first
    | split
    | exact asks_pure
    | refine asks_then trivial fun _ => ?_

theorem mild_rejectRecovery (diagnostic : String) :
    Asks MildCall (rejectRecovery r diagnostic) := by
  unfold rejectRecovery
  repeat' first
    | split
    | exact asks_pure
    | refine asks_then trivial fun _ => ?_

theorem mild_cleanup : Asks MildCall (requestCleanup r) := by
  unfold requestCleanup
  repeat' first
    | split
    | exact asks_pure
    | exact asks_call trivial
    | refine asks_then trivial fun _ => ?_

theorem mild_cleanupIf (wanted : Bool) (r : Run) : Asks MildCall (requestCleanupIf wanted r) := by
  unfold requestCleanupIf
  split
  · exact mild_cleanup r
  · exact asks_pure

theorem mild_supervisorAlive (pid : Int) : Asks MildCall (supervisorAlive pid) := by
  unfold supervisorAlive
  repeat' first
    | split
    | exact asks_pure
    | exact asks_call trivial
    | refine asks_then trivial fun _ => ?_

theorem mild_cleanupQuiescent : Asks MildCall (cleanupQuiescent r) := by
  unfold cleanupQuiescent
  repeat' first
    | split
    | exact asks_pure
    | refine asks_then trivial fun _ => ?_

theorem mild_tickCancel : Asks MildCall (tickCancel r) := by
  unfold tickCancel
  repeat' first
    | split
    | exact asks_pure
    | refine asks_bind (mild_cleanup r) fun _ => ?_
    | refine asks_bind (mild_inspect r) fun _ => ?_
    | refine asks_bind (mild_cleanupIf _ r) fun _ => ?_
    | refine asks_then trivial fun _ => ?_

theorem mild_tickUnreachable : Asks MildCall (tickUnreachable r) := by
  unfold tickUnreachable
  split
  · refine asks_bind (mild_supervisorAlive _) fun alive => ?_
    split
    · exact asks_pure
    · split
      · exact asks_then trivial fun _ => asks_pure
      · exact asks_pure
  · exact asks_pure

theorem mild_statBoundTail (tail : Option Tail) : Asks MildCall (statBoundTail tail) := by
  cases tail with
  | none => exact asks_pure
  | some t =>
    refine asks_then trivial fun info => ?_
    cases info <;> exact asks_pure

theorem mild_recheckHandoff (sealed : FileInfo) (tail : Option Tail) :
    Asks MildCall (recheckHandoff r sealed tail) := by
  unfold recheckHandoff
  repeat' first
    | split
    | exact asks_pure
    | refine asks_bind (mild_statBoundTail tail) fun _ => ?_
    | refine asks_then trivial fun _ => ?_

end Ananke.Lifecycle
