import Ananke.Supervise.Finish

/-! Which questions the parts of `finishOwnedWorker` can ask at all. -/
namespace Ananke.Supervise

open Store Lifecycle Interaction

/-- Calls that are admitted at any time. The only state they ask for is the obligation to
clean up. -/
def Harmless : Call → Prop
  | .reapWorker _ | .signalGroup _ _ | .commitTerminal _ _ _ | .groupMembers _
  | .beforeDeadline _ => False
  | .transition target _ => target = .cleanupRequired
  | _ => True

theorem asks_retainCleanup (reason : String) : Asks Harmless (retainCleanupObligation reason) := by
  refine asks_then trivial fun run => ?_
  match run with
  | .error e => exact asks_pure
  | .ok run =>
    dsimp only
    split
    · exact asks_pure
    · split
      · exact asks_pure
      · exact asks_call rfl

theorem asks_persistObligation (l : CleanupLoop) : Asks Harmless (persistObligation l) := by
  unfold persistObligation
  split
  · exact asks_bind (asks_retainCleanup _) fun _ => asks_pure
  · exact asks_pure

variable (s : Supervisor) (fuel : Nat)

theorem asks_untilPersisted (reason : String) :
    Asks Harmless (retainCleanupObligationUntilPersisted s fuel reason) := by
  refine asks_loop (fun backoff => ?_) fuel _
  refine asks_bind (asks_retainCleanup reason) fun err => ?_
  cases err with
  | none => exact asks_pure
  | some e => exact asks_then trivial fun _ => asks_pure

theorem asks_authority : Asks Harmless (validateTranscriptAuthority s) := by
  unfold validateTranscriptAuthority
  repeat' first
    | exact asks_pure
    | refine asks_then trivial fun _ => ?_
    | split

theorem asks_retryHandoff (l : HandoffLoop) : Asks Harmless (retryHandoff s l) :=
  asks_then trivial fun _ => asks_pure

theorem asks_awaitConsumed (size : Int) (l : HandoffLoop) :
    Asks Harmless (awaitConsumed s size l) := by
  unfold awaitConsumed
  repeat' first
    | exact asks_pure
    | exact asks_retryHandoff s l
    | refine asks_bind (asks_authority s) fun _ => ?_
    | refine asks_then trivial fun _ => ?_
    | split

theorem asks_handoffRound (size : Int) (l : HandoffLoop) :
    Asks Harmless (handoffRound s size l) := by
  unfold handoffRound
  repeat' first
    | exact asks_pure
    | exact asks_retryHandoff s l
    | exact asks_awaitConsumed s size _
    | refine asks_then trivial fun _ => ?_
    | split

theorem asks_handOff : Asks Harmless (handOff s fuel) := by
  unfold handOff
  split
  · refine asks_bind (asks_authority s) fun info => ?_
    match info with
    | .error e => exact asks_pure
    | .ok info => exact asks_loop (asks_handoffRound s info.size) fuel _
  · exact asks_pure

theorem asks_socketAuthority (listener : Bool) :
    Asks Harmless (ensureSocketAuthority s listener) := by
  have hlisten : Asks Harmless (listenAuthority listener) := by
    unfold listenAuthority
    split
    · exact asks_pure
    · exact asks_call trivial
  unfold ensureSocketAuthority
  repeat' first
    | exact asks_pure
    | refine asks_bind hlisten fun _ => ?_
    | refine asks_then trivial fun _ => ?_
    | split

theorem asks_establish (listener : Bool) :
    Asks Harmless (establishFinalizationAuthority s listener) := by
  unfold establishFinalizationAuthority
  repeat' first
    | exact asks_pure
    | exact asks_socketAuthority s listener
    | refine asks_bind (asks_authority s) fun _ => ?_
    | refine asks_then trivial fun _ => ?_
    | split

theorem asks_finalization : Asks Harmless (ensureFinalizationAuthority s fuel) := by
  refine asks_loop (fun l => ?_) fuel _
  refine asks_bind (asks_establish s l.1) fun r => ?_
  match r with
  | (none, _) => exact asks_pure
  | (some _, _) => exact asks_then trivial fun _ => asks_pure

theorem asks_decideTerminal (exitCode : Int) : Asks Harmless (decideTerminal s exitCode) := by
  unfold decideTerminal
  repeat' first
    | exact asks_pure
    | refine asks_then trivial fun _ => ?_
    | split

theorem asks_acknowledgeOutbox : Asks Harmless (acknowledgeOutboxUntilDurable s fuel) := by
  refine asks_loop (fun backoff => ?_) fuel _
  repeat' first
    | exact asks_pure
    | refine asks_then trivial fun _ => ?_
    | split

/-- No call moves a live run anywhere but to the obligation to clean up. -/
def KeepsObligation : Call → Prop
  | .transition target _ => target = .cleanupRequired
  | _ => True

theorem keeps_of_harmless (q : Call) (h : Harmless q) : KeepsObligation q := by
  cases q <;> simp_all [Harmless, KeepsObligation]

theorem keeps_of_asks {α : Type} {p : Sup α} (h : Asks Harmless p) :
    Asks KeepsObligation p := asks_mono keeps_of_harmless h

/-- The calls of the cleanup loop reap no worker either. -/
def Cleans : Call → Prop
  | .reapWorker _ => False
  | q => KeepsObligation q

theorem cleans_of_harmless (q : Call) (h : Harmless q) : Cleans q := by
  cases q <;> simp_all [Harmless, Cleans, KeepsObligation]

theorem keeps_of_cleans (q : Call) (h : Cleans q) : KeepsObligation q := by
  cases q <;> simp_all [Cleans, KeepsObligation]

theorem asks_cleanupGroup (pgid : Int) : Asks Cleans (cleanupGroup s fuel pgid) := by
  have hawait : Asks Cleans (awaitEmptyGroup s fuel pgid) := by
    refine asks_loop (fun _ => ?_) fuel _
    repeat' first
      | exact asks_pure
      | refine asks_then trivial fun _ => ?_
      | split
  have hkill : Asks Cleans (killGroup s fuel pgid) := by
    unfold killGroup
    repeat' first
      | exact asks_pure
      | exact hawait
      | refine asks_then trivial fun _ => ?_
      | split
  unfold cleanupGroup
  repeat' first
    | exact asks_pure
    | exact hkill
    | refine asks_then trivial fun _ => ?_
    | split

theorem asks_untilProven (pgid : Int) (fail : Option String) :
    Asks Cleans (cleanupGroupUntilProven s fuel pgid fail) := by
  refine asks_loop (fun l => ?_) fuel _
  refine asks_bind (asks_mono cleans_of_harmless (asks_persistObligation l)) fun persisted => ?_
  refine asks_bind (asks_cleanupGroup s fuel pgid) fun err => ?_
  split
  · exact asks_pure
  · exact asks_then trivial fun _ => asks_pure

theorem asks_commitFinal (exitCode : Int)
    (fail : Option String) : Asks KeepsObligation (commitFinal s fuel exitCode fail) := by
  refine asks_bind (keeps_of_asks (asks_decideTerminal s exitCode)) fun decided => ?_
  refine asks_bind ?_ fun committed => ?_
  · unfold commitTerminalOrCancel
    repeat' first
      | exact asks_pure
      | refine asks_then trivial fun _ => ?_
      | split
  · match committed with
    | (_, some e) => exact asks_pure
    | (term, none) =>
      exact asks_bind (keeps_of_asks (asks_acknowledgeOutbox s fuel))
        fun _ => asks_pure

theorem asks_finishReaped (fail : Option String)
    (reaped : Int × Option Err) : Asks KeepsObligation (finishReaped s fuel fail reaped) := by
  have hretain := fun reason => keeps_of_asks (asks_untilPersisted s fuel reason)
  have hauth := keeps_of_asks (asks_finalization s fuel)
  unfold finishReaped
  split
  · refine asks_bind (hretain _) fun _ => asks_bind hauth fun _ => ?_
    exact asks_commitFinal s fuel _ _
  · refine asks_bind (keeps_of_asks (asks_handOff s fuel)) fun err => ?_
    match err with
    | some text => exact asks_bind (hretain _) fun _ => asks_pure
    | none => exact asks_bind hauth fun _ => asks_commitFinal s fuel _ _

/-- The supervisor's finish never makes its run ambiguous. -/
theorem asks_finishOwnedWorker (workerPID : Int) (fail : Option String) :
    Asks KeepsObligation (finishOwnedWorker s fuel workerPID fail) :=
  asks_bind (asks_mono keeps_of_cleans (asks_untilProven s fuel _ fail)) fun fail =>
    asks_then trivial fun reaped => asks_finishReaped s fuel fail reaped

end Ananke.Supervise
