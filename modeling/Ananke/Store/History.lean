import Mathlib.Data.List.Chain
import Ananke.Store.View

/-! The transition history and the finalization outbox of every reachable run. -/
namespace Ananke.Store

open List

/-- The moves a history may record: an edge of the table, or the failure of a launch that
left no process behind. -/
def Edge (source target : State) : Prop :=
  canTransition source target = true ∨ (source = .created ∨ source = .running) ∧ target = .failed

/-- A row leaves exactly the state the row before it entered, along an edge. -/
def FollowsOn (a b : TransitionRecord) : Prop :=
  b.fromState = a.toState ∧ Edge b.fromState b.toState

/-- The rows of a run that is now in `state`. -/
structure History (rows : List TransitionRecord) (state : State) : Prop where
  numbered : rows.map (·.seq) = List.range rows.length
  first : ∃ t rest, rows = t :: rest ∧ t.fromState = .other "" ∧ t.toState = .created
  edges : rows.IsChain FollowsOn
  last : rows.getLast?.map (·.toState) = some state
  terminal : ∀ t ∈ rows.dropLast, isTerminal t.toState = false

/-- One row for a terminal run, carrying its state, and none for a live one. -/
def OutboxMatches (rows : List OutboxRow) (state : State) : Prop :=
  if isTerminal state then ∃ row, rows = [row] ∧ row.terminalState = state else rows = []

/-- An absent run has no rows; a present one has a history and an outbox that fit. -/
def Consistent (v : RunView) : Prop :=
  match v.run with
  | none => v.history = [] ∧ v.outbox = []
  | some run => History v.history run.state ∧ OutboxMatches v.outbox run.state

variable {rows : List TransitionRecord} {outbox : List OutboxRow} {source target : State}
  {id reason now : String} {op : Op} {v v' : RunView}

theorem Edge.source_live (h : Edge source target) : isTerminal source = false := by
  rcases h with h | ⟨rfl | rfl, -⟩
  · by_contra ht
    have hno := @terminal_stays source target (by simpa using ht)
    simp [hno] at h
  · rfl
  · rfl

theorem nextSeq_range {n : Nat} (h : 0 < n) : nextSeq (List.range n) = n := by
  have hmax : (List.range n).max? = some (n - 1) := by
    rw [List.max?_eq_some_iff]
    constructor
    · exact mem_range.mpr (by omega)
    · intro b hb
      have := mem_range.mp hb
      omega
  simp only [nextSeq, hmax]
  omega

theorem history_created (t : TransitionRecord) (hseq : t.seq = 0) (hfrom : t.fromState = .other "")
    (hto : t.toState = .created) : History [t] .created where
  numbered := by simp [hseq, range_succ]
  first := ⟨t, [], rfl, hfrom, hto⟩
  edges := by simp
  last := by simp [hto]
  terminal := by simp

theorem History.move (h : History rows source) (hedge : Edge source target) :
    History (rows ++ [nextTransition id rows source target reason now]) target where
  numbered := by
    obtain ⟨t, rest, hrows, -⟩ := h.first
    have hpos : 0 < rows.length := by simp [hrows]
    simp [nextTransition, h.numbered, range_succ, nextSeq_range hpos]
  first := by
    obtain ⟨t, rest, hrows, hfrom, hto⟩ := h.first
    exact ⟨t, rest ++ _, by rw [hrows, cons_append], hfrom, hto⟩
  edges := by
    rw [isChain_append]
    refine ⟨h.edges, by simp, ?_⟩
    intro a ha b hb
    have hlast := h.last
    simp only [List.head?_cons, Option.mem_def, Option.some.injEq] at ha hb
    subst hb
    rw [ha] at hlast
    simp only [Option.map_some, Option.some.injEq] at hlast
    exact ⟨hlast.symm, hedge⟩
  last := by simp [nextTransition]
  terminal := by
    intro t ht
    rw [dropLast_concat] at ht
    have hlast := h.last
    rcases eq_nil_or_concat rows with rfl | ⟨rest, u, rfl⟩
    · simp at ht
    · simp only [concat_eq_append, List.getLast?_append, List.getLast?_singleton,
        Option.some_or, Option.map_some, Option.some.injEq] at hlast
      simp only [concat_eq_append, mem_append, mem_singleton] at ht
      rcases ht with ht | rfl
      · exact h.terminal t (by simpa using ht)
      · rw [hlast]
        exact hedge.source_live

theorem outbox_live (h : isTerminal source = false) :
    OutboxMatches outbox source ↔ outbox = [] := by
  simp [OutboxMatches, h]

theorem outbox_terminal (h : isTerminal source = true) :
    OutboxMatches outbox source ↔ ∃ row, outbox = [row] ∧ row.terminalState = source := by
  simp [OutboxMatches, h]

theorem outboxMatches_map {f : OutboxRow → OutboxRow}
    (hf : ∀ row, (f row).terminalState = row.terminalState)
    (h : OutboxMatches outbox source) : OutboxMatches (outbox.map f) source := by
  by_cases hterm : isTerminal source = true
  · rw [outbox_terminal hterm] at h ⊢
    obtain ⟨row, rfl, hstate⟩ := h
    exact ⟨f row, rfl, (hf row).trans hstate⟩
  · rw [outbox_live (by simpa using hterm)] at h ⊢
    simp [h]

theorem consistent_of_run {run : Run} (hrun : v.run = some run) :
    Consistent v ↔ History v.history run.state ∧ OutboxMatches v.outbox run.state := by
  simp [Consistent, hrun]

theorem consistent_step (h : RunStep id op v v') (hv : Consistent v) : Consistent v' := by
  cases h with
  | createRun hrun =>
    simp only [Consistent, hrun] at hv
    simp only [Consistent, hv.1, nil_append, newRun]
    exact ⟨history_created _ rfl rfl rfl, hv.2⟩
  | transition hrun hid htarget hedge =>
    rw [consistent_of_run hrun] at hv
    rw [outbox_live (Edge.source_live (.inl hedge))] at hv
    exact ⟨hv.1.move (.inl hedge), (outbox_live htarget).mpr hv.2⟩
  | commitTerminal hrun hid htarget hedge =>
    rw [consistent_of_run hrun] at hv
    exact ⟨hv.1.move (.inl hedge), (outbox_terminal htarget).mpr ⟨_, rfl, rfl⟩⟩
  | commitNoProcessFailure hrun hid hstate =>
    rw [consistent_of_run hrun] at hv
    exact ⟨hv.1.move (.inr ⟨hstate, rfl⟩), (outbox_terminal rfl).mpr ⟨_, rfl, rfl⟩⟩
  | cancelRunning hrun hid hstate =>
    rw [consistent_of_run hrun] at hv
    have hedge : canTransition State.running .cancelling = true := by decide
    rw [← hstate] at hedge
    rw [outbox_live (Edge.source_live (.inl hedge))] at hv
    exact ⟨hv.1.move (.inl hedge), hv.2⟩
  | cancelFlag hrun _ _ _ | setRunSupervisor hrun | setTranscriptIdentity hrun _ _
  | appendEvent hrun _ | sealTranscript hrun _ _ | advanceTranscriptConsumed hrun _ _ =>
    exact (consistent_of_run hrun).mp hv
  | resolveOutbox hop hf =>
    cases hrun : v.run with
    | none =>
      simp only [Consistent, hrun] at hv ⊢
      simp [hv.1, hv.2]
    | some run =>
      rw [consistent_of_run hrun] at hv
      exact ⟨hv.1, outboxMatches_map (fun row => (hf row).2) hv.2⟩

theorem consistent_empty (id : String) : Consistent (({} : DB).view id) := ⟨rfl, rfl⟩

theorem consistent_reachable (ops : List Op) (id : String) :
    Consistent ((Machine.run exec {} ops).view id) :=
  run_preserves (fun _ _ _ h hv => consistent_step h hv) (consistent_empty id) ops

/-- Every run of a reachable store: its history is numbered from zero without gap, starts
by entering `created`, moves along edges, ends in the run's state and is terminal at its
end only; it has an outbox row exactly when it is terminal, one, with that state. -/
theorem history_reachable (ops : List Op) (id : String) (run : Run)
    (hrun : (Machine.run exec {} ops).getRun id = some run) :
    History ((Machine.run exec {} ops).transitionsOf id) run.state ∧
      ((Machine.run exec {} ops).outboxOf id ≠ [] ↔ isTerminal run.state = true) ∧
      ((Machine.run exec {} ops).outboxOf id).length ≤ 1 ∧
      ∀ row ∈ (Machine.run exec {} ops).outboxOf id, row.terminalState = run.state := by
  obtain ⟨hhistory, houtbox⟩ := (consistent_of_run hrun).mp (consistent_reachable ops id)
  refine ⟨hhistory, ?_⟩
  change OutboxMatches ((Machine.run exec {} ops).outboxOf id) run.state at houtbox
  by_cases hterm : isTerminal run.state = true
  · obtain ⟨_, hrow, hstate⟩ := (outbox_terminal hterm).mp houtbox
    simp [hrow, hstate, hterm]
  · have hnone := (outbox_live (by simpa using hterm)).mp houtbox
    simp [hnone, hterm]

def cancelledRun : List Op :=
  started { workerPath := "/w" } ++
    [.requestCancellation "r" "t2", .commitTerminal "r" .cancelled "exited" "t3" {}]

theorem history_reachable_cancelledRun :
    ∃ run, (Machine.run exec {} cancelledRun).getRun "r" = some run ∧ run.state = .cancelled ∧
      History ((Machine.run exec {} cancelledRun).transitionsOf "r") run.state := by
  obtain ⟨run, hrun, hstate⟩ : ∃ run,
      (Machine.run exec {} cancelledRun).getRun "r" = some run ∧ run.state = .cancelled :=
    ⟨_, rfl, rfl⟩
  exact ⟨run, hrun, hstate, (history_reachable cancelledRun "r" run hrun).1⟩

end Ananke.Store
