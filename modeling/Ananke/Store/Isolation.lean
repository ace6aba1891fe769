import Ananke.Store.View

/-! Runs share the projects and the workstreams and nothing else. -/
namespace Ananke.Store

open Relational Machine List

/-- The operation works on the run, or on what all runs share. -/
def Op.concerns (id : String) : Op → Bool
  | .createProject _ | .createWorkstream .. => true
  | .createRun runID .. | .transition runID .. | .commitTerminal runID ..
  | .commitNoProcessFailure runID .. | .requestCancellation runID .. | .setRunSupervisor runID ..
  | .setTranscriptIdentity runID .. | .appendEvent runID .. | .sealTranscript runID ..
  | .advanceTranscriptConsumed runID .. | .acknowledgeOutbox runID ..
  | .abandonOutbox runID .. => runID = id

/-- The store without the rows of the other runs. -/
def DB.only (id : String) (s : DB) : DB :=
  { s with
    runs := rowsOf Run.id id s.runs
    events := s.eventsOf id
    transitions := s.transitionsOf id
    outbox := s.outboxOf id }

variable (s : DB) (op : Op) (id : String)

attribute [local simp] DB.only DB.eventsOf DB.transitionsOf DB.outboxOf

theorem view_only : (s.only id).view id = s.view id := by
  simp [DB.view, DB.getRun, select, rowsOf]

attribute [local simp] DB.insertRun DB.insertTransition DB.insertEvent DB.insertOutbox DB.updateRun
  DB.updateOutbox rowsOf_snoc rowsOf_snoc_ne rowsOf_update rowsOf_update_of_ne
  update_rowsOf newRun nextTransition transitionRun terminalOutbox

/-- An operation reads and writes the rows of its own run, beside what is shared. -/
theorem perform_only : (perform s op).map (DB.only id) =
    if op.concerns id then perform (s.only id) op else (perform s op).map fun _ => s.only id := by
  obtain ⟨hget, htransitions, hevents, hout⟩ := RunView.mk.inj (view_only s id)
  have hrow : (∃ t ∈ (s.only id).transitions, t.runID = id ∧ t.seq = 0) ↔
      ∃ t ∈ s.transitions, t.runID = id ∧ t.seq = 0 := by
    simp [rowsOf, and_assoc, and_left_comm]
  have hrun : id ∈ (s.only id).runs.map Run.id ↔ id ∈ s.runs.map Run.id := by
    simp [rowsOf]
  have hshared : (s.only id).projects = s.projects ∧ (s.only id).workstreams = s.workstreams :=
    ⟨rfl, rfl⟩
  -- once both sides read the same rows they decide alike, and only the written rows are left
  split <;> rename_i h <;> cases op <;> (try obtain rfl := of_decide_eq_true h) <;>
    simp only [perform, createProject, createWorkstream, createRun, transition, commitTerminal,
      commitNoProcessFailure, commitTransition, requestCancellation, setRunSupervisor,
      setTranscriptIdentity, appendEvent, sealTranscript, advanceTranscriptConsumed,
      acknowledgeOutbox, abandonOutbox, resolveOutbox, hrow, hrun, hshared, hget, htransitions,
      hevents, hout, Op.concerns, decide_eq_true_eq] at h ⊢ <;>
    (try have := Ne.symm h) <;> (repeat' split) <;> simp_all [Except.map, apply_ite OutboxRow.runID]

/-- Runs do not interfere. After every interleaving of operations, the rows of a run and what its
own operations reported are those of a store in which there was never another run. -/
theorem runs_isolated (ops : List Op) :
    run exec (s.only id) (ops.filter (·.concerns id)) = (run exec s ops).only id ∧
      outcomes exec (s.only id) (ops.filter (·.concerns id)) =
        ((ops.zip (outcomes exec s ops)).filter (·.1.concerns id)).map Prod.snd := by
  refine run_filter (fun s op h => ?_) fun s op h => ?_
  · have hown := perform_only s op id
    rw [if_pos h] at hown
    rw [exec, exec, ← hown]
    cases perform s op <;> rfl
  · have hother := perform_only s op id
    rw [if_neg (by simp [h])] at hother
    rw [exec]
    revert hother
    cases perform s op with
    | error => exact fun _ => rfl
    | ok => exact Except.ok.inj

end Ananke.Store
