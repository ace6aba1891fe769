import Ananke.Store.View

/-! The listing queries of the daemon, and the primary key of `runs` they rest on. -/
namespace Ananke.Store

open Relational Validation

/-- Live runs, and ended ones whose finalization is pending. -/
def DB.listActiveRuns (s : DB) : List Run :=
  s.runs.filter fun r => !isTerminal r.state || (s.outboxOf r.id).any (·.acknowledged = 0)

def DB.listPendingOutbox (s : DB) : List OutboxRow := s.outbox.filter (·.acknowledged = 0)

/-- The primary key of `runs`. -/
def DB.KeysDistinct (s : DB) : Prop := (s.runs.map Run.id).Nodup

variable {s s' : DB} {id runID : String} {r : Run} {f : Run → Run}

theorem getRun_of_mem (hkeys : s.KeysDistinct) (hr : r ∈ s.runs) : s.getRun r.id = some r :=
  select_of_mem hkeys hr

/-- The run column's ids are as before, or one that was absent is added. -/
def GrowsByOne (s s' : DB) : Prop :=
  s'.runs.map Run.id = s.runs.map Run.id ∨
    ∃ id ∉ s.runs.map Run.id, s'.runs.map Run.id = s.runs.map Run.id ++ [id]

theorem grows_updateRun (hf : ∀ r, (f r).id = r.id) : GrowsByOne s (s.updateRun id f) :=
  .inl (keys_update hf)

theorem growsByOne_commit {target : State} {reason now : String} {commit : TransitionCommit}
    (h : commitTransition s runID target reason now commit = .ok s') : GrowsByOne s s' := by
  unfold commitTransition at h
  dsimp only at h
  repeat' split at h
  all_goals cases h
  all_goals exact grows_updateRun fun _ => rfl

theorem perform_growsByOne {op : Op} (h : perform s op = .ok s') : GrowsByOne s s' := by
  cases op with
  | createProject id | createWorkstream id projectID =>
    obtain ⟨-, ⟨⟩⟩ := unless_eq_ok h
    exact .inl rfl
  | createRun id =>
    obtain ⟨-, h⟩ := unless_eq_ok h
    obtain ⟨-, h⟩ := unless_eq_ok h
    obtain ⟨hfree, h⟩ := unless_eq_ok h
    obtain ⟨-, ⟨⟩⟩ := unless_eq_ok h
    refine .inr ⟨id, fun hmem => hfree (.inl hmem), ?_⟩
    simp [DB.insertRun, DB.insertTransition, newRun]
  | transition runID target reason now | commitTerminal runID target reason now outbox =>
    exact growsByOne_commit (unless_eq_ok h).2
  | commitNoProcessFailure => exact growsByOne_commit h
  | requestCancellation =>
    obtain ⟨⟨s'', _⟩, hcall, rfl⟩ := map_eq_ok.mp h
    obtain ⟨_, -, -, ⟨-, rfl⟩ | ⟨-, -, rfl⟩ | ⟨-, -, rfl⟩⟩ := request_cases hcall
    all_goals first
      | exact .inl rfl
      | exact grows_updateRun fun _ => rfl
  | appendEvent =>
    obtain ⟨⟨_, _⟩, hcall, rfl⟩ := map_eq_ok.mp h
    simp only [appendEvent] at hcall
    repeat' split at hcall
    all_goals cases hcall
    exact grows_updateRun fun _ => rfl
  | setRunSupervisor | setTranscriptIdentity | sealTranscript | advanceTranscriptConsumed =>
    simp only [perform, setRunSupervisor, setTranscriptIdentity, sealTranscript,
      advanceTranscriptConsumed] at h
    repeat' split at h
    all_goals cases h
    all_goals first
      | exact .inl rfl
      | exact grows_updateRun fun _ => rfl
  | acknowledgeOutbox | abandonOutbox =>
    simp only [perform, acknowledgeOutbox, abandonOutbox, resolveOutbox] at h
    repeat' split at h
    all_goals cases h
    exact .inl rfl

theorem exec_keysDistinct {op : Op} (h : s.KeysDistinct) : (exec s op).1.KeysDistinct := by
  unfold exec
  split
  next s' hop =>
    rcases perform_growsByOne hop with hsame | ⟨id, hfresh, hnew⟩
    · simpa only [DB.KeysDistinct, hsame] using h
    · simp only [DB.KeysDistinct, hnew]
      exact List.nodup_append.mpr ⟨h, by simp, by
        rintro a ha b hb rfl
        exact hfresh (List.mem_singleton.mp hb ▸ ha)⟩
  next => exact h

end Ananke.Store
