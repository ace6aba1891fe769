import Ananke.Store.View

/-! Cancellation intent: once accepted it outlives every later operation. -/
namespace Ananke.Store

/-- The run exists, wants to be cancelled and did not complete. -/
def CancelWanted (v : RunView) : Prop :=
  ∃ run, v.run = some run ∧ run.cancelRequested = true ∧ run.state ≠ .completed

variable {s s' : DB} {id now : String} {op : Op} {v v' : RunView} {run : Run} {reached : State}

theorem cancelWanted_step (h : RunStep id op v v') (hv : CancelWanted v) : CancelWanted v' := by
  obtain ⟨run, hrun, hflag, hstate⟩ := hv
  cases h with
  | createRun hnone => simp [hrun] at hnone
  | transition hrun' hid htarget =>
    cases hrun.symm.trans hrun'
    refine ⟨_, rfl, hflag, ?_⟩
    rintro rfl
    simp [isTerminal] at htarget
  | commitTerminal hrun' hid htarget hedge hcancel =>
    cases hrun.symm.trans hrun'
    refine ⟨_, rfl, hflag, ?_⟩
    intro hdone
    -- the terminal commit refuses `completed` while the flag is set
    simp [hcancel hdone] at hflag
  | commitNoProcessFailure hrun' =>
    cases hrun.symm.trans hrun'
    exact ⟨_, rfl, hflag, by simp [transitionRun]⟩
  | cancelRunning hrun' =>
    cases hrun.symm.trans hrun'
    exact ⟨_, rfl, rfl, by simp⟩
  | cancelFlag hrun' =>
    cases hrun.symm.trans hrun'
    exact ⟨_, rfl, rfl, hstate⟩
  | setRunSupervisor hrun' | setTranscriptIdentity hrun' _ _ | appendEvent hrun' _
  | sealTranscript hrun' _ _ | advanceTranscriptConsumed hrun' _ _ =>
    cases hrun.symm.trans hrun'
    exact ⟨_, rfl, hflag, hstate⟩
  | resolveOutbox => exact ⟨run, hrun, hflag, hstate⟩

theorem request_ok (h : requestCancellation s id now = .ok (s', reached)) :
    ∃ run, s'.getRun id = some run ∧ run.cancelRequested = true ∧ run.state ≠ .running ∧
      isTerminal run.state = false := by
  obtain ⟨run, hrun, hlive, hcases⟩ := request_cases h
  rcases hcases with ⟨hrunning, rfl⟩ | ⟨hne, hflag, rfl⟩ | ⟨hne, hflag, rfl⟩
  · refine ⟨{ run with state := .cancelling, cancelRequested := true, updatedAt := now }, ?_,
      rfl, by simp, rfl⟩
    rw [getRun_insertTransition, getRun_updateRun (by simp), hrun]
    rfl
  · refine ⟨{ run with cancelRequested := true, updatedAt := now }, ?_, rfl, hne, hlive⟩
    rw [getRun_updateRun (by simp), hrun]
    rfl
  · exact ⟨run, hrun, hflag, hne, hlive⟩

theorem request_live (hrun : s.getRun id = some run)
    (hlive : isTerminal run.state = false) (now : String) :
    ∃ s' reached, requestCancellation s id now = .ok (s', reached) := by
  by_cases hrunning : run.state = .running
  · simp [requestCancellation, hrun, hrunning, isTerminal]
  · by_cases hflag : run.cancelRequested = true <;>
      simp [requestCancellation, hrun, hlive, hrunning, hflag]

section

variable (hrun : s.getRun id = some run) (hflag : run.cancelRequested = true)
  (hne : run.state ≠ .running) (hlive : isTerminal run.state = false)
include hrun hflag hne hlive

/-- A flagged run that is not `running` has nothing left to record. -/
theorem request_repeat (stamps : List String) :
    Machine.run exec s (stamps.map (Op.requestCancellation id)) = s := by
  induction stamps with
  | nil => rfl
  | cons now stamps ih =>
    have hagain : (exec s (.requestCancellation id now)).1 = s := by
      simp [exec, perform, requestCancellation, hrun, hflag, hne, hlive, Except.map]
    rw [List.map_cons, Machine.run_cons, hagain]
    exact ih

end

theorem exec_requestCancellation (h : requestCancellation s id now = .ok (s', reached)) :
    exec s (.requestCancellation id now) = (s', .ok ()) := by
  simp [exec, perform, h, Except.map]

/-- After a successful request no continuation clears the flag or completes the run, and
on a live run any number of requests leaves what the first one left. -/
theorem cancellation_sticks (s : DB) (id : String) :
    (∀ now s' reached, requestCancellation s id now = .ok (s', reached) →
      ∀ ops, ∃ run, (Machine.run exec s' ops).getRun id = some run ∧
        run.cancelRequested = true ∧ run.state ≠ .completed) ∧
    ∀ run, s.getRun id = some run → isTerminal run.state = false → ∀ now stamps,
      Machine.run exec s ((now :: stamps).map (Op.requestCancellation id)) =
        (exec s (.requestCancellation id now)).1 := by
  constructor
  · intro now s' reached h ops
    obtain ⟨run, hrun, hflag, -, hlive⟩ := request_ok h
    have hwanted : CancelWanted (s'.view id) := by
      refine ⟨run, hrun, hflag, ?_⟩
      intro hcompleted
      simp [hcompleted, isTerminal] at hlive
    exact run_preserves (fun _ _ _ hstep hv => cancelWanted_step hstep hv) hwanted ops
  · intro run hrun hlive now stamps
    obtain ⟨_, _, h⟩ := request_live hrun hlive now
    obtain ⟨_, hrun', hflag, hne, hlive'⟩ := request_ok h
    rw [List.map_cons, Machine.run_cons, exec_requestCancellation h]
    exact request_repeat hrun' hflag hne hlive' stamps

/-- A cancelled run that went back to `running` still cannot complete. -/
theorem cancellation_sticks_resumed :
    let s := Machine.run exec {} (started { workerPath := "/w" })
    ∃ s' reached, requestCancellation s "r" "t2" = .ok (s', reached) ∧
      ∃ run, (Machine.run exec s' [.transition "r" .running "resumed" "t3",
          .commitTerminal "r" .completed "exited" "t4" {}]).getRun "r" = some run ∧
        run.cancelRequested = true ∧ run.state ≠ .completed := by
  intro s
  obtain ⟨s', reached, h⟩ : ∃ s' reached, requestCancellation s "r" "t2" = .ok (s', reached) :=
    ⟨_, _, rfl⟩
  exact ⟨s', reached, h, (cancellation_sticks s "r").1 "t2" s' reached h _⟩

end Ananke.Store
