import Ananke.Store.View

/-! What the store never takes back. -/
namespace Ananke.Store

/-- What may become of a run: only a failure without a process discards what is known of the
transcript. -/
structure Run.Becomes (r r' : Run) : Prop where
  launch : r = { r' with
    state := r.state, cancelRequested := r.cancelRequested, committedOffset := r.committedOffset
    transcriptIdentity := r.transcriptIdentity, transcriptFinalSize := r.transcriptFinalSize
    transcriptConsumedOffset := r.transcriptConsumedOffset, supervisorPID := r.supervisorPID
    supervisorPGID := r.supervisorPGID, workerPID := r.workerPID, updatedAt := r.updatedAt }
  terminal : isTerminal r.state = true → r'.state = r.state
  cancelled : r.cancelRequested = true → r'.cancelRequested = true
  committed : r.committedOffset ≤ r'.committedOffset
  transcript : r'.state = .failed ∨
    (r.transcriptIdentity = {} ∨ r'.transcriptIdentity = r.transcriptIdentity) ∧
      (r.transcriptFinalSize < 0 ∨ r'.transcriptFinalSize = r.transcriptFinalSize) ∧
      r.transcriptConsumedOffset ≤ r'.transcriptConsumedOffset

structure RunView.Extends (v v' : RunView) : Prop where
  history : v.history <+: v'.history
  events : v.events <+: v'.events
  run : ∀ r ∈ v.run, ∃ r' ∈ v'.run, r.Becomes r'

variable {v v' : RunView} {r r' r'' : Run} {id : String} {op : Op}

theorem Run.Becomes.refl (r : Run) : r.Becomes r := by
  constructor <;> simp

theorem Run.Becomes.trans (h : r.Becomes r') (h' : r'.Becomes r'') : r.Becomes r'' where
  launch := by rw [h.launch, h'.launch]
  terminal hr := (h'.terminal (h.terminal hr ▸ hr)).trans (h.terminal hr)
  cancelled hr := h'.cancelled (h.cancelled hr)
  committed := Int.le_trans h.committed h'.committed
  transcript := by
    rcases h.transcript with hfailed | ⟨hid, hsize, hoffset⟩
    · exact .inl ((h'.terminal (hfailed ▸ rfl)).trans hfailed)
    · refine h'.transcript.imp_right fun ⟨hid', hsize', hoffset'⟩ => ⟨?_, ?_, ?_⟩
      · exact hid.elim .inl fun h => h ▸ hid'
      · exact hsize.elim .inl fun h => h ▸ hsize'
      · exact Int.le_trans hoffset hoffset'

theorem RunStep.becomes (h : RunStep id op v v') (hr : v.run = some r) :
    ∃ r', v'.run = some r' ∧ r.Becomes r' := by
  have hno : isTerminal r.state = true → ∀ target, canTransition r.state target = false :=
    fun hterm _ => terminal_stays hterm
  cases h with
  | createRun hrun => simp [hr] at hrun
  | resolveOutbox => exact ⟨r, hr, .refl r⟩
  | commitNoProcessFailure hrun _ hstate =>
    cases hr.symm.trans hrun
    refine ⟨_, rfl, rfl, ?_, fun h => h, Int.le_refl _, .inl rfl⟩
    rcases hstate with hstate | hstate <;> simp [hstate, isTerminal]
  | transition hrun | commitTerminal hrun | cancelRunning hrun | cancelFlag hrun
  | setRunSupervisor hrun | setTranscriptIdentity hrun | appendEvent hrun | sealTranscript hrun
  | advanceTranscriptConsumed hrun =>
    cases hr.symm.trans hrun
    refine ⟨_, rfl, rfl, ?_, ?_, ?_, ?_⟩ <;> grind [transitionRun, isTerminal]

/-- Nothing recorded about a run is taken back, whatever operations follow: its history and its
events only grow, its launch, a request to cancel it and its end stand, and so does what is known
of its transcript unless it has failed. -/
theorem records_kept (s : DB) (ops : List Op) (id : String) :
    (s.view id).Extends ((Machine.run exec s ops).view id) := by
  refine run_preserves (P := (s.view id).Extends) (fun op v v' hstep h => ?_) ?_ ops
  · have hgrow : v.history <+: v'.history ∧ v.events <+: v'.events := by
      cases hstep <;> simp [RunView.move]
    refine ⟨h.history.trans hgrow.1, h.events.trans hgrow.2, fun r hr => ?_⟩
    obtain ⟨r', hr', hbecomes⟩ := h.run r hr
    obtain ⟨r'', hr'', hlater⟩ := hstep.becomes hr'
    exact ⟨r'', hr'', hbecomes.trans hlater⟩
  · exact ⟨List.prefix_rfl, List.prefix_rfl, fun r hr => ⟨r, hr, .refl r⟩⟩

end Ananke.Store
