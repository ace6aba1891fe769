import Ananke.Store.History

/-! The transcript handoff: what a terminal run promises about its offsets, and when the
offsets stay in order. -/
namespace Ananke.Store

open Machine

/-- The run ended through a successful no-process failure among `ops`. -/
def EndedWithoutProcess (ops : List Op) (id : String) : Prop :=
  ∃ pre post reason now, ops = pre ++ .commitNoProcessFailure id reason now :: post ∧
    (exec (run exec {} pre) (.commitNoProcessFailure id reason now)).2 = .ok ()

/-- A sealed, fully consumed transcript. -/
def Delivered (r : Run) : Prop :=
  0 ≤ r.transcriptFinalSize ∧ r.transcriptConsumedOffset = r.transcriptFinalSize

/-- What a terminal run with a required transcript promises after `ops`. -/
def HandedOff (ops : List Op) (id : String) (v : RunView) : Prop :=
  ∀ r, v.run = some r → r.transcriptRequired = true → isTerminal r.state = true →
    Delivered r ∧ (r.transcriptIdentity.validate = .ok () ∨ EndedWithoutProcess ops id)

variable {ops : List Op} {id : String} {op : Op} {v v' : RunView} {r : Run} {off : Int}

theorem EndedWithoutProcess.append (h : EndedWithoutProcess ops id) (later : List Op) :
    EndedWithoutProcess (ops ++ later) id := by
  obtain ⟨pre, post, reason, now, rfl, hok⟩ := h
  exact ⟨pre, post ++ later, reason, now, by simp, hok⟩

theorem max_consumed (h : Delivered r) (hseal : withinSeal r off = true) :
    max r.transcriptConsumedOffset off = r.transcriptConsumedOffset := by
  obtain ⟨_, _⟩ := h
  simp only [withinSeal, Bool.or_eq_true, decide_eq_true_eq] at hseal
  omega

theorem HandedOff.snoc (h : HandedOff ops id v) (op : Op) : HandedOff (ops ++ [op]) id v := by
  intro r hr hreq hterm
  exact (h r hr hreq hterm).imp_right (·.imp_right (·.append [op]))

theorem handedOff_step (h : RunStep id op v v') (hv : HandedOff ops id v)
    (hok : (exec (run exec {} ops) op).2 = .ok ()) : HandedOff (ops ++ [op]) id v' := by
  intro r' hr' hrequired hterm
  have later := hv.snoc op
  cases h with
  | createRun =>
    cases hr'
    simp [newRun, isTerminal] at hterm
  | transition hrun hid htarget =>
    cases hr'
    simp [transitionRun, htarget] at hterm
  | commitTerminal hrun hid htarget hedge hcancel hhand =>
    cases hr'
    obtain ⟨hfinal, hcons, hvalid⟩ := hhand hrequired
    exact ⟨⟨by simpa [transitionRun] using hfinal, by simpa [transitionRun] using hcons⟩,
      .inl (by simpa [transitionRun] using hvalid)⟩
  | commitNoProcessFailure =>
    cases hr'
    have hreq := hrequired
    simp only [transitionRun] at hreq
    exact ⟨by simp [Delivered, transitionRun, hreq], .inr ⟨ops, [], _, _, rfl, hok⟩⟩
  | cancelRunning =>
    cases hr'
    simp [isTerminal] at hterm
  | cancelFlag hrun hlive =>
    cases hr'
    simp [hlive] at hterm
  | setRunSupervisor hrun =>
    cases hr'
    have hsame := later _ hrun hrequired hterm
    exact hsame
  | setTranscriptIdentity hrun hvalid =>
    cases hr'
    exact ⟨(later _ hrun hrequired hterm).1, .inl hvalid⟩
  | appendEvent hrun hseal | advanceTranscriptConsumed hrun hoffset hseal =>
    cases hr'
    obtain ⟨hdel, hid⟩ := later _ hrun hrequired hterm
    exact ⟨⟨hdel.1, (max_consumed hdel hseal).trans hdel.2⟩, hid⟩
  | sealTranscript hrun hsize hopen =>
    cases hr'
    have := (later _ hrun hrequired hterm).1.1
    omega
  | resolveOutbox => exact later _ hr' hrequired hterm

theorem handedOff_reachable (ops : List Op) (id : String) :
    HandedOff ops id ((run exec {} ops).view id) := by
  refine history_run (P := fun ops (s : DB) => HandedOff ops id (s.view id)) ?_ ?_
  · intro r hr
    cases hr
  · intro ops op hops
    rcases exec_view (run exec {} ops) op id with hsame | ⟨hok, hstep⟩
    · rw [hsame]
      exact hops.snoc op
    · exact handedOff_step hstep hops hok

/-- `r` is terminal and delivered, and the row now stored agrees with it; an identity that
was known is still the same. -/
def FrozenAt (r : Run) (v : RunView) : Prop :=
  ∃ r', v.run = some r' ∧ r'.state = r.state ∧ r'.transcriptRequired = r.transcriptRequired ∧
    r'.transcriptConsumedOffset = r.transcriptConsumedOffset ∧
    r'.transcriptFinalSize = r.transcriptFinalSize ∧
    (r.transcriptIdentity ≠ {} → r'.transcriptIdentity = r.transcriptIdentity)

theorem frozenAt_step (h : RunStep id op v v') (hterm : isTerminal r.state = true)
    (hdel : Delivered r) (hv : FrozenAt r v) : FrozenAt r v' := by
  obtain ⟨r', hr', hstate, hreq, hcons, hfinal, hident⟩ := hv
  have hterm' : isTerminal r'.state = true := by rwa [hstate]
  have hdel' : Delivered r' := by
    simpa [Delivered, hcons, hfinal] using hdel
  cases h with
  | createRun hrun => simp [hr'] at hrun
  | transition hrun hid htarget hedge
  | commitTerminal hrun hid htarget hedge =>
    cases hr'.symm.trans hrun
    simp [terminal_stays hterm'] at hedge
  | commitNoProcessFailure hrun hid hfrom =>
    cases hr'.symm.trans hrun
    rcases hfrom with hfrom | hfrom <;> simp [hfrom, isTerminal] at hterm'
  | cancelRunning hrun hid hfrom =>
    cases hr'.symm.trans hrun
    simp [hfrom, isTerminal] at hterm'
  | cancelFlag hrun hlive =>
    cases hr'.symm.trans hrun
    simp [hlive] at hterm'
  | setRunSupervisor hrun =>
    cases hr'.symm.trans hrun
    exact ⟨_, rfl, hstate, hreq, hcons, hfinal, hident⟩
  | setTranscriptIdentity hrun hvalid hunk =>
    cases hr'.symm.trans hrun
    refine ⟨_, rfl, hstate, hreq, hcons, hfinal, ?_⟩
    intro hknown
    exact absurd ((hident hknown).symm.trans hunk) hknown
  | appendEvent hrun hseal | advanceTranscriptConsumed hrun hoffset hseal =>
    cases hr'.symm.trans hrun
    exact ⟨_, rfl, hstate, hreq, (max_consumed hdel' hseal).trans hcons, hfinal, hident⟩
  | sealTranscript hrun hsize hopen =>
    cases hr'.symm.trans hrun
    have := hdel'.1
    omega
  | resolveOutbox => exact ⟨r', hr', hstate, hreq, hcons, hfinal, hident⟩

theorem identity_known_of_valid {ident : TranscriptFileIdentity}
    (h : ident.validate = .ok ()) : ident ≠ {} := by
  rintro rfl
  simp [TranscriptFileIdentity.validate] at h

/-- A terminal run with a required transcript has consumed exactly its sealed size and has
a valid identity unless it ended without a process, and nothing done later changes that. -/
theorem handoff_reachable (ops : List Op) (id : String) (r : Run)
    (hr : (run exec {} ops).getRun id = some r) (hreq : r.transcriptRequired = true)
    (hterm : isTerminal r.state = true) :
    (0 ≤ r.transcriptFinalSize ∧ r.transcriptConsumedOffset = r.transcriptFinalSize) ∧
    (r.transcriptIdentity.validate = .ok () ∨ EndedWithoutProcess ops id) ∧
    ∀ later, ∃ r', (run exec {} (ops ++ later)).getRun id = some r' ∧ r'.state = r.state ∧
      r'.transcriptRequired = true ∧
      r'.transcriptConsumedOffset = r.transcriptConsumedOffset ∧
      r'.transcriptFinalSize = r.transcriptFinalSize ∧
      (r.transcriptIdentity.validate = .ok () → r'.transcriptIdentity = r.transcriptIdentity) := by
  obtain ⟨hdelivered, hidentity⟩ := handedOff_reachable ops id r hr hreq hterm
  refine ⟨hdelivered, hidentity, ?_⟩
  intro later
  have hfrozen : FrozenAt r ((run exec {} (ops ++ later)).view id) := by
    rw [run_append]
    exact run_preserves (fun _ _ _ hstep hv => frozenAt_step hstep hterm hdelivered hv)
      ⟨r, hr, rfl, rfl, rfl, rfl, fun _ => rfl⟩ later
  obtain ⟨r', hr', hstate, hreq', hconsumed, hfinal, hsame⟩ := hfrozen
  exact ⟨r', hr', hstate, hreq'.trans hreq, hconsumed, hfinal,
    fun hvalid => hsame (identity_known_of_valid hvalid)⟩

def deliveredRun : List Op :=
  started { workerPath := "/w", transcriptRequired := true } ++
    [.setTranscriptIdentity "r" ⟨1, 2⟩ "t2", .appendEvent "r" "log" [0] 12 "t3",
      .sealTranscript "r" 12 "t4", .commitTerminal "r" .completed "exited" "t5" {}]

theorem handoff_reachable_deliveredRun :
    ∃ r, (run exec {} deliveredRun).getRun "r" = some r ∧ r.state = .completed ∧
      r.transcriptConsumedOffset = 12 ∧
      ∃ r', (run exec {} (deliveredRun ++ [.appendEvent "r" "log" [0] 13 "t6",
        .sealTranscript "r" 13 "t7"])).getRun "r" = some r' ∧ r'.state = r.state := by
  obtain ⟨r, hr, hreq, hstate, hconsumed⟩ : ∃ r, (run exec {} deliveredRun).getRun "r" = some r ∧
      r.transcriptRequired = true ∧ r.state = .completed ∧ r.transcriptConsumedOffset = 12 :=
    ⟨_, rfl, rfl, rfl, rfl⟩
  obtain ⟨-, -, hlater⟩ := handoff_reachable deliveredRun "r" r hr hreq (by rw [hstate]; rfl)
  obtain ⟨r', hr', hstate', -⟩ := hlater _
  exact ⟨r, hr, hstate, hconsumed, r', hr', hstate'⟩

/-- The offsets of a run in order. -/
def Ordered (r : Run) : Prop :=
  r.committedOffset ≤ r.transcriptConsumedOffset ∧
    (0 ≤ r.transcriptFinalSize → r.transcriptConsumedOffset ≤ r.transcriptFinalSize)

def AllOrdered (s : DB) : Prop := ∀ id r, s.getRun id = some r → Ordered r

/-- What keeps the offsets in order: a seal that takes effect covers what was consumed, and
a no-process failure that resets a required transcript finds nothing committed. -/
def KeepsOrder (s : DB) : Op → Prop
  | .sealTranscript id finalSize _ => ∀ r, s.getRun id = some r → 0 ≤ finalSize →
      r.transcriptFinalSize < 0 → r.transcriptConsumedOffset ≤ finalSize
  | .commitNoProcessFailure id _ _ => ∀ r, s.getRun id = some r →
      checkTransition r .failed { terminal := true, noProcess := true } = .ok () →
      r.transcriptRequired = true → r.committedOffset ≤ 0
  | _ => True

theorem checkTransition_noProcess_ok (hstate : r.state = .created ∨ r.state = .running)
    (hpids : r.supervisorPID = 0 ∧ r.supervisorPGID = 0 ∧ r.workerPID = 0) :
    checkTransition r .failed { terminal := true, noProcess := true } = .ok () := by
  rcases hstate with hstate | hstate <;> simp [checkTransition, hstate, hpids]

def RunOrdered (v : RunView) : Prop := ∀ r, v.run = some r → Ordered r

theorem ordered_max (h : Ordered r) (hseal : withinSeal r off = true) (committed : Int)
    (hcomm : committed ≤ max r.committedOffset off) :
    Ordered { r with
      committedOffset := committed
      transcriptConsumedOffset := max r.transcriptConsumedOffset off } := by
  obtain ⟨_, h2⟩ := h
  simp only [withinSeal, Bool.or_eq_true, decide_eq_true_eq] at hseal
  constructor
  · change committed ≤ max r.transcriptConsumedOffset off
    omega
  · intro hfinal
    change max r.transcriptConsumedOffset off ≤ r.transcriptFinalSize
    have := h2 hfinal
    change 0 ≤ r.transcriptFinalSize at hfinal
    omega

theorem runOrdered_step {s : DB} (h : RunStep id op (s.view id) v') (hv : RunOrdered (s.view id))
    (hkeeps : KeepsOrder s op) : RunOrdered v' := by
  intro r' hr'
  cases h with
  | createRun =>
    cases hr'
    simp [Ordered, newRun]
  | transition hrun hid htarget hedge
  | commitTerminal hrun =>
    cases hr'
    simpa [Ordered, transitionRun] using hv _ hrun
  | commitNoProcessFailure hrun hid hstate hpids hout =>
    cases hr'
    have hcomm := hkeeps _ hrun (checkTransition_noProcess_ok hstate hpids)
    have hord := hv _ hrun
    simp only [Ordered, transitionRun, true_and] at hord ⊢
    split
    next hreq =>
      have := hcomm hreq
      omega
    next => exact hord
  | cancelRunning hrun hid hstate | cancelFlag hrun hlive hne hflag | setRunSupervisor hrun
  | setTranscriptIdentity hrun =>
    cases hr'
    have hord := hv _ hrun
    exact hord
  | appendEvent hrun hseal =>
    cases hr'
    have hord := ordered_max (hv _ hrun) hseal _ (Int.le_refl _)
    exact hord
  | sealTranscript hrun hsize hopen =>
    cases hr'
    have hord := hv _ hrun
    have hcovers := hkeeps _ hrun hsize hopen
    exact ⟨hord.1, fun _ => hcovers⟩
  | advanceTranscriptConsumed hrun hoffset hseal =>
    cases hr'
    have hord := ordered_max (hv _ hrun) hseal _ (Int.le_max_left _ _)
    exact hord
  | resolveOutbox => exact hv _ hr'

theorem allOrdered_exec {s : DB} (hs : AllOrdered s) (hkeeps : KeepsOrder s op) :
    AllOrdered (exec s op).1 := by
  intro id
  rcases exec_view s op id with hsame | ⟨-, hstep⟩
  · have hv : RunOrdered (s.view id) := hs id
    rw [← hsame] at hv
    exact hv
  · exact runOrdered_step hstep (hs id) hkeeps

theorem keepsOrder_of_exec {s : DB} (hcons : ∀ id, Consistent (s.view id))
    (h : AllOrdered (exec s op).1) : KeepsOrder s op := by
  cases op with
  | sealTranscript id finalSize now =>
    intro r hr hsize hopen
    have hnot := Int.not_le.mpr hopen
    have hexec : exec s (.sealTranscript id finalSize now) = (s.updateRun id fun r =>
        { r with transcriptFinalSize := finalSize, updatedAt := now }, .ok ()) := by
      simp [exec, perform, sealTranscript, hr, hnot, Int.not_lt.mpr hsize]
    rw [hexec] at h
    have hord := h id { r with transcriptFinalSize := finalSize, updatedAt := now }
      (by rw [getRun_updateRun (by simp), hr]; rfl)
    exact hord.2 hsize
  | commitNoProcessFailure id reason now =>
    intro r hr hcheck hreq
    obtain ⟨hstate, -⟩ := check_noProcess hcheck rfl
    have hout : s.outboxOf id = [] := by
      have hmatch := ((consistent_of_run hr).mp (hcons id)).2
      refine (outbox_live ?_).mp hmatch
      rcases hstate with hstate | hstate <;> simp [hstate, isTerminal]
    obtain ⟨s', hs'⟩ : ∃ s', commitNoProcessFailure s id reason now = .ok s' :=
      commit_succeeds hr hcheck hout
    obtain ⟨_, hr', -, -, hview, -⟩ := commit_view hs'
    cases hr.symm.trans hr'
    have hrow : s'.getRun id = _ := congrArg RunView.run hview
    have hexec : exec s (.commitNoProcessFailure id reason now) = (s', .ok ()) := by
      simp [exec, perform, hs']
    rw [hexec] at h
    simpa [Ordered, transitionRun, hreq] using h id _ hrow
  | _ => trivial

/-- Exactly the runs of the store whose operations all keep the order stay in order. -/
theorem offsets_ordered_iff (ops : List Op) :
    (∀ pre, pre <+: ops → AllOrdered (run exec {} pre)) ↔ Meets exec KeepsOrder {} ops := by
  refine meets_iff (J := fun s : DB => ∀ id, Consistent (s.view id)) ?_ ?_ consistent_empty ?_
  · intro s op hs id
    exact exec_preserves (fun _ _ hstep hv => consistent_step hstep hv) (hs id)
  · intro s op hconsistent hs
    exact ⟨keepsOrder_of_exec hconsistent, allOrdered_exec hs⟩
  · intro id r hr
    cases hr

/-- Sealing below what was already consumed is accepted. -/
theorem offsets_not_ordered :
    ¬ AllOrdered (run exec {} (started { workerPath := "/w", transcriptRequired := true } ++
      [.advanceTranscriptConsumed "r" 10 "t2", .sealTranscript "r" 4 "t3"])) := by
  intro h
  have hordered := (h "r" _ rfl).2
  revert hordered
  decide

end Ananke.Store
