import Ananke.Lifecycle.Drive
import Ananke.Lifecycle.Walk

/-! Transcript corruption as a fact of the whole system. The only memory of it is the state
`cleanup_required`, so it lasts as long as nobody takes the run out of that state. -/
namespace Ananke.Lifecycle

open Store Interaction Supervise

/-- The states of a run that can no longer complete. -/
def Doomed (state : State) : Prop :=
  state = .cleanupRequired ∨ state = .failed ∨ state = .cancelled

/-- The run is there and can no longer complete. -/
def DoomedRun (run : Option Run) : Prop := ∃ r, run = some r ∧ Doomed r.state

/-- An accounted malformed line dooms its run. -/
structure Remembered (id : String) (w : World) : Prop where
  keys : w.db.KeysDistinct
  doomed : id ∈ w.corrupted → DoomedRun (w.db.getRun id)

variable {id : String} {w w' : World} {q : Question}

theorem doomed_edge {source target : State} (h : Doomed source)
    (hedge : canTransition source target = true) :
    target = .failed ∨ target = .cancelled ∨
      source = .cleanupRequired ∧ target = .recoveryUnknown := by
  rcases h with rfl | rfl | rfl
  · simpa [canTransition, allowedTransitions] using (canTransition_iff.mp hedge).2
  all_goals rw [terminal_stays rfl] at hedge; cases hedge

theorem runStep_doomed {op : Op} {v v' : RunView} (h : RunStep id op v v')
    (hop : ∀ reason now, op = .transition id .recoveryUnknown reason now →
      ∀ r, v.run = some r → r.state ≠ .cleanupRequired)
    (hdoomed : DoomedRun v.run) : DoomedRun v'.run := by
  obtain ⟨r, hrun, hstate⟩ := hdoomed
  cases h with
  | createRun hnone => simp [hrun] at hnone
  | @transition _ run target reason now hrun' hid htarget hedge =>
    cases hrun.symm.trans hrun'
    rcases doomed_edge hstate hedge with rfl | rfl | ⟨hsource, rfl⟩
    · simp [isTerminal] at htarget
    · simp [isTerminal] at htarget
    · exact absurd hsource (hop reason now rfl r hrun)
  | @commitTerminal _ run target reason now outbox hrun' hid htarget hedge =>
    cases hrun.symm.trans hrun'
    rcases doomed_edge hstate hedge with rfl | rfl | ⟨-, rfl⟩
    · exact ⟨_, rfl, .inr (.inl rfl)⟩
    · exact ⟨_, rfl, .inr (.inr rfl)⟩
    · simp [isTerminal] at htarget
  | commitNoProcessFailure hrun' hid hlive =>
    cases hrun.symm.trans hrun'
    simp [Doomed] at hstate
    rcases hlive with hlive | hlive <;> simp [hlive] at hstate
  | cancelRunning hrun' hid hlive =>
    cases hrun.symm.trans hrun'
    simp [Doomed, hlive] at hstate
  | resolveOutbox => exact ⟨r, hrun, hstate⟩
  | cancelFlag hrun' | setRunSupervisor hrun' | setTranscriptIdentity hrun' | appendEvent hrun'
  | sealTranscript hrun' | advanceTranscriptConsumed hrun' =>
    cases hrun.symm.trans hrun'
    exact ⟨_, rfl, hstate⟩

theorem exec_doomed {op : Op} (hop : ∀ reason now, op = .transition id .recoveryUnknown reason now →
      ∀ r, w.db.getRun id = some r → r.state ≠ .cleanupRequired)
    (h : DoomedRun (w.db.getRun id)) : DoomedRun ((exec w.db op).1.getRun id) := by
  rcases exec_view w.db op id with hsame | ⟨-, hstep⟩
  · have hrun : (exec w.db op).1.getRun id = w.db.getRun id := congrArg RunView.run hsame
    rwa [hrun]
  · exact runStep_doomed hstep hop h

theorem doomed_envStep (hs : EnvStep w w') (h : DoomedRun (w.db.getRun id)) :
    DoomedRun (w'.db.getRun id) := by
  obtain ⟨-, ⟨-, hdb | ⟨_, hop, hdb⟩⟩ | ⟨hdb, -⟩⟩ := envStep_cases hs
  · rwa [hdb]
  · rw [hdb]
    refine exec_doomed ?_ h
    rintro reason now rfl
    exact absurd rfl hop
  · rwa [hdb]

theorem doomed_rely (hr : environment.rely w w') (h : DoomedRun (w.db.getRun id)) :
    DoomedRun (w'.db.getRun id) := by
  induction hr with
  | refl => exact h
  | tail _ hs ih => exact doomed_envStep hs ih

theorem remembered_rely (hr : environment.rely w w') (h : Remembered id w) : Remembered id w' := by
  induction hr with
  | refl => exact h
  | tail _ hs ih =>
    refine ⟨keys_envStep hs ih.keys, fun hc => doomed_envStep hs (ih.doomed ?_)⟩
    exact (envStep_cases hs).1 ▸ hc

/-- Questions by which no malformed line of the run is accounted. -/
def NotAccounting (id : String) : Question → Prop
  | .about id' (.write (.accountMalformed _)) => id' ≠ id
  | _ => True

theorem notAccounting_of_quiet (h : Quiet id q) : NotAccounting id q := by
  cases q with
  | about id' c =>
    cases c with
    | write cmd =>
      cases cmd with
      | accountMalformed =>
        rintro rfl
        exact absurd (h rfl) (by simp [QuietCall, Write.journals])
      | _ => trivial
    | _ => trivial
  | _ => trivial

theorem remembered_sem {a : QuestionAnswer q} (hq : NotAccounting id q) (hC : KeepsMark w q a)
    (hs : daemonSem w q a w') (h : Remembered id w) : Remembered id w' := by
  refine ⟨keys_sem hs h.keys, ?_⟩
  rcases daemonSem_cases hs with rfl | ⟨id', cmd, now, rfl, hok, rfl⟩
  · exact h.doomed
  · intro hc
    have hmarked : id ∈ w.corrupted := by
      cases cmd with
      | accountMalformed =>
        rcases List.mem_cons.mp hc with rfl | hc
        · exact absurd rfl hq
        · exact hc
      | _ => exact hc
    rw [wrote_db]
    refine exec_doomed ?_ (h.doomed hmarked)
    intro reason now' hop
    cases cmd with
    | transition =>
      simp only [Write.op, Op.transition.injEq] at hop
      obtain ⟨rfl, rfl, rfl, -⟩ := hop
      intro r hrun hstate
      exact hC hmarked (by simp [hrun, hstate])
    | _ => simp [Write.op] at hop

/-- The system in which the mark is kept, with what that is meant to save. -/
def markSetting (id : String) : Setting Question QuestionAnswer World :=
  { environment.restrict KeepsMark with inv := Remembered id }

abbrev markRun (id : String) := runSetting (markSetting id) id

theorem remembered_stable : Stable (markSetting id).toEnvironment (Remembered id) :=
  fun _ _ hr h => remembered_rely hr h

theorem triple_remembered {α : Type} {p : RunProg α}
    (hp : Asks (fun c => NotAccounting id (.about id c)) p) :
    Preserves (markRun id) (Remembered id) p := by
  refine triple_asks (S := markRun id) remembered_stable ?_ hp
  intro w c a w' hc hw hs
  have hw' := remembered_sem hc hs.1 hs.2 hw
  exact ⟨hw', hw'⟩

/-- The run is doomed already where `φ` holds. -/
def MarkedIf (id : String) (φ : Prop) (w : World) : Prop :=
  Remembered id w ∧ (φ → DoomedRun (w.db.getRun id))

theorem markedIf_stable {φ : Prop} : Stable (markSetting id).toEnvironment (MarkedIf id φ) :=
  fun _ _ hr h => ⟨remembered_rely hr h.1, fun hφ => doomed_rely hr (h.2 hφ)⟩

theorem triple_requireCleanup (r : Run) : Triple (markRun id)
    (MarkedIf id (r.state = .cleanupRequired)) (requireCleanup r)
    fun e => MarkedIf id (e = none) := by
  unfold requireCleanup
  split
  next h => exact triple_pure markedIf_stable fun w hw => ⟨hw.1, fun _ => hw.2 h⟩
  next h =>
    split
    next hedge =>
      refine triple_call (S := markRun id) markedIf_stable (fun _ => markedIf_stable) ?_
      intro w a w' hw hs
      have hw' := remembered_sem (q := .about id (.write (.transition ..))) trivial hs.1 hs.2 hw.1
      refine ⟨hw', hw', ?_⟩
      rintro rfl
      obtain ⟨_, hok, rfl⟩ := hs.2
      obtain ⟨run, hrun, hstate⟩ := exec_transition_state hok
      exact ⟨run, hrun, .inl hstate⟩
    next => exact triple_pure markedIf_stable fun w hw => ⟨hw.1, fun he => by cases he⟩

theorem triple_accountMalformed {off : Int} : Triple (markRun id)
    (MarkedIf id (none = (none : Option Err))) (write (.accountMalformed off))
    fun _ => Remembered id := by
  refine triple_call (S := markRun id) markedIf_stable (fun _ => remembered_stable) ?_
  intro w a w' hw hs
  suffices Remembered id w' from ⟨this, this⟩
  refine ⟨keys_sem (q := .about id (.write _)) hs.2 hw.1.keys, ?_⟩
  cases a with
  | some e =>
    obtain rfl : w' = w := hs.2
    exact hw.1.doomed
  | none =>
    obtain ⟨_, -, rfl⟩ := hs.2
    intro _
    rw [wrote_db]
    refine exec_doomed ?_ (hw.2 rfl)
    intro reason now' hop
    simp [Write.op] at hop

theorem triple_retryLater {t : Tail} : Preserves (markRun id) (Remembered id) (retryLater t) := by
  refine triple_remembered (asks_bind (asks_then trivial fun e => ?_) fun _ => ?_)
  · split <;> exact asks_pure
  · exact asks_pure

theorem triple_accountCorruption {t : Tail} {lineOffset : Int} :
    Preserves (markRun id) (Remembered id) (accountCorruption t lineOffset) := by
  have hread : Triple (markRun id) (Remembered id) (call .getRun)
      fun found => MarkedIf id (∃ r, found = .ok r ∧ r.state = .cleanupRequired) := by
    refine triple_call (S := markRun id) remembered_stable (fun _ => markedIf_stable) ?_
    intro w a w' hw hs
    have hw' := remembered_sem (q := .about id .getRun) trivial hs.1 hs.2 hw
    refine ⟨hw', hw', ?_⟩
    rintro ⟨r, rfl, hstate⟩
    obtain ⟨hrun, rfl⟩ := hs.2
    exact ⟨r, hrun, .inl hstate⟩
  refine triple_bind hread fun found => ?_
  cases found with
  | error e => exact triple_pre triple_retryLater (fun _ h => h.1)
  | ok r =>
    dsimp only
    split
    · exact triple_pure remembered_stable fun _ h => h.1
    · refine triple_bind (triple_pre (triple_requireCleanup r)
        (fun w h => ⟨h.1, fun hr => h.2 ⟨r, rfl, hr⟩⟩)) fun persistErr => ?_
      split
      · exact triple_pre triple_retryLater (fun _ h => h.1)
      · refine triple_bind triple_accountMalformed fun advanced => ?_
        split
        · exact triple_retryLater
        · exact triple_pure remembered_stable fun _ h => h

theorem triple_markRound {unmarshal : Unmarshal} (t : Tail) :
    Preserves (markRun id) (Remembered id) (tailRound unmarshal t) := by
  have hdone : ∀ r : Tail ⊕ Tail, Preserves (markRun id) (Remembered id)
      (pure r) := fun r => triple_pure remembered_stable fun _ h => h
  refine triple_bind (triple_remembered (asks_call trivial)) fun read => ?_
  obtain ⟨_, _⟩ := read
  dsimp only [handleLine]
  split
  · split <;> exact hdone _
  · refine triple_bind (triple_remembered (asks_mono ?_ (mild_lineComplete ..))) fun complete => ?_
    · exact fun c hc => notAccounting_of_quiet (q := .about id c) fun _ => hc.quiet
    · split
      · unfold accountLine
        split
        · refine triple_bind (triple_remembered (asks_call trivial)) fun advanced => ?_
          split
          · exact triple_retryLater
          · exact hdone _
        · split
          · exact triple_accountCorruption
          · refine triple_bind (triple_remembered (asks_call trivial)) fun appended => ?_
            split
            · exact triple_retryLater
            · split <;> exact hdone _
      · exact triple_retryLater

/-- The walk's rules for the mark, which does not depend on the tail. -/
def markRules (unmarshal : Unmarshal) (id : String) : TailRules (markSetting id) unmarshal id where
  J _ := Remembered id
  At _ _ := True
  Ended := Ended id
  inv_of_J h := h
  J_none h := h
  rely hr _ := ⟨fun _ h => remembered_rely hr h, fun _ _ => trivial, ended_rely hr⟩
  quiet hq hs _ :=
    ⟨fun _ h => remembered_sem (notAccounting_of_quiet hq) hs.1 hs.2 h, fun _ _ => trivial,
      ended_sem hs.2⟩
  listed hs h := ⟨(listed_rows hs.2 h.keys).2.1, fun _ _ _ => trivial⟩
  progress _ := trivial
  live hs hlive hended := by
    obtain ⟨_, hrun, hterm⟩ := hended
    obtain ⟨hrow, -⟩ := hs.2
    cases hrun.symm.trans hrow
    simp [hlive] at hterm
  commit hs := ended_of_commit hs.2
  place hs h _ := remembered_sem (q := .about id (.seek _)) trivial hs.1 hs.2 h
  round t := triple_markRound t

/-- While the daemon keeps the mark, no interleaving of ticks, restarts, supervisors and API
calls lets a run complete for which a malformed line was accounted. -/
theorem corruption_never_completes {unmarshal : Unmarshal} {fuel : Nat}
    (h : Reachable unmarshal fuel KeepsMark w) (hc : id ∈ w.corrupted) :
    ∃ r, w.db.getRun id = some r ∧ r.state ≠ .completed ∧ Doomed r.state := by
  obtain ⟨_, hreach⟩ := h
  have hinit : Remembered id World.empty :=
    ⟨by simp [World.empty, DB.KeysDistinct], fun hc => by simp [World.empty] at hc⟩
  have hremembered : Remembered id w := (markRules unmarshal id).inv_of_engine hinit hreach
  obtain ⟨r, hrun, hstate⟩ := hremembered.doomed hc
  refine ⟨r, hrun, ?_, hstate⟩
  rcases hstate with hstate | hstate | hstate <;> simp [hstate]

/-- A daemon whose parser refuses every line the demo run writes. -/
def demoEngine : Daemon Unit := engine (fun _ => none) 3

/-- The daemon has just accounted the malformed line `x`. -/
def corruptedDemo : World × Daemon Unit :=
  drive (demoOracle 2) 27 (demoStart [120, 10], demoEngine)

theorem corruption_never_completes_demo : "r" ∈ corruptedDemo.1.corrupted ∧
    ∃ r, corruptedDemo.1.db.getRun "r" = some r ∧ r.state ≠ .completed ∧ Doomed r.state := by
  have hc : "r" ∈ corruptedDemo.1.corrupted := by decide
  have hadmits : Admits KeepsMark (demoOracle 2) 27 (demoStart [120, 10], demoEngine) := by
    decide
  have hreach : Reachable (fun _ => none) 3 KeepsMark corruptedDemo.1 :=
    ⟨_, reach_drive hadmits (.env .start (rely_demoStart [120, 10]))⟩
  exact ⟨hc, corruption_never_completes hreach hc⟩

def silentOracle : Oracle
  | .sendSupervisorCmd _ _ _ => .error .deadlineExceeded
  | c => demoOracle 2 c

def demoOwner : Supervisor where
  cfg := { runID := "r", identityPath := "/i", socketPath := "/s", transcriptPath := "/t"
           token := "k" }
  id := demoIdentity
  transcriptRequired := true
  transcriptFile := true
  cancelled := false
  listener := true

/-- The group is empty, the worker exited with 0, and all files are in place. -/
def exitedOracle : (q : Call) → Answer q
  | .groupMembers _ => .ok []
  | .signalGroup _ _ => none
  | .reapWorker _ => (0, none)
  | .beforeDeadline _ => true
  | .wait _ => ()
  | .writeIdentity _ => none
  | .readIdentity => .ok demoIdentity
  | .statAnchor => .ok (demoInfo 2)
  | .statPath => .ok (demoInfo 2)
  | .listen => none
  | .probe => .ok ⟨true, "r", 10, 11, 11, ⟨1, 1⟩⟩
  -- the store answers these itself
  | .getRun => .error .notExist
  | .getTranscriptProgress => .error .notExist
  | .getOutbox => .error .notExist
  | .transition _ _ => none
  | .sealTranscript _ => none
  | .setRunSupervisor _ _ _ => none
  | .commitTerminal _ _ _ => none
  | .acknowledgeOutbox => none

def silentDemo : World × Daemon Unit := drive silentOracle 8 (corruptedDemo.1, demoEngine)

def forgottenDemo : World × Daemon Unit := drive (demoOracle 2) 15 silentDemo

def exitedDemo : World :=
  { forgottenDemo.1 with
    finishing := Function.update forgottenDemo.1.finishing "r"
      (some ⟨finishOwnedWorker demoOwner 3 11 none, asks_finishOwnedWorker ..⟩) }

def completedDemo : World := supervise exitedOracle "r" 30 exitedDemo

/-- Without that condition the run completes: recovery takes it from `cleanup_required` to
`recovery_unknown`, and adoption takes it from there to `running`. -/
theorem corruption_forgotten : ∃ unmarshal fuel w,
    Reachable unmarshal fuel (fun _ _ _ => True) w ∧ "r" ∈ w.corrupted ∧
      (w.db.getRun "r").map Run.state = some .completed := by
  have hdrive : ∀ (oracle : Oracle) n (s : World × Daemon Unit),
      Reach (environment.restrict fun _ _ _ => True) demoEngine World.empty s.1 s.2 →
      Reach (environment.restrict fun _ _ _ => True) demoEngine World.empty
        (drive oracle n s).1 (drive oracle n s).2 :=
    fun _ n s => reach_drive (admits_of_forall (fun _ _ _ => trivial) n s)
  have hcorrupted := hdrive (demoOracle 2) 27 (demoStart [120, 10], demoEngine)
    (.env .start (rely_demoStart [120, 10]))
  have hsilent := hdrive silentOracle 8 (corruptedDemo.1, demoEngine) hcorrupted.restart
  have hforgotten := hdrive (demoOracle 2) 15 silentDemo hsilent
  have hexited : environment.rely forgottenDemo.1 exitedDemo :=
    .single (.finish demoOwner 3 11 none)
  have hcompleted : environment.rely exitedDemo completedDemo := rely_supervise 30
  refine ⟨fun _ => none, 3, completedDemo, ⟨_, (hforgotten.env hexited).env hcompleted⟩, ?_, ?_⟩
  · decide
  · decide

end Ananke.Lifecycle
