import Ananke.Lifecycle.Quiet
import Ananke.Lifecycle.World

/-! One walk through the engine for all facts about a run that depend on its tail: what the
few calls that journal or place a tail do is assumed, and what the whole daemon keeps
follows. -/
namespace Ananke.Lifecycle

open Store Interaction List

/-- The setting as work on one run sees it. -/
abbrev runSetting (S : Setting Question QuestionAnswer World) (id : String) :
    Setting RunCall RunAnswer World := S.at (Question.about id)

/-- A fact `J` about a run and its tail in memory, with the offset `At` which a tail may be
placed and a mark `Ended` of runs that get none any more, and the rules the walk needs. -/
structure TailRules (S : Setting Question QuestionAnswer World) (unmarshal : Unmarshal)
    (id : String) where
  J : Option Tail → World → Prop
  At : Int → World → Prop
  Ended : World → Prop
  inv_of_J {tail : Option Tail} {w : World} : J tail w → S.inv w
  J_none {w : World} : S.inv w → J none w
  rely {w w' : World} : S.rely w w' → S.inv w →
    (∀ tail, J tail w → J tail w') ∧ (∀ o, At o w → At o w') ∧ (Ended w → Ended w')
  quiet {w w' : World} {q : Question} {a : QuestionAnswer q} : Quiet id q → S.sem w q a w' →
    S.inv w → (∀ tail, J tail w → J tail w') ∧ (∀ o, At o w → At o w') ∧ (Ended w → Ended w')
  listed {w w' : World} {runs : List Run} : S.sem w .listActiveRuns (.ok runs) w' → S.inv w →
    (runs.map Run.id).Nodup ∧ ∀ r ∈ runs, r.id = id → At r.transcriptConsumedOffset w'
  progress {w w' : World} {p : TranscriptProgress} :
    S.sem w (.about id .getTranscriptProgress) (.ok p) w' → At p.consumedOffset w'
  live {w w' : World} {r : Run} : S.sem w (.about id .getRun) (.ok r) w' →
    isTerminal r.state = false → ¬ Ended w
  commit {w w' : World} {reason : String} {outbox : OutboxRow} :
    S.sem w (.about id (.write (.commitTerminal .failed reason outbox))) none w' → Ended w'
  place {w w' : World} {offset : Int} : S.sem w (.about id (.seek offset)) none w' → S.inv w →
    At offset w ∨ offset = 0 → J (some (.at offset)) w'
  round (t : Tail) : Triple (runSetting S id) (J (some t)) (tailRound unmarshal t)
    fun r w => J (some (r.elim (fun t => t) fun t => t)) w

namespace TailRules

variable {S : Setting Question QuestionAnswer World} {unmarshal : Unmarshal} {id : String}
  (R : TailRules S unmarshal id) {tail : Option Tail} {o : Option Int} {off : Int}
  {fuel : Nat} {r : Run} {path reason : String}

/-- The step keeps every fact about the run's tail. -/
def Keeps (w w' : World) : Prop :=
  (∀ tail, R.J tail w → R.J tail w') ∧ (∀ o, R.At o w → R.At o w') ∧ (R.Ended w → R.Ended w')

/-- Facts that rest on the rules' own and therefore outlive all quiet steps. -/
structure Carried (P : World → Prop) : Prop where
  inv {w : World} : P w → S.inv w
  keeps {w w' : World} : R.Keeps w w' → P w → P w'

/-- The tail fits, and if there is none yet it may be placed at `o`. -/
def Ready (tail : Option Tail) (o : Option Int) (w : World) : Prop :=
  R.J tail w ∧ ∀ off ∈ o, tail = none → R.At off w ∨ R.Ended w

/-- The tail fits, and if there is none a seek to `offset` may place it. -/
def Placeable (tail : Option Tail) (off : Int) (w : World) : Prop :=
  R.J tail w ∧ (tail = none → R.At off w ∨ off = 0)

/-- A triple about the work on one run. -/
abbrev OnRun (S : Setting Question QuestionAnswer World) (id : String) {α : Type}
    (P : World → Prop) (p : RunProg α) (Q : α → World → Prop) : Prop :=
  Triple (runSetting S id) P p Q

variable {R} {P : World → Prop}

theorem carried_J : R.Carried (R.J tail) := ⟨R.inv_of_J, fun h hJ => h.1 tail hJ⟩

theorem carried_ready : R.Carried (R.Ready tail o) where
  inv h := R.inv_of_J h.1
  keeps hk h := ⟨hk.1 tail h.1, fun off ho hnone =>
    (h.2 off ho hnone).imp (hk.2.1 off) hk.2.2⟩

theorem carried_place : R.Carried (R.Placeable tail off) where
  inv h := R.inv_of_J h.1
  keeps hk h := ⟨hk.1 tail h.1, fun hnone => (h.2 hnone).imp_left (hk.2.1 off)⟩

theorem Carried.and_at (hP : R.Carried P) : R.Carried fun w => P w ∧ R.At off w where
  inv h := hP.inv h.1
  keeps hk h := ⟨hP.keeps hk h.1, hk.2.1 off h.2⟩

theorem Carried.imp {φ : Prop} {P' : World → Prop} (hP : R.Carried P) (hP' : R.Carried P') :
    R.Carried fun w => P w ∧ (φ → P' w) where
  inv h := hP.inv h.1
  keeps hk h := ⟨hP.keeps hk h.1, fun hφ => hP'.keeps hk (h.2 hφ)⟩

theorem Carried.stable (hP : R.Carried P) : Stable S.toEnvironment P :=
  fun _ _ hr h => hP.keeps (R.rely hr (hP.inv h)) h

variable {c : RunCall}

theorem Carried.learn {M : RunAnswer c → World → Prop} (hP : R.Carried P)
    (hc : QuietCall c) (hM : ∀ a, R.Carried (M a))
    (hask : ∀ w a w', P w → P w' → S.sem w (.about id c) a w' → M a w') :
    OnRun S id P (call c) M := by
  refine triple_call (S := runSetting S id) hP.stable (fun a => (hM a).stable) ?_
  intro w a w' hw hs
  have hw' := hP.keeps (R.quiet (q := .about id c) (fun _ => hc) hs (hP.inv hw)) hw
  exact ⟨hP.inv hw', hask w a w' hw hw' hs⟩

variable {α : Type} {p : RunProg α}

theorem Carried.quiet (hP : R.Carried P) (hp : Asks QuietCall p) : OnRun S id P p fun _ => P := by
  refine triple_asks (S := runSetting S id) hP.stable ?_ hp
  intro w c a w' hc hw hs
  have hw' := hP.keeps (R.quiet (q := .about id c) (fun _ => hc) hs (hP.inv hw)) hw
  exact ⟨hP.inv hw', hw'⟩

theorem Carried.mild (hP : R.Carried P) (hp : Asks MildCall p) : OnRun S id P p fun _ => P :=
  hP.quiet (asks_mono (fun _ => MildCall.quiet) hp)

variable {a : α}

theorem Carried.done {M : α → World → Prop} (hM : R.Carried (M a))
    (h : ∀ w, P w → M a w) : OnRun S id P (pure a) M :=
  triple_pure hM.stable h

variable {g : α → Option Tail}

theorem done_J (h : ∀ w, P w → R.J (g a) w) : OnRun S id P (pure a) fun a => R.J (g a) :=
  triple_pure carried_J.stable h

theorem done_ready (h : ∀ w, P w → R.Ready (g a) o w) :
    OnRun S id P (pure a) fun a => R.Ready (g a) o :=
  triple_pure carried_ready.stable h

theorem Carried.skip (hP : R.Carried P) (hc : QuietCall c) : OnRun S id P (call c) fun _ => P :=
  hP.quiet (asks_call hc)

theorem triple_refuseTail (hP : R.Carried P) (h : ∀ w, P w → R.J tail w) :
    OnRun S id P (refuseTail r reason tail) fun tail' => R.J tail' :=
  triple_bind (hP.mild (mild_markFailure r reason)) fun _ =>
    done_J h

theorem triple_seek (hP : R.Carried P) (h : ∀ w, P w → R.At off w ∨ off = 0) :
    OnRun S id P (call (.seek off))
      fun a w => P w ∧ (a = none → R.J (some (.at off)) w) := by
  refine hP.learn trivial (fun a => hP.imp carried_J) ?_
  intro w a w' hw hw' hs
  refine ⟨hw', ?_⟩
  rintro rfl
  exact R.place hs (hP.inv hw) (h w hw)

theorem triple_placeTail : OnRun S id (R.Placeable tail off)
    (placeTail tail off) fun tail' => R.J tail' := by
  cases tail with
  | some t =>
    -- a tail that is there already stays
    refine triple_bind (carried_place.skip trivial) fun placed => ?_
    split
    · exact done_J fun w h => h.1
    · refine triple_bind (carried_place.skip trivial) fun closing => ?_
      split <;> exact done_J fun w h => h.1
  | none =>
    refine triple_bind (triple_seek carried_place fun w h => h.2 rfl) fun placed => ?_
    have hP : R.Carried fun w =>
        R.Placeable none off w ∧ (placed = none → R.J (some (.at off)) w) :=
      carried_place.imp carried_J
    split
    · exact done_J fun w h => h.1.1
    · refine triple_bind (hP.skip trivial) fun closing => ?_
      split
      · exact done_J fun w h => h.1.1
      · exact done_J fun w h => h.2 rfl

theorem triple_openTail : OnRun S id (R.Placeable tail off)
    (openTail tail r path off) fun tail' => R.J tail' := by
  have hJ : ∀ w, R.Placeable tail off w → R.J tail w := fun w h => h.1
  refine triple_bind (carried_place.skip trivial) fun opened => ?_
  split
  · split
    · exact done_J hJ
    · exact triple_refuseTail carried_place hJ
  · refine triple_bind (carried_place.skip trivial) fun info => ?_
    split
    · exact triple_refuseTail carried_place hJ
    · split
      · exact triple_refuseTail carried_place hJ
      · split
        · exact triple_refuseTail carried_place hJ
        · exact triple_placeTail

/-- What `startTailing` knows once it has read the run: a live one has not ended. -/
def Found (R : TailRules S unmarshal id) (tail : Option Tail) (off : Int)
    (found : Except Err Run) (w : World) : Prop :=
  R.J tail w ∧ ∀ r, found = .ok r → isTerminal r.state = false → R.Placeable tail off w

theorem carried_found {found : Except Err Run} : R.Carried (R.Found tail off found) where
  inv h := R.inv_of_J h.1
  keeps hk h := ⟨hk.1 tail h.1, fun r ha hr => carried_place.keeps hk (h.2 r ha hr)⟩

section

variable (hP : R.Carried P)
  (h0 : ∀ w, P w → R.J tail w ∧ (tail = none → R.At off w ∨ off = 0 ∨ R.Ended w))
include hP h0

theorem triple_found : OnRun S id P (call .getRun) fun found => R.Found tail off found := by
  refine hP.learn trivial (fun _ => carried_found) ?_
  intro w a w' hw hw' hs
  refine ⟨(h0 w' hw').1, ?_⟩
  rintro r rfl hr
  refine ⟨(h0 w' hw').1, fun hnone => ?_⟩
  have hkeep := R.quiet (q := .about id .getRun) (fun _ => trivial) hs (hP.inv hw)
  rcases (h0 w hw).2 hnone with hat | hzero | hended
  · exact .inl (hkeep.2.1 off hat)
  · exact .inr hzero
  · exact absurd hended (R.live hs hr)

theorem triple_startTailing : OnRun S id P (startTailing tail path off) fun tail' => R.J tail' := by
  have hJ : ∀ w, R.Placeable tail off w → R.J tail w := fun w h => h.1
  refine triple_bind (triple_found hP h0) fun found => ?_
  cases found with
  | error e => exact done_J fun w h => h.1
  | ok r =>
    dsimp only
    split
    · exact done_J fun w h => h.1
    next hlive =>
      refine triple_pre (P := R.Placeable tail off) ?_ (fun w h => h.2 r rfl (by simpa using hlive))
      split
      · exact triple_refuseTail carried_place hJ
      · split
        · split
          · exact done_J hJ
          · exact triple_refuseTail carried_place hJ
        · exact triple_openTail

end

def HasTail (R : TailRules S unmarshal id) (tail : Option Tail) (w : World) : Prop :=
  R.J tail w ∧ tail ≠ none

theorem carried_hasTail : R.Carried (R.HasTail tail) where
  inv h := R.inv_of_J h.1
  keeps hk h := ⟨hk.1 tail h.1, h.2⟩

variable {t : Tail}

theorem triple_readTail : OnRun S id (R.J (some t))
    (readTail unmarshal fuel t) fun tail' => R.HasTail tail' := by
  refine triple_bind (M := fun t' => R.J (some t')) ?_ fun t' => ?_
  · refine triple_loop (fun t => R.J (some t)) (fun t => ?_) fuel t
    refine triple_weaken (R.round t) (fun _ h => h) fun a w h => ?_
    cases a <;> exact h
  · exact carried_hasTail.done fun w h => ⟨h, by simp⟩

theorem triple_followTail : OnRun S id (R.J (some t))
    (followTail unmarshal fuel path t) fun tail' => R.HasTail tail' := by
  have hkeep : ∀ w, R.J (some t) w → R.HasTail (some t) w := fun w h => ⟨h, by simp⟩
  refine triple_bind (carried_J.skip trivial) fun found => ?_
  split
  · exact carried_hasTail.done hkeep
  · split
    · exact carried_hasTail.done hkeep
    · refine triple_bind (carried_J.skip trivial) fun pathInfo => ?_
      refine triple_bind (carried_J.skip trivial) fun tailInfo => ?_
      refine triple_bind (carried_J.skip trivial) fun prog => ?_
      split
      · exact triple_bind (carried_J.mild (mild_markFailure ..)) fun _ =>
          carried_hasTail.done hkeep
      · exact triple_readTail

theorem triple_tailTranscript : OnRun S id (R.J tail)
    (tailTranscript unmarshal fuel path tail) fun tail' => R.J tail' := by
  cases tail with
  | some t => exact triple_weaken triple_followTail (fun _ h => h) fun _ _ h => h.1
  | none =>
    refine triple_bind (triple_startTailing carried_J fun w h => ⟨h, fun _ => .inr (.inl rfl)⟩)
      fun tail' => ?_
    split
    · exact done_J fun _ h => h
    · exact triple_weaken triple_followTail (fun _ h => h) fun _ _ h => h.1

/-- What is known once the progress was read: where a tail may be placed. -/
def Loaded (R : TailRules S unmarshal id) (P : World → Prop)
    (loaded : Except Err TranscriptProgress) (w : World) : Prop :=
  P w ∧ ∀ p, loaded = .ok p → R.At p.consumedOffset w

theorem Carried.loaded (hP : R.Carried P) (loaded : Except Err TranscriptProgress) :
    R.Carried (R.Loaded P loaded) where
  inv h := hP.inv h.1
  keeps hk h := ⟨hP.keeps hk h.1, fun p hp => hk.2.1 _ (h.2 p hp)⟩

theorem triple_progress (hP : R.Carried P) :
    OnRun S id P (call .getTranscriptProgress) fun loaded => R.Loaded P loaded := by
  refine hP.learn trivial (fun a => hP.loaded a) ?_
  intro w a w' hw hw' hs
  refine ⟨hw', ?_⟩
  rintro p rfl
  exact R.progress hs

/-- What is known once the transcript is sealed. -/
def Sealed (R : TailRules S unmarshal id) (P : World → Prop)
    (res : Except String (FileInfo × TranscriptProgress)) (w : World) : Prop :=
  P w ∧ ∀ info p, res = .ok (info, p) → R.At p.consumedOffset w

theorem Carried.sealed (hP : R.Carried P) (res : Except String (FileInfo × TranscriptProgress)) :
    R.Carried (R.Sealed P res) where
  inv h := hP.inv h.1
  keeps hk h := ⟨hP.keeps hk h.1, fun info p hp => hk.2.1 _ (h.2 info p hp)⟩

theorem triple_sealNamed (hP : R.Carried P) :
    OnRun S id P (sealNamedTranscript r) fun res => R.Sealed P res := by
  have hfail : ∀ (text : String) w, P w → R.Sealed P (.error text) w :=
    fun text w h => ⟨h, fun _ _ hr => by cases hr⟩
  refine triple_bind (hP.skip trivial) fun loaded => ?_
  split
  · exact (hP.sealed _).done (hfail _)
  · refine triple_bind (hP.skip trivial) fun named => ?_
    split
    · exact (hP.sealed _).done (hfail _)
    · split
      · exact (hP.sealed _).done (hfail _)
      · refine triple_bind (hP.skip (c := .write _) rfl) fun sealed => ?_
        split
        · exact (hP.sealed _).done (hfail _)
        · refine triple_bind (triple_progress hP) fun loaded => ?_
          split
          · exact (hP.sealed _).done fun w h => hfail _ w h.1
          · split
            · exact (hP.sealed _).done fun w h => hfail _ w h.1
            · refine (hP.sealed _).done fun w h => ⟨h.1, ?_⟩
              rintro _ _ ⟨⟩
              exact h.2 _ rfl

/-- What binding leaves: on an error all is as before. -/
def Bound (R : TailRules S unmarshal id) (P : World → Prop) : Except String Tail → World → Prop
  | .error _ => P
  | .ok t => R.J (some t)

theorem Carried.bound (hP : R.Carried P) (res : Except String Tail) :
    R.Carried (R.Bound P res) := by
  cases res with
  | error text => exact hP
  | ok t => exact carried_J

theorem triple_seekBound (hP : R.Carried P) {fail : Err → String} :
    OnRun S id (fun w => P w ∧ R.At off w) (do match ← call (.seek off) with
        | some e => pure (.error (fail e))
        | none => pure (.ok (.at off))) fun res => R.Bound P res := by
  refine triple_bind (triple_seek hP.and_at fun w h => .inl h.2) fun placed => ?_
  split
  · exact (hP.bound _).done fun w h => h.1.1
  · exact (hP.bound (.ok _)).done fun w h => h.2 rfl

theorem triple_bindTranscriptTail {runID : String} {want : FileInfo} :
    OnRun S id (fun w => R.Ready tail o w ∧ R.At off w)
      (bindTranscriptTail runID tail path off want)
      fun res => R.Bound (R.Ready tail o) res := by
  have hP : R.Carried fun w => R.Ready tail o w ∧ R.At off w := carried_ready.and_at
  have hfail : ∀ text, OnRun S id (fun w => R.Ready tail o w ∧ R.At off w)
      (pure (.error text)) fun res => R.Bound (R.Ready tail o) res :=
    fun text => (carried_ready.bound (.error text)).done fun w h => h.1
  refine triple_bind (hP.skip trivial) fun closing => ?_
  split
  · exact hfail _
  · split
    · refine triple_bind (hP.skip trivial) fun info => ?_
      split
      · exact hfail _
      · split
        · exact hfail _
        · split
          · exact (carried_ready.bound (.ok _)).done fun w h => h.1.1
          · exact triple_seekBound carried_ready
    · refine triple_bind (hP.skip trivial) fun opened => ?_
      split
      · exact hfail _
      · refine triple_bind (hP.skip trivial) fun info => ?_
        split
        · exact hfail _
        · split
          · exact hfail _
          · exact triple_seekBound carried_ready

theorem ready_of_hasTail (w : World) (h : R.HasTail tail w) : R.Ready tail o w :=
  ⟨h.1, fun _ _ hnone => absurd hnone h.2⟩

variable {sealed : FileInfo} {prog : TranscriptProgress}

theorem triple_drainTranscript : OnRun S id (R.J (some t))
      (drainTranscript unmarshal fuel r sealed prog t) fun tail' => R.HasTail tail' := by
  unfold drainTranscript
  split
  · exact triple_followTail
  · exact carried_hasTail.done fun w h => ⟨h, by simp⟩

theorem triple_handOffSealed : OnRun S id (fun w => R.Ready tail o w ∧ R.At prog.consumedOffset w)
      (handOffSealed unmarshal fuel r tail sealed prog) fun res => R.Ready res.2 o := by
  refine triple_bind triple_bindTranscriptTail fun bound => ?_
  cases bound with
  | error text => exact done_ready fun _ h => h
  | ok t =>
    refine triple_bind triple_drainTranscript fun tail' => ?_
    refine triple_bind (carried_hasTail.mild (mild_recheckHandoff ..)) fun res => ?_
    exact done_ready ready_of_hasTail

theorem triple_handoff : OnRun S id (R.Ready tail o)
    (progressQuiescentTranscriptHandoff unmarshal fuel r tail)
    fun res => R.Ready res.2 o := by
  have hsame : ∀ res, OnRun S id (R.Ready tail o) (pure (res, tail))
      fun res : Except String Bool × Option Tail => R.Ready res.2 o :=
    fun res => done_ready fun _ h => h
  unfold progressQuiescentTranscriptHandoff
  split
  · exact hsame _
  · split
    · exact hsame _
    · split
      · exact hsame _
      · refine triple_bind (triple_sealNamed carried_ready) fun sealed => ?_
        split
        · exact done_ready fun w h => h.1
        · exact triple_pre triple_handOffSealed (fun w h => ⟨h.1, h.2 _ _ rfl⟩)

variable {outbox : OutboxRow}

theorem triple_commitTerminal : OnRun S id (R.Ready tail o)
    (write (.commitTerminal .failed reason outbox))
    fun a w => R.Ready tail o w ∧ (a = none → R.Ready none o w) := by
  refine carried_ready.learn rfl (fun a => carried_ready.imp carried_ready) ?_
  intro w a w' hw hw' hs
  refine ⟨hw', ?_⟩
  rintro rfl
  exact ⟨R.J_none (R.inv_of_J hw'.1), fun _ _ _ => .inr (R.commit hs)⟩

theorem triple_quiescent {label : String} : OnRun S id (R.Ready tail o)
      (commitQuiescentFailure unmarshal fuel r tail label reason outbox)
      fun res => R.Ready res.2 o := by
  refine triple_bind triple_handoff fun res => ?_
  split
  · exact done_ready fun _ h => h
  · exact done_ready fun _ h => h
  · refine triple_bind triple_commitTerminal fun committed => ?_
    split
    · exact done_ready fun w h => h.1
    · exact done_ready fun w h => h.2 rfl

theorem triple_cleanup : OnRun S id (R.Ready tail o)
    (progressCleanupRequired unmarshal fuel r tail) fun tail' => R.Ready tail' o := by
  have hsame : OnRun S id (R.Ready tail o) (pure tail)
      fun tail' => R.Ready tail' o := done_ready fun _ h => h
  unfold progressCleanupRequired
  split
  · exact hsame
  · refine triple_bind (carried_ready.mild (mild_supervisorAlive _)) fun alive => ?_
    split
    · exact triple_bind (carried_ready.mild (mild_cleanup r)) fun _ => hsame
    · refine triple_bind (carried_ready.mild (mild_cleanupQuiescent r)) fun quiescent => ?_
      split
      · exact triple_bind triple_quiescent fun res =>
          done_ready fun _ h => h
      · exact hsame

/-- A listed run: its consumed offset is where a tail may be placed. -/
abbrev Listed (R : TailRules S unmarshal id) (tail : Option Tail) (r : Run) : World → Prop :=
  R.Ready tail (some r.transcriptConsumedOffset)

theorem J_of_listed (w : World) (h : R.Listed tail r w) : R.J tail w := h.1

theorem triple_resumeTail : OnRun S id (R.Listed tail r)
    (startTailing tail path r.transcriptConsumedOffset) fun tail' => R.J tail' :=
  triple_startTailing carried_ready fun _ h => ⟨h.1, fun hnone =>
    (h.2 _ rfl hnone).imp_right .inr⟩

theorem triple_adoptRun {target : State} : OnRun S id (R.Listed tail r)
    (adoptRun r tail target reason) fun res => R.J res.2 := by
  unfold adoptRun
  split
  · exact done_J J_of_listed
  · refine triple_bind (carried_ready.skip (c := .write _) rfl) fun moved => ?_
    split
    · exact done_J J_of_listed
    · split
      · exact triple_bind triple_resumeTail fun tail' => done_J fun _ h => h
      · exact done_J J_of_listed

theorem triple_unknown (res : RecoveryResult) : OnRun S id (R.Listed tail r)
      (progressRecoveryUnknown unmarshal fuel r tail res) fun res => R.J res.2 := by
  cases res with
  | ambiguous => exact done_J J_of_listed
  | authenticated => exact triple_adoptRun
  | supervisorDead =>
    simp only [progressRecoveryUnknown]
    split
    · exact done_J J_of_listed
    · refine triple_bind (carried_ready.mild (mild_groupQuiescent _)) fun quiescent => ?_
      split
      · exact triple_weaken triple_quiescent (fun _ h => h) fun _ _ h => h.1
      · exact done_J J_of_listed

theorem triple_resumeRun : OnRun S id (R.Listed tail r)
    (resumeRun unmarshal fuel r tail) fun tail' => R.J tail' := by
  refine triple_bind (carried_ready.mild (mild_cleanupIf ..)) fun _ => ?_
  refine triple_bind (M := fun tail' => R.Listed tail' r) ?_ fun tail' => ?_
  · unfold resumeCleanup
    split
    · exact triple_cleanup
    · exact done_ready fun _ h => h
  · split
    · exact triple_resumeTail
    · exact done_J J_of_listed

theorem triple_recoverRun : OnRun S id (R.Listed tail r)
    (recoverRun unmarshal fuel r tail) fun res => R.J res.2 := by
  unfold recoverRun
  split
  · exact done_J J_of_listed
  · refine triple_bind (carried_ready.mild (mild_inspect r)) fun res => ?_
    unfold recoverInspected
    split
    · refine triple_bind (carried_ready.skip trivial) fun running => ?_
      refine triple_bind (carried_ready.mild (mild_cleanupIf ..)) fun _ => ?_
      exact done_J J_of_listed
    · split
      · refine triple_bind (triple_unknown res) fun progressed => ?_
        split
        · exact done_J fun _ h => h
        · exact triple_bind (carried_J.mild (mild_cleanupIf ..)) fun _ =>
            done_J fun _ h => h
      · split
        · exact triple_bind (carried_ready.mild (mild_rejectRecovery ..)) fun _ =>
            done_J J_of_listed
        · exact triple_bind triple_resumeRun fun _ => done_J fun _ h => h

theorem triple_tickRun : OnRun S id (R.Listed tail r)
    (tickRun unmarshal fuel r tail) fun res => R.J res.2 := by
  refine triple_bind (carried_ready.mild (mild_tickCancel r)) fun inspected => ?_
  split
  · refine triple_bind (carried_ready.mild (mild_inspect r)) fun res => ?_
    exact triple_bind (triple_unknown _) fun _ => done_J fun _ h => h
  · refine triple_bind (M := fun tail' => R.Ready tail' none) ?_ fun tail' => ?_
    · refine triple_weaken (P := R.J tail) (R := fun tail' => R.J tail') ?_ J_of_listed
        fun _ _ h => ⟨h, fun _ hmem => by cases hmem⟩
      unfold tickTail
      split
      · exact triple_tailTranscript
      · exact done_J fun _ h => h
    · split
      · exact triple_bind triple_cleanup fun _ => done_J fun _ h => h.1
      · exact triple_bind (carried_ready.mild (mild_tickUnreachable r)) fun _ =>
          done_J fun _ h => h.1

theorem J_none_of_J (w : World) (h : R.J tail w) : R.J none w := R.J_none (R.inv_of_J h)

theorem triple_resolve {cmd : Write} (hcmd : cmd.journals = false) :
    OnRun S id (R.J tail) (resolvePendingOutbox tail cmd)
      fun res => R.J res.2 := by
  refine triple_bind (carried_J.skip (c := .write cmd) hcmd) fun written => ?_
  split
  · exact done_J J_none_of_J
  · split
    · exact done_J fun _ h => h
    · refine triple_bind (carried_J.skip trivial) fun row => ?_
      split
      · exact done_J J_none_of_J
      · exact done_J fun _ h => h

variable {row : OutboxRow} {ident : Identity}

theorem triple_deadOutbox : OnRun S id (R.J tail) (reconcileConfirmedDeadOutbox row tail ident)
      fun res => R.J res.2 := by
  refine triple_bind (carried_J.mild (mild_groupQuiescent ident)) fun quiescent => ?_
  split
  · exact triple_bind (triple_resolve rfl) fun _ => done_J fun _ h => h
  · exact done_J fun _ h => h

theorem triple_byCommand : OnRun S id (R.J tail) (finalizeByCommand row r ident tail)
      fun res => R.J res.2 := by
  refine triple_bind (carried_J.mild (mild_sendCmd ..)) fun resp => ?_
  split
  · exact done_J fun _ h => h
  · split
    · exact done_J fun _ h => h
    · exact triple_bind (triple_resolve rfl) fun _ => done_J fun _ h => h

theorem triple_reconcileRow : OnRun S id (R.J tail)
    (reconcileRow row tail) fun res => R.J res.2 := by
  refine triple_bind (carried_J.skip trivial) fun found => ?_
  split
  · exact done_J fun _ h => h
  · refine triple_bind (carried_J.mild (mild_readIdentity _)) fun ident => ?_
    split
    · exact done_J fun _ h => h
    · split
      · exact done_J fun _ h => h
      · refine triple_bind (carried_J.skip trivial) fun status => ?_
        split
        · exact triple_deadOutbox
        · exact triple_byCommand
        · refine triple_bind (carried_J.skip trivial) fun alive => ?_
          split
          · exact triple_byCommand
          · exact triple_deadOutbox

theorem triple_finalizeLocalSupervisor : OnRun S id (R.J tail)
    (finalizeLocalSupervisor tail) fun res => R.J res.2 := by
  refine triple_bind (carried_J.skip trivial) fun found => ?_
  split
  · exact done_J fun _ h => h
  · split
    · exact done_J fun _ h => h
    · refine triple_bind (carried_J.skip trivial) fun row => ?_
      split
      · exact done_J J_none_of_J
      · exact done_J fun _ h => h

/-! The daemon's work on all runs. -/

theorem Carried.other {other : String} (hP : R.Carried P)
    (hother : other ≠ id) : Preserves S P (onRun other p) := by
  have hp : Asks (Quiet id) (onRun other p) := by
    apply asks_lift
    exact fun _ h => absurd h hother
  refine triple_asks hP.stable ?_ hp
  intro w q a w' hq hw hs
  have hw' := hP.keeps (R.quiet hq hs (hP.inv hw)) hw
  exact ⟨hP.inv hw', hw'⟩

theorem triple_ask_quiet {q : Question} (hP : R.Carried P) (hq : Quiet id q) :
    Preserves S P (ask q) := by
  refine triple_asks hP.stable ?_ (asks_call hq)
  intro w q a w' hq hw hs
  have hw' := hP.keeps (R.quiet hq hs (hP.inv hw)) hw
  exact ⟨hP.inv hw', hw'⟩

variable {β : Type} {key : β → String}
  {body : β → Option Tail → RunProg (Option String × Option Tail)} {tails : Tails}

/-- Going through items: what holds for the run before its item is worked on, `Pre` of the
items still to come, and what is left after. -/
theorem triple_forEach (Pre : List β → World → Prop)
    (hPre : ∀ items tail, R.Carried fun w => R.J tail w ∧ Pre items w)
    (hskip : ∀ x items w, Pre (x :: items) w → Pre items w)
    (hbody : ∀ x items tail, key x = id → OnRun S id
      (fun w => R.J tail w ∧ Pre (x :: items) w) (body x tail)
      fun res w => R.J res.2 w ∧ Pre items w) (items : List β) (tails : Tails) :
    Triple S (fun w => R.J (tails id) w ∧ Pre items w) (forEach key body items tails)
      fun res => R.J (res.2 id) := by
  induction items generalizing tails with
  | nil => exact triple_pure carried_J.stable fun _ h => h.1
  | cons x items ih =>
    by_cases hx : key x = id
    · subst hx
      refine triple_bind (triple_lift (hbody x items _ rfl)) fun res => ?_
      split
      · refine triple_pure carried_J.stable fun w h => ?_
        simpa using h.1
      · exact triple_pre (ih _) (fun w h => by simpa using h)
    · refine triple_bind ((hPre (x :: items) (tails id)).other hx) fun res => ?_
      have hsame : ∀ tail, Function.update tails (key x) tail id = tails id :=
        fun tail => Function.update_of_ne (Ne.symm hx) ..
      split
      · refine triple_pure carried_J.stable fun w h => ?_
        simpa [hsame] using h.1
      · refine triple_pre (ih _) (fun w h => ?_)
        simpa [hsame] using And.intro h.1 (hskip x items w h.2)

theorem triple_forEach_J (hbody : ∀ x tail, OnRun S id (R.J tail) (body x tail)
    fun res => R.J res.2) (items : List β) : Triple S (R.J (tails id))
    (forEach key body items tails) fun res => R.J (res.2 id) := by
  refine triple_pre (triple_forEach (R := R) (fun _ _ => True) ?_ (fun _ _ _ _ => trivial) ?_
    items tails) (fun _ h => ⟨h, trivial⟩)
  · intro items tail
    exact ⟨fun h => R.inv_of_J h.1, fun hk h => ⟨hk.1 tail h.1, trivial⟩⟩
  · intro x items tail _
    exact triple_weaken (hbody x tail) (fun _ h => h.1) fun _ _ h => ⟨h, trivial⟩

/-- The rows of a listing that are still to come are as they were listed. -/
def Unvisited (R : TailRules S unmarshal id) (runs : List Run) (w : World) : Prop :=
  (runs.map Run.id).Nodup ∧ ∀ r ∈ runs, r.id = id → R.At r.transcriptConsumedOffset w

theorem carried_unvisited {runs : List Run} :
    R.Carried fun w => R.J tail w ∧ R.Unvisited runs w where
  inv h := R.inv_of_J h.1
  keeps hk h := ⟨hk.1 tail h.1, h.2.1, fun r hr hid => hk.2.1 _ (h.2.2 r hr hid)⟩

theorem triple_forEach_listed {body : Run → Option Tail → RunProg (Option String × Option Tail)}
    (hbody : ∀ r tail, OnRun S id (R.Listed tail r) (body r tail)
      fun res => R.J res.2) (runs : List Run) :
    Triple S (fun w => R.J (tails id) w ∧ R.Unvisited runs w) (forEach Run.id body runs tails)
      fun res => R.J (res.2 id) := by
  refine triple_forEach R.Unvisited (fun _ _ => carried_unvisited) ?_ ?_ runs tails
  · intro r runs w h
    refine ⟨(nodup_cons.mp h.1).2, fun r' hr' => h.2 r' (mem_cons_of_mem r hr')⟩
  · intro r runs tail hr
    refine triple_extract (φ := (∀ w, R.Unvisited runs w)) ?_ fun hrest => ?_
    · -- no later row is about the same run
      intro w h w'
      obtain ⟨hfresh, hnodup⟩ := nodup_cons.mp h.2.1
      refine ⟨hnodup, fun r' hr' hid => absurd ?_ hfresh⟩
      exact (hid.trans hr.symm) ▸ mem_map_of_mem hr'
    · refine triple_weaken (hbody r tail) (fun w h => ⟨h.1, ?_⟩) fun _ w h => ⟨h, hrest w⟩
      rintro _ ⟨⟩ -
      exact .inl (h.2.2 r mem_cons_self hr)

theorem triple_pending : Triple S (R.J (tails id)) (reconcilePendingOutbox tails)
    fun res => R.J (res.2 id) := by
  refine triple_bind (triple_ask_quiet carried_J trivial) fun pending => ?_
  split
  · exact triple_pure carried_J.stable fun _ h => h
  · exact triple_forEach_J (fun _ _ => triple_reconcileRow) _

theorem triple_activeRuns : Triple S (R.J (tails id)) (ask .listActiveRuns)
    fun listed w => R.J (tails id) w ∧ ∀ runs, listed = .ok runs → R.Unvisited runs w := by
  refine triple_call carried_J.stable (fun listed => ?_) ?_
  · intro w w' hr h
    refine ⟨carried_J.stable w w' hr h.1, fun runs hruns => ?_⟩
    exact (carried_unvisited.stable w w' hr ⟨h.1, h.2 runs hruns⟩).2
  · intro w listed w' hw hs
    have hkeep := R.quiet (q := .listActiveRuns) trivial hs (R.inv_of_J hw)
    have hw' := hkeep.1 _ hw
    refine ⟨R.inv_of_J hw', hw', ?_⟩
    rintro runs rfl
    exact R.listed hs (R.inv_of_J hw)

theorem triple_recover : Triple S (R.J (tails id)) (recover unmarshal fuel tails)
    fun res => R.J (res.2 id) := by
  refine triple_bind triple_pending fun reconciled => ?_
  split
  · exact triple_pure carried_J.stable fun _ h => h
  · refine triple_bind triple_activeRuns fun listed => ?_
    split
    · exact triple_pure carried_J.stable fun _ h => h.1
    · exact triple_pre (triple_forEach_listed (fun _ _ => triple_recoverRun) _)
        (fun w h => ⟨h.1, h.2 _ rfl⟩)

theorem triple_locals : Triple S (R.J (tails id))
    (finalizeLocalSupervisors tails) fun tails' => R.J (tails' id) := by
  refine triple_bind (triple_ask_quiet carried_J trivial) fun exited => ?_
  refine triple_bind (triple_forEach_J (fun _ _ => triple_finalizeLocalSupervisor) exited) ?_
  exact fun res => triple_pure carried_J.stable fun _ h => h

theorem J_release (runs : List Run) (w : World) (h : R.J (tails id) w) :
    R.J (releaseUnneededTranscriptTails runs tails id) w := by
  unfold releaseUnneededTranscriptTails
  split
  · exact h
  · exact J_none_of_J w h

theorem triple_tick : Triple S (R.J (tails id)) (tick unmarshal fuel tails)
    fun tails' => R.J (tails' id) := by
  refine triple_bind triple_activeRuns fun listed => ?_
  split
  · exact triple_pure carried_J.stable fun _ h => h.1
  · refine triple_bind (triple_pre (triple_forEach_listed (fun _ _ => triple_tickRun) _)
      (fun w h => ⟨J_release _ w h.1, h.2 _ rfl⟩)) fun res => ?_
    refine triple_bind triple_pending fun reconciled => ?_
    split
    · exact triple_pure carried_J.stable fun _ h => h
    · exact triple_locals

/-- The whole daemon, from its start, needs nothing but the invariant and keeps it. -/
theorem triple_engine (R : TailRules S unmarshal id) :
    Preserves S S.inv (engine unmarshal fuel) := by
  have hstable : Stable S.toEnvironment S.inv := fun w w' hr h =>
    R.inv_of_J (carried_J.stable w w' hr (R.J_none h))
  refine triple_bind (triple_pre triple_recover (fun w h => R.J_none h)) fun recovered => ?_
  split
  · exact triple_pure hstable fun _ h => R.inv_of_J h
  · refine triple_loop (fun tails : Tails => R.J (tails id)) (fun tails => ?_) fuel _
    refine triple_bind (triple_ask_quiet carried_J trivial) fun ticked => ?_
    split
    · refine triple_bind triple_tick fun tails' => ?_
      exact triple_pure carried_J.stable fun _ h => h
    · exact triple_pure hstable fun _ h => R.inv_of_J h

theorem inv_of_engine (R : TailRules S unmarshal id) {init w : World} {p : Daemon Unit}
    (hinit : S.inv init) (h : Reach S.toEnvironment (engine unmarshal fuel) init w p) : S.inv w :=
  inv_of_reach R.triple_engine
    (fun w w' hr hw => R.inv_of_J (carried_J.stable w w' hr (R.J_none hw))) hinit h

end TailRules

end Ananke.Lifecycle
