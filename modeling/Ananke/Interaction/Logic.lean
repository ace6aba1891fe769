import Ananke.Interaction.Prog

/-! Weakest preconditions for programs in an environment that may interfere before every
question. -/
namespace Ananke.Interaction

/-- What a program runs against: how a question changes the world, and what the environment
may do on its own. -/
structure Environment (Q : Type) (A : Q → Type) (W : Type) where
  sem : W → (q : Q) → A q → W → Prop
  rely : W → W → Prop
  rely_refl : ∀ w, rely w w
  rely_trans : ∀ {u v w}, rely u v → rely v w → rely u w

/-- An environment with what every question must leave true. -/
structure Setting (Q : Type) (A : Q → Type) (W : Type) extends Environment Q A W where
  inv : W → Prop

variable {Q : Type} {A : Q → Type} {W α β σ : Type} {S : Setting Q A W}

/-- Whatever the answers and the interference, every question keeps `S.inv`, and a result
satisfies `P`. -/
def wp (S : Setting Q A W) : Prog Q A α → (α → W → Prop) → W → Prop
  | .ret a, P, w => ∀ w', S.rely w w' → P a w'
  | .ask q k, P, w => ∀ w₁ a w₂, S.rely w w₁ → S.sem w₁ q a w₂ → S.inv w₂ ∧ wp S (k a) P w₂
  | .stop, _, _ => True

variable {p : Prog Q A α} {f : α → Prog Q A β} {P P' : α → W → Prop} {w w' : W}

theorem wp_rely (h : wp S p P w) (hr : S.rely w w') : wp S p P w' := by
  cases p with
  | ret => exact fun w'' hr' => h w'' (S.rely_trans hr hr')
  | ask => exact fun w₁ a w₂ hr' hs => h w₁ a w₂ (S.rely_trans hr hr') hs
  | stop => trivial

theorem wp_mono (hP : ∀ a w, P a w → P' a w) (h : wp S p P w) : wp S p P' w := by
  induction p generalizing w with
  | ret a => exact fun w' hr => hP a w' (h w' hr)
  | ask q k ih =>
    intro w₁ a w₂ hr hs
    exact ⟨(h w₁ a w₂ hr hs).1, ih a (h w₁ a w₂ hr hs).2⟩
  | stop => trivial

/-- A result that satisfies `P` does so under any further interference. -/
theorem wp_stable (h : wp S p P w) : wp S p (fun a w => ∀ w', S.rely w w' → P a w') w := by
  induction p generalizing w with
  | ret => exact fun w₁ h₁ w₂ h₂ => h w₂ (S.rely_trans h₁ h₂)
  | ask q k ih =>
    intro w₁ a w₂ hr hs
    exact ⟨(h w₁ a w₂ hr hs).1, ih a (h w₁ a w₂ hr hs).2⟩
  | stop => trivial

theorem wp_bind {R : β → W → Prop} (h : wp S p P w) (hf : ∀ a w, P a w → wp S (f a) R w) :
    wp S (p.bind f) R w := by
  induction p generalizing w with
  | ret a => exact hf a w (h w (S.rely_refl w))
  | ask q k ih =>
    intro w₁ a w₂ hr hs
    exact ⟨(h w₁ a w₂ hr hs).1, ih a (h w₁ a w₂ hr hs).2⟩
  | stop => trivial

/-- A loop keeps its invariant `J` as long as it goes round. -/
theorem wp_loop {body : σ → Prog Q A (σ ⊕ α)} (J : σ → W → Prop)
    (hbody : ∀ s w, J s w → wp S (body s) (fun r w' => r.elim (J · w') (P · w')) w)
    (fuel : Nat) {s : σ} (h : J s w) : wp S (.loop body fuel s) P w := by
  induction fuel generalizing s w with
  | zero => trivial
  | succ fuel ih =>
    refine wp_bind (wp_stable (hbody s w h)) ?_
    intro r w' hr
    cases r with
    | inl s' => exact ih (hr w' (S.rely_refl w'))
    | inr a => exact hr

/-- The setting in which the world is the trace itself. -/
def traces (I : List (Event A) → Prop) : Setting Q A (List (Event A)) where
  sem t q a t' := t' = t ++ [⟨q, a⟩]
  rely := Eq
  inv := I
  rely_refl _ := rfl
  rely_trans := Eq.trans

variable {I : List (Event A) → Prop} {P : α → List (Event A) → Prop} {t u : List (Event A)}

@[simp] theorem wp_traces_ret {a : α} : wp (traces I) (.ret a) P t ↔ P a t := by
  simp [wp, traces]

@[simp] theorem wp_traces_ask {q : Q} {k : A q → Prog Q A α} : wp (traces I) (.ask q k) P t ↔
      ∀ a, I (t ++ [⟨q, a⟩]) ∧ wp (traces I) (k a) P (t ++ [⟨q, a⟩]) := by
  constructor
  · intro h a
    exact h t a _ rfl rfl
  · rintro h w₁ a w₂ rfl rfl
    exact h a

/-- What a program returns may be shown apart from what it keeps. -/
theorem wp_traces_and {P' : α → List (Event A) → Prop} (h : wp (traces I) p P t)
    (h' : wp (traces fun _ => True) p P' t) : wp (traces I) p (fun a u => P a u ∧ P' a u) t := by
  induction p generalizing t with
  | ret a => simp_all
  | ask q k ih =>
    rw [wp_traces_ask] at h h' ⊢
    exact fun a => ⟨(h a).1, ih a (h a).2 (h' a).2⟩
  | stop => trivial

/-- A program only adds to the trace. -/
theorem wp_traces_extends (p : Prog Q A α) (t : List (Event A)) :
    wp (traces fun _ => True) p (fun _ t' => ∃ u, t' = t ++ u) t := by
  induction p generalizing t with
  | ret => exact wp_traces_ret.mpr ⟨[], by simp⟩
  | ask q k ih =>
    refine wp_traces_ask.mpr fun a => ⟨trivial, wp_mono ?_ (ih a _)⟩
    rintro _ _ ⟨u, rfl⟩
    exact ⟨⟨q, a⟩ :: u, by simp⟩
  | stop => trivial

/-- A program that asks only questions admitted anywhere is safe, and extends the trace by
such questions. -/
theorem wp_traces_asks {φ : List (Event A) → Event A → Prop} {G : Q → Prop}
    (hφ : ∀ t q a, G q → φ t ⟨q, a⟩) (hp : Asks G p) (ht : Always φ t) :
    wp (traces (Always φ)) p (fun _ t' => Always φ t' ∧ ∃ u, t' = t ++ u ∧ ∀ e ∈ u, G e.1) t := by
  induction hp generalizing t with
  | ret => exact wp_traces_ret.mpr ⟨ht, [], by simp⟩
  | @ask q k hq hk ih =>
    rw [wp_traces_ask]
    intro a
    have hnext : Always φ (t ++ [⟨q, a⟩]) := always_snoc.mpr ⟨ht, hφ t q a hq⟩
    refine ⟨hnext, wp_mono ?_ (ih a hnext)⟩
    rintro _ _ ⟨ht', u, rfl, hu⟩
    refine ⟨ht', ⟨q, a⟩ :: u, by simp, ?_⟩
    intro e he
    rcases List.mem_cons.mp he with rfl | he
    · exact hq
    · exact hu e he
  | stop => trivial

theorem asks_of_runs {G : Q → Prop} {p' : Prog Q A α} (hp : Asks G p) (hr : Runs p u p') :
    ∀ e ∈ u, G e.1 := by
  induction hr with
  | nil => simp
  | ask hr ih => exact List.forall_mem_cons.mpr ⟨hp.question, ih (hp.rest _)⟩

/-- Every trace of a program that is safe in `traces I` satisfies `I`, and its results `P`. -/
theorem wp_traces_sound {p' : Prog Q A α} (h : wp (traces I) p P t) (hI : I t)
    (hr : Runs p u p') : I (t ++ u) ∧ wp (traces I) p' P (t ++ u) := by
  induction hr generalizing t with
  | nil p => simpa using ⟨hI, h⟩
  | ask hr ih =>
    obtain ⟨hI', h'⟩ := wp_traces_ask.mp h _
    simpa using ih h' hI'

end Ananke.Interaction
