import Ananke.Interaction.Logic

/-! Pre- and postconditions for programs in an interfering environment, and what they say
about every state such a program reaches when it may be restarted at any point. -/
namespace Ananke.Interaction

variable {Q : Type} {A : Q → Type} {W α β σ : Type}

/-- Interference keeps `P`. -/
def Stable (E : Environment Q A W) (P : W → Prop) : Prop := ∀ w w', E.rely w w' → P w → P w'

/-- From `P` the program keeps the invariant with every question and returns with `R`. -/
structure Triple (S : Setting Q A W) (P : W → Prop) (p : Prog Q A α) (R : α → W → Prop) : Prop where
  run : ∀ w, P w → wp S p R w

/-- What holds before the program holds after it. -/
abbrev Preserves (S : Setting Q A W) (P : W → Prop) (p : Prog Q A α) : Prop :=
  Triple S P p fun _ => P

variable {S : Setting Q A W} {P P' : W → Prop} {p : Prog Q A α} {f : α → Prog Q A β}
  {R R' : α → W → Prop}

theorem triple_weaken (h : Triple S P p R) (hP : ∀ w, P' w → P w)
    (hR : ∀ a w, R a w → R' a w) : Triple S P' p R' :=
  ⟨fun w hw => wp_mono hR (h.run w (hP w hw))⟩

theorem triple_pre (h : Triple S P p R) (hP : ∀ w, P' w → P w) : Triple S P' p R :=
  triple_weaken h hP fun _ _ h => h

/-- What the precondition says about no state may be used as a fact. -/
theorem triple_extract {φ : Prop} (hφ : ∀ w, P w → φ) (h : φ → Triple S P p R) : Triple S P p R :=
  ⟨fun w hw => (h (hφ w hw)).run w hw⟩

theorem triple_pure {a : α} (hstable : Stable S.toEnvironment (R a)) (h : ∀ w, P w → R a w) :
    Triple S P (pure a) R :=
  ⟨fun w hw w' hr => hstable w w' hr (h w hw)⟩

/-- One question: say what its answer leaves true. -/
theorem triple_call {q : Q} {M : A q → W → Prop} (hstable : Stable S.toEnvironment P)
    (hM : ∀ a, Stable S.toEnvironment (M a))
    (hask : ∀ w a w', P w → S.sem w q a w' → S.inv w' ∧ M a w') : Triple S P (.call q) M := by
  refine ⟨fun w hw w₁ a w₂ hr hs => ?_⟩
  obtain ⟨hinv, hpost⟩ := hask w₁ a w₂ (hstable w w₁ hr hw) hs
  exact ⟨hinv, fun w₃ hr' => hM a w₂ w₃ hr' hpost⟩

theorem triple_bind {M : α → W → Prop} {R : β → W → Prop} (hp : Triple S P p M)
    (hf : ∀ a, Triple S (M a) (f a) R) : Triple S P (p >>= f) R :=
  ⟨fun w hw => wp_bind (hp.run w hw) fun a => (hf a).run⟩

theorem triple_loop {body : σ → Prog Q A (σ ⊕ α)} (J : σ → W → Prop)
    (hbody : ∀ s, Triple S (J s) (body s) fun r w => r.elim (J · w) (R · w))
    (fuel : Nat) (s : σ) : Triple S (J s) (.loop body fuel s) R :=
  ⟨fun _ h => wp_loop J (fun s w hw => (hbody s).run w hw) fuel h⟩

/-- A program keeps what all its questions keep. -/
theorem triple_asks {G : Q → Prop} (hstable : Stable S.toEnvironment P)
    (hG : ∀ w q a w', G q → P w → S.sem w q a w' → S.inv w' ∧ P w') (hp : Asks G p) :
    Preserves S P p := by
  induction hp with
  | ret => exact triple_pure hstable fun _ h => h
  | @ask q k hq hk ih =>
    exact triple_bind (triple_call hstable (fun _ => hstable) fun w a w' => hG w q a w' hq) ih
  | stop => exact ⟨fun _ _ => trivial⟩

section Lift

variable {Q' : Type} {A' : Q' → Type} {q : Q → Q'}

/-- The environment as the lifted program sees it. -/
def Setting.at (S : Setting Q' A' W) (q : Q → Q') : Setting Q (fun c => A' (q c)) W :=
  { S with sem := fun w c => S.sem w (q c) }

theorem triple_lift {S : Setting Q' A' W} {p : Prog Q (fun c => A' (q c)) α}
    (h : Triple (S.at q) P p R) : Triple S P (p.lift q) R := by
  refine ⟨fun w hw => ?_⟩
  have hp := h.run w hw
  clear h hw
  induction p generalizing w with
  | ret => exact hp
  | ask c k ih =>
    intro w₁ a w₂ hr hs
    exact ⟨(hp w₁ a w₂ hr hs).1, ih a _ (hp w₁ a w₂ hr hs).2⟩
  | stop => trivial

theorem asks_lift {G : Q' → Prop} (hG : ∀ c, G (q c)) (p : Prog Q (fun c => A' (q c)) α) :
    Asks G (p.lift q) := by
  induction p with
  | ret a => exact .ret a
  | ask c k ih => exact .ask (hG c) ih
  | stop => exact .stop

end Lift

/-- Every state a program reaches that interference, answers and restarts can bring about. -/
inductive Reach (E : Environment Q A W) (boot : Prog Q A α) (init : W) : W → Prog Q A α → Prop
  | start : Reach E boot init init boot
  | env {w w' p} (h : Reach E boot init w p) (hr : E.rely w w') : Reach E boot init w' p
  | answer {w w' q k a} (h : Reach E boot init w (.ask q k)) (hs : E.sem w q a w') :
      Reach E boot init w' (k a)
  | restart {w p} (h : Reach E boot init w p) : Reach E boot init w boot

/-- What a program runs through is among the histories of whoever started it. -/
theorem reach_runs {I : List (Event A) → Prop} {boot p p' : Prog Q A α} {t u : List (Event A)}
    (h : Reach (traces I).toEnvironment boot [] t p) (hr : Runs p u p') :
    Reach (traces I).toEnvironment boot [] (t ++ u) p' := by
  induction hr generalizing t with
  | nil p => simpa using h
  | @ask q k a u p' hr ih =>
    have hnext : Reach (traces I).toEnvironment boot [] (t ++ [⟨q, a⟩]) (k a) := .answer h rfl
    simpa using ih hnext

/-- Restarts are harmless when the invariant is all the program needs to begin with. -/
theorem inv_of_reach {boot : Prog Q A α} {init w : W} (hboot : Triple S S.inv boot R)
    (hstable : Stable S.toEnvironment S.inv) (hinit : S.inv init)
    (h : Reach S.toEnvironment boot init w p) : S.inv w := by
  suffices S.inv w ∧ wp S p R w from this.1
  induction h with
  | start => exact ⟨hinit, hboot.run _ hinit⟩
  | env h hr ih => exact ⟨hstable _ _ hr ih.1, wp_rely ih.2 hr⟩
  | answer h hs ih => exact ih.2 _ _ _ (S.rely_refl _) hs
  | restart h ih => exact ⟨ih.1, hboot.run _ ih.1⟩

/-- The environment without the answers that `C` rules out. -/
def Environment.restrict (E : Environment Q A W) (C : W → (q : Q) → A q → Prop) :
    Environment Q A W :=
  { E with sem := fun w q a w' => C w q a ∧ E.sem w q a w' }

end Ananke.Interaction
