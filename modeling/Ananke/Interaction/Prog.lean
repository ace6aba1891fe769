/-! Programs that act through questions to an environment: system calls, files, clocks,
stores. Nothing is said about the answers, so a program is run against all of them. -/
namespace Ananke.Interaction

/-- A program that may ask the questions `Q`, answered by `A`. `stop` is where an
unbounded loop was cut off. -/
inductive Prog (Q : Type) (A : Q → Type) (α : Type) : Type
  | ret (a : α)
  | ask (q : Q) (k : A q → Prog Q A α)
  | stop

variable {Q : Type} {A : Q → Type} {α β σ : Type}

namespace Prog

def bind : Prog Q A α → (α → Prog Q A β) → Prog Q A β
  | .ret a, f => f a
  | .ask q k, f => .ask q fun a => (k a).bind f
  | .stop, _ => .stop

instance : Monad (Prog Q A) where
  pure := .ret
  bind := .bind

/-- One question, answered. -/
def call (q : Q) : Prog Q A (A q) := .ask q .ret

/-- An unbounded loop, cut off after `fuel` rounds. The body says whether to go round
again with a new loop state or to leave with a result. -/
def loop (body : σ → Prog Q A (σ ⊕ α)) : Nat → σ → Prog Q A α
  | 0, _ => .stop
  | fuel + 1, s => (body s).bind fun
    | .inl s' => loop body fuel s'
    | .inr a => .ret a

/-- The program in a larger world of questions. -/
def lift {Q' : Type} {A' : Q' → Type} (f : Q → Q') : Prog Q (fun q => A' (f q)) α → Prog Q' A' α
  | .ret a => .ret a
  | .ask q k => .ask (f q) fun a => lift f (k a)
  | .stop => .stop

@[simp] theorem pure_eq (a : α) : (pure a : Prog Q A α) = .ret a := rfl

@[simp] theorem bind_eq (p : Prog Q A α) (f : α → Prog Q A β) : (p >>= f) = p.bind f := rfl

@[simp] theorem bind_ret (a : α) (f : α → Prog Q A β) : (Prog.ret a).bind f = f a := rfl

@[simp] theorem bind_ask (q : Q) (k : A q → Prog Q A α) (f : α → Prog Q A β) :
    (Prog.ask q k).bind f = .ask q fun a => (k a).bind f := rfl

end Prog

/-- A question together with the answer it got. -/
abbrev Event (A : Q → Type) := Σ q, A q

/-- `Runs p t p'`: answering as `t` records, `p` has become `p'`. -/
inductive Runs : Prog Q A α → List (Event A) → Prog Q A α → Prop
  | nil (p) : Runs p [] p
  | ask {q k a t p'} (h : Runs (k a) t p') : Runs (.ask q k) (⟨q, a⟩ :: t) p'

/-- Runs a program for `n` questions against fixed answers. -/
def follow (answer : (q : Q) → A q) : Nat → Prog Q A α → List (Event A) × Prog Q A α
  | n + 1, .ask q k =>
    let r := follow answer n (k (answer q))
    (⟨q, answer q⟩ :: r.1, r.2)
  | _, p => ([], p)

theorem runs_follow (answer : (q : Q) → A q) (n : Nat) (p : Prog Q A α) :
    Runs p (follow answer n p).1 (follow answer n p).2 := by
  induction n generalizing p with
  | zero => exact .nil p
  | succ n ih =>
    cases p with
    | ret => exact .nil _
    | ask q k => exact .ask (ih (k (answer q)))
    | stop => exact .nil _

/-- A trace of a sequence is a trace of its first part, or goes on behind one. -/
theorem runs_bind {p : Prog Q A α} {f : α → Prog Q A β} {t : List (Event A)} {r : Prog Q A β}
    (h : Runs (p.bind f) t r) : (∃ p', Runs p t p') ∨
      ∃ a t₁ t₂, t = t₁ ++ t₂ ∧ Runs p t₁ (.ret a) ∧ Runs (f a) t₂ r := by
  induction p generalizing t with
  | ret a => exact .inr ⟨a, [], t, rfl, .nil _, h⟩
  | stop =>
    cases h
    exact .inl ⟨_, .nil _⟩
  | ask q k ih =>
    cases h with
    | nil => exact .inl ⟨_, .nil _⟩
    | ask h =>
      rcases ih _ h with ⟨p', hp⟩ | ⟨a, t₁, t₂, rfl, hp, hf⟩
      · exact .inl ⟨p', .ask hp⟩
      · exact .inr ⟨a, _ :: t₁, t₂, rfl, .ask hp, hf⟩

/-- All questions the program can ever ask satisfy `G`. -/
inductive Asks (G : Q → Prop) : Prog Q A α → Prop
  | ret (a : α) : Asks G (.ret a)
  | ask {q : Q} {k : A q → Prog Q A α} (hq : G q) (hk : ∀ a, Asks G (k a)) : Asks G (.ask q k)
  | stop : Asks G .stop

section Asks

variable {G G' : Q → Prop} {p : Prog Q A α} {f : α → Prog Q A β} {q : Q} {k : A q → Prog Q A α}

theorem Asks.question (h : Asks G (.ask q k)) : G q := by
  cases h with
  | ask hq => exact hq

theorem Asks.rest (h : Asks G (.ask q k)) (a : A q) : Asks G (k a) := by
  cases h with
  | ask hq hk => exact hk a

theorem asks_mono (hG : ∀ q, G q → G' q) (hp : Asks G p) : Asks G' p := by
  induction hp with
  | ret a => exact .ret a
  | ask hq hk ih => exact .ask (hG _ hq) ih
  | stop => exact .stop

theorem asks_bind (hp : Asks G p) (hf : ∀ a, Asks G (f a)) : Asks G (p >>= f) := by
  induction hp with
  | ret a => exact hf a
  | ask hq hk ih => exact .ask hq ih
  | stop => exact .stop

theorem asks_loop {body : σ → Prog Q A (σ ⊕ α)} (hbody : ∀ s, Asks G (body s)) (fuel : Nat)
    (s : σ) : Asks G (.loop body fuel s) := by
  induction fuel generalizing s with
  | zero => exact .stop
  | succ fuel ih =>
    refine asks_bind (hbody s) fun r => ?_
    cases r with
    | inl s' => exact ih s'
    | inr a => exact .ret a

theorem asks_pure {a : α} : Asks G (pure a : Prog Q A α) := .ret a

theorem asks_call {q : Q} (hq : G q) : Asks G (.call q : Prog Q A (A q)) :=
  .ask hq fun a => .ret a

theorem asks_then {q : Q} {f : A q → Prog Q A α} (hq : G q) (hf : ∀ a, Asks G (f a)) :
    Asks G (.call q >>= f) :=
  .ask hq hf

end Asks

/-- Every event of the trace is admitted by what came before it. -/
def Always (φ : List (Event A) → Event A → Prop) (t : List (Event A)) : Prop :=
  ∀ pre e post, t = pre ++ e :: post → φ pre e

variable {φ : List (Event A) → Event A → Prop} {t : List (Event A)} {e : Event A}

theorem always_nil : Always φ [] := by
  intro pre e post h
  simp at h

theorem always_snoc : Always φ (t ++ [e]) ↔ Always φ t ∧ φ t e := by
  constructor
  · intro h
    constructor
    · rintro pre e' post rfl
      exact h pre e' (post ++ [e]) (by simp)
    · exact h t e [] rfl
  · rintro ⟨ht, he⟩ pre e' post h
    rcases List.eq_nil_or_concat post with rfl | ⟨post', e'', rfl⟩
    · obtain ⟨rfl, h'⟩ := List.append_inj' h rfl
      cases h'
      exact he
    · have h' : t ++ [e] = (pre ++ e' :: post') ++ [e''] := by simpa using h
      obtain ⟨rfl, -⟩ := List.append_inj' h' rfl
      exact ht pre e' post' rfl

end Ananke.Interaction
