import Mathlib.Data.List.Basic

/-! Validation as computation: checks that fail with an error, in the order in which they
are made. -/
namespace Ananke.Validation

variable {ε α β : Type}

/-- Fails with `e` unless `c` holds. -/
def require (e : ε) (c : Prop) [Decidable c] : Except ε Unit := if c then .ok () else .error e

/-- Fails with `e` where there is nothing. -/
def expect (e : ε) : Option α → Except ε α
  | some a => .ok a
  | none => .error e

/-- Makes a check of every element. -/
def each (check : α → Except ε Unit) : List α → Except ε Unit
  | [] => .ok ()
  | a :: as => do
    check a
    each check as

/-- Reads every element. -/
def collect (f : α → Except ε β) : List α → Except ε (List β)
  | [] => .ok []
  | a :: as => do
    let b ← f a
    let bs ← collect f as
    pure (b :: bs)

variable {e : ε} {check : α → Except ε Unit} {as : List α} {c : Prop}

@[simp] theorem require_eq_ok [Decidable c] {u : Unit} : require e c = .ok u ↔ c := by
  unfold require
  split <;> simp [*]

theorem require_of [Decidable c] (h : c) : require e c = .ok () := if_pos h

theorem require_of_not [Decidable c] (h : ¬ c) : require e c = .error e := if_neg h

variable {a : α}

@[simp] theorem expect_eq_ok {o : Option α} : expect e o = .ok a ↔ o = some a := by
  cases o <;> simp [expect]

variable {f : α → Except ε β}

@[simp] theorem ok_bind : (Except.ok a >>= f) = f a := rfl

@[simp] theorem error_bind : (Except.error e >>= f) = .error e := rfl

variable {x : Except ε α} {b : β}

/-- What went well went well step by step. -/
theorem bind_eq_ok : (x >>= f) = .ok b ↔ ∃ a, x = .ok a ∧ f a = .ok b := by
  cases x with
  | error e => simp [bind, Except.bind]
  | ok a => simp

theorem seq_eq_ok {x : Except ε Unit} {y : Except ε β} :
    (x >>= fun _ => y) = .ok b ↔ x = .ok () ∧ y = .ok b := by
  cases x with
  | error e => simp [bind, Except.bind]
  | ok u => simp

theorem guard_eq_ok [Decidable c] {y : Except ε β} :
    (require e c >>= fun _ => y) = .ok b ↔ c ∧ y = .ok b := by
  rw [seq_eq_ok, require_eq_ok]

@[simp] theorem pure_eq_ok {b : α} : (pure a : Except ε α) = .ok b ↔ a = b := by
  simp [pure, Except.pure]

@[simp] theorem mapError_eq_ok {ε' : Type} {f : ε → ε'} : x.mapError f = .ok a ↔ x = .ok a := by
  cases x <;> simp [Except.mapError]

/-- The steps of a computation that goes well, as one set of rewriting rules. -/
theorem ok_iff : (∀ {ε α β : Type} {x : Except ε α} {f : α → Except ε β} {b : β},
      (x >>= f) = .ok b ↔ ∃ a, x = .ok a ∧ f a = .ok b) ∧
    (∀ {ε α : Type} {a b : α}, (pure a : Except ε α) = .ok b ↔ a = b) ∧
    (∀ {ε : Type} {e : ε} {c : Prop} [Decidable c] {u : Unit}, require e c = .ok u ↔ c) ∧
    (∀ {ε α : Type} {e : ε} {o : Option α} {a : α}, expect e o = .ok a ↔ o = some a) ∧
    ∀ {ε ε' α : Type} {f : ε → ε'} {x : Except ε α} {a : α}, x.mapError f = .ok a ↔ x = .ok a :=
  ⟨bind_eq_ok, pure_eq_ok, require_eq_ok, expect_eq_ok, mapError_eq_ok⟩

theorem unless_eq_ok [Decidable c] (h : (if c then .error e else x) = .ok a) : ¬ c ∧ x = .ok a := by
  split at h
  · cases h
  next hc => exact ⟨hc, h⟩

theorem mapError_eq_error {ε' : Type} {f : ε → ε'} {e : ε'} :
    x.mapError f = .error e ↔ ∃ e', x = .error e' ∧ f e' = e := by
  cases x <;> simp [Except.mapError]

@[simp] theorem map_eq_ok {f : α → β} : x.map f = .ok b ↔ ∃ a, x = .ok a ∧ f a = b := by
  cases x <;> simp [Except.map]

@[simp] theorem fmap_eq_ok {f : α → β} : f <$> x = .ok b ↔ ∃ a, x = .ok a ∧ f a = b := map_eq_ok

theorem map_eq_error {f : α → β} {e : ε} : x.map f = .error e ↔ x = .error e := by
  cases x <;> simp [Except.map]

theorem each_eq_ok {u : Unit} : each check as = .ok u ↔ ∀ a ∈ as, check a = .ok () := by
  induction as with
  | nil => simp [each]
  | cons a as ih =>
    rw [List.forall_mem_cons, ← ih, each, seq_eq_ok]

/-- Every error of the computation is one of these. -/
def FailsWith (P : ε → Prop) (x : Except ε α) : Prop := ∀ e, x = .error e → P e

section FailsWith

variable {P : ε → Prop} {x : Except ε α}

theorem FailsWith.bind {f : α → Except ε β} (hx : FailsWith P x)
    (hf : ∀ a, x = .ok a → FailsWith P (f a)) : FailsWith P (x >>= f) := by
  cases x with
  | error e =>
    intro e' he'
    exact hx e' (congrArg Except.error (Except.error.inj he'))
  | ok a => exact hf a rfl

theorem failsWith_require {c : Prop} [Decidable c] (h : P e) : FailsWith P (require e c) := by
  intro e' he'
  unfold require at he'
  split at he'
  · cases he'
  · exact Except.error.inj he' ▸ h

theorem failsWith_expect {o : Option α} (h : P e) : FailsWith P (expect e o) := by
  intro e' he'
  cases o with
  | none => exact Except.error.inj he' ▸ h
  | some a => cases he'

theorem failsWith_ok (a : α) : FailsWith P (.ok a : Except ε α) := by
  intro e he
  cases he

theorem failsWith_mapError {ε' : Type} {f : ε → ε'} {Q : ε' → Prop}
    (h : ∀ e, Q (f e)) : FailsWith Q (x.mapError f) := by
  intro e he
  obtain ⟨e', -, rfl⟩ := mapError_eq_error.mp he
  exact h e'

end FailsWith

/-- Reading back what was written. -/
theorem collect_map {g : β → α} {bs : List β}
    (h : ∀ b ∈ bs, f (g b) = .ok b) : collect f (bs.map g) = .ok bs := by
  induction bs with
  | nil => rfl
  | cons b bs ih =>
    have hb := h b (by simp)
    have hbs := ih fun b' hb' => h b' (by simp [hb'])
    rw [List.map_cons, collect, hb, ok_bind, hbs]
    rfl

end Ananke.Validation
