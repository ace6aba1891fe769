import Ananke.Validation.Check

/-! Sealing: a record is checked without its hash and is then given the hash of its
content. -/
namespace Ananke.Validation

/-- A field that can be read and replaced. -/
structure Field (ρ α : Type) where
  get : ρ → α
  set : ρ → α → ρ
  set_get (r : ρ) : set r (get r) = r := by intros; rfl
  get_set (r : ρ) (a : α) : get (set r a) = a := by intros; rfl
  set_set (r : ρ) (a b : α) : set (set r a) b = set r b := by intros; rfl

variable {ε ρ : Type} (field : Field ρ String) (valid : ρ → Prop) [DecidablePred valid]
  (hash : ρ → String) (e : ε)

def sealWith (r : ρ) : Except ε ρ :=
  if valid (field.set r "") then
    .ok (field.set r (hash (field.set r "")))
  else .error e

variable {field valid hash e} {r s : ρ}

/-- What a seal accepts is in order, and the seal adds its hash and nothing else. -/
theorem sealWith_eq_ok : sealWith field valid hash e r = .ok s ↔
    valid (field.set r "") ∧ field.set r (hash (field.set r "")) = s := by
  unfold sealWith
  split <;> simp [*]

end Ananke.Validation
