import Mathlib.Data.List.Nodup
import Ananke.Relational.Table
import Ananke.Validation.Check

/-! Statements that change a table, with the constraints of the table and the number of rows
they have to affect, and columns that number their rows. -/
namespace Ananke.Relational

open Validation List

variable {ε ρ τ : Type}

/-- `INSERT`: the constraints of the table hold of the new row. -/
def insertOne (e : ε) (fits : Prop) [Decidable fits] (row : ρ) (rows : List ρ) :
    Except ε (List ρ) := do
  require e fits
  pure (rows ++ [row])

/-- `UPDATE … SET … WHERE P` -/
def updateWhere (P : ρ → Prop) [DecidablePred P] (f : ρ → ρ) (rows : List ρ) : List ρ :=
  rows.map fun r => if P r then f r else r

/-- An update after which `RowsAffected` has to be one. -/
def updateOne (e : ε) (P : ρ → Prop) [DecidablePred P] (f : ρ → ρ) (rows : List ρ) :
    Except ε (List ρ) := do
  require e (rows.countP (fun r => P r) = 1)
  pure (updateWhere P f rows)

variable {e : ε} {P : ρ → Prop} [DecidablePred P] {f : ρ → ρ} {r : ρ} {rows rows' : List ρ}

@[simp] theorem insertOne_eq_ok {fits : Prop} [Decidable fits] :
    insertOne e fits r rows = .ok rows' ↔ fits ∧ rows ++ [r] = rows' := by
  rw [insertOne, guard_eq_ok, pure_eq_ok]

@[simp] theorem updateOne_eq_ok : updateOne e P f rows = .ok rows' ↔
    rows.countP (fun r => P r) = 1 ∧ updateWhere P f rows = rows' := by
  rw [updateOne, guard_eq_ok, pure_eq_ok]

theorem updateWhere_append : updateWhere P f (rows ++ rows') =
    updateWhere P f rows ++ updateWhere P f rows' :=
  map_append

theorem updateWhere_singleton : updateWhere P f [r] = [if P r then f r else r] := rfl

theorem updateWhere_none (h : ∀ r ∈ rows, ¬ P r) : updateWhere P f rows = rows := by
  rw [updateWhere]
  conv_rhs => rw [← map_id rows]
  refine map_congr_left fun r hr => ?_
  rw [if_neg (h r hr), id]

theorem mem_updateWhere (hr : r ∈ rows) (h : ¬ P r) : r ∈ updateWhere P f rows :=
  mem_map.mpr ⟨r, hr, if_neg h⟩

theorem map_updateWhere_of_eq {g : ρ → τ} (hf : ∀ r, g (f r) = g r) :
    (updateWhere P f rows).map g = rows.map g := by
  rw [updateWhere, map_map]
  refine map_congr_left fun r _ => ?_
  simp only [Function.comp]
  split
  · exact hf r
  · rfl

theorem rowsOf_updateWhere {κ : Type} [DecidableEq κ] {key : ρ → κ} {k : κ}
    (hf : ∀ r, key (f r) = key r) :
    rowsOf key k (updateWhere P f rows) = updateWhere P f (rowsOf key k rows) := by
  induction rows with
  | nil => rfl
  | cons r rows ih =>
    have hkey : key (if P r then f r else r) = key r := by
      split
      · exact hf r
      · rfl
    by_cases hr : key r = k
    · simpa [rowsOf, updateWhere, hkey, hr] using ih
    · simpa [rowsOf, updateWhere, hkey, hr] using ih

/-- The column counts the rows: one, two, three and so on. -/
def Numbered (ns : List Int) : Prop := ns = (List.range ns.length).map fun i : Nat => (i : Int) + 1

variable {n : Int} {ns : List Int}

theorem numbered_snoc : Numbered (ns ++ [n]) ↔ Numbered ns ∧ n = ns.length + 1 := by
  unfold Numbered
  rw [length_append, length_singleton, range_succ, map_append, map_singleton]
  constructor
  · intro h
    obtain ⟨hns, hn⟩ := append_inj h (by simp)
    exact ⟨hns, by simpa using hn⟩
  · rintro ⟨hns, rfl⟩
    rw [← hns]

theorem Numbered.mem (h : Numbered ns) : n ∈ ns ↔ 1 ≤ n ∧ n ≤ ns.length := by
  rw [h]
  simp only [mem_map, mem_range, length_map, length_range]
  constructor
  · rintro ⟨_, _, rfl⟩
    omega
  · intro hn
    exact ⟨(n - 1).toNat, by omega, by omega⟩

theorem Numbered.nodup (h : Numbered ns) : ns.Nodup := by
  rw [h]
  refine nodup_range.map fun i j hij => ?_
  omega

end Ananke.Relational
