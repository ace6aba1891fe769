import Mathlib.Data.List.Lex

/-! The order of UTF-16 code units in which an object's keys are written, and sorting by a
comparison of which only its contract is known. -/
namespace Ananke.Json

open List

/-- The code units of a character. -/
def utf16Units (c : Char) : List Nat :=
  if c.toNat < 0x10000 then [c.toNat]
  else [0xD800 + (c.toNat - 0x10000) / 0x400, 0xDC00 + (c.toNat - 0x10000) % 0x400]

def utf16 (cs : List Char) : List Nat := cs.flatMap utf16Units

/-- No character is a surrogate. -/
theorem not_surrogate (c : Char) : c.toNat < 0xD800 ∨ 0xDFFF < c.toNat ∧ c.toNat < 0x110000 :=
  c.valid

/-- The first units tell the character: those of a pair are surrogates. -/
theorem utf16Units_inj {c d : Char} {us vs : List Nat}
    (h : utf16Units c ++ us = utf16Units d ++ vs) : c = d ∧ us = vs := by
  have hc := not_surrogate c
  have hd := not_surrogate d
  unfold utf16Units at h
  split at h <;> split at h
  · simp only [cons_append, nil_append, List.cons.injEq] at h
    exact ⟨Char.toNat_inj.mp h.1, h.2⟩
  · simp only [cons_append, nil_append, List.cons.injEq] at h
    omega
  · simp only [cons_append, nil_append, List.cons.injEq] at h
    omega
  · simp only [cons_append, nil_append, List.cons.injEq] at h
    refine ⟨Char.toNat_inj.mp ?_, h.2.2⟩
    omega

theorem utf16Units_ne_nil (c : Char) : utf16Units c ≠ [] := by
  unfold utf16Units
  split <;> simp

/-- A code whose words tell where they end is read in one way only. -/
theorem flatMap_injective {α β : Type} {encode : α → List β} (hne : ∀ a, encode a ≠ [])
    (hinj : ∀ a b us vs, encode a ++ us = encode b ++ vs → a = b ∧ us = vs) :
    Function.Injective fun as : List α => as.flatMap encode := by
  intro as bs h
  induction as generalizing bs with
  | nil => cases bs <;> simp_all
  | cons a as ih =>
    cases bs with
    | nil => simp [hne] at h
    | cons b bs =>
      obtain ⟨rfl, hrest⟩ := hinj a b _ _ (by simpa using h)
      rw [ih hrest]

theorem utf16_injective : Function.Injective utf16 :=
  flatMap_injective utf16Units_ne_nil fun _ _ _ _ => utf16Units_inj

/-- Unit by unit, and where all agree by length. -/
def compareUnits : List Nat → List Nat → Int
  | [], [] => 0
  | [], _ :: _ => -1
  | _ :: _, [] => 1
  | a :: as, b :: bs => if a < b then -1 else if b < a then 1 else compareUnits as bs

theorem compareUnits_neg_iff (as bs : List Nat) : compareUnits as bs < 0 ↔ as < bs := by
  fun_induction compareUnits as bs with
  | case1 => simp
  | case2 => simp
  | case3 => simp
  | case4 a as b bs h => simp [cons_lt_cons_iff, h]
  | case5 a as b bs h h' => simp only [cons_lt_cons_iff]; omega
  | case6 a as b bs h h' ih =>
    obtain rfl : a = b := by omega
    simp [ih]

/-- A comparison as sorting requires it. -/
structure StrictWeak {α : Type} (less : α → α → Bool) : Prop where
  irrefl : ∀ a, less a a = false
  trans : ∀ a b c, less a b = true → less b c = true → less a c = true
  /-- what is not less in either step is not less in both together -/
  negTrans : ∀ a b c, less a b = false → less b c = false → less a c = false

variable {α : Type}

/-- A comparison of the units that values are written in. -/
theorem strictWeak_units (units : α → List Nat) :
    StrictWeak fun a b => decide (compareUnits (units a) (units b) < 0) where
  irrefl a := by simp [compareUnits_neg_iff]
  trans a b c := by
    simp only [compareUnits_neg_iff, decide_eq_true_eq]
    exact lt_trans
  negTrans a b c := by
    simp only [compareUnits_neg_iff, decide_eq_false_iff_not, not_lt]
    exact fun hab hbc => le_trans hbc hab

/-- A sort that keeps its contract, whatever it does with equal values or with a comparison
that is none. -/
structure Sorter (α : Type) where
  sort : (α → α → Bool) → List α → List α
  perm : ∀ less values, (sort less values).Perm values
  sorted : ∀ less values, StrictWeak less → (sort less values).Pairwise fun a b => less b a = false

theorem Sorter.mem_sort (s : Sorter α) {less : α → α → Bool} {values : List α} {a : α} :
    a ∈ s.sort less values ↔ a ∈ values :=
  (s.perm less values).mem_iff

/-- Values that the comparison tells apart have one sorted order. -/
theorem Sorter.sort_eq (s s' : Sorter α) {less : α → α → Bool} (hless : StrictWeak less)
    {values values' : List α} (hperm : values.Perm values')
    (hconnected : ∀ a ∈ values, ∀ b ∈ values, less a b = false → less b a = false → a = b) :
    s.sort less values = s'.sort less values' := by
  refine List.Perm.eq_of_pairwise ?_ (s.sorted less values hless) (s'.sorted less values' hless) ?_
  · intro a b ha hb hba hab
    have ha' : a ∈ values := s.mem_sort.mp ha
    have hb' : b ∈ values := hperm.mem_iff.mpr (s'.mem_sort.mp hb)
    exact hconnected a ha' b hb' hab hba
  · exact ((s.perm less values).trans hperm).trans (s'.perm less values').symm

/-- Merge sort keeps the contract. -/
def mergeSorter (α : Type) : Sorter α where
  sort less values := values.mergeSort fun a b => !less b a
  perm less values := mergeSort_perm values _
  sorted less values hless := by
    have htrans (a b c : α) : (!less b a) = true → (!less c b) = true → (!less c a) = true := by
      simp only [Bool.not_eq_true']
      exact fun hba hcb => hless.negTrans c b a hcb hba
    have htotal (a b : α) : ((!less b a) || (!less a b)) = true := by
      cases hba : less b a with
      | false => rfl
      | true =>
        cases hab : less a b with
        | false => rfl
        | true => simpa [hless.irrefl a] using hless.trans a b a hab hba
    simpa using pairwise_mergeSort htrans htotal values

end Ananke.Json
