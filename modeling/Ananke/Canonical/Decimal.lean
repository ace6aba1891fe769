import Ananke.Canonical.Encoder
import Mathlib.Data.Nat.Digits.Lemmas
import Mathlib.Tactic.FieldSimp

/-! The numerals without exponent that numbers are written with: what they denote, and that the
point is moved exactly. -/
namespace Ananke.Canonical

open List

def IsDigit (c : Char) : Prop := 48 ≤ c.toNat ∧ c.toNat ≤ 57

/-- The number that digits write. -/
def number (digits : List Char) : Nat :=
  Nat.ofDigits 10 (digits.reverse.map fun c => c.toNat - 48)

/-- Digits, and more behind a point if there are more. -/
def pointed (whole fraction : List Char) : List Char :=
  whole ++ if fraction = [] then [] else '.' :: fraction

def signed (negative : Bool) (text : List Char) : List Char :=
  if negative then '-' :: text else text

def magnitude (text : List Char) : ℚ :=
  let fraction := (text.dropWhile (· ≠ '.')).tail
  number (text.takeWhile (· ≠ '.') ++ fraction) / 10 ^ fraction.length

/-- The value of a numeral. -/
def denote (text : List Char) : ℚ :=
  if text.head? = some '-' then -magnitude text.tail else magnitude text

/-- Digits on both sides of the point, with no zero that could be left out. -/
structure Reduced (whole fraction : List Char) : Prop where
  digits : ∀ c ∈ whole ++ fraction, IsDigit c
  leading : whole = ['0'] ∨ whole ≠ [] ∧ whole.head? ≠ some '0'
  trailing : fraction.getLast? ≠ some '0'

/-- A digit other than zero and a fraction, with a sign. -/
structure Mantissa where
  negative : Bool
  first : Char
  fraction : List Char
  nonzero : first ≠ '0'
  reduced : Reduced [first] fraction

/-- The digits, with the point out of the way. -/
def Mantissa.digits (m : Mantissa) : List Char := m.first :: m.fraction

def Mantissa.text (m : Mantissa) : List Char := signed m.negative (pointed [m.first] m.fraction)

variable {whole fraction a b : List Char} {m m' : Mantissa} {exponent k k' : Int}

theorem IsDigit.ne {c : Char} (h : IsDigit c) : c ≠ '-' ∧ c ≠ '.' := by
  constructor <;> rintro rfl <;> exact absurd h.1 (by decide)

theorem isDigit_zeros (k : Nat) : ∀ c ∈ replicate k '0', IsDigit c :=
  forall_mem_replicate.mpr (.inr ⟨by decide, by decide⟩)

theorem number_append : number (a ++ b) = number a * 10 ^ b.length + number b := by
  simp only [number, reverse_append, map_append, Nat.ofDigits_append, length_map, length_reverse]
  ring

theorem number_zeros (k : Nat) : number (replicate k '0') = 0 := by
  simp [number, Nat.ofDigits_replicate_zero]

theorem Reduced.head_pointed (h : Reduced whole fraction) :
    (pointed whole fraction).head? ≠ some '-' := by
  obtain ⟨c, rest, rfl⟩ : ∃ c rest, whole = c :: rest := by
    rcases h.leading with rfl | ⟨hne, -⟩
    · exact ⟨_, _, rfl⟩
    · exact exists_cons_of_ne_nil hne
  simpa [pointed] using (h.digits c (by simp)).ne.1

theorem Reduced.magnitude_pointed (h : Reduced whole fraction) :
    magnitude (pointed whole fraction) = number (whole ++ fraction) / 10 ^ fraction.length := by
  have hpoint : ∀ c ∈ whole, decide (c ≠ '.') = true := fun c hc =>
    decide_eq_true (h.digits c (mem_append_left _ hc)).ne.2
  have htake : (pointed whole fraction).takeWhile (· ≠ '.') = whole := by
    rw [pointed, takeWhile_append_of_pos hpoint]
    split <;> simp
  have hdrop : ((pointed whole fraction).dropWhile (· ≠ '.')).tail = fraction := by
    rw [pointed, dropWhile_append_of_pos hpoint]
    split <;> simp [*]
  simp only [magnitude, htake, hdrop]

variable {text : List Char}

theorem denote_signed (negative : Bool) (h : text.head? ≠ some '-') :
    denote (signed negative text) = (if negative then -1 else 1) * magnitude text := by
  cases negative <;> simp [denote, signed, h]

theorem expandDecimal_signed (negative : Bool) (h : text.head? ≠ some '-') :
    expandDecimal (signed negative text) exponent =
      signed negative (expandDecimal text exponent) := by
  cases negative with
  | false => rfl
  | true =>
    simp only [expandDecimal, signed, if_true, head?_cons, tail_cons, h, if_false, nil_append]
    split
    · rfl
    · split <;> rfl

theorem Mantissa.getLast_digits (m : Mantissa) : m.digits.getLast? ≠ some '0' := by
  have htrailing := m.reduced.trailing
  cases hfrac : m.fraction with
  | nil => simpa [digits, hfrac] using m.nonzero
  | cons c rest => simpa [digits, hfrac] using htrailing

/-- The point is moved among the digits, to the left of them or to the right. -/
theorem expandDecimal_pointed : ∃ whole fraction,
    expandDecimal (pointed [m.first] m.fraction) exponent = pointed whole fraction ∧
    Reduced whole fraction ∧ (number (whole ++ fraction) : ℚ) / 10 ^ fraction.length =
      number m.digits * 10 ^ (exponent - m.fraction.length) := by
  have hfirst := (m.reduced.digits m.first (by simp)).ne.2
  have hfrac : ∀ c ∈ m.fraction, c ≠ '.' := fun c hc => (m.reduced.digits c (by simp [hc])).ne.2
  have hat : ((pointed [m.first] m.fraction).idxOf? '.').getD
      (pointed [m.first] m.fraction).length = 1 := by
    unfold pointed
    split <;> simp [idxOf?_cons, hfirst]
  have hdigits : (pointed [m.first] m.fraction).filter (· ≠ '.') = m.digits := by
    unfold pointed
    split <;> simp_all [Mantissa.digits, filter_eq_self]
  have hscale : ∀ k j : Nat, (k : Int) - j = exponent - m.fraction.length →
      (number m.digits * 10 ^ k : ℚ) / 10 ^ j =
        number m.digits * 10 ^ (exponent - m.fraction.length) := by
    intro k j h
    rw [← h, zpow_sub₀ (by norm_num), zpow_natCast, zpow_natCast, mul_div_assoc]
  have hlen : m.digits.length = m.fraction.length + 1 := rfl
  have hlast := m.getLast_digits
  simp only [expandDecimal, m.reduced.head_pointed, if_false, hat, hdigits, nil_append,
    Nat.cast_one]
  split
  next hsmall =>
    refine ⟨['0'], replicate (-(1 + exponent)).toNat '0' ++ m.digits, ?_, ⟨?_, .inl rfl, ?_⟩, ?_⟩
    · simp [pointed, Mantissa.digits]
    · refine forall_mem_append.mpr ⟨isDigit_zeros 1, ?_⟩
      exact forall_mem_append.mpr ⟨isDigit_zeros _, m.reduced.digits⟩
    · rw [getLast?_append]
      simpa [Mantissa.digits] using hlast
    · have hvalue := hscale 0 (replicate (-(1 + exponent)).toNat '0' ++ m.digits).length (by
        simp only [length_append, length_replicate, hlen]
        omega)
      rw [← hvalue, number_append, number_append, number_zeros, show number ['0'] = 0 from rfl]
      simp
  next hpos =>
    split
    next hlong =>
      refine ⟨m.digits ++ replicate (1 + exponent - m.digits.length).toNat '0', [],
        by simp [pointed],
        ⟨?_, .inr ⟨by simp [Mantissa.digits], by simpa [Mantissa.digits] using m.nonzero⟩, by simp⟩,
        ?_⟩
      · rw [append_nil]
        exact forall_mem_append.mpr ⟨m.reduced.digits, isDigit_zeros _⟩
      · have hvalue := hscale (1 + exponent - m.digits.length).toNat 0 (by omega)
        rw [← hvalue, append_nil, number_append, number_zeros, length_replicate]
        push_cast
        simp
    next hlong =>
      obtain ⟨n, hn⟩ : ∃ n, (1 + exponent).toNat = n + 1 :=
        Nat.exists_eq_add_one_of_ne_zero (by omega)
      have hdrop : m.digits.drop (1 + exponent).toNat ≠ [] := by
        rw [ne_eq, drop_eq_nil_iff]
        omega
      refine ⟨m.digits.take (1 + exponent).toNat, m.digits.drop (1 + exponent).toNat,
        by simp [pointed, hdrop], ⟨?_, .inr ?_, ?_⟩, ?_⟩
      · rw [take_append_drop]
        exact m.reduced.digits
      · simpa [hn, Mantissa.digits] using m.nonzero
      · rw [getLast?_drop]
        split
        · simp
        · exact hlast
      · have hvalue := hscale 0 (m.digits.drop (1 + exponent).toNat).length (by
          rw [length_drop]
          omega)
        rw [take_append_drop, ← hvalue, pow_zero, mul_one]

theorem denote_expandDecimal : denote (expandDecimal m.text exponent) =
    (if m.negative then -1 else 1) * (number m.digits * 10 ^ (exponent - m.fraction.length)) := by
  obtain ⟨whole, fraction, htext, hreduced, hvalue⟩ := @expandDecimal_pointed m exponent
  rw [Mantissa.text, expandDecimal_signed _ m.reduced.head_pointed, htext,
    denote_signed _ hreduced.head_pointed, hreduced.magnitude_pointed, hvalue]

/-- Digits that do not begin with zero are those of their number. -/
theorem number_inj (ha : ∀ c ∈ a, IsDigit c) (hb : ∀ c ∈ b, IsDigit c) (ha' : a.head? ≠ some '0')
    (hb' : b.head? ≠ some '0') (h : number a = number b) : a = b := by
  have hread : ∀ l : List Char, (∀ c ∈ l, IsDigit c) → l.head? ≠ some '0' →
      ((Nat.digits 10 (number l)).reverse.map fun v => Char.ofNat (v + 48)) = l := by
    intro l hl hhead
    rw [number, Nat.digits_ofDigits 10 (by decide), ← map_reverse, reverse_reverse, map_map]
    · refine (map_congr_left fun c hc => ?_).trans (map_id _)
      have hsum : c.toNat - 48 + 48 = c.toNat := Nat.sub_add_cancel (hl c hc).1
      simp [hsum]
    · intro v hvalue
      obtain ⟨c, hc, rfl⟩ := mem_map.mp hvalue
      have hdigit := hl c (mem_reverse.mp hc)
      unfold IsDigit at hdigit
      omega
    · intro hne hzero
      cases l with
      | nil => exact hne rfl
      | cons c rest =>
        have hdigit := (hl c mem_cons_self).1
        simp only [reverse_cons, map_append, map_cons, map_nil, getLast_append_singleton] at hzero
        exact hhead (congrArg some (Char.toNat_inj.mp (show c.toNat = 48 by omega)))
  rw [← hread a ha ha', h, hread b hb hb']

theorem Mantissa.head_digits (m : Mantissa) : m.digits.head? ≠ some '0' := by
  simpa [digits] using m.nonzero

/-- The digits end in no zero, so that they tell their scale. -/
theorem digits_of_scaled {j : Nat} (h : number m.digits = number m'.digits * 10 ^ j) :
    m.digits = m'.digits ∧ j = 0 := by
  have hnumber : number m.digits = number (m'.digits ++ replicate j '0') := by
    rw [number_append, number_zeros, length_replicate, h, add_zero]
  have hdigits : m.digits = m'.digits ++ replicate j '0' := by
    refine number_inj m.reduced.digits ?_ m.head_digits m'.head_digits hnumber
    exact forall_mem_append.mpr ⟨m'.reduced.digits, isDigit_zeros j⟩
  cases j with
  | zero => exact ⟨by simpa using hdigits, rfl⟩
  | succ j => exact absurd (by simp [hdigits, replicate_succ']) m.getLast_digits

theorem scaled_inj (h : (number m.digits : ℚ) * 10 ^ k = number m'.digits * 10 ^ k') :
    m.digits = m'.digits ∧ k = k' := by
  wlog hle : k ≤ k' generalizing m m' k k'
  · exact (this h.symm (le_of_not_ge hle)).imp Eq.symm Eq.symm
  obtain ⟨j, rfl⟩ := Int.le.dest hle
  rw [zpow_add₀ (by norm_num), zpow_natCast, mul_left_comm, mul_comm,
    mul_right_inj' (zpow_ne_zero _ (by norm_num))] at h
  obtain ⟨hdigits, rfl⟩ := digits_of_scaled (by exact_mod_cast h)
  exact ⟨hdigits, by simp⟩

theorem scaled_pos (m : Mantissa) (k : Int) : (0 : ℚ) < number m.digits * 10 ^ k := by
  have hne : number m.digits ≠ 0 := fun h =>
    absurd (number_inj (b := []) m.reduced.digits (by simp) m.head_digits (by simp) h) (by simp)
  exact mul_pos (by exact_mod_cast Nat.pos_of_ne_zero hne) (zpow_pos (by norm_num) k)

/-- The point is moved exactly and no zero is superfluous, so that a value has one numeral and
different values have different ones. The other two packages' copies do the same. -/
theorem decimal_expanded (m : Mantissa) (exponent : Int) :
    denote (expandDecimal m.text exponent) = denote m.text * 10 ^ exponent ∧
    (∃ whole fraction, Reduced whole fraction ∧
      expandDecimal m.text exponent = signed m.negative (pointed whole fraction)) ∧
    (∀ (m' : Mantissa) exponent', expandDecimal m.text exponent = expandDecimal m'.text exponent' ↔
        denote m.text * 10 ^ exponent = denote m'.text * 10 ^ exponent') ∧
    Store.expandCanonicalDecimal = expandDecimal ∧
      Repair.expandCanonicalDecimal = expandDecimal := by
  have hexact : ∀ (m : Mantissa) exponent,
      denote (expandDecimal m.text exponent) = denote m.text * 10 ^ exponent := by
    intro m exponent
    rw [denote_expandDecimal, Mantissa.text, denote_signed _ m.reduced.head_pointed,
      m.reduced.magnitude_pointed, zpow_sub₀ (by norm_num), zpow_natCast]
    simp only [Mantissa.digits, cons_append, nil_append]
    ring
  obtain ⟨whole, fraction, htext, hreduced, -⟩ := @expandDecimal_pointed m exponent
  refine ⟨hexact m exponent, ⟨whole, fraction, hreduced, ?_⟩, fun m' exponent' => ?_, expand_eq⟩
  · rw [Mantissa.text, expandDecimal_signed _ m.reduced.head_pointed, htext]
  rw [← hexact, ← hexact]
  refine ⟨congrArg denote, fun h => ?_⟩
  rw [denote_expandDecimal, denote_expandDecimal] at h
  have hm := scaled_pos m (exponent - m.fraction.length)
  have hm' := scaled_pos m' (exponent' - m'.fraction.length)
  have hsign : m.negative = m'.negative := by
    cases hneg : m.negative <;> cases hneg' : m'.negative <;> simp [hneg, hneg'] at h ⊢ <;> linarith
  have hscaled : (number m.digits : ℚ) * 10 ^ (exponent - m.fraction.length) =
      number m'.digits * 10 ^ (exponent' - m'.fraction.length) := by
    rw [hsign] at h
    refine mul_left_cancel₀ ?_ h
    split <;> norm_num
  obtain ⟨hdigits, hexponent⟩ := scaled_inj hscaled
  obtain ⟨hfirst, hfraction⟩ := cons.inj hdigits
  obtain rfl : m = m' := by
    cases m
    cases m'
    simp_all
  rw [sub_left_inj.mp hexponent]

end Ananke.Canonical
