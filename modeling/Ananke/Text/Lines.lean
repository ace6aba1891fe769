import Mathlib.Data.List.Basic

/-! Byte streams cut into lines. A line keeps its terminator, and a rest without one counts
as a line too, so the lines of a stream always add up to the stream. -/
namespace Ananke.Text

open List

variable {α : Type} [DecidableEq α] {nl : α} {a b line : List α}

def lines (nl : α) : List α → List (List α)
  | [] => []
  | c :: rest =>
    if c = nl then [c] :: lines nl rest
    else match lines nl rest with
      | [] => [[c]]
      | l :: ls => (c :: l) :: ls

/-- Each line with the offset at which it ends, the first starting at `start`. -/
def withEnds (start : Nat) : List (List α) → List (List α × Nat)
  | [] => []
  | l :: ls => (l, start + l.length) :: withEnds (start + l.length) ls

/-- The stream ends where a line ends. -/
def AtLineEnd (nl : α) (a : List α) : Prop := a = [] ∨ a.getLast? = some nl

/-- One line: not empty, its only terminator at its end. -/
def IsLine (nl : α) (line : List α) : Prop := line ≠ [] ∧ nl ∉ line.dropLast

theorem flatten_lines (a : List α) : (lines nl a).flatten = a := by
  induction a with
  | nil => rfl
  | cons c rest ih =>
    unfold lines
    split
    · simp [ih]
    · split
      next h =>
        rw [h] at ih
        simp [← ih]
      next l ls h =>
        rw [h] at ih
        simp [← ih]

theorem lines_append (h : AtLineEnd nl a) : lines nl (a ++ b) = lines nl a ++ lines nl b := by
  induction a with
  | nil => rfl
  | cons c rest ih =>
    have hrest : AtLineEnd nl rest ∨ rest = [] ∧ c = nl := by
      rcases h with h | h
      · cases h
      · cases rest with
        | nil => exact .inr ⟨rfl, by simpa using h⟩
        | cons d rest => exact .inl (.inr (by simpa using h))
    rcases hrest with hrest | ⟨rfl, rfl⟩
    · have hcut := ih hrest
      simp only [cons_append, lines, hcut]
      split
      · simp
      next hc =>
        cases hl : lines nl rest with
        | cons l ls => simp
        | nil =>
          -- nothing is left of the first part, so it ended with this very symbol
          have hnil : rest = [] := by
            have hflat : (lines nl rest).flatten = rest := flatten_lines rest
            simpa [hl] using hflat.symm
          subst hnil
          rcases h with h | h
          · cases h
          · exact absurd (by simpa using h) hc
    · simp [lines]

theorem lines_of_isLine (h : IsLine nl line) : lines nl line = [line] := by
  obtain ⟨hne, hnl⟩ := h
  induction line with
  | nil => exact absurd rfl hne
  | cons c rest ih =>
    cases rest with
    | nil => simp [lines]
    | cons d rest =>
      have hparts : c ≠ nl ∧ nl ∉ (d :: rest).dropLast := by
        simp only [dropLast_cons_cons, mem_cons, not_or] at hnl
        exact ⟨fun h => hnl.1 h.symm, hnl.2⟩
      have htail := ih (by simp) hparts.2
      rw [lines, if_neg hparts.1, htail]

/-- Reading on from the end of a line adds one line. -/
theorem lines_snoc (ha : AtLineEnd nl a) (hl : IsLine nl line) :
    lines nl (a ++ line) = lines nl a ++ [line] := by
  rw [lines_append ha, lines_of_isLine hl]

omit [DecidableEq α] in
theorem withEnds_append {start : Nat} {ls ms : List (List α)} :
    withEnds start (ls ++ ms) = withEnds start ls ++ withEnds (start + ls.flatten.length) ms := by
  induction ls generalizing start with
  | nil => simp [withEnds]
  | cons l ls ih => simp [withEnds, ih, Nat.add_assoc]

/-- The lines of a stream with their end offsets. -/
def numbered (nl : α) (a : List α) : List (List α × Nat) := withEnds 0 (lines nl a)

theorem numbered_snoc (ha : AtLineEnd nl a) (hl : IsLine nl line) :
    numbered nl (a ++ line) = numbered nl a ++ [(line, a.length + line.length)] := by
  rw [numbered, lines_snoc ha hl, withEnds_append, flatten_lines]
  simp [numbered, withEnds]

/-- What a buffered read up to the terminator returns from a position whose rest is `a`:
a whole line, all that is left at the end of the file, or a part before an error. -/
inductive ReadEnd
  | complete
  | eof
  | failed
deriving DecidableEq

def IsRead (nl : α) (a line : List α) : ReadEnd → Prop
  | .complete => line.getLast? = some nl ∧ nl ∉ line.dropLast ∧ line <+: a
  | .eof => line = a ∧ nl ∉ line
  | .failed => nl ∉ line ∧ line <+: a

omit [DecidableEq α] in
theorem isLine_of_isRead {e : ReadEnd} (h : IsRead nl a line e) (hne : line ≠ []) :
    IsLine nl line ∧ line <+: a := by
  cases e with
  | complete => exact ⟨⟨hne, h.2.1⟩, h.2.2⟩
  | eof =>
    obtain ⟨rfl, hnl⟩ := h
    exact ⟨⟨hne, fun hm => hnl ((dropLast_subset _) hm)⟩, prefix_refl _⟩
  | failed => exact ⟨⟨hne, fun hm => h.1 ((dropLast_subset _) hm)⟩, h.2⟩

omit [DecidableEq α] in
theorem atLineEnd_append (h : line.getLast? = some nl) : AtLineEnd nl (a ++ line) := by
  right
  rw [List.getLast?_append, h]
  rfl

end Ananke.Text
