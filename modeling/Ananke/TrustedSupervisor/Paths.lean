import Mathlib.Data.List.Basic

/-! Paths in the execution policy and in the sandbox profile: which of them overlap, and how
they are quoted. -/
namespace Ananke.TrustedSupervisor

open List

/-! ### Literals of the sandbox profile -/

/-- `strings.ReplaceAll` for a single byte. -/
def replaceAll (old : UInt8) (new v : List UInt8) : List UInt8 :=
  v.flatMap fun b => if b = old then new else [b]

def backslash : UInt8 := 92

def quote : UInt8 := 34

def sandboxLiteral (v : List UInt8) : List UInt8 :=
  replaceAll quote [backslash, quote] (replaceAll backslash [backslash, backslash] v)

/-- Reads on to the quote that ends a literal; a backslash makes the next byte literal. -/
def readLiteral : Bool → List UInt8 → Option (List UInt8 × List UInt8)
  | _, [] => none
  | escaped, b :: text =>
    if ¬ escaped ∧ b = quote then some ([], text)
    else if ¬ escaped ∧ b = backslash then readLiteral true text
    else (readLiteral false text).map fun (v, rest) => (b :: v, rest)

theorem sandboxLiteral_cons (b : UInt8) (v : List UInt8) : sandboxLiteral (b :: v) =
      (if b = quote ∨ b = backslash then [backslash, b] else [b]) ++ sandboxLiteral v := by
  have hne : backslash ≠ quote := by decide
  by_cases hb : b = backslash
  · simp [sandboxLiteral, replaceAll, hb, hne]
  · by_cases hq : b = quote
    · simp [sandboxLiteral, replaceAll, hq, hne.symm]
    · simp [sandboxLiteral, replaceAll, hb, hq]

theorem readLiteral_sandboxLiteral (v rest : List UInt8) :
    readLiteral false (sandboxLiteral v ++ quote :: rest) = some (v, rest) := by
  have hne : backslash ≠ quote := by decide
  induction v with
  | nil => simp [sandboxLiteral, replaceAll, readLiteral]
  | cons b v ih =>
    rw [sandboxLiteral_cons]
    split
    next hb => simp [readLiteral, ih, hne]
    next hb =>
      obtain ⟨hquote, hbackslash⟩ := not_or.mp hb
      simp [readLiteral, ih, hquote, hbackslash]

/-- A literal is read back as the path it was made of, up to its closing quote and no further, and
no two paths have one literal. -/
theorem sandbox_literal_read (v rest : List UInt8) :
    readLiteral false (sandboxLiteral v ++ quote :: rest) = some (v, rest) ∧
      Function.Injective sandboxLiteral := by
  refine ⟨readLiteral_sandboxLiteral v rest, fun v value' h => ?_⟩
  have hread := readLiteral_sandboxLiteral v []
  rw [h, readLiteral_sandboxLiteral] at hread
  simpa using hread.symm

/-! ### Paths that overlap -/

def separator : UInt8 := 47

def dot : UInt8 := 46

structure AbsolutePath where
  text : List UInt8
  absolute : text.head? = some separator

/-- What is left of an absolute path after one more element of it. -/
def cleanStep (cleaned : List (List UInt8)) (element : List UInt8) : List (List UInt8) :=
  if element = [] ∨ element = [dot] then cleaned
  else if element = [dot, dot] then cleaned.dropLast
  else cleaned ++ [element]

/-- `filepath.Clean` of an absolute path, as its components. -/
def AbsolutePath.clean (path : AbsolutePath) : List (List UInt8) :=
  (path.text.splitOn separator).foldl cleanStep []

/-- The elements of `filepath.Rel`: the way up from the base to what is common, and down. -/
def relElements : List (List UInt8) → List (List UInt8) → List (List UInt8)
  | b :: base, t :: target =>
    if b = t then relElements base target
    else (b :: base).map (fun _ => [dot, dot]) ++ t :: target
  | base, target => base.map (fun _ => [dot, dot]) ++ target

/-- `filepath.Rel`, which for absolute paths does not fail. -/
def rel (base target : List (List UInt8)) : List UInt8 :=
  if base = target then [dot] else [separator].intercalate (relElements base target)

/-- The relative path does not lead up. -/
def Inside (relative : List UInt8) : Prop :=
  relative ≠ [dot, dot] ∧ ¬ [dot, dot, separator] <+: relative

instance (relative : List UInt8) : Decidable (Inside relative) :=
  inferInstanceAs (Decidable (_ ∧ _))

def pathsOverlap (left right : AbsolutePath) : Bool :=
  left.clean = right.clean || Inside (rel left.clean right.clean) ||
    Inside (rel right.clean left.clean)

/-- A component of a cleaned path. -/
def Proper (element : List UInt8) : Prop :=
  element ≠ [] ∧ element ≠ [dot, dot] ∧ separator ∉ element

theorem not_mem_splitOn {text : List UInt8} :
    ∀ element ∈ text.splitOn separator, separator ∉ element := by
  induction text with
  | nil => simp
  | cons b text ih =>
    rw [splitOn_cons_eq_if_modifyHead]
    cases hsplit : text.splitOn separator with
    | nil => exact absurd hsplit (splitOn_ne_nil _ _)
    | cons first rest =>
      rw [hsplit] at ih
      split
      · simpa using ih
      next hb =>
        have hne : separator ≠ b := fun h => hb (by simp [h])
        simpa [hne] using ih

theorem proper_foldl {elements cleaned : List (List UInt8)}
    (helements : ∀ e ∈ elements, separator ∉ e) (hcleaned : ∀ e ∈ cleaned, Proper e) :
    ∀ e ∈ elements.foldl cleanStep cleaned, Proper e := by
  induction elements generalizing cleaned with
  | nil => exact hcleaned
  | cons element elements ih =>
    refine ih (fun e he => helements e (mem_cons_of_mem _ he)) fun e he => ?_
    unfold cleanStep at he
    split at he
    · exact hcleaned e he
    next hempty =>
      split at he
      · exact hcleaned e (dropLast_subset _ he)
      next hup =>
        rcases mem_append.mp he with he | he
        · exact hcleaned e he
        · rw [mem_singleton.mp he]
          exact ⟨fun h => hempty (.inl h), hup, helements element mem_cons_self⟩

theorem proper_clean (path : AbsolutePath) : ∀ element ∈ path.clean, Proper element :=
  proper_foldl not_mem_splitOn (by simp)

theorem inside_of_proper {element : List UInt8} {rest : List (List UInt8)} (h : Proper element) :
    Inside ([separator].intercalate (element :: rest)) := by
  obtain ⟨tail, htail, htext⟩ : ∃ tail : List UInt8,
    (tail = [] ∨ ∃ more, tail = separator :: more) ∧
      [separator].intercalate (element :: rest) = element ++ tail := by
    cases rest with
    | nil => exact ⟨[], .inl rfl, by simp⟩
    | cons next rest => exact ⟨_, .inr ⟨_, rfl⟩, by rw [intercalate_cons_cons, append_assoc]; rfl⟩
  have hne : dot ≠ separator := by decide
  obtain ⟨hempty, hup, hmem⟩ := h
  rw [htext]
  -- up to three bytes decide
  rcases element with _ | ⟨a, _ | ⟨b, _ | ⟨c, element⟩⟩⟩
  · exact absurd rfl hempty
  · rcases htail with rfl | ⟨more, rfl⟩ <;> simp [Inside, hne, hne.symm]
  · rcases htail with rfl | ⟨more, rfl⟩
    · simpa [Inside] using hup
    · refine ⟨by simp, fun hprefix => hup ?_⟩
      obtain ⟨rfl, rfl⟩ : dot = a ∧ dot = b := by simpa using hprefix
      rfl
  · simp_all [Inside]

theorem not_inside_of_up {rest : List (List UInt8)} :
    ¬ Inside ([separator].intercalate ([dot, dot] :: rest)) := by
  cases rest <;> simp [Inside]

/-- The relative path leads down where the base is a beginning of the target. -/
theorem inside_relElements {base target : List (List UInt8)} (hne : base ≠ target)
    (h : ∀ element ∈ target, Proper element) :
    Inside ([separator].intercalate (relElements base target)) ↔ base <+: target := by
  fun_induction relElements base target with
  | case1 base target b ih => simp_all
  | case2 b base t target hbt =>
    simp only [map_cons, cons_append, not_inside_of_up, false_iff, cons_prefix_cons]
    exact fun hprefix => hbt hprefix.1
  | case3 base target hcases =>
    cases base with
    | nil =>
      cases target with
      | nil => exact absurd rfl hne
      | cons t target => simpa using inside_of_proper (h t mem_cons_self)
    | cons b base =>
      cases target with
      | nil => simpa using not_inside_of_up
      | cons t target => exact absurd rfl (hcases b base t target rfl)

theorem paths_overlap_iff (left right : AbsolutePath) :
    (pathsOverlap left right = true ↔ left.clean <+: right.clean ∨ right.clean <+: left.clean) ∧
      pathsOverlap left right = pathsOverlap right left := by
  have hiff : ∀ left right : AbsolutePath, pathsOverlap left right = true ↔
      left.clean <+: right.clean ∨ right.clean <+: left.clean := by
    intro left right
    by_cases hclean : left.clean = right.clean
    · simp [pathsOverlap, hclean]
    · simp only [pathsOverlap, hclean, rel, Ne.symm hclean, Bool.or_eq_true, decide_eq_true_eq,
        if_false, false_or, inside_relElements hclean (proper_clean right),
        inside_relElements (Ne.symm hclean) (proper_clean left)]
  refine ⟨hiff left right, ?_⟩
  rw [Bool.eq_iff_iff, hiff, hiff, or_comm]

end Ananke.TrustedSupervisor
