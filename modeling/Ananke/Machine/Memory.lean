import Mathlib.Data.List.Basic

/-! Arrays that are shared through slices. A caller reaches some of the arrays, and whoever is
called keeps private copies of what it reads there. -/
namespace Ananke.Machine

open List

variable {α : Type}

/-- A part of an array, named by the address of the array. -/
structure Slice where
  (array offset length : Nat)

/-- The arrays, by their address, and the addresses that the caller holds. -/
structure Memory (α : Type) where
  arrays : List (List α)
  shared : List Nat
  bounded : ∀ address ∈ shared, address < arrays.length

namespace Memory

def empty : Memory α := ⟨[], [], by simp⟩

variable (m : Memory α)

def read (s : Slice) : List α :=
  ((m.arrays[s.array]?.getD []).drop s.offset).take s.length

/-- An array that the caller makes. -/
def share (xs : List α) : Memory α where
  arrays := m.arrays ++ [xs]
  shared := m.arrays.length :: m.shared
  bounded := by
    intro address h
    rcases mem_cons.mp h with rfl | h
    · simp
    · have := m.bounded address h
      simp only [length_append]
      omega

/-- The caller assigns to an element of an array that it holds. -/
def write (address index : Nat) (x : α) : Memory α where
  arrays := if address ∈ m.shared then m.arrays.modify address (·.set index x) else m.arrays
  shared := m.shared
  bounded := by
    intro a h
    have := m.bounded a h
    split <;> simpa

/-- `append([]T(nil), s...)`: a fresh array that the caller does not hold. -/
def clone (s : Slice) : Memory α × Slice :=
  (⟨m.arrays ++ [m.read s], m.shared, by
      intro address h
      have := m.bounded address h
      simp only [length_append]
      omega⟩,
    ⟨m.arrays.length, 0, (m.read s).length⟩)

/-- The caller does not hold the array of the slice. -/
def Private (s : Slice) : Prop := s.array < m.arrays.length ∧ s.array ∉ m.shared

/-- What is private stays private, and reads the same. -/
def Keeps (m m' : Memory α) : Prop := ∀ s, m.Private s → m'.Private s ∧ m'.read s = m.read s

variable {m m' m'' : Memory α}

theorem Keeps.refl (m : Memory α) : m.Keeps m := fun _ h => ⟨h, rfl⟩

theorem Keeps.trans (h : m.Keeps m') (h' : m'.Keeps m'') : m.Keeps m'' := by
  intro s hs
  obtain ⟨hpriv, hread⟩ := h s hs
  obtain ⟨hpriv', hread'⟩ := h' s hpriv
  exact ⟨hpriv', hread'.trans hread⟩

theorem read_snoc {s : Slice} {xs : List α} {shared : List Nat}
    {hbounded : ∀ address ∈ shared, address < (m.arrays ++ [xs]).length}
    (h : s.array < m.arrays.length) :
    (⟨m.arrays ++ [xs], shared, hbounded⟩ : Memory α).read s = m.read s := by
  simp only [read, List.getElem?_append_left h]

theorem read_clone_of_lt (m : Memory α) (s : Slice) {t : Slice} (h : t.array < m.arrays.length) :
    (m.clone s).1.read t = m.read t := read_snoc h

theorem keeps_share (m : Memory α) (xs : List α) : m.Keeps (m.share xs) := by
  rintro s ⟨hlt, hshared⟩
  refine ⟨⟨?_, ?_⟩, read_snoc hlt⟩
  · simp only [share, length_append]
    omega
  · have hne : s.array ≠ m.arrays.length := by omega
    simp [share, hshared, hne]

theorem keeps_write (m : Memory α) (address index : Nat) (x : α) :
    m.Keeps (m.write address index x) := by
  rintro s ⟨_, hshared⟩
  have hother (h : address ∈ m.shared) : address ≠ s.array := by
    rintro rfl
    exact hshared h
  refine ⟨⟨?_, hshared⟩, ?_⟩
  · simp only [write]
    split <;> simpa
  · simp only [write, read]
    split
    next h => rw [List.getElem?_modify_ne _ _ (hother h)]
    · rfl

theorem keeps_clone (m : Memory α) (s : Slice) : m.Keeps (m.clone s).1 := by
  rintro _ ⟨hlt, hshared⟩
  refine ⟨⟨?_, hshared⟩, read_snoc hlt⟩
  simp only [clone, length_append]
  omega

theorem private_clone (m : Memory α) (s : Slice) : (m.clone s).1.Private (m.clone s).2 := by
  refine ⟨by simp [clone], ?_⟩
  intro h
  exact absurd (m.bounded _ h) (Nat.lt_irrefl _)

theorem read_clone (m : Memory α) (s : Slice) : (m.clone s).1.read (m.clone s).2 = m.read s := by
  have hlast : (m.arrays ++ [m.read s])[m.arrays.length]? = some (m.read s) := by simp
  rw [clone, read, hlast, Option.getD_some, drop_zero, take_length]

end Memory

end Ananke.Machine
