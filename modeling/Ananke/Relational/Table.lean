import Mathlib.Data.List.Basic

/-! Tables as lists of rows in insertion order, addressed by a key column. -/
namespace Ananke.Relational

open List

theorem nodup_snoc {ρ κ : Type} {key : ρ → κ} {rows : List ρ} {r : ρ}
    (hkeys : (rows.map key).Nodup) (hr : key r ∉ rows.map key) :
    ((rows ++ [r]).map key).Nodup := by
  rw [map_append, nodup_append]
  refine ⟨hkeys, by simp, ?_⟩
  rintro a ha b hb rfl
  simp only [map_cons, map_nil, mem_singleton] at hb
  exact hr (hb ▸ ha)

variable {ρ κ : Type} [DecidableEq κ] (key : ρ → κ)

/-- `SELECT … WHERE key = k`, first row. -/
def select (k : κ) (rows : List ρ) : Option ρ := rows.find? (fun r => key r = k)

/-- `UPDATE … SET … WHERE key = k`. -/
def update (k : κ) (f : ρ → ρ) (rows : List ρ) : List ρ :=
  rows.map fun r => if key r = k then f r else r

/-- All rows with the key, in insertion order. -/
def rowsOf (k : κ) (rows : List ρ) : List ρ := rows.filter (fun r => key r = k)

variable {key} {k k' : κ} {r : ρ} {rows : List ρ} {f : ρ → ρ}

theorem mem_snoc {rows : List ρ} {r r' : ρ} : r ∈ rows ++ [r'] ↔ r ∈ rows ∨ r = r' := by
  rw [mem_append, mem_singleton]

theorem forall_snoc {rows : List ρ} {r : ρ} {P : ρ → Prop} :
    (∀ r' ∈ rows ++ [r], P r') ↔ (∀ r' ∈ rows, P r') ∧ P r := by
  rw [forall_mem_append, forall_mem_singleton]

theorem key_of_select (h : select key k rows = some r) : key r = k := by
  simpa using List.find?_some h

theorem select_eq_none : select key k rows = none ↔ k ∉ rows.map key := by
  simp [select]

omit [DecidableEq κ] in
theorem not_mem_keys (h : ∀ r ∈ rows, key r ≠ k) : k ∉ rows.map key := by
  simpa using h

/-- Under a primary key every row is the one its key selects. -/
theorem select_of_mem (hkeys : (rows.map key).Nodup) (hr : r ∈ rows) :
    select key (key r) rows = some r := by
  induction rows with
  | nil => simp at hr
  | cons r' rows ih =>
    obtain ⟨hfresh, hrest⟩ := nodup_cons.mp hkeys
    rcases mem_cons.mp hr with rfl | hr
    · simp [select]
    · have hne : key r' ≠ key r := fun he => hfresh (he ▸ mem_map_of_mem hr)
      simpa [select, hne] using ih hrest hr

/-- A key that can be `NULL` still selects the row that has it. -/
theorem select_of_key {key : ρ → Option κ} {k : κ} (hkeys : (rows.filterMap key).Nodup)
    (hr : r ∈ rows) (hk : key r = some k) : select key (some k) rows = some r := by
  induction rows with
  | nil => simp at hr
  | cons r' rows ih =>
    rcases mem_cons.mp hr with rfl | hr
    · simp [select, hk]
    · have hne : key r' ≠ some k := by
        intro he
        rw [filterMap_cons_some he, nodup_cons] at hkeys
        exact hkeys.1 (mem_filterMap.mpr ⟨r, hr, hk⟩)
      have hrest := hkeys.sublist ((sublist_cons_self r' rows).filterMap key)
      simpa [select, hne] using ih hrest hr

section

variable (hf : ∀ r, key (f r) = key r)
include hf

theorem keys_update : (update key k f rows).map key = rows.map key := by
  simp only [update, map_map]
  refine map_congr_left fun r _ => ?_
  simp only [Function.comp]
  split
  · exact hf r
  · rfl

theorem select_update : select key k (update key k f rows) = (select key k rows).map f := by
  induction rows with
  | nil => rfl
  | cons r rows ih =>
    by_cases hr : key r = k
    · simp [select, update, hr, hf]
    · simpa [select, update, hr] using ih

theorem select_update_of_ne (hk : k' ≠ k) :
    select key k' (update key k f rows) = select key k' rows := by
  induction rows with
  | nil => rfl
  | cons r rows ih =>
    by_cases hr : key r = k
    · have hne : key r ≠ k' := fun he => hk (he.symm.trans hr)
      simpa [select, update, hr, hf, hne, hk.symm] using ih
    · by_cases hr' : key r = k'
      · subst hr'
        simp [select, update, hr]
      · simpa [select, update, hr, hr'] using ih

end

/-- An insertion is seen under its own key only, behind the rows already there. -/
theorem select_append : select key k (rows ++ [r]) =
    (select key k rows).or (if key r = k then some r else none) := by
  by_cases hr : key r = k <;> simp [select, hr]

theorem select_snoc_some {r' : ρ} (h : select key k rows = some r') :
    select key k (rows ++ [r]) = some r' := by
  rw [select_append, h]
  rfl

/-- Two rows under one primary key are the same row. -/
theorem eq_of_key_eq {r' : ρ} (hkeys : (rows.map key).Nodup) (hr : r ∈ rows) (hr' : r' ∈ rows)
    (he : key r = key r') : r = r' := by
  have hs := select_of_mem hkeys hr
  rw [he, select_of_mem hkeys hr'] at hs
  exact (Option.some.inj hs).symm

theorem rowsOf_eq_nil (h : ∀ r ∈ rows, key r ≠ k) : rowsOf key k rows = [] := by
  simpa [rowsOf] using h

theorem rowsOf_append {rows' : List ρ} :
    rowsOf key k (rows ++ rows') = rowsOf key k rows ++ rowsOf key k rows' := filter_append ..

/-- Under a primary key every row is the only one of its key. -/
theorem rowsOf_of_mem (hkeys : (rows.map key).Nodup) (hr : r ∈ rows) :
    rowsOf key (key r) rows = [r] := by
  induction rows with
  | nil => cases hr
  | cons r' rows ih =>
    obtain ⟨hfresh, hrest⟩ := nodup_cons.mp hkeys
    rcases mem_cons.mp hr with rfl | hr
    · have hnone : rowsOf key (key r) rows = [] := rowsOf_eq_nil fun r' hr' he =>
        hfresh (mem_map.mpr ⟨r', hr', he⟩)
      simpa [rowsOf] using hnone
    · have hne : key r' ≠ key r := fun he => hfresh (he ▸ mem_map_of_mem hr)
      simpa [rowsOf, hne] using ih hrest hr

theorem rowsOf_snoc (hr : key r = k) : rowsOf key k (rows ++ [r]) = rowsOf key k rows ++ [r] := by
  simp [rowsOf, hr]

theorem rowsOf_snoc_ne (hr : key r ≠ k) : rowsOf key k (rows ++ [r]) = rowsOf key k rows := by
  simp [rowsOf, hr]

theorem rowsOf_update (hf : ∀ r, key (f r) = key r) :
    rowsOf key k (update key k f rows) = (rowsOf key k rows).map f := by
  induction rows with
  | nil => rfl
  | cons r rows ih =>
    by_cases hr : key r = k
    · simpa [rowsOf, update, hr, hf] using ih
    · simpa [rowsOf, update, hr] using ih

theorem rowsOf_update_of_ne (hf : ∀ r, key (f r) = key r) (hk : k' ≠ k) :
    rowsOf key k' (update key k f rows) = rowsOf key k' rows := by
  induction rows with
  | nil => rfl
  | cons r rows ih =>
    by_cases hr : key r = k
    · simpa [rowsOf, update, hr, hf, hk.symm] using ih
    · by_cases hr' : key r = k'
      · subst hr'
        simpa [rowsOf, update, hr] using ih
      · simpa [rowsOf, update, hr, hr'] using ih

theorem update_rowsOf : update key k f (rowsOf key k rows) = (rowsOf key k rows).map f :=
  map_congr_left fun _ hr => if_pos (of_decide_eq_true (mem_filter.mp hr).2)

end Ananke.Relational
