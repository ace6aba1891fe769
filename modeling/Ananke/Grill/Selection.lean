import Ananke.Grill.Rules

/-! What one evaluation shows: the questions that were asked before and are active again, and
as many new ones as the bounds leave room for. -/
namespace Ananke.Grill

open List

theorem priorities_increase :
    grillRules.Pairwise fun left right => left.priority < right.priority := by decide

theorem priority_injOn : ∀ a ∈ grillRules, ∀ b ∈ grillRules, a.priority = b.priority → a = b := by
  decide

theorem ruleClass_injOn : ∀ a ∈ grillRules, ∀ b ∈ grillRules, a.ruleClass = b.ruleClass →
    a = b := by
  decide

variable {active : List GrillRule} {old : List String} {prior : Int}

theorem newRules_subset : newRules active old prior ⊆ available active old :=
  take_subset _ _

variable {rule : GrillRule}

theorem mem_available : rule ∈ available active old ↔ rule ∈ active ∧ rule.ruleClass ∉ old := by
  simp [available]

theorem mem_alreadyShown :
    rule ∈ alreadyShown active old ↔ rule ∈ active ∧ rule.ruleClass ∈ old := by
  simp [alreadyShown]

theorem mem_shownRules : rule ∈ shownRules active old prior ↔
    rule ∈ active ∧ (rule.ruleClass ∈ old ∨ rule ∈ newRules active old prior) := by
  rw [shownRules, mem_insertionSort, mem_append, mem_alreadyShown]
  constructor
  · rintro (⟨hactive, hexist⟩ | hnew)
    · exact ⟨hactive, .inl hexist⟩
    · exact ⟨(mem_available.mp (newRules_subset hnew)).1, .inr hnew⟩
  · rintro ⟨hactive, hexist | hnew⟩
    · exact .inl ⟨hactive, hexist⟩
    · exact .inr hnew

variable (active old prior) in
theorem length_shownRules : (shownRules active old prior).length =
    (alreadyShown active old).length + (newRules active old prior).length := by
  rw [shownRules, length_insertionSort, length_append]

variable (active old prior) in
theorem length_newRules : ((newRules active old prior).length : Int) =
    max 0 (min 5 (min (10 - prior) (min (5 - (alreadyShown active old).length)
      (available active old).length))) := by
  rw [newRules, length_take]
  simp only [newLimit, minGrill, foldl_cons, foldl_nil]
  grind

section

variable (hactive : active.Sublist grillRules)

include hactive

theorem shownRules_subset {rule : GrillRule} (h : rule ∈ shownRules active old prior) :
    rule ∈ grillRules :=
  hactive.subset (mem_shownRules.mp h).1

theorem nodup_selected : (alreadyShown active old ++ newRules active old prior).Nodup := by
  have hnodup : active.Nodup := hactive.nodup (by decide)
  refine nodup_append.mpr ⟨hnodup.filter _, (hnodup.filter _).sublist (take_sublist _ _), ?_⟩
  rintro rule hshown _ hnew rfl
  exact (mem_available.mp (newRules_subset hnew)).2 (mem_alreadyShown.mp hshown).2

theorem shownRules_eq_filter : shownRules active old prior = active.filter fun rule =>
    old.contains rule.ruleClass || (newRules active old prior).contains rule := by
  have hnodup : active.Nodup := hactive.nodup (by decide)
  have htotal : Std.Total fun left right : GrillRule => left.priority ≤ right.priority :=
    ⟨fun left right => Nat.le_total left.priority right.priority⟩
  have htrans : IsTrans GrillRule fun left right => left.priority ≤ right.priority :=
    ⟨fun _ _ _ => Nat.le_trans⟩
  have hsorted : (shownRules active old prior).Pairwise
      fun left right => left.priority ≤ right.priority := pairwise_insertionSort _ _
  have hord := (priorities_increase.sublist hactive).imp Nat.le_of_lt
  refine List.Perm.eq_of_pairwise ?_ hsorted (hord.filter _) ?_
  · intro a b ha hb hab hba
    exact priority_injOn a (shownRules_subset hactive ha) b
      (hactive.subset (mem_of_mem_filter hb)) (Nat.le_antisymm hab hba)
  · refine (perm_ext_iff_of_nodup ?_ (hnodup.filter _)).mpr ?_
    · exact (perm_insertionSort _ _).nodup_iff.mpr (nodup_selected hactive)
    · intro rule
      simp [mem_shownRules]

/-- Shown or deferred: each active class is one of the two. -/
theorem shown_deferred_perm : ((shownRules active old prior).map GrillRule.ruleClass ++
    (deferredRules active old prior).map GrillRule.ruleClass).Perm
      (active.map GrillRule.ruleClass) := by
  have hdeferred : deferredRules active old prior = active.filter fun rule =>
      !(old.contains rule.ruleClass || (newRules active old prior).contains rule) := by
    refine filter_congr fun rule hrule => ?_
    have hmem : rule.ruleClass ∈ (shownRules active old prior).map GrillRule.ruleClass ↔
        rule ∈ shownRules active old prior := by
      refine ⟨fun h => ?_, fun h => mem_map_of_mem h⟩
      obtain ⟨rule', hrule', heq⟩ := mem_map.mp h
      rwa [← ruleClass_injOn rule' (shownRules_subset hactive hrule') rule
        (hactive.subset hrule) heq]
    rw [mem_shownRules] at hmem
    simp only [contains_eq_mem, hmem, hrule, true_and]
    simp
  rw [shownRules_eq_filter hactive, hdeferred, ← map_append]
  exact (filter_append_perm _ active).map _

theorem length_shownRules_le_iff : (shownRules active old prior).length ≤ 5 ↔
    ¬ ∀ rule ∈ grillRules, rule ∈ active ∧ rule.ruleClass ∈ old := by
  have hlen := length_shownRules active old prior
  have hnew := length_newRules active old prior
  have hsublist : (alreadyShown active old).Sublist grillRules :=
    filter_sublist.trans hactive
  have hsix : grillRules.length = 6 := rfl
  constructor
  · intro hle hall
    have hsubset : grillRules ⊆ alreadyShown active old := fun rule hrule =>
      mem_alreadyShown.mpr (hall rule hrule)
    have hperm := (subperm_of_subset (by decide) hsubset).length_le
    omega
  · intro hnot
    have hne : (alreadyShown active old).length ≠ 6 := by
      intro heq
      refine hnot fun rule hrule => mem_alreadyShown.mp ?_
      rwa [hsublist.eq_of_length (heq.trans hsix.symm)]
    have hle := hsublist.length_le
    omega

variable {existing' : List String} {prior' : Int}

/-- Once what was shown has been asked, nothing is left to ask. -/
theorem newRules_again (hexist : ∀ rule ∈ active, rule.ruleClass ∈ existing' ↔
      rule.ruleClass ∈ old ∨ rule ∈ newRules active old prior)
    (hroom : prior + (available active old).length ≤ 10) :
    newRules active existing' prior' = [] ∧
      alreadyShown active existing' = shownRules active old prior := by
  have hshown : alreadyShown active existing' = shownRules active old prior := by
    rw [shownRules_eq_filter hactive]
    refine filter_congr fun rule hrule => ?_
    simp [hexist rule hrule]
  have htotal : (alreadyShown active existing').length + (available active existing').length =
      (alreadyShown active old).length + (available active old).length := by
    have hsplit (es : List String) :
        (alreadyShown active es).length + (available active es).length = active.length := by
      rw [← length_append]
      exact (filter_append_perm _ active).length_eq
    rw [hsplit, hsplit]
  have hlen := length_shownRules active old prior
  have hnew := length_newRules active old prior
  have hnew' := length_newRules active existing' prior'
  rw [hshown] at hnew' htotal
  refine ⟨eq_nil_of_length_eq_zero ?_, hshown⟩
  omega

omit hactive in
theorem shownRules_again (h : newRules active existing' prior' = [] ∧
      alreadyShown active existing' = shownRules active old prior) :
    shownRules active existing' prior' = shownRules active old prior := by
  have htotal : Std.Total fun left right : GrillRule => left.priority ≤ right.priority :=
    ⟨fun left right => Nat.le_total left.priority right.priority⟩
  have htrans : IsTrans GrillRule fun left right => left.priority ≤ right.priority :=
    ⟨fun _ _ _ => Nat.le_trans⟩
  rw [shownRules, h.1, h.2, append_nil]
  exact (pairwise_insertionSort _ _).insertionSort_eq

end

end Ananke.Grill
