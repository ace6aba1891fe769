import Ananke.Json.KeyOrder

/-! Trees of JSON, and the encoders that append them to a buffer in a canonical form: no white
space, every object's members in the order of their keys. -/
namespace Ananke.Json

open List

instance (priority := high) decEqByteArray : DecidableEq ByteArray := ByteArray.instDecidableEq

/-- A string of bytes: the text it encodes, or bytes that are not UTF-8. -/
inductive ByteString
  | text (s : String)
  | broken (bytes : ByteArray) (invalid : ¬ bytes.IsValidUTF8)
deriving DecidableEq

/-- A decoded tree. A number is its literal. -/
inductive Tree
  | null
  | bool (b : Bool)
  | string (s : ByteString)
  | number (raw : String)
  | array (elements : List Tree)
  | object (members : List (ByteString × Tree))

/-- Induction over trees, where the parts of an array or an object are its members. -/
@[elab_as_elim]
theorem Tree.induct {motive : Tree → Prop} (null : motive .null) (bool : ∀ b, motive (.bool b))
    (string : ∀ s, motive (.string s)) (number : ∀ raw, motive (.number raw))
    (array : ∀ elements, (∀ x ∈ elements, motive x) → motive (.array elements))
    (object : ∀ members, (∀ m ∈ members, motive (Prod.snd m)) → motive (.object members))
    (t : Tree) : motive t :=
  Tree.rec (motive_1 := motive) (motive_2 := fun xs => ∀ x ∈ xs, motive x)
    (motive_3 := fun ms => ∀ m ∈ ms, motive (Prod.snd m)) (motive_4 := fun m => motive m.2)
    null bool string number array object (fun _ h => absurd h not_mem_nil)
    (fun _ _ hx hxs => forall_mem_cons.mpr ⟨hx, hxs⟩) (fun _ h => absurd h not_mem_nil)
    (fun _ _ hm hms => forall_mem_cons.mpr ⟨hm, hms⟩) (fun _ _ h => h) t

mutual
/-- Every string and every key of the tree passes. -/
def Tree.all (P : ByteString → Bool) : Tree → Bool
  | .string s => P s
  | .array elements => Tree.allElements P elements
  | .object members => Tree.allMembers P members
  | _ => true

def Tree.allElements (P : ByteString → Bool) : List Tree → Bool
  | [] => true
  | x :: xs => x.all P && Tree.allElements P xs

def Tree.allMembers (P : ByteString → Bool) : List (ByteString × Tree) → Bool
  | [] => true
  | (key, x) :: ms => P key && x.all P && Tree.allMembers P ms
end

mutual
/-- No object of the tree has a key twice. -/
def Tree.distinct : Tree → Bool
  | .array elements => Tree.distinctElements elements
  | .object members => decide (members.map Prod.fst).Nodup && Tree.distinctMembers members
  | _ => true

def Tree.distinctElements : List Tree → Bool
  | [] => true
  | x :: xs => x.distinct && Tree.distinctElements xs

def Tree.distinctMembers : List (ByteString × Tree) → Bool
  | [] => true
  | (_, x) :: ms => x.distinct && Tree.distinctMembers ms
end

section

variable {P : ByteString → Bool} {elements : List Tree} {members : List (ByteString × Tree)}

theorem Tree.allElements_iff :
    Tree.allElements P elements = true ↔ ∀ x ∈ elements, x.all P = true := by
  induction elements with
  | nil => simp [Tree.allElements]
  | cons x xs ih => simp [Tree.allElements, ih]

theorem Tree.allMembers_iff : Tree.allMembers P members = true ↔
      ∀ m ∈ members, P m.1 = true ∧ m.2.all P = true := by
  induction members with
  | nil => simp [Tree.allMembers]
  | cons m ms ih => simp [Tree.allMembers, ih]

theorem Tree.distinctElements_iff :
    Tree.distinctElements elements = true ↔ ∀ x ∈ elements, x.distinct = true := by
  induction elements with
  | nil => simp [Tree.distinctElements]
  | cons x xs ih => simp [Tree.distinctElements, ih]

theorem Tree.distinctMembers_iff :
    Tree.distinctMembers members = true ↔ ∀ m ∈ members, m.2.distinct = true := by
  induction members with
  | nil => simp [Tree.distinctMembers]
  | cons m ms ih => simp [Tree.distinctMembers, ih]

end

/-- Appends to a buffer, or fails. -/
abbrev Appender (ε : Type) := List Char → Except ε (List Char)

variable {ε ε' α : Type}

/-- One after the other, with a comma in front of all that do not come first. -/
def separated : List (Appender ε) → Nat → Appender ε
  | [], _, out => .ok out
  | f :: fs, index, out => do
    let out ← f (if index > 0 then out ++ [','] else out)
    separated fs (index + 1) out

/-- A loop that does this is this one. -/
theorem separated_eq {f : α → Appender ε} {g : List α → Nat → Appender ε}
    (hnil : ∀ index out, g [] index out = .ok out)
    (hcons : ∀ a l index out, g (a :: l) index out = do
      let out ← f a (if index > 0 then out ++ [','] else out)
      g l (index + 1) out) (l : List α) :
    g l = separated (l.map f) := by
  induction l with
  | nil => exact funext fun index => funext (hnil index)
  | cons a l ih =>
    funext index out
    rw [hcons, ih, map_cons, separated]

theorem map_eq {β : Type} {f : α → β} {g : List α → List β} (hnil : g [] = [])
    (hcons : ∀ a l, g (a :: l) = f a :: g l) (l : List α) : g l = l.map f := by
  induction l with
  | nil => exact hnil
  | cons a l ih => rw [hcons, ih, map_cons]

/-- One member of an object: its key, a colon and its value, where the key has one. -/
def member (string : ByteString → Appender ε) (values : List (ByteString × Appender ε))
    (key : ByteString) : Appender ε := fun out => do
  let out ← string key out
  (values.lookup key).getD .ok (out ++ [':'])

/-- A loop that appends one member after the other. -/
theorem members_eq {string : ByteString → Appender ε} {values : List (ByteString × Appender ε)}
    {g : List ByteString → Nat → Appender ε} (hnil : ∀ index out, g [] index out = .ok out)
    (hcons : ∀ key keys index out, g (key :: keys) index out = do
      let out ← string key (if index > 0 then out ++ [','] else out)
      let out ← (values.lookup key).getD .ok (out ++ [':'])
      g keys (index + 1) out) (keys : List ByteString) :
    g keys = separated (keys.map (member string values)) :=
  separated_eq hnil (fun key keys index out => by rw [hcons, member, bind_assoc]) keys

/-- A function that appends trees as a canonical encoder does: what it calls for strings, numbers
and keys is its own, and the rest is as here. -/
structure Encoder (ε : Type) where
  value : Tree → Appender ε
  string : ByteString → Appender ε
  number : String → Except ε (List Char)
  less : ByteString → ByteString → Bool
  sorter : Sorter ByteString
  null_eq : ∀ output, value .null output = .ok (output ++ "null".toList)
  bool_eq : ∀ b output, value (.bool b) output =
    .ok (output ++ if b then "true".toList else "false".toList)
  string_eq : ∀ s, value (.string s) = string s
  number_eq : ∀ raw output, value (.number raw) output = do
    let text ← number raw
    pure (output ++ text)
  array_eq : ∀ elements output, value (.array elements) output = do
    let output ← separated (elements.map value) 0 (output ++ ['['])
    pure (output ++ [']'])
  object_eq : ∀ members output, value (.object members) output = do
    let values := members.map fun m => (m.1, value m.2)
    let output ← separated ((sorter.sort less (members.map Prod.fst)).map (member string values))
      0 (output ++ ['{'])
    pure (output ++ ['}'])

theorem lookup_of_mem {β : Type} [DecidableEq α] {values : List (α × β)} {m : α × β}
    (hdist : (values.map Prod.fst).Nodup) (hm : m ∈ values) : values.lookup m.1 = some m.2 := by
  induction values with
  | nil => exact absurd hm not_mem_nil
  | cons x xs ih =>
    simp only [map_cons, nodup_cons] at hdist
    obtain rfl | hm := mem_cons.mp hm
    · exact lookup_cons_self
    · have hne : m.1 ≠ x.1 := by
        intro heq
        exact hdist.1 (heq ▸ mem_map_of_mem hm)
      rw [lookup_cons, beq_false_of_ne hne]
      exact ih hdist.2 hm

theorem toOption_bind {β : Type} (x : Except ε α) (f : α → Except ε β) :
    (x >>= f).toOption = x.toOption.bind fun a => (f a).toOption := by
  cases x <;> rfl

/-! Two encoders that treat the keys alike, one of which refuses some strings that the other
writes: it refuses the trees with such strings. -/

/-- The first appender does what the second does, or nothing where `accepts` is false. -/
def Limits (f : Appender ε') (g : Appender ε) (accepts : Bool) : Prop :=
  ∀ out, (f out).toOption = if accepts then (g out).toOption else none

/-- Each appender with its own condition, in a row. -/
theorem limits_separated {f : α → Appender ε'} {g : α → Appender ε} {P : α → Bool}
    {l : List α} (h : ∀ a ∈ l, Limits (f a) (g a) (P a)) (index : Nat) :
    Limits (separated (l.map f) index) (separated (l.map g) index) (l.all P) := by
  induction l generalizing index with
  | nil => exact fun _ => rfl
  | cons a l ih =>
    intro out
    obtain ⟨ha, hl⟩ := forall_mem_cons.mp h
    simp only [map_cons, separated, toOption_bind, all_cons, ha _]
    cases P a with
    | false => rfl
    | true =>
      simp only [if_true, Bool.true_and]
      rw [funext (ih hl (index + 1))]
      cases l.all P <;> simp

/-- An appender that always fails stops the row. -/
theorem separated_eq_none {f : α → Appender ε} {l : List α} {a : α} (ha : a ∈ l)
    (hf : ∀ out, (f a out).toOption = none) (index : Nat) (out : List Char) :
    (separated (l.map f) index out).toOption = none := by
  induction l generalizing index out with
  | nil => exact absurd ha not_mem_nil
  | cons b l ih =>
    rw [map_cons, separated, toOption_bind]
    obtain rfl | ha := mem_cons.mp ha
    · simp [hf]
    · simp [ih ha]

/-- The first encoder writes what the second does, but for strings that fail `P`. -/
structure Restricts (e' : Encoder ε') (e : Encoder ε) (P : ByteString → Bool) : Prop where
  string : ∀ s, Limits (e'.string s) (e.string s) (P s)
  number : ∀ raw, (e'.number raw).toOption = (e.number raw).toOption
  less : e'.less = e.less
  strictWeak : StrictWeak e.less
  /-- keys that can be written are told apart -/
  connected : ∀ a b, (∃ output, (e.string a output).toOption ≠ none) →
    (∃ output, (e.string b output).toOption ≠ none) →
    e.less a b = false → e.less b a = false → a = b

section Restricts

variable {e' : Encoder ε'} {e : Encoder ε} {P : ByteString → Bool}

theorem Restricts.value_array (elements : List Tree)
    (h : ∀ x ∈ elements, Limits (e'.value x) (e.value x) (x.all P)) :
    Limits (e'.value (.array elements)) (e.value (.array elements))
      ((Tree.array elements).all P) := by
  intro out
  have hall : elements.all (Tree.all P) = Tree.allElements P elements := by
    rw [Bool.eq_iff_iff, Tree.allElements_iff, all_eq_true]
  rw [e'.array_eq, e.array_eq, toOption_bind, toOption_bind, limits_separated h, hall, Tree.all]
  split_ifs <;> rfl

theorem Encoder.toOption_member (e : Encoder ε) {members : List (ByteString × Tree)}
    (hdist : (members.map Prod.fst).Nodup) {m : ByteString × Tree} (hm : m ∈ members)
    (out : List Char) :
    (member e.string (members.map fun m => (m.1, e.value m.2)) m.1 out).toOption =
      (e.string m.1 out).toOption.bind fun out => (e.value m.2 (out ++ [':'])).toOption := by
  have hmem := mem_map_of_mem (f := fun m : ByteString × Tree => (m.1, e.value m.2)) hm
  rw [member, toOption_bind, lookup_of_mem (by simpa [Function.comp_def] using hdist) hmem]
  rfl

theorem Restricts.value_object (h : Restricts e' e P) (members : List (ByteString × Tree))
    (hdist : (members.map Prod.fst).Nodup)
    (hvalues : ∀ m ∈ members, Limits (e'.value m.2) (e.value m.2) (m.2.all P)) :
    Limits (e'.value (.object members)) (e.value (.object members))
      ((Tree.object members).all P) := by
  intro out
  rw [e'.object_eq, e.object_eq, toOption_bind, toOption_bind, h.less]
  by_cases hkeys : ∀ m ∈ members, ∃ out, (e.string m.1 out).toOption ≠ none
  · -- all keys can be written, so both encoders put them into the same order
    have hsorted : e'.sorter.sort e.less (members.map Prod.fst) =
        e.sorter.sort e.less (members.map Prod.fst) := by
      refine Sorter.sort_eq _ _ h.strictWeak (List.Perm.refl _) ?_
      intro a ha b hb
      obtain ⟨m, hm, rfl⟩ := mem_map.mp ha
      obtain ⟨m', hm', rfl⟩ := mem_map.mp hb
      exact h.connected _ _ (hkeys m hm) (hkeys m' hm')
    let accepts (key : ByteString) : Bool := P key && ((members.lookup key).all (Tree.all P))
    have hacc (m) (hm : m ∈ members) : accepts m.1 = (P m.1 && m.2.all P) := by
      simp [accepts, lookup_of_mem hdist hm]
    have hall : (e.sorter.sort e.less (members.map Prod.fst)).all accepts =
        Tree.allMembers P members := by
      rw [Bool.eq_iff_iff, all_eq_true, Tree.allMembers_iff]
      simp only [e.sorter.mem_sort, forall_mem_map]
      refine forall₂_congr fun m hm => ?_
      rw [hacc m hm, Bool.and_eq_true]
    rw [hsorted, limits_separated (P := accepts), hall, Tree.all]
    · split_ifs <;> rfl
    · intro key hkey out
      obtain ⟨m, hm, rfl⟩ := mem_map.mp (e.sorter.mem_sort.mp hkey)
      rw [e'.toOption_member hdist hm, e.toOption_member hdist hm, hacc m hm, h.string]
      cases P m.1 with
      | false => rfl
      | true =>
        simp only [if_true, Bool.true_and, hvalues m hm _]
        cases m.2.all P <;> simp
  · push Not at hkeys
    obtain ⟨m, hm, hkey⟩ := hkeys
    have hkey' (out) : (e'.string m.1 out).toOption = none := by simp [h.string _ _, hkey]
    rw [separated_eq_none (e'.sorter.mem_sort.mpr (mem_map_of_mem hm)),
      separated_eq_none (e.sorter.mem_sort.mpr (mem_map_of_mem hm))]
    · simp
    · intro out
      rw [e.toOption_member hdist hm, hkey]
      rfl
    · intro out
      rw [e'.toOption_member hdist hm, hkey']
      rfl

/-- On a tree of maps the restricted encoder writes the same text, or there is a string that
it refuses. -/
theorem Restricts.value (h : Restricts e' e P) (t : Tree) (ht : t.distinct = true) :
    Limits (e'.value t) (e.value t) (t.all P) := by
  induction t using Tree.induct with
  | null => simp [Limits, e'.null_eq, e.null_eq, Tree.all, Except.toOption]
  | bool b => simp [Limits, e'.bool_eq, e.bool_eq, Tree.all, Except.toOption]
  | string s =>
    rw [e'.string_eq, e.string_eq]
    exact h.string s
  | number raw =>
    intro out
    rw [e'.number_eq, e.number_eq, toOption_bind, toOption_bind, h.number]
    rfl
  | array elements ih =>
    rw [Tree.distinct, Tree.distinctElements_iff] at ht
    exact Restricts.value_array elements fun x hx => ih x hx (ht x hx)
  | object members ih =>
    rw [Tree.distinct, Bool.and_eq_true, decide_eq_true_eq, Tree.distinctMembers_iff] at ht
    exact h.value_object members ht.1 fun m hm => ih m hm (ht.2 m hm)

end Restricts

end Ananke.Json
