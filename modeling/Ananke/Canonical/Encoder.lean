import Ananke.Json.Writer

/-! The canonical encoders of the store, of the repair contract and of the transport, and
that they agree. Each package has its own copy of every function. -/
namespace Ananke.Canonical

open Json

inductive CanonicalError
  | notUTF8
  | surrogate
  | notFinite (raw : String)
  | exponent (formatted : List Char)
  | invalidContract

/-- Numbers and runes as the standard library has them. -/
structure Strconv (F : Type) where
  parseFloat : String → Option F
  (isNaN isInf isZero : F → Bool)
  /-- the shortest text that reads back, with an exponent where it is large -/
  formatFloat : F → List Char
  atoi : List Char → Option Int
  /-- the runes of bytes that are not UTF-8 -/
  replacedRunes : ByteArray → List Char

/-- A tree in which every object is a map. -/
abbrev Decoded := { t : Tree // t.distinct = true }

/-- A character of `"0123456789abcdef"`. -/
def hexDigit (n : Nat) : Char := Nat.digitChar n

def itoa (n : Int) : List Char := (toString n).toList

/-- `[]rune(s)`. -/
def runes {F : Type} (c : Strconv F) : ByteString → List Char
  | .text s => s.toList
  | .broken bytes _ => c.replacedRunes bytes

/-! ### The store -/

namespace Store

variable {F : Type} (c : Strconv F) (sorter : Sorter ByteString)

/-- The body of the loop over the runes. -/
def appendRune (out : List Char) (r : Char) : List Char :=
  match r with
  | '\x22' => out ++ ['\\', '\x22']
  | '\\' => out ++ ['\\', '\\']
  | '\x08' => out ++ ['\\', 'b']
  | '\x0c' => out ++ ['\\', 'f']
  | '\n' => out ++ ['\\', 'n']
  | '\r' => out ++ ['\\', 'r']
  | '\t' => out ++ ['\\', 't']
  | r =>
    if r.toNat < 0x20 then
      out ++ ['\\', 'u', '0', '0', hexDigit (r.toNat / 16), hexDigit (r.toNat % 16)]
    else out ++ [r]

def appendCanonicalJSONString : ByteString → Appender CanonicalError
  | .broken _ _, _ => .error .notUTF8
  | .text s, out =>
    if s.toList.any fun r => 0xD800 ≤ r.toNat && r.toNat ≤ 0xDFFF then .error .surrogate
    else .ok (s.toList.foldl appendRune (out ++ ['\x22']) ++ ['\x22'])

/-- The loop of `compareUTF16`, for as long as there are units on both sides. -/
def compareLoop : List Nat → List Nat → Option Int
  | left :: lefts, right :: rights =>
    if left < right then some (-1)
    else if left > right then some 1
    else compareLoop lefts rights
  | _, _ => none

def compareUTF16 (left right : ByteString) : Int :=
  let leftUnits := utf16 (runes c left)
  let rightUnits := utf16 (runes c right)
  (compareLoop leftUnits rightUnits).getD (if leftUnits.length < rightUnits.length then -1
    else if leftUnits.length > rightUnits.length then 1
    else 0)

def expandCanonicalDecimal (mantissa : List Char) (exponent : Int) : List Char :=
  let negative := mantissa.head? = some '-'
  let sign := if negative then ['-'] else []
  let mantissa := if negative then mantissa.tail else mantissa
  let decimalAt := (mantissa.idxOf? '.').getD mantissa.length
  let digits := mantissa.filter (· ≠ '.')
  let newDecimalAt := decimalAt + exponent
  if newDecimalAt ≤ 0 then
    sign ++ ['0', '.'] ++ List.replicate (-newDecimalAt).toNat '0' ++ digits
  else if digits.length ≤ newDecimalAt then
    sign ++ digits ++ List.replicate (newDecimalAt - digits.length).toNat '0'
  else sign ++ digits.take newDecimalAt.toNat ++ '.' :: digits.drop newDecimalAt.toNat

def canonicalExponent (exponent : Int) : List Char :=
  if 0 ≤ exponent then '+' :: itoa exponent else itoa exponent

def canonicalJSONNumber (raw : String) : Except CanonicalError (List Char) :=
  match c.parseFloat raw with
  | none => .error (.notFinite raw)
  | some value =>
    if c.isNaN value || c.isInf value then .error (.notFinite raw)
    else if c.isZero value then .ok ['0']
    else
      let formatted := c.formatFloat value
      match formatted.idxOf? 'e' with
      | none => .ok formatted
      | some exponentAt =>
        let mantissa := formatted.take exponentAt
        match c.atoi (formatted.drop (exponentAt + 1)) with
        | none => .error (.exponent formatted)
        | some exponent =>
          if -6 ≤ exponent ∧ exponent < 21 then .ok (expandCanonicalDecimal mantissa exponent)
          else .ok (mantissa ++ 'e' :: canonicalExponent exponent)

/-- The loop over the sorted keys of a map. -/
def appendMembers (values : List (ByteString × Appender CanonicalError)) :
    List ByteString → Nat → Appender CanonicalError
  | [], _, out => .ok out
  | key :: keys, index, out => do
    let out ← appendCanonicalJSONString key (if index > 0 then out ++ [','] else out)
    let out ← (values.lookup key).getD .ok (out ++ [':'])
    appendMembers values keys (index + 1) out

mutual
/-- The kinds of value that a decoded tree has; the other kinds are those of Go structures. -/
def appendCanonicalJSON : Tree → Appender CanonicalError
  | .null, out => .ok (out ++ "null".toList)
  | .bool b, out => .ok (out ++ if b then "true".toList else "false".toList)
  | .string s, out => appendCanonicalJSONString s out
  | .number raw, out => do
    let number ← canonicalJSONNumber c raw
    pure (out ++ number)
  | .array elements, out => do
    let out ← appendElements elements 0 (out ++ ['['])
    pure (out ++ [']'])
  | .object members, out => do
    let keys := sorter.sort (fun left right => compareUTF16 c left right < 0) (members.map Prod.fst)
    let out ← appendMembers (mapValues members) keys 0 (out ++ ['{'])
    pure (out ++ ['}'])

def appendElements : List Tree → Nat → Appender CanonicalError
  | [], _, out => .ok out
  | x :: xs, index, out => do
    let out ← appendCanonicalJSON x (if index > 0 then out ++ [','] else out)
    appendElements xs (index + 1) out

/-- What is appended for the value of each key. -/
def mapValues : List (ByteString × Tree) → List (ByteString × Appender CanonicalError)
  | [] => []
  | (key, x) :: members => (key, appendCanonicalJSON x) :: mapValues members
end

end Store

/-! ### The transport -/

/-- The decimal number without its exponent. -/
def expandDecimal (mantissa : List Char) (exponent : Int) : List Char :=
  let negative := mantissa.head? = some '-'
  let sign := if negative then ['-'] else []
  let mantissa := if negative then mantissa.tail else mantissa
  let decimalAt := (mantissa.idxOf? '.').getD mantissa.length
  let digits := mantissa.filter (· ≠ '.')
  let newDecimalAt := decimalAt + exponent
  if newDecimalAt ≤ 0 then
    sign ++ ['0', '.'] ++ List.replicate (-newDecimalAt).toNat '0' ++ digits
  else if digits.length ≤ newDecimalAt then
    sign ++ digits ++ List.replicate (newDecimalAt - digits.length).toNat '0'
  else sign ++ digits.take newDecimalAt.toNat ++ '.' :: digits.drop newDecimalAt.toNat

namespace Transport

variable {F : Type} (c : Strconv F) (sorter : Sorter ByteString)

def appendRune (out : List Char) (r : Char) : List Char :=
  match r with
  | '\x22' => out ++ ['\\', '\x22']
  | '\\' => out ++ ['\\', '\\']
  | '\x08' => out ++ ['\\', 'b']
  | '\x0c' => out ++ ['\\', 'f']
  | '\n' => out ++ ['\\', 'n']
  | '\r' => out ++ ['\\', 'r']
  | '\t' => out ++ ['\\', 't']
  | r =>
    if r.toNat < 0x20 then
      out ++ ['\\', 'u', '0', '0', hexDigit (r.toNat / 16), hexDigit (r.toNat % 16)]
    else out ++ [r]

def appendCanonicalString : ByteString → Appender CanonicalError
  | .broken _ _, _ => .error .notUTF8
  | .text s, out =>
    if s.toList.any fun r => 0xD800 ≤ r.toNat && r.toNat ≤ 0xDFFF then .error .surrogate
    else .ok (s.toList.foldl appendRune (out ++ ['\x22']) ++ ['\x22'])

def compareLoop : List Nat → List Nat → Option Int
  | left :: lefts, right :: rights =>
    if left < right then some (-1)
    else if left > right then some 1
    else compareLoop lefts rights
  | _, _ => none

def compareUTF16 (left right : ByteString) : Int :=
  let leftUnits := utf16 (runes c left)
  let rightUnits := utf16 (runes c right)
  (compareLoop leftUnits rightUnits).getD (if leftUnits.length < rightUnits.length then -1
    else if leftUnits.length > rightUnits.length then 1
    else 0)

def canonicalNumber (raw : String) : Except CanonicalError (List Char) :=
  match c.parseFloat raw with
  | none => .error (.notFinite raw)
  | some value =>
    if c.isNaN value || c.isInf value then .error (.notFinite raw)
    else if c.isZero value then .ok ['0']
    else
      let formatted := c.formatFloat value
      match formatted.idxOf? 'e' with
      | none => .ok formatted
      | some exponentAt =>
        let mantissa := formatted.take exponentAt
        match c.atoi (formatted.drop (exponentAt + 1)) with
        | none => .error (.exponent formatted)
        | some exponent =>
          if -6 ≤ exponent ∧ exponent < 21 then .ok (expandDecimal mantissa exponent)
          else if 0 ≤ exponent then .ok (mantissa ++ ['e', '+'] ++ itoa exponent)
          else .ok (mantissa ++ ['e'] ++ itoa exponent)

def appendMembers (values : List (ByteString × Appender CanonicalError)) :
    List ByteString → Nat → Appender CanonicalError
  | [], _, out => .ok out
  | key :: keys, index, out => do
    let out ← appendCanonicalString key (if index > 0 then out ++ [','] else out)
    let out ← (values.lookup key).getD .ok (out ++ [':'])
    appendMembers values keys (index + 1) out

mutual
def appendCanonicalValue : Tree → Appender CanonicalError
  | .null, out => .ok (out ++ "null".toList)
  | .bool b, out => .ok (out ++ if b then "true".toList else "false".toList)
  | .string s, out => appendCanonicalString s out
  | .number raw, out => do
    let number ← canonicalNumber c raw
    pure (out ++ number)
  | .array elements, out => do
    let out ← appendElements elements 0 (out ++ ['['])
    pure (out ++ [']'])
  | .object members, out => do
    let keys := sorter.sort (fun left right => compareUTF16 c left right < 0) (members.map Prod.fst)
    let out ← appendMembers (mapValues members) keys 0 (out ++ ['{'])
    pure (out ++ ['}'])

def appendElements : List Tree → Nat → Appender CanonicalError
  | [], _, out => .ok out
  | x :: xs, index, out => do
    let out ← appendCanonicalValue x (if index > 0 then out ++ [','] else out)
    appendElements xs (index + 1) out

def mapValues : List (ByteString × Tree) → List (ByteString × Appender CanonicalError)
  | [] => []
  | (key, x) :: members => (key, appendCanonicalValue x) :: mapValues members
end

end Transport

/-! ### The repair contract -/

namespace Repair

variable {F : Type} (c : Strconv F) (sorter : Sorter ByteString)

def appendRune (out : List Char) (r : Char) : List Char :=
  match r with
  | '\x22' => out ++ ['\\', '\x22']
  | '\\' => out ++ ['\\', '\\']
  | '\x08' => out ++ ['\\', 'b']
  | '\x0c' => out ++ ['\\', 'f']
  | '\n' => out ++ ['\\', 'n']
  | '\r' => out ++ ['\\', 'r']
  | '\t' => out ++ ['\\', 't']
  | r =>
    if r.toNat < 0x20 then
      out ++ ['\\', 'u', '0', '0', hexDigit (r.toNat / 16), hexDigit (r.toNat % 16)]
    else out ++ [r]

def isUnicodeNoncharacter (r : Char) : Bool :=
  decide (0xFDD0 ≤ r.toNat ∧ r.toNat ≤ 0xFDEF ∨ 0xFFFE ≤ r.toNat % 0x10000)

def validUnicodeScalars : ByteString → Bool
  | .broken _ _ => false
  | .text s => !s.toList.any fun r =>
    0xD800 ≤ r.toNat && r.toNat ≤ 0xDFFF || isUnicodeNoncharacter r

def appendCanonicalJSONString (s : ByteString) (out : List Char) :
    Except CanonicalError (List Char) :=
  match s, validUnicodeScalars s with
  | .text s, true => .ok (s.toList.foldl appendRune (out ++ ['\x22']) ++ ['\x22'])
  | _, _ => .error .invalidContract

def compareUTF16 (left right : ByteString) : Int :=
  let leftUnits := utf16 (runes c left)
  let rightUnits := utf16 (runes c right)
  ((List.range (min leftUnits.length rightUnits.length)).findSome? fun index =>
    if leftUnits.getD index 0 < rightUnits.getD index 0 then some (-1)
    else if leftUnits.getD index 0 > rightUnits.getD index 0 then some 1
    else none).getD
    (if leftUnits.length < rightUnits.length then -1
    else if leftUnits.length > rightUnits.length then 1
    else 0)

def expandCanonicalDecimal (mantissa : List Char) (exponent : Int) : List Char :=
  let negative := mantissa.head? = some '-'
  let sign := if negative then ['-'] else []
  let mantissa := if negative then mantissa.tail else mantissa
  let decimalAt := (mantissa.idxOf? '.').getD mantissa.length
  let digits := mantissa.filter (· ≠ '.')
  let newDecimalAt := decimalAt + exponent
  if newDecimalAt ≤ 0 then
    sign ++ ['0', '.'] ++ List.replicate (-newDecimalAt).toNat '0' ++ digits
  else if digits.length ≤ newDecimalAt then
    sign ++ digits ++ List.replicate (newDecimalAt - digits.length).toNat '0'
  else sign ++ digits.take newDecimalAt.toNat ++ '.' :: digits.drop newDecimalAt.toNat

def canonicalJSONNumber (raw : String) : Except CanonicalError (List Char) :=
  match c.parseFloat raw with
  | none => .error .invalidContract
  | some value =>
    if c.isNaN value || c.isInf value then .error .invalidContract
    else if c.isZero value then .ok ['0']
    else
      let formatted := c.formatFloat value
      match formatted.idxOf? 'e' with
      | none => .ok formatted
      | some exponentAt =>
        let mantissa := formatted.take exponentAt
        match c.atoi (formatted.drop (exponentAt + 1)) with
        | none => .error .invalidContract
        | some exponent =>
          if -6 ≤ exponent ∧ exponent < 21 then .ok (expandCanonicalDecimal mantissa exponent)
          else if 0 ≤ exponent then .ok (mantissa ++ ['e', '+'] ++ itoa exponent)
          else .ok (mantissa ++ ['e'] ++ itoa exponent)

def appendMembers (values : List (ByteString × Appender CanonicalError)) :
    List ByteString → Nat → Appender CanonicalError
  | [], _, out => .ok out
  | key :: keys, index, out => do
    let out ← appendCanonicalJSONString key (if index > 0 then out ++ [','] else out)
    let out ← (values.lookup key).getD .ok (out ++ [':'])
    appendMembers values keys (index + 1) out

mutual
def appendCanonicalJSON : Tree → Appender CanonicalError
  | .null, out => .ok (out ++ "null".toList)
  | .bool b, out => .ok (out ++ if b then "true".toList else "false".toList)
  | .string s, out => appendCanonicalJSONString s out
  | .number raw, out => do
    let number ← canonicalJSONNumber c raw
    pure (out ++ number)
  | .array elements, out => do
    let out ← appendElements elements 0 (out ++ ['['])
    pure (out ++ [']'])
  | .object members, out => do
    let keys := sorter.sort (fun left right => compareUTF16 c left right < 0) (members.map Prod.fst)
    let out ← appendMembers (mapValues members) keys 0 (out ++ ['{'])
    pure (out ++ ['}'])

def appendElements : List Tree → Nat → Appender CanonicalError
  | [], _, out => .ok out
  | x :: xs, index, out => do
    let out ← appendCanonicalJSON x (if index > 0 then out ++ [','] else out)
    appendElements xs (index + 1) out

def mapValues : List (ByteString × Tree) → List (ByteString × Appender CanonicalError)
  | [] => []
  | (key, x) :: members => (key, appendCanonicalJSON x) :: mapValues members
end

end Repair

/-! ### Agreement

Each of the three is an encoder in the sense of the library, and what they call agrees. -/

section

variable {F : Type} (c : Strconv F) (sorter : Sorter ByteString)

def Store.encoder : Encoder CanonicalError where
  value := appendCanonicalJSON c sorter
  string := appendCanonicalJSONString
  number := canonicalJSONNumber c
  less left right := compareUTF16 c left right < 0
  sorter := sorter
  null_eq _ := rfl
  bool_eq _ _ := rfl
  string_eq _ := rfl
  number_eq _ _ := rfl
  array_eq elements _ := by
    have hloop : appendElements c sorter elements = _ :=
      separated_eq (fun _ _ => rfl) (fun _ _ _ _ => rfl) elements
    rw [appendCanonicalJSON, hloop]
  object_eq members _ := by
    have hvalues : mapValues c sorter members = _ := map_eq rfl (fun _ _ => rfl) members
    rw [appendCanonicalJSON, hvalues,
      members_eq (g := appendMembers _) (fun _ _ => rfl) fun _ _ _ _ => rfl]

def Transport.encoder : Encoder CanonicalError where
  value := appendCanonicalValue c sorter
  string := appendCanonicalString
  number := canonicalNumber c
  less left right := compareUTF16 c left right < 0
  sorter := sorter
  null_eq _ := rfl
  bool_eq _ _ := rfl
  string_eq _ := rfl
  number_eq _ _ := rfl
  array_eq elements _ := by
    have hloop : appendElements c sorter elements = _ :=
      separated_eq (fun _ _ => rfl) (fun _ _ _ _ => rfl) elements
    rw [appendCanonicalValue, hloop]
  object_eq members _ := by
    have hvalues : mapValues c sorter members = _ := map_eq rfl (fun _ _ => rfl) members
    rw [appendCanonicalValue, hvalues,
      members_eq (g := appendMembers _) (fun _ _ => rfl) fun _ _ _ _ => rfl]

def Repair.encoder : Encoder CanonicalError where
  value := appendCanonicalJSON c sorter
  string := appendCanonicalJSONString
  number := canonicalJSONNumber c
  less left right := compareUTF16 c left right < 0
  sorter := sorter
  null_eq _ := rfl
  bool_eq _ _ := rfl
  string_eq _ := rfl
  number_eq _ _ := rfl
  array_eq elements _ := by
    have hloop : appendElements c sorter elements = _ :=
      separated_eq (fun _ _ => rfl) (fun _ _ _ _ => rfl) elements
    rw [appendCanonicalJSON, hloop]
  object_eq members _ := by
    have hvalues : mapValues c sorter members = _ := map_eq rfl (fun _ _ => rfl) members
    rw [appendCanonicalJSON, hvalues,
      members_eq (g := appendMembers _) (fun _ _ => rfl) fun _ _ _ _ => rfl]

variable {c}

theorem expand_eq : Store.expandCanonicalDecimal = expandDecimal ∧
    Repair.expandCanonicalDecimal = expandDecimal := ⟨rfl, rfl⟩

theorem appendRune_eq : Transport.appendRune = Store.appendRune ∧
    Repair.appendRune = Store.appendRune := ⟨rfl, rfl⟩

theorem surrogate_eq_false (r : Char) :
    (decide (0xD800 ≤ r.toNat) && decide (r.toNat ≤ 0xDFFF)) = false := by
  have := not_surrogate r
  rw [← Bool.decide_and, decide_eq_false_iff_not]
  omega

/-- The string is what the runes of a text are escaped to, after what is there. -/
theorem toOption_string (s : ByteString) (out : List Char) :
    (Store.appendCanonicalJSONString s out).toOption = match s with
      | .text t => some (t.toList.foldl Store.appendRune (out ++ ['\x22']) ++ ['\x22'])
      | .broken _ _ => none := by
  cases s with
  | broken => rfl
  | text t =>
    simp [Store.appendCanonicalJSONString, surrogate_eq_false, -Bool.and_eq_true, Except.toOption]

theorem toOption_number (raw : String) :
    (Transport.canonicalNumber c raw).toOption = (Store.canonicalJSONNumber c raw).toOption ∧
    (Repair.canonicalJSONNumber c raw).toOption = (Store.canonicalJSONNumber c raw).toOption := by
  unfold Transport.canonicalNumber Repair.canonicalJSONNumber Store.canonicalJSONNumber
  cases c.parseFloat raw with
  | none => exact ⟨rfl, rfl⟩
  | some value =>
    dsimp only
    by_cases hfinite : (c.isNaN value || c.isInf value) = true
    · simp [hfinite, Except.toOption]
    by_cases hzero : c.isZero value = true
    · simp [hfinite, hzero]
    simp only [hfinite, hzero]
    cases (c.formatFloat value).idxOf? 'e' with
    | none => exact ⟨rfl, rfl⟩
    | some exponentAt =>
      dsimp only
      cases c.atoi ((c.formatFloat value).drop (exponentAt + 1)) with
      | none => exact ⟨rfl, rfl⟩
      | some exponent =>
        dsimp only [Store.canonicalExponent]
        rw [expand_eq.1, expand_eq.2]
        by_cases hsign : 0 ≤ exponent <;> simp [hsign]

theorem compareLoop_eq (ls rs : List Nat) : (Store.compareLoop ls rs).getD
    (if ls.length < rs.length then -1 else if ls.length > rs.length then 1 else 0) =
      compareUnits ls rs := by
  fun_induction compareUnits ls rs with
  | case1 | case2 | case3 => simp [Store.compareLoop]
  | case4 a as b bs h => simp [Store.compareLoop, h]
  | case5 a as b bs h h' => simp [Store.compareLoop, h, h']
  | case6 a as b bs h h' ih => simpa [Store.compareLoop, h, h'] using ih

theorem transport_compareLoop (ls rs : List Nat) :
    Transport.compareLoop ls rs = Store.compareLoop ls rs := by
  induction ls generalizing rs with
  | nil => rfl
  | cons l ls ih =>
    cases rs with
    | nil => rfl
    | cons r rs => simp only [Transport.compareLoop, Store.compareLoop, ih]

theorem repair_compareLoop (ls rs : List Nat) :
    ((List.range (min ls.length rs.length)).findSome? fun index =>
      if ls.getD index 0 < rs.getD index 0 then some (-1 : Int)
      else if ls.getD index 0 > rs.getD index 0 then some 1
      else none) = Store.compareLoop ls rs := by
  induction ls generalizing rs with
  | nil => simp [Store.compareLoop]
  | cons l ls ih =>
    cases rs with
    | nil => simp [Store.compareLoop]
    | cons r rs =>
      rw [List.length_cons, List.length_cons, Nat.succ_min_succ, List.range_succ_eq_map,
        List.findSome?_cons, List.findSome?_map, Store.compareLoop, ← ih rs]
      simp only [List.getD_cons_zero]
      split_ifs <;> rfl

/-- All three compare the code units. -/
theorem compareUTF16_eq (left right : ByteString) :
    Store.compareUTF16 c left right = compareUnits (utf16 (runes c left)) (utf16 (runes c right)) ∧
    Transport.compareUTF16 c left right = Store.compareUTF16 c left right ∧
    Repair.compareUTF16 c left right = Store.compareUTF16 c left right := by
  refine ⟨compareLoop_eq _ _, ?_, ?_⟩
  · rw [Transport.compareUTF16, transport_compareLoop]
    rfl
  · rw [Repair.compareUTF16, repair_compareLoop]
    rfl

theorem strictWeak_less : StrictWeak (Store.encoder c sorter).less := by
  have hunits := strictWeak_units fun s : ByteString => utf16 (runes c s)
  simpa only [Store.encoder, compareUTF16_eq] using hunits

/-- Texts are told apart by their code units. -/
theorem eq_of_compareUTF16 (a b : ByteString)
    (ha : ∃ out, ((Store.encoder c sorter).string a out).toOption ≠ none)
    (hb : ∃ out, ((Store.encoder c sorter).string b out).toOption ≠ none)
    (hab : (Store.encoder c sorter).less a b = false)
    (hba : (Store.encoder c sorter).less b a = false) : a = b := by
  simp only [Store.encoder, compareUTF16_eq, compareUnits_neg_iff, decide_eq_false_iff_not,
    not_lt, toOption_string] at ha hb hab hba
  cases a with
  | broken => simp at ha
  | text =>
    cases b with
    | broken => simp at hb
    | text =>
      have hrunes := utf16_injective (le_antisymm hba hab)
      exact congrArg ByteString.text (String.toList_inj.mp hrunes)

variable (c)

theorem transport_restricts (s s' : Sorter ByteString) :
    Restricts (Transport.encoder c s') (Store.encoder c s) fun _ => true where
  string _ _ := rfl
  number raw := (toOption_number raw).1
  less := by simp only [Transport.encoder, Store.encoder, compareUTF16_eq]
  strictWeak := strictWeak_less s
  connected := eq_of_compareUTF16 s

/-- No rune of the string is a noncharacter. -/
def noNoncharacter : ByteString → Bool
  | .text s => !s.toList.any Repair.isUnicodeNoncharacter
  | .broken bytes _ => !(c.replacedRunes bytes).any Repair.isUnicodeNoncharacter

theorem repair_restricts (s s' : Sorter ByteString) :
    Restricts (Repair.encoder c s') (Store.encoder c s) (noNoncharacter c) where
  string a output := by
    have hstore : ((Store.encoder c s).string a output).toOption = _ := toOption_string a output
    rw [hstore]
    cases a with
    | broken => simp [Repair.encoder, Repair.appendCanonicalJSONString, Except.toOption]
    | text t =>
      simp only [Repair.encoder, Repair.appendCanonicalJSONString, Repair.validUnicodeScalars,
        surrogate_eq_false, Bool.false_or, noNoncharacter, appendRune_eq]
      by_cases h : t.toList.any Repair.isUnicodeNoncharacter = true <;> simp [h, Except.toOption]
  number raw := (toOption_number raw).2
  less := by simp only [Repair.encoder, Store.encoder, compareUTF16_eq]
  strictWeak := strictWeak_less s
  connected := eq_of_compareUTF16 s

/-- On every decoded tree the transport's encoder accepts what the store's does and appends the
same bytes, and the contract's accepts of these the trees without noncharacters. -/
theorem encoders_agree (store transport repair : Sorter ByteString) (t : Decoded)
    (out : List Char) :
    (Transport.appendCanonicalValue c transport t out).toOption =
        (Store.appendCanonicalJSON c store t out).toOption ∧
      (Repair.appendCanonicalJSON c repair t out).toOption =
        if t.val.all (noNoncharacter c) then (Store.appendCanonicalJSON c store t out).toOption
        else none := by
  have hall : t.val.all (fun _ => true) = true := by
    induction t.val using Tree.induct with
    | null | bool | string | number => rfl
    | array elements ih => exact Tree.allElements_iff.mpr ih
    | object members ih => exact Tree.allMembers_iff.mpr fun m hm => ⟨rfl, ih m hm⟩
  have htransport := (transport_restricts c store transport).value t t.property out
  rw [hall, if_pos rfl] at htransport
  exact ⟨htransport, (repair_restricts c store repair).value t t.property out⟩

end

end Ananke.Canonical
