import Ananke.Text.Hex
import Ananke.Text.Space

/-! The private key of the repair verifier, read from the bytes of its file. The digits are
decoded into a slice of the key's size before they are counted. -/
namespace Ananke.Repair

open Text List

inductive Decoding
  | panics
  | invalidByte (b : UInt8)
  | errLength
  | decoded (bytes : List UInt8)

/-- Where a write past the end of the slice is stopped, nothing is returned. -/
inductive Parsing
  | panics
  | missingPrefix
  | hexDecode
  | expectedHexChars (got : Nat)
  | parsed (key : List UInt8)
deriving DecidableEq

def hexByte (b : UInt8) : Option Nat := hexValue (Char.ofUInt8 b)

/-- `hex.Decode` into a slice with so much room. -/
def decode : Nat → List UInt8 → Decoding
  | _, [] => .decoded []
  | _, [a] => if (hexByte a).isSome then .errLength else .invalidByte a
  | room, a :: b :: rest =>
    match hexByte a, hexByte b with
    | none, _ => .invalidByte a
    | some _, none => .invalidByte b
    | some h, some l =>
      match room with
      | 0 => .panics
      | room + 1 =>
        match decode room rest with
        | .decoded bytes => .decoded (UInt8.ofNat (16 * h + l) :: bytes)
        | other => other

/-- `ed25519-private:` -/
def privateSigningKeyPrefix : List UInt8 :=
  [101, 100, 50, 53, 53, 49, 57, 45, 112, 114, 105, 118, 97, 116, 101, 58]

def privateKeySize : Nat := 64

def zeroBytes (v : List UInt8) : List UInt8 := v.map fun _ => 0

/-- What is returned, and what is left of the working copy. -/
def parseHexPart (trimmed hexPart : List UInt8) : Parsing × List UInt8 :=
  match decode privateKeySize hexPart with
  | .panics => (.panics, trimmed)
  | .invalidByte _ | .errLength => (.hexDecode, zeroBytes trimmed)
  | .decoded key =>
    if key.length ≠ privateKeySize ∨ hexPart.length ≠ privateKeySize * 2 then
      (.expectedHexChars hexPart.length, zeroBytes trimmed)
    else (.parsed key, zeroBytes trimmed)

variable (data : List UInt8)

def parsePrivateKey : Parsing × List UInt8 :=
  let trimmed := trimBytes data
  if ¬ privateSigningKeyPrefix <+: trimmed then (.missingPrefix, zeroBytes trimmed)
  else parseHexPart trimmed (trimmed.drop privateSigningKeyPrefix.length)

def AllHex (text : List UInt8) : Prop := ∀ b ∈ text, (hexByte b).isSome = true

variable {text : List UInt8}

theorem decode_eq_panics {room : Nat} : decode room text = .panics ↔
    2 * room + 2 ≤ text.length ∧ AllHex (text.take (2 * room + 2)) := by
  fun_induction decode room text with
  | case1 | case2 | case3 => simp
  | case4 room a b rest ha => simp [AllHex, ha]
  | case5 room a b rest h hb ha => simp [AllHex, ha, hb]
  | case6 a b rest h l hb ha => simp [AllHex, ha, hb]
  | case7 a b rest h l hb ha room bytes hrest ih =>
    rw [hrest] at ih
    simpa [AllHex, ha, hb, Nat.mul_add] using ih
  | case8 a b rest h l hb ha room other ih => simpa [AllHex, ha, hb, Nat.mul_add] using ih

theorem decode_full {room : Nat} (hlen : text.length = 2 * room) :
    (∃ key, decode room text = .decoded key ∧ key.length = room) ↔ AllHex text := by
  fun_induction decode room text with
  | case1 room =>
    have hroom : room = 0 := by
      simp at hlen
      omega
    simp [AllHex, hroom]
  | case2 | case3 =>
    simp at hlen
    omega
  | case4 room a b rest ha => simp [AllHex, ha]
  | case5 room a b rest h hb ha => simp [AllHex, ha, hb]
  | case6 => simp at hlen
  | case7 a b rest h l hb ha room bytes hrest ih =>
    have hrest' : rest.length = 2 * room := by simpa [Nat.mul_add] using hlen
    simpa [AllHex, ha, hb, hrest] using ih hrest'
  | case8 a b rest h l hb ha room hother ih =>
    have hrest' : rest.length = 2 * room := by simpa [Nat.mul_add] using hlen
    have hnone : ∀ key, decode room rest ≠ .decoded key := hother
    simpa [AllHex, ha, hb, hnone] using ih hrest'

/-- The text has the digits of more than a key. -/
def Overlong : Prop :=
  ∃ digits rest, trimBytes data = privateSigningKeyPrefix ++ digits ++ rest ∧
    digits.length = 2 * privateKeySize + 2 ∧ AllHex digits

/-- The text is the one of a key. -/
def KeyText : Prop :=
  ∃ digits, trimBytes data = privateSigningKeyPrefix ++ digits ∧
    digits.length = 2 * privateKeySize ∧ AllHex digits

theorem missing_of_not_prefix {data : List UInt8}
    (h : ¬ privateSigningKeyPrefix <+: trimBytes data) : ¬ Overlong data ∧ ¬ KeyText data := by
  constructor
  · rintro ⟨digits, rest, htext, -, -⟩
    exact h ⟨digits ++ rest, by rw [htext, append_assoc]⟩
  · rintro ⟨digits, htext, -, -⟩
    exact h ⟨digits, htext.symm⟩

variable {data hexPart : List UInt8} (htext : privateSigningKeyPrefix ++ hexPart = trimBytes data)
include htext

theorem overlong_iff : Overlong data ↔ decode privateKeySize hexPart = .panics := by
  rw [decode_eq_panics, Overlong, ← htext]
  constructor
  · rintro ⟨digits, rest, happ, hlen, hhex⟩
    rw [append_assoc] at happ
    obtain rfl := append_cancel_left happ
    rw [← hlen, take_left]
    exact ⟨by simp, hhex⟩
  · rintro ⟨hle, hhex⟩
    exact ⟨_, hexPart.drop (2 * privateKeySize + 2), by simp, length_take_of_le hle, hhex⟩

theorem keyText_iff : KeyText data ↔ hexPart.length = 2 * privateKeySize ∧
    ∃ key, decode privateKeySize hexPart = .decoded key ∧ key.length = privateKeySize := by
  rw [KeyText, ← htext]
  constructor
  · rintro ⟨digits, happ, hlen, hhex⟩
    obtain rfl := append_cancel_left happ
    exact ⟨hlen, (decode_full hlen).mpr hhex⟩
  · rintro ⟨hlen, hdecoded⟩
    exact ⟨hexPart, rfl, hlen, (decode_full hlen).mp hdecoded⟩

theorem parsePrivateKey_eq : parsePrivateKey data = parseHexPart (trimBytes data) hexPart := by
  have hprefix : privateSigningKeyPrefix <+: trimBytes data := ⟨hexPart, htext⟩
  have hdrop : (trimBytes data).drop privateSigningKeyPrefix.length = hexPart := by
    rw [← htext, drop_left]
  simp [parsePrivateKey, hprefix, hdrop]

omit htext

/-- The parser returns, accepts exactly the texts of keys and zeroes its copy, for every file
whose text does not go on with digits after those of a key. -/
theorem private_key_parsed_iff (data : List UInt8) : ((parsePrivateKey data).1 ≠ .panics ∧
      ((∃ key, (parsePrivateKey data).1 = .parsed key) ↔ KeyText data) ∧
      (parsePrivateKey data).2 = zeroBytes (trimBytes data)) ↔ ¬ Overlong data := by
  by_cases hprefix : privateSigningKeyPrefix <+: trimBytes data
  · obtain ⟨hexPart, htext⟩ := hprefix
    rw [overlong_iff htext, keyText_iff htext, parsePrivateKey_eq htext, parseHexPart]
    cases decode privateKeySize hexPart with
    | panics => simp
    | invalidByte b | errLength => simp
    | decoded key =>
      by_cases hkey : key.length ≠ privateKeySize ∨ hexPart.length ≠ privateKeySize * 2
      · simp only [if_pos hkey]
        simp
        omega
      · simp only [if_neg hkey]
        simp
        omega
  · obtain ⟨hshort, hnone⟩ := missing_of_not_prefix hprefix
    simp [parsePrivateKey, hprefix, hshort, hnone]

/-- A file of a key with two digits too many. -/
theorem overlong_key_panics : parsePrivateKey (privateSigningKeyPrefix ++ List.replicate 130 48) =
      (.panics, privateSigningKeyPrefix ++ List.replicate 130 48) := by
  decide +kernel

end Ananke.Repair
