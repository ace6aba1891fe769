import Ananke.Text.Pattern

/-! Bytes in hexadecimal digits, as `encoding/hex` writes and reads them. -/
namespace Ananke.Text

/-- `hex.EncodeToString` -/
def encodeHex : List UInt8 → List Char
  | [] => []
  | b :: bs => Nat.digitChar (b.toNat / 16) :: Nat.digitChar (b.toNat % 16) :: encodeHex bs

/-- The value of a digit, in either case. -/
def hexValue (c : Char) : Option Nat :=
  if isDigit c then some (c.toNat - 48)
  else if 'a' ≤ c && c ≤ 'f' then some (c.toNat - 87)
  else if 'A' ≤ c && c ≤ 'F' then some (c.toNat - 55)
  else none

/-- `hex.DecodeString` -/
def decodeHex : List Char → Option (List UInt8)
  | [] => some []
  | [_] => none
  | hi :: lo :: rest =>
    match hexValue hi, hexValue lo, decodeHex rest with
    | some h, some l, some bytes => some (UInt8.ofNat (16 * h + l) :: bytes)
    | _, _, _ => none

theorem hexValue_digitChar : ∀ n < 16, hexValue (Nat.digitChar n) = some n := by decide

theorem isHex_digitChar : ∀ n < 16, isHex (Nat.digitChar n) = true := by decide

variable (bytes : List UInt8)

theorem decodeHex_encodeHex : decodeHex (encodeHex bytes) = some bytes := by
  induction bytes with
  | nil => rfl
  | cons b bs ih =>
    have hb := b.toNat_lt
    have hbyte : 16 * (b.toNat / 16) + b.toNat % 16 = b.toNat := Nat.div_add_mod _ _
    simp [encodeHex, decodeHex, hexValue_digitChar _ (by omega : b.toNat / 16 < 16),
      hexValue_digitChar _ (Nat.mod_lt b.toNat (by decide : 0 < 16)), ih, hbyte]

theorem length_encodeHex : (encodeHex bytes).length = 2 * bytes.length := by
  induction bytes with
  | nil => rfl
  | cons b bs ih =>
    simp only [encodeHex, List.length_cons, ih]
    omega

theorem all_isHex_encodeHex : (encodeHex bytes).all isHex = true := by
  induction bytes with
  | nil => rfl
  | cons b bs ih =>
    have hb := b.toNat_lt
    simp [encodeHex, isHex_digitChar _ (by omega : b.toNat / 16 < 16), isHex_digitChar _ (Nat.mod_lt
      b.toNat (by decide : 0 < 16)), ih]

end Ananke.Text
