import Mathlib.Data.List.Basic

/-! White space as Unicode has it and as the source's text functions use it. -/
namespace Ananke.Text

def isSpace (c : Char) : Bool :=
  (0x09 ≤ c.val && c.val ≤ 0x0d) || c.val = 0x20 || c.val = 0x85 || c.val = 0xa0 ||
    c.val = 0x1680 || (0x2000 ≤ c.val && c.val ≤ 0x200a) || c.val = 0x2028 ||
    c.val = 0x2029 || c.val = 0x202f || c.val = 0x205f || c.val = 0x3000

/-- The text without its leading and trailing white space. -/
def trimSpace (s : String) : String :=
  String.ofList ((s.toList.dropWhile isSpace).reverse.dropWhile isSpace).reverse

/-! The same on bytes, where white space is of one, two or three of them. -/

def space₁ (a : UInt8) : Bool := (9 ≤ a && a ≤ 13) || a = 32

def space₂ (a b : UInt8) : Bool := a = 0xc2 && (b = 0x85 || b = 0xa0)

def space₃ (a b c : UInt8) : Bool :=
  (a = 0xe1 && b = 0x9a && c = 0x80) || (a = 0xe3 && b = 0x80 && c = 0x80) ||
    (a = 0xe2 && ((b = 0x80 && ((0x80 ≤ c && c ≤ 0x8a) || c = 0xa8 || c = 0xa9 || c = 0xaf)) ||
      (b = 0x81 && c = 0x9f)))

/-- Without the white space at the beginning. -/
def trimStart (two : UInt8 → UInt8 → Bool) (three : UInt8 → UInt8 → UInt8 → Bool) :
    List UInt8 → List UInt8
  | [] => []
  | [a] => if space₁ a then [] else [a]
  | [a, b] => if space₁ a then trimStart two three [b] else if two a b then [] else [a, b]
  | a :: b :: c :: rest =>
    if space₁ a then trimStart two three (b :: c :: rest)
    else if two a b then trimStart two three (c :: rest)
    else if three a b c then trimStart two three rest
    else a :: b :: c :: rest

def trimLeft : List UInt8 → List UInt8 := trimStart space₂ space₃

def trimRight (text : List UInt8) : List UInt8 :=
  (trimStart (fun a b => space₂ b a) (fun a b c => space₃ c b a) text.reverse).reverse

/-- `bytes.TrimSpace`, and `strings.TrimSpace` of the bytes of a text. -/
def trimBytes (text : List UInt8) : List UInt8 := trimRight (trimLeft text)

end Ananke.Text
