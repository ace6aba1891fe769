import Mathlib.Algebra.Group.Int.Units
import Mathlib.Data.List.Basic

/-! The regular expressions by which the protocol recognises its identifiers. -/
namespace Ananke.Text

def isDigit (c : Char) : Bool := '0' ≤ c && c ≤ '9'

def isLower (c : Char) : Bool := 'a' ≤ c && c ≤ 'z'

/-- `[0-9a-f]` -/
def isHex (c : Char) : Bool := isDigit c || ('a' ≤ c && c ≤ 'f')

/-- `[a-z0-9_]` -/
def isNameChar (c : Char) : Bool := isLower c || isDigit c || c = '_'

/-- `^sha256:[0-9a-f]{64}$` -/
def protocolHashPattern (s : String) : Bool :=
  match s.toList with
  | 's' :: 'h' :: 'a' :: '2' :: '5' :: '6' :: ':' :: digits =>
    digits.length = 64 && digits.all isHex
  | _ => false

/-- `^[a-z][a-z0-9_]{2,max}$` -/
def namePattern (max : Nat) (s : String) : Bool :=
  match s.toList with
  | [] => false
  | c :: rest => isLower c && 2 ≤ rest.length && rest.length ≤ max && rest.all isNameChar

/-- `^[a-z][a-z0-9_]{2,63}$` -/
def protocolIdentifierPattern : String → Bool := namePattern 63

/-- `^[a-z][a-z0-9_]{2,127}$` -/
def executionTaskIDPattern : String → Bool := namePattern 127

/-- `^[0-9a-f]{40}([0-9a-f]{24})?$` -/
def gitObjectIDPattern (s : String) : Bool :=
  (s.toList.length = 40 || s.toList.length = 64) && s.toList.all isHex

/-- `^[0-9a-f]{8}-[0-9a-f]{4}-[1-8][0-9a-f]{3}-[89ab][0-9a-f]{3}-[0-9a-f]{12}$` -/
def auditSessionUUIDPattern (s : String) : Bool :=
  match s.toList.splitOn '-' with
  | [a, b, v :: c, x :: d, e] =>
    a.length = 8 && a.all isHex && b.length = 4 && b.all isHex &&
      '1' ≤ v && v ≤ '8' && c.length = 3 && c.all isHex &&
      (x = '8' || x = '9' || x = 'a' || x = 'b') && d.length = 3 && d.all isHex &&
      e.length = 12 && e.all isHex
  | _ => false

/-- `^start[0-9a-f]{n}$` -/
def hexAfter (start : String) (n : Nat) (s : String) : Bool :=
  let digits := s.toList.drop start.toList.length
  start.toList.isPrefixOf s.toList && digits.length = n && digits.all isHex

/-- `^nonce:[0-9a-f]{64}$` -/
def launchNoncePattern : String → Bool := hexAfter "nonce:" 64

/-- `^ed25519:[0-9a-f]{64}$` -/
def externalSupervisorPublicKeyPattern : String → Bool := hexAfter "ed25519:" 64

/-- `^ed25519:[0-9a-f]{128}$` -/
def externalSupervisorSignaturePattern : String → Bool := hexAfter "ed25519:" 128

/-- The characters are those of the template, with any digit for a `d`. -/
def hasShape : List Char → List Char → Bool
  | [], [] => true
  | t :: ts, c :: cs => (if t = 'd' then isDigit c else decide (c = t)) && hasShape ts cs
  | _, _ => false

/-- `^\d{4}-\d{2}-\d{2}T\d{2}:\d{2}:\d{2}(?:\.\d{1,9})?Z$` -/
def launchTimestampPattern (s : String) : Bool :=
  hasShape "dddd-dd-ddTdd:dd:dd".toList (s.toList.take 19) &&
    match s.toList.drop 19 with
    | ['Z'] => true
    | '.' :: rest =>
      rest.getLast? = some 'Z' && 1 ≤ rest.dropLast.length && rest.dropLast.length ≤ 9 &&
        rest.dropLast.all isDigit
    | _ => false

end Ananke.Text
