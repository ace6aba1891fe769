import Ananke.Text.Pattern

/-! Canonical records. A record is an object of named members; its own hash is the digest of
the canonical bytes of the members without that hash, and a verification seal is the hash of
a record about one kind of evidence. -/
namespace Ananke.Repair

open Text

/-- Checks in a row, as propositions. -/
theorem checks_iff : (∀ {a b : Bool}, (a && b) = true ↔ a = true ∧ b = true) ∧
    ∀ {c : Prop} [Decidable c], decide c = true ↔ c :=
  ⟨Bool.and_eq_true_iff, decide_eq_true_iff⟩

/-- What a record is to `encoding/json`. -/
inductive Value
  | text (s : String)
  | number (n : Int)
  | flag (b : Bool)
  | list (values : List Value)
  | object (members : List (String × Value))

/-- The canonical encoding and the digest. Encoding fails on strings that are not valid
Unicode scalars. -/
structure Canonical (β : Type) where
  canonicalBytes : Value → Option β
  sha256Digest : β → String

variable {β : Type} (c : Canonical β)

/-- `hashRecord(value, ownHashField)`, of the members that are left when the member
`ownHashField` is deleted. -/
def hashRecord (members : List (String × Value)) : Option String :=
  (c.canonicalBytes (.object members)).map c.sha256Digest

def recordHashMatches (members : List (String × Value)) (want : String) : Bool :=
  hashRecord c members = some want

/-- `sha256:` and 64 lower case hexadecimal digits. -/
def validHash : String → Bool := protocolHashPattern

/-- A detached signature, or a hash in its place. -/
def validSignature (s : String) : Bool := validHash s || hexAfter "ed25519:" 128 s

/-- `[a-z0-9]` -/
def isPlain (ch : Char) : Bool := isLower ch || isDigit ch

/-- `^[a-z0-9]+(?:_[a-z0-9]+)*$`, in at most so many bytes. -/
def validClosedIdentifier (s : String) (maxBytes : Nat) : Bool :=
  s.toList.length ≤ maxBytes &&
    (s.toList.splitOn '_').all fun part => !part.isEmpty && part.all isPlain

/-- `^[0-9a-f]{40}$` -/
def gitObjectPattern (s : String) : Bool := s.toList.length = 40 && s.toList.all isHex

/-- The digest of a piece of evidence, empty where it cannot be encoded. -/
def evidenceHash (evidence : Value) : String :=
  ((c.canonicalBytes evidence).map c.sha256Digest).getD ""

/-- The members of a verification seal about the observation with this hash. -/
def sealMembers (schemaVersion kind verifierAuthorityHash observationHash canonicalHash
    evidenceHash : String) : List (String × Value) :=
  [("schema_version", .text schemaVersion), ("seal_kind", .text kind),
    ("verifier_authority_hash", .text verifierAuthorityHash),
    ("observation_hash", .text observationHash), ("canonical_hash", .text canonicalHash),
    ("evidence_hash", .text evidenceHash)]

/-- The seal of the worktree, the adapter sandbox and the test sandbox: the hash of the seal
record, empty without valid evidence. -/
def deriveVerificationSeal (schemaVersion verifierAuthorityHash observationHash
    canonicalHash : String) (kind : String) (evidence : Value) : String :=
  if validHash (evidenceHash c evidence) then
    (hashRecord c (sealMembers schemaVersion kind verifierAuthorityHash observationHash
      canonicalHash (evidenceHash c evidence))).getD ""
  else ""

/-- The hash of the ordered seals, empty unless each of them is a hash. -/
def verificationSealsHash (seals : List String) : String :=
  if seals.all validHash then evidenceHash c (.list (seals.map .text)) else ""

end Ananke.Repair
