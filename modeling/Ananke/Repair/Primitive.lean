import Ananke.Repair.Review

/-! What the repair contract rests on: the canonical codec, the clock texts and the material
that is compiled into the release. -/
namespace Ananke.Repair

structure Release where
  pins : ReleasePins
  bundle : TrustBundle
  rotation : TrustRotation
deriving DecidableEq

structure Certificate (β : Type) where
  raw : β
  (notBefore notAfter : Int)

structure Primitives (β : Type) extends Canonical β where
  /-- `json.Marshal`, with the members in the order of the structure. -/
  marshal : Value → β
  textBytes : String → β
  /-- The nanosecond that an RFC 3339 text in UTC names, if it is the text of that instant. -/
  parseUTC : String → Option Int
  decodeClaim : β → Option SupervisorIntentClaim
  decodeWorktreeObservation : β → Option RepositoryWorktreeMaterializationObservation
  decodeAdapterObservation : β → Option AdapterSandboxObservation
  decodeTestObservation : β → Option TestSandboxObservation
  decodeAttestation : β → Option RepairReviewAttestation
  decodeAnankeRecord : β → Option AnankeAttestationRecord
  frozen : Release
  (root leaf rotationApproverRoot rotationApprover : Certificate β)
  /-- X.509 verification of a leaf against the one root, at an instant. -/
  verifyChain : Certificate β → Certificate β → Int → Bool

def attemptCap : Int := 2

def second : Int := 1000000000

def minute : Int := 60 * second

def signatureDomain : String := "ananke.controlled-repair.review-attestation.v1"

variable {β : Type} (p : Primitives β)

/-- `now` is in the interval that two texts name. -/
def within (start until' : String) (now : Int) : Bool :=
  match p.parseUTC start, p.parseUTC until' with
  | some a, some b => a ≤ now && now < b
  | _, _ => false

def verifyCertificateTime (root leaf : Certificate β) (now : Int) : Bool :=
  root.notBefore ≤ now && now < root.notAfter && leaf.notBefore ≤ now && now < leaf.notAfter &&
    p.verifyChain root leaf now

def Primitives.verifyEmbeddedReleaseTrust (now : Int) : Bool :=
  verifyCertificateTime p p.root p.leaf now &&
    verifyCertificateTime p p.rotationApproverRoot p.rotationApprover now

end Ananke.Repair
