import Ananke.Repair.Instance
import Ananke.Text.Hex

/-! Two ways to verify the signature of an attestation: the release-pinned verifier, and the
check that is made of a stored row. -/
namespace Ananke.Repair

open Text Validation

/-- What signing rests on. -/
structure Signing (β : Type) extends Primitives β where
  /-- `append`, of bytes. -/
  join : β → β → β
  /-- The members as `json.Unmarshal` reads them into a map: each number as a float. -/
  floats : List (String × Value) → List (String × Value)
  marshalPKIX : List UInt8 → Option β
  /-- The equation of Ed25519, for a key and a signature of the right size. -/
  verifies : List UInt8 → β → List UInt8 → Bool

/-- The columns of a stored attestation, and of its row in the outbox. -/
structure RepairAttestationRow (β : Type) where
  (attestationHash attestationID authorizationHash attemptHash : String)
  attemptNumber : Int
  (signatureDomain signatureHash : String)
  state : AttestationState
  issuedAt : String
  attestationJSON : β
  outboxDelivered : Int
  deliveredDiagnostic : String

/-- The verifier that is made from the frozen release, and the key it was provisioned with. -/
structure RepairVerifier where
  pins : ReleasePins
  bundle : TrustBundle
  attestorKey : List UInt8

inductive VerificationError
  | invalidPublicKeySize | spkiHash | provisionedKeyMismatch | signerMismatch
  | trustBindingMismatch | missingSignatureMark | invalidSignatureEncoding | canonicalBytes
  | keyNotProvisioned | signatureVerificationFailed

inductive RowError
  | decode
  | provision (cause : VerificationError)
  | signedBytes | signatureDecode | verificationFailed

def signatureMark : String := "ed25519:"

variable {β : Type} (p : Signing β)

def ed25519Verify (key : List UInt8) (message : β) (sig : List UInt8) : Bool :=
  sig.length = 64 && p.verifies key message sig

def spkiHash (key : List UInt8) : Option String := (p.marshalPKIX key).map p.sha256Digest

/-- The signed bytes leave out the signature and the own hash. -/
def runtimeSignatureCanonicalBytes (record : RepairReviewAttestation) : Option β :=
  (p.canonicalBytes (.object ((p.floats record.content).filter (·.1 ≠ "signature")))).map
    (p.join (p.textBytes (signatureDomain ++ "\x00")))

def hasSignatureMark (s : String) : Bool := signatureMark.toList.isPrefixOf s.toList

def trimSignatureMark (s : String) : List Char :=
  if hasSignatureMark s then s.toList.drop signatureMark.toList.length else s.toList

namespace RepairVerifier

variable (v : RepairVerifier)

def setAttestorPublicKey (key : List UInt8) : Except VerificationError RepairVerifier :=
  if key.length ≠ 32 then .error .invalidPublicKeySize
  else
    match spkiHash p key with
    | none => .error .spkiHash
    | some spki =>
      if spki ≠ v.pins.repairAttestorLeafSPKI then .error .provisionedKeyMismatch
      else .ok { v with attestorKey := key }

/-- The record names the signer and the release that are pinned. -/
def trustBinding (record : RepairReviewAttestation) : Bool :=
  record.signatureDomain = signatureDomain &&
    record.repairAttestorCertificateHash = v.pins.repairAttestorCertificateHash &&
    record.repairAttestorRootID = v.pins.repairAttestorRootID &&
    record.repairAttestorLeafSPKI = v.pins.repairAttestorLeafSPKI &&
    record.releasePinsHash = v.pins.releasePinsHash &&
    record.trustBundleHash = v.bundle.trustBundleHash

def verifyAttestationSignature (record : RepairReviewAttestation)
    (signerSPKI : String) : Except VerificationError Unit :=
  if signerSPKI ≠ v.pins.repairAttestorLeafSPKI then .error .signerMismatch
  else if !v.trustBinding record then .error .trustBindingMismatch
  else if !hasSignatureMark record.signature then .error .missingSignatureMark
  else
    match decodeHex (trimSignatureMark record.signature) with
    | none => .error .invalidSignatureEncoding
    | some sig =>
      if sig.length ≠ 64 then .error .invalidSignatureEncoding
      else
        match runtimeSignatureCanonicalBytes p record with
        | none => .error .canonicalBytes
        | some signedBytes =>
          if v.attestorKey.isEmpty then .error .keyNotProvisioned
          else if !ed25519Verify p v.attestorKey signedBytes sig then
            .error .signatureVerificationFailed
          else .ok ()

end RepairVerifier

/-- What is checked of the record of a row with a key that is provisioned. -/
def verifyRowSignature (record : RepairReviewAttestation) (publicKey : List UInt8) :
    Except RowError Unit :=
  match runtimeSignatureCanonicalBytes p record with
  | none => .error .signedBytes
  | some signedBytes =>
    match decodeHex (trimSignatureMark record.signature) with
    | none => .error .signatureDecode
    | some sig =>
      if !ed25519Verify p publicKey signedBytes sig then .error .verificationFailed
      else .ok ()

/-- The verifier keeps the key that it is provisioned with on the way. -/
def verifyAttestationWithAnanke (row : RepairAttestationRow β) (v : RepairVerifier)
    (publicKey : List UInt8) : RepairVerifier × Except RowError Unit :=
  match p.decodeAttestation row.attestationJSON with
  | none => (v, .error .decode)
  | some record =>
    match v.setAttestorPublicKey p publicKey with
    | .error e => (v, .error (.provision e))
    | .ok v' => (v', verifyRowSignature p record publicKey)

variable {p}

theorem setPublicKey_ok {v v' : RepairVerifier} {key : List UInt8}
    (h : v.setAttestorPublicKey p key = .ok v') :
    key.length = 32 ∧ spkiHash p key = some v.pins.repairAttestorLeafSPKI ∧
      v' = { v with attestorKey := key } := by
  obtain ⟨hlen, h⟩ := unless_eq_ok h
  split at h
  · cases h
  next spki hspki =>
    obtain ⟨hpin, ⟨⟩⟩ := unless_eq_ok h
    exact ⟨not_not.mp hlen, not_not.mp hpin ▸ hspki, rfl⟩

variable {record : RepairReviewAttestation}

theorem verifyRowSignature_ok {publicKey : List UInt8}
    (h : verifyRowSignature p record publicKey = .ok ()) :
    ∃ signedBytes sig, runtimeSignatureCanonicalBytes p record = some signedBytes ∧
      decodeHex (trimSignatureMark record.signature) = some sig ∧
      ed25519Verify p publicKey signedBytes sig = true := by
  unfold verifyRowSignature at h
  split at h
  · cases h
  next signedBytes hbytes =>
    split at h
    · cases h
    next sig hsig =>
      obtain ⟨hver, -⟩ := unless_eq_ok h
      exact ⟨signedBytes, sig, hbytes, hsig, by simpa using hver⟩

theorem verifyAttestation_ok {row : RepairAttestationRow β} {v v' : RepairVerifier}
    {publicKey : List UInt8} (h : verifyAttestationWithAnanke p row v publicKey = (v', .ok ())) :
    ∃ record, p.decodeAttestation row.attestationJSON = some record ∧
      v.setAttestorPublicKey p publicKey = .ok v' ∧
      verifyRowSignature p record publicKey = .ok () := by
  unfold verifyAttestationWithAnanke at h
  split at h
  · simp at h
  next record hrec =>
    split at h
    · simp at h
    next v'' hset =>
      obtain ⟨rfl, hver⟩ := Prod.mk.inj h
      exact ⟨record, hrec, hset, hver⟩

/-- Under the key that the row was checked with, the pinned verifier accepts the record exactly
if it is bound to the release and its signature is marked. -/
theorem verifySignature_iff {v v' : RepairVerifier} {publicKey : List UInt8}
    (hset : v.setAttestorPublicKey p publicKey = .ok v')
    (hver : verifyRowSignature p record publicKey = .ok ()) :
    v'.verifyAttestationSignature p record v.pins.repairAttestorLeafSPKI = .ok () ↔
      v.trustBinding record = true ∧ hasSignatureMark record.signature = true := by
  obtain ⟨hlen, -, rfl⟩ := setPublicKey_ok hset
  obtain ⟨_, sig, hbytes, hsig, hver⟩ := verifyRowSignature_ok hver
  have hsize : sig.length = 64 := by
    simp only [ed25519Verify, checks_iff] at hver
    exact hver.1
  have hkey : publicKey.isEmpty = false := by
    cases publicKey with
    | nil => simp at hlen
    | cons b bs => rfl
  have hbind : ({ v with attestorKey := publicKey } : RepairVerifier).trustBinding record =
      v.trustBinding record := rfl
  unfold RepairVerifier.verifyAttestationSignature
  rw [hbind]
  cases v.trustBinding record <;> cases hasSignatureMark record.signature <;>
    simp [hbytes, hsig, hsize, hkey, hver]

namespace Instance

open TrustedSupervisor.Instance (sha)

/-- The signature of a message repeats one byte of it. -/
def signatureOf (message : Nat) : List UInt8 := List.replicate 64 (UInt8.ofNat message)

/-- A key is hashed by its first byte; the pinned one is all of the byte 15. -/
def publicKey : List UInt8 := List.replicate 32 15

/-- The rows hold this record. -/
def signing (record : RepairReviewAttestation) : Signing Nat where
  toPrimitives := { prims 4 with decodeAttestation := fun _ => some record }
  join a b := a + b
  floats members := members
  marshalPKIX key := key.head?.map (·.toNat)
  verifies _ message signature := signature = signatureOf message

def verifier : RepairVerifier := ⟨pins, bundle, []⟩

/-- The attestation with a signature of its signed bytes, after this mark. -/
def signedAttestation (mark : String) : RepairReviewAttestation :=
  { attestation with signature := mark ++ String.ofList (encodeHex (signatureOf 2114)) }

def row (attestationHash : String) : RepairAttestationRow Nat where
  attestationHash := attestationHash
  attestationID := attestation.attestationID
  authorizationHash := attestation.authorizationHash
  attemptHash := attestation.attemptHash
  attemptNumber := attestation.attemptNumber
  signatureDomain := signatureDomain
  signatureHash := ""
  state := .waitingForReview
  issuedAt := attestation.issuedAt
  attestationJSON := 0
  outboxDelivered := 0
  deliveredDiagnostic := ""

theorem signatureBytes_signed (mark : String) :
    runtimeSignatureCanonicalBytes (signing (signedAttestation mark)) (signedAttestation mark) =
      some 2114 := by
  have hcanon (v : Value) : (signing (signedAttestation mark)).canonicalBytes v =
      some (fingerprint v) := rfl
  have hmem : fingerprint (.object ((signedAttestation mark).content.filter
      (·.1 ≠ "signature"))) = 2067 := rfl
  have hfloats : (signing (signedAttestation mark)).floats (signedAttestation mark).content =
      (signedAttestation mark).content := rfl
  rw [runtimeSignatureCanonicalBytes, hfloats, hcanon, hmem]
  rfl

theorem attestation_signed {mark : String}
    (hmark : trimSignatureMark (signedAttestation mark).signature = encodeHex (signatureOf 2114))
    (hash : String) :
    verifyAttestationWithAnanke (signing (signedAttestation mark)) (row hash) verifier publicKey =
      ({ verifier with attestorKey := publicKey }, .ok ()) := by
  have hdec : (signing (signedAttestation mark)).decodeAttestation (row hash).attestationJSON =
      some (signedAttestation mark) := rfl
  have hset : verifier.setAttestorPublicKey (signing (signedAttestation mark)) publicKey =
      .ok { verifier with attestorKey := publicKey } := by
    have hspki : spkiHash (signing (signedAttestation mark)) publicKey =
        some verifier.pins.repairAttestorLeafSPKI := rfl
    have hlen : publicKey.length = 32 := rfl
    simp [RepairVerifier.setAttestorPublicKey, hspki, hlen]
  have hver : ed25519Verify (signing (signedAttestation mark)) publicKey 2114
      (signatureOf 2114) = true := by
    simp [ed25519Verify, signing, signatureOf]
  have hrow : verifyRowSignature (signing (signedAttestation mark)) (signedAttestation mark)
      publicKey = .ok () := by
    simp [verifyRowSignature, signatureBytes_signed, hmark, decodeHex_encodeHex, hver]
  rw [verifyAttestationWithAnanke, hdec]
  simp only [hset, hrow]

end Instance

/-- Whenever a row is accepted, the pinned verifier accepts its record under the same key, and
the hash of the row is that of the record, exactly if the record is bound to the release, its
signature is marked and the hash of the row is that of the record: the row is accepted without
a look at any of the three. -/
theorem row_accepted_iff {β : Type} {p : Signing β} {row : RepairAttestationRow β}
    {v v' : RepairVerifier} {publicKey : List UInt8}
    (h : verifyAttestationWithAnanke p row v publicKey = (v', .ok ())) :
    (∃ record spki, p.decodeAttestation row.attestationJSON = some record ∧
        spkiHash p publicKey = some spki ∧
        v'.verifyAttestationSignature p record spki = .ok () ∧
        hashAttestationRecord p.toPrimitives record = some row.attestationHash) ↔
      ∃ record, p.decodeAttestation row.attestationJSON = some record ∧
        v.trustBinding record = true ∧ hasSignatureMark record.signature = true ∧
        hashAttestationRecord p.toPrimitives record = some row.attestationHash := by
  obtain ⟨record, hrecord, hset, hverify⟩ := verifyAttestation_ok h
  obtain ⟨-, hspki, -⟩ := setPublicKey_ok hset
  have hiff := verifySignature_iff hset hverify
  constructor
  · rintro ⟨record', _, hrecord', hspki', haccepted, hhash⟩
    obtain rfl : record = record' := Option.some.inj (hrecord.symm.trans hrecord')
    obtain rfl := Option.some.inj (hspki.symm.trans hspki')
    obtain ⟨hbinding, hmark⟩ := hiff.mp haccepted
    exact ⟨record, hrecord, hbinding, hmark, hhash⟩
  · rintro ⟨record', hrecord', hbinding, hmark, hhash⟩
    obtain rfl : record = record' := Option.some.inj (hrecord.symm.trans hrecord')
    exact ⟨record, _, hrecord, hspki, hiff.mpr ⟨hbinding, hmark⟩, hhash⟩

open Instance in
/-- The record of a row with a marked signature and its own hash. -/
theorem row_accepted_iff_marked :
    ∃ hash, verifyAttestationWithAnanke (signing (signedAttestation "ed25519:")) (row hash)
        verifier publicKey = ({ verifier with attestorKey := publicKey }, .ok ()) ∧
      ∃ record spki, (signing (signedAttestation "ed25519:")).decodeAttestation
          (row hash).attestationJSON = some record ∧
        spkiHash (signing (signedAttestation "ed25519:")) publicKey = some spki ∧
        RepairVerifier.verifyAttestationSignature (signing (signedAttestation "ed25519:"))
          { verifier with attestorKey := publicKey } record spki = .ok () ∧
        hashAttestationRecord (signing (signedAttestation "ed25519:")).toPrimitives record =
          some (row hash).attestationHash := by
  have hmark : trimSignatureMark (signedAttestation "ed25519:").signature =
      encodeHex (signatureOf 2114) := by
    decide +kernel
  have haccepted := attestation_signed hmark (own (signedAttestation "ed25519:").content)
  refine ⟨_, haccepted, (row_accepted_iff haccepted).mpr ⟨_, rfl, ?_, by decide +kernel, rfl⟩⟩
  simp only [RepairVerifier.trustBinding, Bool.and_eq_true, decide_eq_true_eq]
  exact ⟨⟨⟨⟨⟨rfl, rfl⟩, rfl⟩, rfl⟩, rfl⟩, rfl⟩

open Instance in
/-- A row is accepted whose signature has no mark and whose hash is not that of its record. -/
theorem row_accepted_unmarked :
    verifyAttestationWithAnanke (signing (signedAttestation "")) (row "") verifier publicKey =
        ({ verifier with attestorKey := publicKey }, .ok ()) ∧
      (∀ spki, RepairVerifier.verifyAttestationSignature (signing (signedAttestation ""))
        { verifier with attestorKey := publicKey } (signedAttestation "") spki ≠ .ok ()) ∧
      hashAttestationRecord (signing (signedAttestation "")).toPrimitives (signedAttestation "") ≠
        some (row "").attestationHash := by
  have hmark : trimSignatureMark (signedAttestation "").signature =
      encodeHex (signatureOf 2114) := by
    decide +kernel
  have hmissing : hasSignatureMark (signedAttestation "").signature = false := by decide +kernel
  refine ⟨attestation_signed hmark "", ?_, ?_⟩
  · intro spki haccepted
    unfold RepairVerifier.verifyAttestationSignature at haccepted
    simp only [hmissing] at haccepted
    split at haccepted
    · cases haccepted
    · split at haccepted
      · cases haccepted
      · simp at haccepted
  · intro hhash
    exact sha_ne_empty _ (Option.some.inj hhash)

end Ananke.Repair
