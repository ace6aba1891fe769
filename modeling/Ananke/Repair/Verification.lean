import Ananke.Repair.Attestation

/-! Ananke's own verification of an attestation: the record that it keeps, and the evaluation
that gives out the capability for it. -/
namespace Ananke.Repair

variable {β : Type} (p : Primitives β)

def anankeVerificationKinds : List String :=
  ["signature_verification", "signer_role_verification", "certificate_validity_verification",
    "freshness_verification", "channel_verification", "request_binding_verification",
    "head_consistency_verification"]

def anankeVerifierAuthorityHash : String :=
  (hashRecord p.toCanonical
    [("schema_version", .text "ananke.controlled-repair-ananke-verifier-authority.v1"),
      ("verifier_id", .text "controlled_repair_ananke_verifier_v1"),
      ("release_pins_hash", .text p.frozen.pins.releasePinsHash),
      ("signature_domain", .text signatureDomain),
      ("verification_kinds", .list (anankeVerificationKinds.map .text))]).getD ""

variable (record : AnankeAttestationRecord)

/-- The evidence of each kind of verification, in the order of the kinds. -/
def anankeSealEvidence : List Value :=
  [.object [("attestation_hash", .text record.attestationHash),
      ("signature_domain", .text signatureDomain)],
    .object [("repair_attestor_certificate_hash", .text record.repairAttestorCertificateHash),
      ("repair_attestor_root_id", .text record.repairAttestorRootID),
      ("repair_attestor_leaf_spki", .text record.repairAttestorLeafSPKI)],
    .object [("repair_attestor_certificate_hash", .text record.repairAttestorCertificateHash),
      ("verified_at", .text record.verifiedAt)],
    .object [("attestation_issued_at", .text record.attestationIssuedAt),
      ("freshness_checked_at", .text record.freshnessCheckedAt)],
    .object [("request_nonce_hash", .text record.requestNonceHash),
      ("response_nonce_hash", .text record.responseNonceHash),
      ("channel_hash", .text record.channelHash)],
    .object [("authorization_hash", .text record.authorizationHash),
      ("attempt_hash", .text record.attemptHash),
      ("attempt_number", .number record.attemptNumber)],
    .object [("supervisor_journal_head_hash", .text record.supervisorJournalHeadHash)]]

/-- The digest of the canonical seal record together with its own hash; a seal that cannot be
encoded has the digest of no bytes. -/
def deriveAnankeVerificationSeal (kind : String) (evidence : Value) : String :=
  let members : List (String × Value) :=
    [("schema_version", .text "ananke.controlled-repair-ananke-verification-seal.v1"),
      ("seal_kind", .text kind),
      ("verifier_authority_hash", .text (anankeVerifierAuthorityHash p)),
      ("verification_hash", .text record.verificationHash),
      ("evidence_hash", .text (evidenceHash p.toCanonical evidence))]
  match hashRecord p.toCanonical members with
  | some hash =>
    p.sha256Digest ((p.canonicalBytes (.object (("seal_hash", .text hash) :: members))).getD
      (p.textBytes ""))
  | none => ""

def anankeVerificationSeals : List String :=
  List.zipWith (deriveAnankeVerificationSeal p record) anankeVerificationKinds
    (anankeSealEvidence record)

/-- The three instants only have to be well formed. -/
def validateAnankeRecord (v : AnankeAttestationRecord) : Bool :=
  v.schemaVersion = "ananke.controlled-repair-ananke-verification.v1" &&
    v.state = .waitingForReview && validClosedIdentifier v.verificationID 128 &&
    [v.verificationHash, v.attestationHash, v.releasePinsHash,
      v.verifierAuthorityHash, v.repairAttestorCertificateHash].all validHash &&
    validClosedIdentifier v.repairAttestorRootID 128 &&
    [v.repairAttestorLeafSPKI, v.requestNonceHash, v.responseNonceHash,
      v.channelHash, v.authorizationHash, v.attemptHash].all validHash &&
    1 ≤ v.attemptNumber && v.attemptNumber ≤ attemptCap &&
    validHash v.supervisorJournalHeadHash && (p.parseUTC v.verifiedAt).isSome &&
    (p.parseUTC v.attestationIssuedAt).isSome &&
    (p.parseUTC v.freshnessCheckedAt).isSome &&
    recordHashMatches p.toCanonical v.content v.verificationHash

variable (v : VerifiedAnankeRecord β)

def verifiedAnankeRecordIntegrityHash : String :=
  (hashRecord p.toCanonical
    [("valid", .flag v.valid), ("signature_verified", .flag v.signatureVerified),
      ("signer_role_verified", .flag v.signerRoleVerified),
      ("certificate_validity_verified", .flag v.certificateValidityVerified),
      ("freshness_verified", .flag v.freshnessVerified),
      ("channel_verified", .flag v.channelVerified),
      ("request_binding_verified", .flag v.requestBindingVerified),
      ("head_consistency_verified", .flag v.headConsistencyVerified),
      ("verification_hash", .text v.record.verificationHash),
      ("canonical_hash", .text v.canonicalHash),
      ("verifier_authority_hash", .text v.verifierAuthorityHash),
      ("signature_verification_seal", .text v.signatureVerificationSeal),
      ("signer_role_verification_seal", .text v.signerRoleVerificationSeal),
      ("certificate_validity_verification_seal", .text v.certificateValidityVerificationSeal),
      ("freshness_verification_seal", .text v.freshnessVerificationSeal),
      ("channel_verification_seal", .text v.channelVerificationSeal),
      ("request_binding_verification_seal", .text v.requestBindingVerificationSeal),
      ("head_consistency_verification_seal", .text v.headConsistencyVerificationSeal)]).getD ""

def VerifiedAnankeRecord.flags : List Bool :=
  [v.signatureVerified, v.signerRoleVerified, v.certificateValidityVerified,
    v.freshnessVerified, v.channelVerified, v.requestBindingVerified,
    v.headConsistencyVerified]

def VerifiedAnankeRecord.seals : List String :=
  [v.signatureVerificationSeal, v.signerRoleVerificationSeal,
    v.certificateValidityVerificationSeal, v.freshnessVerificationSeal,
    v.channelVerificationSeal, v.requestBindingVerificationSeal,
    v.headConsistencyVerificationSeal]

/-- The snapshot is a valid record with the seals of the frozen verifier. -/
def verifiedAnankeRecordIntact : Bool :=
  v.valid && v.flags.all id && validHash v.integrityHash &&
    v.integrityHash = verifiedAnankeRecordIntegrityHash p v &&
    validHash v.canonicalHash && v.canonicalHash = p.sha256Digest v.canonical &&
    v.verifierAuthorityHash = anankeVerifierAuthorityHash p &&
    p.decodeAnankeRecord v.canonical = some v.record &&
    validateAnankeRecord p v.record && v.seals = anankeVerificationSeals p v.record

def verifiedAnankeCapabilityIntegrityHash (v : VerifiedAnankeCapability β) : String :=
  (hashRecord p.toCanonical
    [("valid", .flag v.valid), ("verification_hash", .text v.verificationHash),
      ("record_integrity_hash", .text v.recordIntegrityHash),
      ("verifier_authority_hash", .text v.verifierAuthorityHash),
      ("verification_seals_hash", .text v.verificationSealsHash),
      ("attestation_hash", .text v.attestationHash),
      ("authorization_hash", .text v.authorizationHash),
      ("canonical_hash", .text v.canonicalHash)]).getD ""

/-- The capability names a valid record, and its seals are those of the frozen verifier. -/
def verifiedAnankeCapabilityIntact (v : VerifiedAnankeCapability β) : Bool :=
  v.valid && validHash v.integrityHash &&
    v.integrityHash = verifiedAnankeCapabilityIntegrityHash p v &&
    [v.verificationHash, v.recordIntegrityHash, v.verifierAuthorityHash,
      v.verificationSealsHash, v.attestationHash, v.authorizationHash,
      v.canonicalHash].all validHash &&
    v.canonicalHash = p.sha256Digest v.canonical &&
    v.verifierAuthorityHash = anankeVerifierAuthorityHash p &&
    match p.decodeAnankeRecord v.canonical with
    | none => false
    | some decoded =>
      validateAnankeRecord p decoded && decoded.verificationHash = v.verificationHash &&
        v.verificationSealsHash =
          verificationSealsHash p.toCanonical (anankeVerificationSeals p decoded)

inductive AnankeVerificationAction
  | admitReview | statusOnly
  | other (name : String)
deriving DecidableEq

inductive AnankeVerificationDisposition
  | recordReady | retainedStatus

inductive AnankeVerificationRequirement
  | nextHuman | noEffect

/-- A classification; it never allows an effect. -/
structure AnankeVerificationAssessment where
  disposition : AnankeVerificationDisposition
  effectAllowed : Bool
  nextRequirement : AnankeVerificationRequirement

inductive AnankeVerificationError
  | invalidAnankeVerification

/-- One call of `EvaluateAnankeVerification`. -/
structure VerificationRequest (β : Type) where
  attestation : VerifiedAttestation β
  snapshot : VerifiedAnankeRecord β
  expectedPins : ReleasePins
  expectedBundle : TrustBundle
  now : Int
  action : AnankeVerificationAction

variable (r : VerificationRequest β)

/-- The signer of the attestation is the repair attestor that the release pins. -/
def signerMatchesRelease (att : RepairReviewAttestation) : Bool :=
  let attestor := r.expectedBundle.repairAttestor
  att.signatureDomain = signatureDomain &&
    att.repairAttestorCertificateHash = attestor.certificateHash &&
    att.repairAttestorRootID = attestor.issuerRootID &&
    att.repairAttestorLeafSPKI = attestor.subjectSPKISHA256 &&
    att.releasePinsHash = r.expectedPins.releasePinsHash &&
    att.trustBundleHash = r.expectedBundle.trustBundleHash

/-- The record repeats the attestation. -/
def recordMatchesAttestation (att : RepairReviewAttestation) : Bool :=
  let record := r.snapshot.record
  record.attestationHash = r.attestation.attestationHash &&
    record.authorizationHash = r.attestation.authorizationHash &&
    record.releasePinsHash = r.expectedPins.releasePinsHash &&
    record.verifierAuthorityHash = anankeVerifierAuthorityHash p &&
    record.repairAttestorCertificateHash = att.repairAttestorCertificateHash &&
    record.repairAttestorRootID = att.repairAttestorRootID &&
    record.repairAttestorLeafSPKI = att.repairAttestorLeafSPKI &&
    record.requestNonceHash = att.requestNonceHash &&
    record.responseNonceHash = att.responseNonceHash &&
    record.channelHash = att.channelHash &&
    record.attestationIssuedAt = att.issuedAt &&
    record.authorizationHash = att.authorizationHash &&
    record.attemptHash = att.attemptHash &&
    record.attemptNumber = att.attemptNumber &&
    record.supervisorJournalHeadHash = att.supervisorJournalHeadHash

/-- What is given out for the record of a snapshot. -/
def mintAnankeCapability (snap : VerifiedAnankeRecord β) : VerifiedAnankeCapability β :=
  let capability : VerifiedAnankeCapability β :=
    { valid := true
      verificationHash := snap.record.verificationHash
      recordIntegrityHash := snap.integrityHash
      verifierAuthorityHash := anankeVerifierAuthorityHash p
      verificationSealsHash := verificationSealsHash p.toCanonical
        (anankeVerificationSeals p snap.record)
      attestationHash := snap.record.attestationHash
      authorizationHash := snap.record.authorizationHash
      canonical := snap.canonical
      canonicalHash := snap.canonicalHash
      integrityHash := "" }
  { capability with integrityHash := verifiedAnankeCapabilityIntegrityHash p capability }

def evaluateAnankeVerification : Except AnankeVerificationError
      (AnankeVerificationAssessment × Option (VerifiedAnankeCapability β)) :=
  if !(verifyReleaseTrust p ⟨r.expectedPins, r.expectedBundle, p.frozen.rotation⟩ r.now &&
      verifiedAttestationIntact p r.attestation && verifiedAnankeRecordIntact p r.snapshot) then
    .error .invalidAnankeVerification
  else
    match p.decodeAttestation r.attestation.canonical with
    | none => .error .invalidAnankeVerification
    | some att =>
      if !(signerMatchesRelease r att && recordMatchesAttestation p r att) then
        .error .invalidAnankeVerification
      else if r.action = .statusOnly then .ok (⟨.retainedStatus, false, .noEffect⟩, none)
      else if r.action ≠ .admitReview || !r.snapshot.flags.all id then
        .error .invalidAnankeVerification
      else if !verifiedAnankeCapabilityIntact p (mintAnankeCapability p r.snapshot) then
        .error .invalidAnankeVerification
      else .ok (⟨.recordReady, false, .nextHuman⟩, some (mintAnankeCapability p r.snapshot))

end Ananke.Repair
