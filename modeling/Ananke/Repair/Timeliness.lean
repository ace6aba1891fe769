import Ananke.Repair.Links

/-! When a verification was made: what an evaluation that gives out a capability says about the
instants in its record. -/
namespace Ananke.Repair

open Validation

section Instants

variable {β : Type}

/-- The attestation was issued before its freshness was checked, and neither the check nor the
verification is in the future. -/
def Timely (p : Primitives β) (issuedAt freshnessCheckedAt verifiedAt : String) (now : Int) :
    Prop :=
  ∃ issued t verified, p.parseUTC issuedAt = some issued ∧
    p.parseUTC freshnessCheckedAt = some t ∧ p.parseUTC verifiedAt = some verified ∧
    issued ≤ t ∧ t ≤ now ∧ verified ≤ now

/-- A clock that is read at every step and never goes back. -/
structure Clock where
  read : Nat → Int
  forward {m n : Nat} : m ≤ n → read m ≤ read n

/-- It ticks from an instant on. -/
def Clock.ticking (first : Int) : Clock where
  read n := first + n
  forward _ := by omega

theorem Clock.read_ticking {first instant : Int} (h : first ≤ instant) :
    (ticking first).read (instant - first).toNat = instant := by
  simp only [ticking]
  omega

/-- What the marks of a snapshot stand for: freshness was checked at a step after the attestation
had been issued, and the certificate at another, both up to step `now`; the record has what the
clock read then. -/
structure Truthful (p : Primitives β) (s : VerifiedAnankeRecord β) (clock : Clock) (now : Nat) :
    Prop where
  freshness : s.freshnessVerified = true → ∃ issuing checking,
    issuing ≤ checking ∧ checking ≤ now ∧
      p.parseUTC s.record.attestationIssuedAt = some (clock.read issuing) ∧
      p.parseUTC s.record.freshnessCheckedAt = some (clock.read checking)
  validity : s.certificateValidityVerified = true → ∃ verifying ≤ now,
    p.parseUTC s.record.verifiedAt = some (clock.read verifying)

variable {p : Primitives β} {r : VerificationRequest β} {assessment : AnankeVerificationAssessment}
  {capability : VerifiedAnankeCapability β}

section

variable (h : evaluateAnankeVerification p r = .ok (assessment, some capability))
include h

theorem verified_of_evaluate :
    verifiedAnankeRecordIntact p r.snapshot = true ∧ r.snapshot.flags.all id = true ∧
      capability = mintAnankeCapability p r.snapshot ∧
      ∃ att, p.decodeAttestation r.attestation.canonical = some att ∧
        recordMatchesAttestation p r att = true := by
  obtain ⟨hint, h⟩ := unless_eq_ok h
  split at h
  · cases h
  next att hdec =>
    obtain ⟨hmatch, h⟩ := unless_eq_ok h
    split at h
    · simp at h
    · obtain ⟨hflags, h⟩ := unless_eq_ok h
      obtain ⟨-, h⟩ := unless_eq_ok h
      simp only [Except.ok.injEq, Prod.mk.injEq, Option.some.injEq] at h
      simp only [Bool.not_eq_true', Bool.not_eq_false, Bool.and_eq_true] at hint hmatch
      simp only [Bool.or_eq_true, not_or, Bool.not_eq_true', Bool.not_eq_false] at hflags
      exact ⟨hint.2, hflags.2, h.2.symm, att, hdec, hmatch.2⟩

theorem record_of_evaluate : p.decodeAnankeRecord capability.canonical = some r.snapshot.record ∧
      ∃ att, p.decodeAttestation r.attestation.canonical = some att ∧
        r.snapshot.record.attestationIssuedAt = att.issuedAt := by
  obtain ⟨hint, -, rfl, att, hdec, hmatch⟩ := verified_of_evaluate h
  simp only [verifiedAnankeRecordIntact, checks_iff, and_assoc] at hint
  obtain ⟨-, -, -, -, -, -, -, hrec, -⟩ := hint
  simp only [recordMatchesAttestation, checks_iff, and_assoc] at hmatch
  obtain ⟨-, -, -, -, -, -, -, -, -, -, hissued, -⟩ := hmatch
  exact ⟨hrec, att, hdec, hissued⟩

theorem marks_of_evaluate :
    r.snapshot.freshnessVerified = true ∧ r.snapshot.certificateValidityVerified = true := by
  obtain ⟨-, hflags, -⟩ := verified_of_evaluate h
  simp only [VerifiedAnankeRecord.flags, List.all_cons, id, Bool.and_eq_true] at hflags
  obtain ⟨-, -, hvalidity, hfresh, -⟩ := hflags
  exact ⟨hfresh, hvalidity⟩

end

end Instants

namespace Instance

open TrustedSupervisor.Instance (sha)

section Checks

variable (t : Nat)

theorem authorityHash_instance : anankeVerifierAuthorityHash (prims t) = sha 5 :=
  congrArg sha rfl

theorem seals_record : anankeVerificationSeals (prims t) (anankeRecord t) =
      List.replicate 7 (sha 6) := by
  have hseal (kind : String) (evidence : Value) :
      deriveAnankeVerificationSeal (prims t) (anankeRecord t) kind evidence =
        sha 6 := rfl
  simp [anankeVerificationSeals, anankeVerificationKinds, anankeSealEvidence, hseal, List.replicate]

theorem record_record : validateAnankeRecord (prims t) (anankeRecord t) = true := by
  have hmatch : recordHashMatches codec (anankeRecord t).content
      (anankeRecord t).verificationHash = true := by
    simp [anankeRecord, AnankeAttestationRecord.content]
  simp only [validateAnankeRecord, toCanonical_eq, hmatch]
  simp +decide [anankeRecord, attestation, attemptCap, pins, bundle, authorization, approval,
    attemptHash]

theorem decode_anankeRecord : (prims t).decodeAnankeRecord (fingerprint (anankeRecord t).toValue) =
      some (anankeRecord t) := by
  simp [prims, decode]

theorem recordIntact_snapshot : verifiedAnankeRecordIntact (prims t) (anankeSnapshot t) = true := by
  have hint : verifiedAnankeRecordIntegrityHash (prims t) (anankeSnapshot t) = sha 18 := rfl
  have hrec : (anankeSnapshot t).record = anankeRecord t := rfl
  have hcanon : (anankeSnapshot t).canonical = fingerprint (anankeRecord t).toValue := rfl
  rw [verifiedAnankeRecordIntact, hint, authorityHash_instance, hrec,
    hcanon, decode_anankeRecord, record_record,
    seals_record]
  simp [anankeSnapshot, VerifiedAnankeRecord.flags, VerifiedAnankeRecord.seals, List.replicate]

theorem capabilityIntact_mint : verifiedAnankeCapabilityIntact (prims t)
      (mintAnankeCapability (prims t) (anankeSnapshot t)) = true := by
  have hrec : (anankeSnapshot t).record = anankeRecord t := rfl
  have hcanon : (anankeSnapshot t).canonical = fingerprint (anankeRecord t).toValue := rfl
  have hseals : verificationSealsHash codec (List.replicate 7 (sha 6)) = sha 7 := by
    rw [sealsHash_codec]
    · rfl
    · simp [List.replicate]
  simp only [verifiedAnankeCapabilityIntact, mintAnankeCapability, hrec, hcanon,
    toCanonical_eq, authorityHash_instance, seals_record,
    decode_anankeRecord, record_record, hseals]
  simp [verifiedAnankeCapabilityIntegrityHash, anankeSnapshot, anankeRecord, attestation,
    authorization]

/-- The verification of the attestation, at a fixed instant. -/
@[simps] def verificationRequest : VerificationRequest Nat where
  attestation := mintAttestation (prims t) snapshot
  snapshot := anankeSnapshot t
  expectedPins := pins
  expectedBundle := bundle
  now := 5
  action := .admitReview

theorem ananke_request : evaluateAnankeVerification (prims t) (verificationRequest t) =
      .ok (⟨.recordReady, false, .nextHuman⟩,
        some (mintAnankeCapability (prims t) (anankeSnapshot t))) := by
  have hrot : (prims t).frozen.rotation = rotation := rfl
  have htrust : verifyReleaseTrust (prims t) ⟨pins, bundle, rotation⟩ 5 = true :=
    verifyTrust_release t (by omega) (by omega)
  have hcanon : (mintAttestation (prims t) snapshot).canonical =
      fingerprint attestation.toValue := rfl
  have hsigner : signerMatchesRelease (verificationRequest t) attestation = true := by
    simp only [signerMatchesRelease, checks_iff]
    exact ⟨⟨⟨⟨⟨rfl, rfl⟩, rfl⟩, rfl⟩, rfl⟩, rfl⟩
  have hmatch : recordMatchesAttestation (prims t) (verificationRequest t) attestation = true := by
    simp only [recordMatchesAttestation, checks_iff, authorityHash_instance, and_assoc]
    exact ⟨rfl, rfl, rfl, rfl, rfl, rfl, rfl, rfl, rfl, rfl, rfl, rfl, rfl, rfl, rfl⟩
  have hflags : (anankeSnapshot t).flags.all id = true := rfl
  simp [evaluateAnankeVerification, hrot, htrust, hcanon, decode_attestation,
    intact_mint, recordIntact_snapshot, hsigner, hmatch, hflags,
    capabilityIntact_mint]

end Checks

end Instance

end Ananke.Repair
