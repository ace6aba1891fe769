import Ananke.Repair.Instance

/-! When an accepted authority is fresh: the check made in the last nanosecond of its life speaks
for the whole of it. -/
namespace Ananke.Repair

variable {β : Type} {p : Primitives β} {start stop : String} {now later : Int}
  {want : SupervisorIntentAuthority} {verified : VerifiedAuthorization β}

/-- The instant that a text names has come. -/
def Begun (p : Primitives β) (start : String) (now : Int) : Prop :=
  ∀ instant ∈ p.parseUTC start, instant ≤ now

/-- When the roots and certificates of the release are valid. -/
def TrustBundle.windows (bundle : TrustBundle) : List (String × String) :=
  [(bundle.root.validFrom, bundle.root.notAfter),
    (bundle.repairAttestor.validFrom, bundle.repairAttestor.notAfter),
    (bundle.rotationApproverRoot.validFrom, bundle.rotationApproverRoot.notAfter),
    (bundle.rotationApprover.validFrom, bundle.rotationApprover.notAfter)]

/-- They are all valid by now, or were. -/
def TrustBegun (p : Primitives β) (now : Int) : Prop :=
  ∀ window ∈ p.frozen.bundle.windows, Begun p window.1 now

/-- The compiled certificates are valid when the bundle says so, and X.509 verification looks at
the instant only to see whether they are. -/
def Primitives.TimelessChains (p : Primitives β) : Prop :=
  ∀ now later, validateTrustTimes p p.frozen.bundle now = true →
    validateTrustTimes p p.frozen.bundle later = true →
    p.verifyEmbeddedReleaseTrust now = p.verifyEmbeddedReleaseTrust later

theorem within_iff : within p start stop now = true ↔ ∃ a b, p.parseUTC start = some a ∧
    p.parseUTC stop = some b ∧ a ≤ now ∧ now < b := by
  unfold within
  split <;> simp_all

theorem begun_of_within (h : within p start stop now = true) : Begun p start now := by
  obtain ⟨a, _, ha, -, hle, -⟩ := within_iff.mp h
  simpa [Begun, ha] using hle

theorem within_earlier (h : within p start stop later = true) (hle : now ≤ later)
    (hbegun : Begun p start now) : within p start stop now = true := by
  obtain ⟨a, b, ha, hb, -, hlt⟩ := within_iff.mp h
  exact within_iff.mpr ⟨a, b, ha, hb, hbegun a ha, by omega⟩

theorem trustTimes_iff {bundle : TrustBundle} : validateTrustTimes p bundle now = true ↔
      (∀ window ∈ bundle.windows, within p window.1 window.2 now = true) ∧
        ∀ state ∈ [bundle.root.revocationState, bundle.repairAttestor.revocationState,
          bundle.rotationApproverRoot.revocationState, bundle.rotationApprover.revocationState],
          state = "not_revoked" := by
  simp only [validateTrustTimes, TrustBundle.windows, List.forall_mem_cons, checks_iff]
  tauto

theorem verifyReleaseTrust_earlier (hp : p.TimelessChains)
    (h : verifyReleaseTrust p p.frozen later = true) (hle : now ≤ later)
    (hbegun : TrustBegun p now) : verifyReleaseTrust p p.frozen now = true := by
  simp only [verifyReleaseTrust, Bool.and_eq_true, and_assoc] at h ⊢
  obtain ⟨hfrozen, hembedded, hpins, hpins', hrot, hroles, hmatch, htimes⟩ := h
  have hvalid := trustTimes_iff.mp htimes
  have htimes' := trustTimes_iff.mpr
    ⟨fun window hw => within_earlier (hvalid.1 window hw) hle (hbegun window hw), hvalid.2⟩
  exact ⟨hfrozen, (hp now later htimes' htimes).trans hembedded, hpins, hpins', hrot, hroles,
    hmatch, htimes'⟩

theorem record_earlier {v : Authorization}
    (h : validateAuthorizationRecord p v later = true) (hle : now ≤ later)
    (hbegun : Begun p v.approval.approvedAt now) :
    validateAuthorizationRecord p v now = true := by
  rw [validateAuthorizationRecord, Bool.and_eq_true] at h ⊢
  refine ⟨h.1, ?_⟩
  have hfresh := h.2
  unfold approvalFresh at hfresh ⊢
  split at hfresh
  next approvedAt notAfter happr hnotAfter =>
    have hstart := hbegun approvedAt happr
    simp only [checks_iff] at hfresh ⊢
    omega
  · cases hfresh

variable [DecidableEq β]

/-- A dispatch that can take effect later, and whose trust and life have begun, can now. -/
theorem dispatchRecord_earlier (hp : p.TimelessChains) {v : ImmutableDispatch}
    (h : validateDispatchRecord p verified.authority verified v (some later) .effect = true)
    (hle : now ≤ later) (htrust : TrustBegun p now) (hbegun : Begun p v.createdAt now) :
    validateDispatchRecord p verified.authority verified v (some now) .effect = true := by
  rw [validateDispatchRecord, Bool.and_eq_true] at h ⊢
  obtain ⟨hrec, hfresh⟩ := h
  refine ⟨hrec, ?_⟩
  simp only [dispatchFresh, Bool.and_eq_true, and_assoc] at hfresh ⊢
  obtain ⟨hrelease, hauth, hwithin, htime⟩ := hfresh
  have happr : Begun p verified.authorization.approval.approvedAt now := by
    have hwindow := (Bool.and_eq_true _ _ ▸ hrec).2
    unfold dispatchWindow at hwindow
    split at hwindow
    next createdAt _ approvedAt _ hcreated _ happr _ =>
      intro instant hinstant
      have hstart := hbegun createdAt hcreated
      rw [happr, Option.mem_some] at hinstant
      simp only [checks_iff] at hwindow
      omega
    · cases hwindow
  exact ⟨verifyReleaseTrust_earlier hp hrelease hle htrust, record_earlier hauth hle happr,
    within_earlier hwithin hle hbegun, by simp⟩

theorem trustBegun_of_fresh
    (h : validateSupervisorIntentFreshness p want verified now = true) : TrustBegun p now := by
  rw [validateSupervisorIntentFreshness, validateDispatchRecord, Bool.and_eq_true,
    Bool.and_eq_true] at h
  have hfresh := h.2.2
  simp only [dispatchFresh, verifyReleaseTrust, Bool.and_eq_true] at hfresh
  have hvalid := trustTimes_iff.mp hfresh.1.1.1.2
  exact fun window hw => begun_of_within (hvalid.1 window hw)

/-- An accepted authority is fresh exactly from its creation to its end, once all roots and
certificates are valid; and once it is no longer fresh it never is again. -/
theorem freshness_iff (hp : p.TimelessChains)
    (h : validateSupervisorIntentAuthority p want verified = true) :
    (∀ now, validateSupervisorIntentFreshness p want verified now = true ↔
      within p want.createdAt want.notAfter now = true ∧ TrustBegun p now) ∧
    ∀ now later, Begun p want.createdAt now → TrustBegun p now →
      validateSupervisorIntentFreshness p want verified now = false → now ≤ later →
      validateSupervisorIntentFreshness p want verified later = false := by
  have hiff (now : Int) : validateSupervisorIntentFreshness p want verified now = true ↔
      within p want.createdAt want.notAfter now = true ∧ TrustBegun p now := by
    constructor
    · intro hfresh
      have htrust := trustBegun_of_fresh hfresh
      rw [validateSupervisorIntentFreshness, Bool.and_eq_true] at hfresh
      exact ⟨hfresh.1, htrust⟩
    · rintro ⟨hwithin, htrust⟩
      rw [validateSupervisorIntentFreshness, Bool.and_eq_true]
      refine ⟨hwithin, ?_⟩
      rw [validateSupervisorIntentAuthority, Bool.and_eq_true] at h
      have hwindow := h.2
      simp only [intentWindow] at hwindow
      split at hwindow
      next createdAt notAfter dispatchedAt _ hcreated hnotAfter hdispatched _ =>
        simp only [Bool.and_eq_true, decide_eq_true_eq] at hwindow
        simp only [within, hcreated, hnotAfter, Bool.and_eq_true, decide_eq_true_eq] at hwithin
        refine dispatchRecord_earlier hp hwindow.2 (by omega) htrust ?_
        intro instant hinstant
        rw [hdispatched, Option.mem_some] at hinstant
        omega
      · cases hwindow
  refine ⟨hiff, ?_⟩
  intro now later hbegun htrust hstale hle
  by_contra hfresh
  rw [Bool.not_eq_false] at hfresh
  have hwithin := within_earlier ((hiff later).mp hfresh).1 hle hbegun
  rw [(hiff now).mpr ⟨hwithin, htrust⟩] at hstale
  cases hstale

open Instance in
theorem freshness_iff_expected : (prims 1).TimelessChains ∧
      validateSupervisorIntentAuthority (prims 1) Instance.expected verifiedAuthorization = true ∧
      (validateSupervisorIntentFreshness (prims 1) Instance.expected verifiedAuthorization 5 =
          true ↔
        within (prims 1) Instance.expected.createdAt Instance.expected.notAfter 5 = true ∧
          TrustBegun (prims 1) 5) := by
  have hp : (prims 1).TimelessChains := by
    have htrusted {now : Int} (h : validateTrustTimes (prims 1) bundle now = true) :
        (prims 1).verifyEmbeddedReleaseTrust now = true := by
      simp only [validateTrustTimes, bundle, within_clockText, checks_iff] at h
      obtain ⟨h₀, h₉⟩ : 0 ≤ now ∧ now < 9 := by simpa using h.1.1.1.1
      simp [Primitives.verifyEmbeddedReleaseTrust, verifyCertificateTime, prims, h₀, h₉]
    exact fun _ _ hnow hlater => (htrusted hnow).trans (htrusted hlater).symm
  have h := authority_expected 1
  exact ⟨hp, h, (freshness_iff hp h).1 5⟩

end Ananke.Repair
