import Ananke.ExternalSupervisor.Inversion
import Ananke.Launch.Isolation
import Ananke.TrustedSupervisor.Instance

/-! Primitives that meet the assumptions, and one handoff from the launch specification to
its receipt. Bytes are the records they encode, and each kind of record has one hash. -/
namespace Ananke.ExternalSupervisor.Instance

open Launch Validation Relational Machine Text
open TrustedSupervisor.Instance (digits length_digits isHex_digits sha sha_ne clockText
  readClock pattern_sha)

inductive Doc
  | spec (s : LaunchSpec)
  | envelope (e : Envelope)
  | receipt (r : AuthReceipt)
  | callback (c : AuthCallback)
  | cancellation (c : AuthCancellation)
deriving DecidableEq

def deadline : String := "2026-01-01T00:00:00Z"

def prims : Primitives Doc where
  launchSpecDigest _ := sha 1
  hostSpecDigest _ := sha 2
  encodeSpec := .spec
  decodeSpec
    | .spec s => some s
    | _ => none
  parseTime text := (readClock text).or (if text = deadline then some (1000, true) else none)
  formatTime now := clockText now.toNat
  fenceBindingDigest fence := sha (100 + fence.fenceGeneration.toNat)
  envelopeDigest _ := sha 3
  signatureDigest _ := sha 4
  attestationDigest _ := sha 5
  approvalDigest _ := sha 6
  grantDigest _ := sha 7
  deliveryDigest _ := sha 8
  receiptDigest _ := sha 9
  callbackDigest _ := sha 10
  authenticationDigest _ := sha 11
  cancellationDigest _ := sha 12
  acknowledgementDigest _ := sha 13
  encodeEnvelope := .envelope
  decodeEnvelope
    | .envelope e => some e
    | _ => none
  encodeReceipt := .receipt
  decodeReceipt
    | .receipt r => some r
    | _ => none
  encodeCallback := .callback
  decodeCallback
    | .callback c => some c
    | _ => none
  encodeCancel := .cancellation
  decodeCancel
    | .cancellation c => some c
    | _ => none

/-- What the launch journal needs of them. -/
abbrev base : Launch.Primitives Doc := prims.toPrimitives

theorem lawful : prims.Lawful := fun _ _ => rfl

@[simp] theorem parseTime_clockText (now : Nat) :
    prims.parseTime (clockText now) = some ((now : Int), true) := by
  simp [prims, readClock, clockText]

@[simp] theorem parseTime_deadline : prims.parseTime deadline = some (1000, true) := by
  have hclock : readClock deadline = none := by decide
  simp [prims, hclock]

@[simp] theorem timeOf_clockText (now : Nat) : prims.timeOf (clockText now) = some (now : Int) := by
  simp [Primitives.timeOf]

@[simp] theorem timeOf_deadline : prims.timeOf deadline = some 1000 := by
  simp [Primitives.timeOf]

@[simp] theorem validTime_clockText (now : Nat) :
    externalSupervisorValidTime prims (clockText now) = true := by
  simp [externalSupervisorValidTime]

@[simp] theorem orderedTimes_clockText (m n : Nat) :
    externalSupervisorOrderedTimes prims (clockText m) (clockText n) = decide (m < n) := by
  simp [externalSupervisorOrderedTimes]

@[simp] theorem notBefore_clockText (m n : Nat) :
    notBefore prims (clockText m) (clockText n) = decide (n ≤ m) := by
  simp [notBefore]

@[simp] theorem notBefore_deadline (n : Nat) :
    notBefore prims deadline (clockText n) = decide (n ≤ 1000) := by
  simp only [notBefore, timeOf_deadline, timeOf_clockText]
  exact decide_eq_decide.mpr (by omega)

@[simp] theorem launch_sha (n : Nat) : launchHashPattern (sha n) = true :=
  pattern_sha n

theorem sha_ne_empty (n : Nat) : sha n ≠ "" := by
  intro h
  have hpattern := launch_sha n
  rw [h] at hpattern
  revert hpattern
  decide

def nonce : String := String.ofList ("nonce:".toList ++ digits 64 0)

def signature : String := String.ofList ("ed25519:".toList ++ digits 128 0)

theorem hexAfter_digits (start : String) (n k : Nat) :
    hexAfter start n (String.ofList (start.toList ++ digits n k)) = true := by
  have hall : (digits n k).all isHex = true := List.all_eq_true.mpr fun c hc => isHex_digits hc
  simp [hexAfter, length_digits, hall]

@[simp] theorem launchNoncePattern_nonce : launchNoncePattern nonce = true :=
  hexAfter_digits "nonce:" 64 0

@[simp] theorem signaturePattern_signature : externalSupervisorSignaturePattern signature = true :=
  hexAfter_digits "ed25519:" 128 0

def name : String := "one"

@[simp] theorem identifierPattern_name : identifierPattern name = true := by decide

@[simp] theorem safe_name : validExternalSupervisorSafeOpaqueIdentifier name = true := by
  decide

def spec : LaunchSpec where
  schemaVersion := launchSpecSchemaVersion
  revision := ⟨name, 1, sha 0⟩
  model := ⟨name, name⟩
  deadline := deadline
  attemptCap := 2
  readOnlyScope := ⟨"read_only", "sealed_contract_only", sha 0, "forbidden"⟩
  sealedContract := ⟨sha 0, nonce⟩
  hostSpec := ⟨wantCapabilities, sha 0, sha 2, sha 0, sha 0, sha 0⟩
  transcript := ⟨"omp_shape_v1", sha 0, "shape_only"⟩
  verification := ⟨"read_only", sha 0⟩

theorem hashSpec_spec : hashLaunchSpec base spec = .ok (sha 1) := by
  have hdl : launchTimestampPattern deadline = true := by decide
  have hhost : prims.hostSpecDigest spec.hostSpec = sha 2 := rfl
  simp only [hashLaunchSpec, validateLaunchSpec, ok_iff, validateIdentifier, each_eq_ok,
    LaunchHostSpec.fingerprints, hhost]
  simp [spec, hdl]
  rfl

/-- The proposal was approved by the operator. -/
def proposals : Proposals where
  checkRevision _ := .ok ()
  approval _ _ := .ok (some ⟨name, name, 1, sha 0, some (clockText 1), localGUIOperator,
    .approved, .approved, .approved⟩)

def specRow : SpecRow Doc :=
  ⟨sha 1, name, 1, sha 0, name, clockText 1, localGUIOperator, .approved, .spec spec, clockText 1⟩

def stored : StoredLaunchSpec :=
  ⟨spec, sha 1, ⟨name, name, 1, sha 0, 1, localGUIOperator, .approved⟩, 1⟩

theorem readSpec_specRow : readLaunchSpec base specRow = .ok stored := by
  simp only [readLaunchSpec, ok_iff]
  refine ⟨spec, rfl, (), rfl, (), ⟨hashSpec_spec, rfl⟩, 1, timeOf_clockText 1, 1,
    timeOf_clockText 1, (), ?_, rfl⟩
  simp [specRow]

def db₁ : DB Doc := { specs := [specRow] }

theorem validateIdentifier_name (field : String) : validateIdentifier name field = .ok () :=
  require_of identifierPattern_name

variable {now : Int}

theorem stamp_ok (h : 0 ≤ now) : stamp base now = .ok (clockText now.toNat, now) := by
  refine stamp_eq_ok.mpr ⟨(timeOf_clockText now.toNat).trans ?_, rfl⟩
  rw [Int.toNat_of_nonneg h]

theorem spec_of_eligible {proposals : Proposals}
    (helig : validateLaunchApprovalEligibility base proposals spec.revision name =
      .ok stored.approval) :
    storeLaunchSpec base {} ⟨spec, sha 1, name⟩ proposals 1 = .ok (stored, some db₁) := by
  simp only [storeLaunchSpec, ok_iff]
  refine ⟨_, hashSpec_spec, (), rfl, (), validateIdentifier_name _, none, rfl, ?_⟩
  simp only [ok_iff, insert_eq_ok]
  exact ⟨_, helig, _, stamp_ok (by decide), _, ⟨by simp, rfl⟩, rfl⟩

theorem storeSpec_ok :
    storeLaunchSpec base {} ⟨spec, sha 1, name⟩ proposals 1 = .ok (stored, some db₁) := by
  refine spec_of_eligible ?_
  simp only [validateLaunchApprovalEligibility, ok_iff]
  exact ⟨(), rfl, _, rfl, _, rfl, _, rfl, 1, timeOf_clockText 1, (), by simp [spec], rfl⟩

section

variable {db db' : DB Doc} {now : Int} {outboxID : String}

theorem exec_storeLaunchSpec {req : LaunchAdmissionRequest} {proposals : Proposals}
    {r : StoredLaunchSpec} (h : storeLaunchSpec base db req proposals now = .ok (r, some db')) :
    Launch.exec base db (.storeLaunchSpec req proposals now, true) =
      (db', ⟨.ok (.stored r), none⟩) := by
  simp only [Launch.exec, h]
  rfl

theorem exec_acquireLaunchClaim {req : LaunchClaimRequest} {r : TaskClaim}
    (h : acquireLaunchClaim base db req outboxID now = .ok (r, some db')) :
    Launch.exec base db (.acquireLaunchClaim req outboxID now, true) =
      (db', ⟨.ok (.claimed r), none⟩) := by
  simp only [Launch.exec, h]
  rfl

theorem exec_recordLaunchMaterializationReady {req : LaunchMaterializationRequest}
    {r : LaunchMaterialization}
    (h : recordLaunchMaterializationReady base db req outboxID now = .ok (r, some db')) :
    Launch.exec base db (.recordLaunchMaterializationReady req outboxID now, true) =
      (db', ⟨.ok (.materialized r), none⟩) := by
  simp only [Launch.exec, h]
  rfl

theorem exec_createLaunchRunIntent {req : LaunchRunIntentRequest} {r : LaunchRunIntent}
    (h : createLaunchRunIntent base db req outboxID now = .ok (r, some db')) :
    Launch.exec base db (.createLaunchRunIntent req outboxID now, true) =
      (db', ⟨.ok (.intended r), none⟩) := by
  simp only [Launch.exec, h]
  rfl

end

def fence : LaunchFence := ⟨name, sha 0, 1⟩

def claimRow : ClaimRow := ⟨sha 1, fence, name, 1, clockText 2⟩

def claim : TaskClaim := ⟨fence, sha 1, name, 1, 2⟩

def outboxRow (outboxID : String) (seq : Int) (state : LaunchOutboxState) (now : Int) :
    OutboxRow :=
  ⟨outboxID, sha 1, fence, seq, state, clockText now.toNat⟩

def db₂ : DB Doc :=
  { db₁ with
    claims := [claimRow]
    heads := [⟨sha 1, fence⟩]
    outbox := [outboxRow "a" 1 .pendingMaterialization 2] }

variable {db : DB Doc}

theorem loadSpec_ok (h : db.specs = [specRow]) :
    loadLaunchSpec base db (sha 1) = .ok (some stored) := by
  have hsel : select SpecRow.launchSpecHash (sha 1) db.specs = some specRow := by
    simp [select, h, specRow]
  simp only [loadLaunchSpec, hsel, readSpec_specRow]
  rfl

section

variable (hclaims : db.claims = [claimRow]) (hheads : db.heads = [⟨sha 1, fence⟩])
include hclaims hheads

theorem loadActiveClaim_ok : loadActiveLaunchClaim base db (sha 1) = .ok (some claim) := by
  have hread : readClaim base claimRow = .ok claim := by
    simp only [readClaim, ok_iff]
    exact ⟨(), ⟨le_refl _, le_refl _⟩, 2, timeOf_clockText 2, rfl⟩
  have hsel : select HeadRow.launchSpecHash (sha 1) db.heads = some ⟨sha 1, fence⟩ := by
    simp [select, hheads]
  have hfind : (db.claims.find? fun claim =>
      some claim.launchSpecHash = some (sha 1) ∧ claim.fence = fence) = some claimRow := by
    simp [hclaims, claimRow]
  simp only [loadActiveLaunchClaim, hsel, hfind, hread]
  rfl

theorem requireActiveFence_ok : requireActiveLaunchFence base db "" fence = .ok claim := by
  refine fence_eq_ok.mpr ⟨rfl, sha 1, ?_, loadActiveClaim_ok hclaims hheads⟩
  simp only [resolveLaunchSpecHash, launchSpecHashForClaim, if_pos, hclaims]
  simp [select, claimRow, ClaimRow.claimID, fence, expect, Except.map]

end

variable {outboxID : String}

theorem insertOutbox_ok {seq : Int} (state : LaunchOutboxState) (now : Int)
    (hid : some outboxID ∉ db.outbox.map OutboxRow.outboxID)
    (hseq : ∀ r ∈ db.outbox, r.sequence ≠ seq) :
    insertLaunchOutbox base db claim seq state outboxID now =
      .ok { db with outbox := db.outbox ++ [outboxRow outboxID seq state now] } := by
  simp only [insertLaunchOutbox, ok_iff, insert_eq_ok]
  exact ⟨_, ⟨⟨hid, fun r hr h => hseq r hr h.2.2⟩, rfl⟩, rfl⟩

/-- The specification can be claimed with any attempt. -/
theorem acquire_attempt {attempt : Int} (hatt : 1 ≤ attempt) :
    acquireLaunchClaim base db₁ ⟨sha 1, name, sha 0, name, attempt⟩ "a" 2 =
      .ok ({ claim with attempt := attempt },
        some { db₂ with claims := [{ claimRow with attempt := attempt }] }) := by
  have hreq : validateLaunchClaimRequest ⟨sha 1, name, sha 0, name, attempt⟩ = .ok () := by
    simp [validateLaunchClaimRequest, validateIdentifier, bind_eq_ok, hatt]
  have hclaim : insertLaunchClaim base db₁
      ⟨sha 1, name, sha 0, name, attempt⟩ 1 2 = .ok ({ claim with attempt := attempt },
        { db₁ with
          claims := [{ claimRow with attempt := attempt }], heads := [⟨sha 1, fence⟩] }) := by
    have hpos : 0 < attempt := by omega
    simp only [insertLaunchClaim, stamp_ok (show (0 : Int) ≤ 2 by decide), ok_bind, ok_iff,
      insert_eq_ok, if_pos]
    exact ⟨_, ⟨by simp [db₁, hpos], rfl⟩, _, ⟨by simp [db₁], rfl⟩, rfl⟩
  simp only [acquireLaunchClaim, ok_iff]
  exact ⟨(), hreq, _, loadSpec_ok rfl, _, rfl, none, rfl, (), rfl, _, hclaim, _,
    insertOutbox_ok _ 2 (by simp [db₁]) (by simp [db₁]), rfl⟩

theorem acquire_ok : acquireLaunchClaim base db₁
    ⟨sha 1, name, sha 0, name, 1⟩ "a" 2 = .ok (claim, some db₂) :=
  acquire_attempt (by decide)

def materializationRow : MaterializationRow :=
  ⟨name, sha 1, fence, sha 0, nonce, launchMaterializationStateReady, clockText 3⟩

def materialization : LaunchMaterialization := ⟨fence, sha 1, name, sha 0, nonce, 3⟩

def db₃ : DB Doc :=
  { db₂ with
    materializations := [materializationRow]
    outbox := db₂.outbox ++ [outboxRow "b" 2 .pendingRunAdmission 3] }

theorem complete_fence : fence.Complete := by
  simp [LaunchFence.Complete, fence, name]

theorem recordReady_ok :
    recordLaunchMaterializationReady base db₂ ⟨fence, name, sha 0, nonce⟩ "b" 3 =
      .ok (materialization, some db₃) := by
  have hreq : validateLaunchMaterializationRequest ⟨fence, name, sha 0, nonce⟩ = .ok () := by
    simp [validateLaunchMaterializationRequest, validateIdentifier, complete_fence, bind_eq_ok]
  simp only [recordLaunchMaterializationReady, ok_iff]
  refine ⟨(), hreq, claim, requireActiveFence_ok rfl rfl, _, loadSpec_ok rfl, _,
    rfl, (), ⟨rfl, rfl⟩, none, rfl, ?_⟩
  simp only [ok_iff, insert_eq_ok]
  exact ⟨_, stamp_ok (by decide), _, ⟨by simp [db₂, db₁, fence], rfl⟩, _,
    insertOutbox_ok _ 3 (by simp [db₂, outboxRow]) (by simp [db₂, outboxRow]), rfl⟩

theorem materialized_ok (h : db.materializations = [materializationRow]) :
    loadLaunchMaterialization base db (sha 1) 1 = .ok (some materialization) := by
  have hread : readMaterialization base materializationRow = .ok materialization := by
    simp only [readMaterialization, ok_iff]
    exact ⟨name, rfl, (), ⟨rfl, launch_sha 0, launchNoncePattern_nonce⟩, 3, timeOf_clockText 3,
      rfl⟩
  have hfind : (db.materializations.find? fun row =>
      row.launchSpecHash = sha 1 ∧ row.fence.fenceGeneration = 1) = some materializationRow := by
    simp [h, materializationRow, fence]
  simp only [loadLaunchMaterialization, hfind, hread]
  rfl

theorem each_persisted : each (validatePersistedLaunchMaterialization stored)
    (some materialization).toList = .ok () := by
  simp [each_eq_ok, validatePersistedLaunchMaterialization, materialization, stored, spec]

def runRow : RunIntentRow := ⟨name, sha 1, fence, name, 1, clockText 4⟩

def runFact : StateFactRow := ⟨name, 1, launchStateFactCreated, sha 0, clockText 4⟩

def runIntent : LaunchRunIntent := ⟨fence, sha 1, name, name, 1, ⟨1, sha 0, 4⟩, 4⟩

def db₄ : DB Doc :=
  { db₃ with
    runIntents := [runRow]
    runFacts := [runFact]
    outbox := db₃.outbox ++ [outboxRow "c" 3 .pendingProcessAdmission 4] }

theorem createIntent_ok : createLaunchRunIntent base db₃ ⟨fence, name, name, 1⟩ "c" 4 =
      .ok (runIntent, some db₄) := by
  have hreq : validateLaunchRunIntentRequest ⟨fence, name, name, 1⟩ = .ok () := by
    simp [validateLaunchRunIntentRequest, validateIdentifier, complete_fence, bind_eq_ok]
  have hinsert : insertRunIntent base db₃ claim ⟨fence, name, name, 1⟩ "c" 4 =
      .ok (runIntent, some db₄) := by
    simp only [insertRunIntent, ok_iff, insert_eq_ok]
    exact ⟨_, stamp_ok (by decide), _, ⟨by simp [db₃, db₂, db₁, claim, fence], rfl⟩, _,
      ⟨by simp [db₃, db₂, db₁], rfl⟩, _,
      insertOutbox_ok _ 4 (by simp [db₃, db₂, outboxRow]) (by simp [db₃, db₂, outboxRow]),
      rfl⟩
  simp only [createLaunchRunIntent, ok_iff]
  refine ⟨(), hreq, claim, requireActiveFence_ok rfl rfl, _, loadSpec_ok rfl, _,
    rfl, (), rfl, _, materialized_ok rfl, (), each_persisted, _, rfl, (), ⟨rfl, rfl⟩,
    none, rfl, ?_⟩
  rw [bind_eq_ok]
  exact ⟨none, rfl, hinsert⟩

theorem loadRunIntent_ok (hruns : db.runIntents = [runRow]) (hfacts : db.runFacts = [runFact]) :
    loadLaunchRunIntentByGeneration base db (sha 1) 1 = .ok (some runIntent) := by
  have hread : readRunIntent base name runRow runFact = .ok runIntent := by
    simp only [readRunIntent, ok_iff]
    exact ⟨(), ⟨rfl, rfl, rfl, le_refl _⟩, 4, timeOf_clockText 4, 4, timeOf_clockText 4, rfl⟩
  have hfind : (db.runIntents.find? fun row =>
      row.launchSpecHash = sha 1 ∧ row.fence.fenceGeneration = 1) = some runRow := by
    simp [hruns, runRow, fence]
  have hsel : select RunIntentRow.runID name db.runIntents = some runRow := by
    simp [hruns, select, runRow]
  have hfact : (db.runFacts.find? fun fact => fact.runID = name ∧ fact.sequence = 1) =
      some runFact := by
    simp [hfacts, runFact]
  have hscan : scan runRow.runID = .ok name := rfl
  simp only [loadLaunchRunIntentByGeneration, hfind, hscan, ok_bind, loadLaunchRunIntent, hsel,
    hfact, hread]
  rfl

def boundary : LaunchRecoveryBoundary :=
  ⟨sha 1, claim, ⟨fence, sha 1, "c", 3, .pendingProcessAdmission, 4⟩, some materialization,
    some runIntent, none, none, .retryProcessAdmission⟩

theorem loadRecoveryBoundary_ok : loadLaunchRecoveryBoundary base db₄ (sha 1) = .ok boundary := by
  have hout : loadLatestLaunchOutbox base db₄ (sha 1) 1 = .ok boundary.outbox := by
    have hrows : (db₄.outbox.filter fun row =>
        row.launchSpecHash = sha 1 ∧ row.fence.fenceGeneration = 1) = db₄.outbox := by
      simp [db₄, db₃, db₂, outboxRow, fence]
    simp only [loadLatestLaunchOutbox, hrows, ok_iff]
    exact ⟨outboxRow "c" 3 .pendingProcessAdmission 4, rfl, "c", rfl, (), by decide, 4,
      timeOf_clockText 4, rfl⟩
  have hfacts : loadRunFacts base db₄ claim (some materialization) (some runIntent) =
      .ok (none, none) := by
    simp only [loadRunFacts, ok_iff]
    exact ⟨(), require_of (.inr rfl), (), rfl, none, rfl, (), require_of (.inl rfl), none, rfl, (),
      require_of (.inl rfl), rfl⟩
  exact boundary_eq_ok.mpr ⟨stored, rfl, loadActiveClaim_ok rfl rfl,
    loadSpec_ok rfl, hout, require_of (.inr rfl), materialized_ok rfl,
    each_persisted, require_of (.inr rfl), loadRunIntent_ok rfl rfl, hfacts, rfl⟩

def envelope : Envelope where
  schemaVersion := "ananke.remote-supervisor-sealed-launch-envelope.v1"
  handoffID := name
  idempotencyKeyHash := sha 0
  launchSpecHash := sha 1
  fenceBindingHash := sha 101
  deadline := deadline
  attemptNumber := 1
  attemptCap := 2
  routeMappingHash := sha 0
  sourceSnapshotHash := sha 0
  sourceManifestHash := sha 0
  repositoryIdentity := name
  supervisorArtifactSHA256 := sha 0
  buildIdentityHash := sha 0
  releaseAttestationHash := sha 0
  releaseApprovalHash := sha 0
  evidenceContractHash := sha 0
  evidenceSchemaVersion := "ananke.remote-supervisor-evidence.v1"
  envelopeHash := sha 3

attribute [local simp] validExternalSupervisorIdentifier externalSupervisorHashes

theorem validateEnvelope_ok : validateExternalSupervisorEnvelope prims envelope = .ok () := by
  have htrim : trimSpace name ≠ "" := by decide
  simp only [validateExternalSupervisorEnvelope, validateExternalSupervisorEnvelopeContent, ok_iff,
    each_eq_ok]
  refine ⟨(), ⟨(), ?_, (), ?_, ?_⟩, (), launch_sha 3, rfl⟩
  · simp [envelope, htrim]
  · simp [envelope]
  · simp [envelope]

theorem admitted (h : now < 1000) : Admitted prims db₄ envelope fence now :=
  ⟨boundary, stored, 1000, loadRecoveryBoundary_ok, rfl, rfl, rfl, loadSpec_ok rfl, rfl,
    timeOf_deadline, h, rfl, rfl, by decide⟩

def handoffRow : HandoffRow Doc :=
  ⟨name, sha 3, sha 0, sha 1, .envelope envelope, clockText 5⟩

def handoff : Handoff := ⟨envelope, sha 1, 5⟩

def staged : Store Doc where
  launch := db₄
  handoffs := [handoffRow]
  deliveryOutbox := [⟨name, sha 3, clockText 5⟩]

theorem stageHandoff_ok : stageExternalSupervisorHandoff prims { launch := db₄ } envelope fence 5 =
      .ok (handoff, some staged) := by
  simp only [stageExternalSupervisorHandoff, bind_eq_ok]
  refine ⟨(), validateEnvelope_ok, none, rfl, ?_⟩
  simp only [ok_iff, insertRow_eq_ok]
  exact ⟨(), admission_eq_ok.mpr (admitted (by decide)), 5,
    timeOf_clockText 5, _, ⟨by simp, rfl⟩, _, ⟨by simp, rfl⟩, rfl⟩

/-- From the specification to the staged handoff. -/
def launching : List (Op × Bool) :=
  [(.launch (.storeLaunchSpec ⟨spec, sha 1, name⟩ proposals 1), true),
    (.launch (.acquireLaunchClaim ⟨sha 1, name, sha 0, name, 1⟩ "a" 2), true),
    (.launch (.recordLaunchMaterializationReady ⟨fence, name, sha 0, nonce⟩ "b" 3), true),
    (.launch (.createLaunchRunIntent ⟨fence, name, name, 1⟩ "c" 4), true),
    (.stage envelope fence 5, true)]

variable {s : Store Doc} {db' : DB Doc}

theorem exec_launch {op : Launch.Op} {a : Launch.Answer}
    (h : Launch.exec base s.launch (op, true) = (db', ⟨.ok a, none⟩)) :
    exec prims s (.launch op, true) = ({ s with launch := db' }, ⟨.ok (.launch a), none⟩) := by
  simp only [exec, h]
  rfl

variable {s' : Store Doc}

theorem run_launching : run (exec prims) {} launching = staged := by
  have hstore := exec_launch (s := {}) (exec_storeLaunchSpec storeSpec_ok)
  have hacquire := exec_launch (s := { launch := db₁ }) (exec_acquireLaunchClaim acquire_ok)
  have hmaterialize := exec_launch (s := { launch := db₂ })
    (exec_recordLaunchMaterializationReady recordReady_ok)
  have hintend := exec_launch (s := { launch := db₃ }) (exec_createLaunchRunIntent createIntent_ok)
  have hstage : exec prims { launch := db₄ } (.stage envelope fence 5, true) =
      (staged, ⟨.ok (.handoff handoff), none⟩) := by
    simp only [exec, stageHandoff_ok]
    rfl
  rw [launching, run_cons_of hstore, run_cons_of hacquire, run_cons_of hmaterialize,
    run_cons_of hintend, run_cons_of hstage, run_nil]

theorem loadHandoff_ok (h : s.handoffs = [handoffRow]) :
    loadExternalSupervisorHandoff prims s name = .ok (some handoff) := by
  have hsel : select HandoffRow.handoffID name s.handoffs = some handoffRow := by
    simp [h, select, handoffRow]
  simp only [loadExternalSupervisorHandoff, hsel, ok_iff, decode_eq_ok]
  exact ⟨envelope, ⟨rfl, rfl⟩, (), ⟨validateEnvelope_ok, rfl, rfl⟩, 5, timeOf_clockText 5, rfl⟩

theorem loadAdmission_ok
    (hlaunch : s.launch = db₄) (hhands : s.handoffs = [handoffRow]) (hnow : now < 1000) :
    loadAuthenticatedHandoffAdmission prims s name now = .ok handoff :=
  loadAdmission_eq_ok.mpr ⟨loadHandoff_ok hhands, fence, hlaunch ▸ admitted hnow⟩

def attestation : ReleaseAttestation where
  schemaVersion := "ananke.independent-supervisor-release-attestation.v1"
  artifactSHA256 := sha 0
  attestationHash := sha 5
  attestorKeySPKISHA256 := sha 0
  buildIdentityHash := sha 0
  issuedAt := clockText 1
  notAfter := clockText 90
  releaseRootID := name
  routeMappingHash := sha 0

def approval : ReleaseApproval where
  schemaVersion := "ananke.independent-supervisor-release-approval.v1"
  approvalHash := sha 6
  approvalID := name
  approverKeySPKISHA256 := sha 0
  approverRootID := name
  attestationHash := sha 5
  decision := "approved"
  issuedAt := clockText 1
  notAfter := clockText 90
  routeMappingHash := sha 0

def grant : MoARoleGrant where
  schemaVersion := "ananke.moa-typed-role-grant.v1"
  grantHash := sha 7
  grantID := name
  granteeRole := "remote_supervisor_runner"
  grantorKeySPKISHA256 := sha 0
  grantorRootID := name
  issuedAt := clockText 1
  notAfter := clockText 90
  releaseApprovalHash := sha 6
  releaseAttestationHash := sha 5
  routeMappingHash := sha 0

def detached : DetachedSignature :=
  ⟨"ananke.independent-supervisor-detached-signature.v1", "ed25519", sha 0, signature, sha 4⟩

def chain : AuthorizationChain := ⟨attestation, detached, approval, detached, grant, detached⟩

def delivery : SealedDelivery where
  schemaVersion := "ananke.independent-supervisor-sealed-handoff-delivery.v1"
  attemptCap := 2
  attemptNumber := 1
  channelBindingHash := sha 20
  deadline := deadline
  deliveryExpiresAt := clockText 60
  deliveryHash := sha 8
  deliveryID := name
  issuedAt := clockText 4
  moARoleGrantHash := sha 7
  nonceHash := sha 21
  predecessorEnvelopeHash := sha 3
  predecessorIdempotencyKeyHash := sha 0
  releaseApprovalHash := sha 6
  releaseAttestationHash := sha 5
  routeMappingHash := sha 0
  trustBundleHash := sha 0

def protocolReceipt : ProtocolReceipt where
  schemaVersion := "ananke.independent-supervisor-acceptance-receipt.v1"
  attemptNumber := 1
  channelBindingHash := sha 22
  deliveryHash := sha 8
  envelopeHash := sha 3
  issuedAt := clockText 6
  nonceHash := sha 23
  receiptHash := sha 9
  receiptID := name
  releaseApprovalHash := sha 6
  routeMappingHash := sha 0
  signerKeySPKISHA256 := sha 0
  trustRootID := name

/-- The peer's signature under a message. -/
def authentication (messageType : MessageType)
    (messageHash nonceHash channelHash issuedAt : String) :
    MessageAuth :=
  ⟨"ananke.local-trusted-supervisor-message-authentication.v1", messageType, messageHash, nonceHash,
    channelHash, sha 0, issuedAt, sha 0, signature, sha 11⟩

def receipt : AuthReceipt where
  schemaVersion := "ananke.local-trusted-supervisor-authenticated-receipt.v1"
  authorization := chain
  delivery := delivery
  deliveryAuthentication :=
    authentication .delivery (sha 8) (sha 21) (sha 20) (clockText 4)
  receipt := protocolReceipt
  receiptAuthentication := authentication .receipt (sha 9) (sha 23) (sha 22) (clockText 6)

theorem sealed_auth (messageType : MessageType) (message nonce channel issuedAt : Nat)
    (htype : messageType = .delivery ∨ messageType = .receipt ∨
      messageType = .callback ∨ messageType = .cancellation) :
    validateExternalSupervisorMessageAuthentication prims
      (authentication messageType (sha message) (sha nonce) (sha channel) (clockText issuedAt))
      messageType (sha message) (sha nonce) (sha channel) (clockText issuedAt) = .ok () := by
  refine require_of ⟨?_, rfl, rfl, rfl, rfl, rfl⟩
  refine sealWith_eq_ok.mpr ⟨?_, rfl⟩
  simp [authentication, authenticationSignatureHash, htype]

theorem sealed_attestation : sealExternalSupervisorReleaseAttestation prims attestation =
    .ok attestation := by
  exact sealWith_eq_ok.mpr ⟨by simp [attestation, attestationHash], rfl⟩

theorem sealed_approval : sealExternalSupervisorReleaseApproval prims approval =
    .ok approval := by
  exact sealWith_eq_ok.mpr ⟨by simp [approval, approvalHash], rfl⟩

theorem sealed_grant : sealExternalSupervisorMoARoleGrant prims grant = .ok grant := by
  exact sealWith_eq_ok.mpr ⟨by simp [grant, grantHash], rfl⟩

theorem sealed_detached : sealExternalSupervisorDetachedSignature prims detached =
    .ok detached := by
  exact sealWith_eq_ok.mpr ⟨by simp [detached, signatureHash], rfl⟩

theorem chainSealed : ChainSealed prims chain := by
  refine ⟨sealed_attestation, sealed_approval, sealed_grant, ?_⟩
  simp [chain, sealed_detached]

theorem sealed_delivery : sealExternalSupervisorSealedDelivery prims delivery =
    .ok delivery := by
  exact sealWith_eq_ok.mpr ⟨by simp [delivery, deliveryHash], rfl⟩

theorem sealed_protocolReceipt : sealExternalSupervisorProtocolReceipt prims protocolReceipt =
    .ok protocolReceipt := by
  exact sealWith_eq_ok.mpr ⟨by simp [protocolReceipt, receiptHash], rfl⟩

theorem receiptBinds : ReceiptBinds receipt envelope := by
  have hnonce : sha 21 ≠ sha 23 := sha_ne (by decide)
  have hchannel : sha 20 ≠ sha 22 := sha_ne (by decide)
  have hattest : sha 5 ≠ sha 0 := sha_ne (by decide)
  have happr : sha 6 ≠ sha 0 := sha_ne (by decide)
  exact ⟨hnonce, hchannel, rfl, rfl, rfl, rfl, rfl, rfl, rfl, rfl, rfl, hattest, rfl, rfl,
    rfl, happr, rfl, rfl, rfl, rfl, rfl, rfl, rfl, rfl, rfl, rfl⟩

theorem validateReceipt_ok :
    validateAuthenticatedExternalSupervisorReceipt prims receipt envelope = .ok () := by
  have hdel := sealed_auth .delivery 8 21 20 4 (by simp)
  have hreceipt := sealed_auth .receipt 9 23 22 6 (by simp)
  simp only [validateAuthenticatedExternalSupervisorReceipt, ok_iff]
  refine ⟨(), rfl, (), chainSealed, (), sealed_delivery, (), sealed_protocolReceipt, (), hdel,
    (), hreceipt, (), receiptBinds, ?_⟩
  simp [receipt, protocolReceipt, delivery]

def delivered : Store Doc :=
  { staged with
    receipts := [receiptRow prims envelope receipt 6]
    replay :=
      [⟨.delivery, name, sha 21, sha 3, sha 20, sha 11, sha 8, clockText 6⟩,
        ⟨.receipt, name, sha 23, sha 8, sha 22, sha 11, sha 9, clockText 6⟩] }

theorem perform_ok {κ α : Type} {before : Except Err (Stage κ α)}
    {after : κ → Except Err (α × Option (Store Doc))} {k : κ} {a : α}
    (hpre : before = .ok (.calls k)) (hafter : after k = .ok (a, some s')) :
    perform s true before after = ⟨s', .ok a, some k⟩ := by
  simp [perform, hpre, hafter, settle]

section

variable {authn : Authenticator}
  (henvelope : authn.verifyExternalSupervisorEnvelope envelope = true)
  (hreceipt : authn.verifyExternalSupervisorReceipt envelope receipt = true)
include henvelope hreceipt

theorem deliver_ok :
    exec prims staged (.deliver name (some authn) (some fun _ => .ok receipt) 6, true) =
      (delivered, ⟨.ok (.receipt receipt), some (.deliver envelope)⟩) := by
  have hpers : persistExternalSupervisorReceipt prims staged envelope receipt 6 =
      .ok delivered := by
    simp only [persistExternalSupervisorReceipt, ok_iff, insertRow_eq_ok]
    refine ⟨_, rfl, _, rfl, _, ⟨?_, rfl⟩, rfl⟩
    simp [staged, receiptRow, receipt, protocolReceipt]
  simp only [exec, deliverAndPersistExternalSupervisorReceipt]
  rw [perform_ok]
  · rfl
  · simp only [ok_iff]
    exact ⟨handoff, loadAdmission_ok rfl rfl (by decide), (), henvelope, none,
      rfl, rfl⟩
  · simp only [ok_iff]
    exact ⟨receipt, rfl, (), validateReceipt_ok, (), hreceipt, delivered, hpers, rfl⟩

def callback : AuthCallback where
  schemaVersion := "ananke.local-trusted-supervisor-authenticated-callback.v1"
  callback := {
    schemaVersion := "ananke.independent-supervisor-callback.v1"
    attemptNumber := 1
    callbackChannelBindingHash := sha 24
    callbackHash := sha 10
    callbackID := name
    deliveryHash := sha 8
    envelopeHash := sha 3
    evidenceHash := sha 0
    issuedAt := clockText 7
    nonceHash := sha 25
    receiptHash := sha 9
    resultSchemaVersion := "ananke.independent-supervisor-result.v1"
    routeMappingHash := sha 0
    signerKeySPKISHA256 := sha 0
    terminalState := "completed"
    trustRootID := name }
  callbackAuthentication := authentication .callback (sha 10) (sha 25) (sha 24) (clockText 7)

omit henvelope hreceipt in
theorem validateCallback_ok :
    validateAuthenticatedExternalSupervisorCallback prims callback envelope receipt = .ok () := by
  have hseal : sealExternalSupervisorProtocolCallback prims callback.callback =
      .ok callback.callback := by
    unfold callback
    refine sealWith_eq_ok.mpr ⟨?_, rfl⟩
    simp [callbackHash, ResultKnown]
  have hnonce : sha 25 ≠ sha 23 := sha_ne (by decide)
  have hchannel : sha 24 ≠ sha 22 := sha_ne (by decide)
  have hauth := sealed_auth .callback 10 25 24 7 (by simp)
  simp only [validateAuthenticatedExternalSupervisorCallback, ok_iff]
  refine ⟨(), rfl, (), hseal, (), hauth, (), ⟨hnonce, hchannel, rfl, rfl, rfl, rfl, rfl⟩, ?_⟩
  simp [callback, receipt, protocolReceipt]

def answered : Store Doc :=
  { delivered with
    callbacks := [callbackRow prims envelope receipt callback 7]
    replay := delivered.replay ++
      [⟨.callback, name, sha 25, sha 9, sha 24, sha 11, sha 10, clockText 7⟩] }

omit henvelope hreceipt in
theorem loadReceipt_ok {s : Store Doc} (hhands : s.handoffs = [handoffRow])
    (hrcpts : s.receipts = [receiptRow prims envelope receipt 6]) :
    loadExternalSupervisorReceipt prims s name = .ok (some receipt) := by
  refine receipt_eq_some.mpr ⟨receiptRow prims envelope receipt 6,
    handoff, ?_, rfl, rfl, loadHandoff_ok hhands,
    validateReceipt_ok⟩
  simp [hrcpts, select, receiptRow, envelope]

theorem reconcile_ok
    (hcallback : authn.verifyExternalSupervisorCallback envelope receipt callback = true) :
    exec prims delivered (.reconcile name (some authn) (some fun _ _ => .ok (some callback)) 7,
      true) =
      (answered, ⟨.ok (.callback (some callback)), some (.reconcile envelope receipt)⟩) := by
  have hdel : loadDelivered prims delivered handoff name authn = .ok receipt := by
    simp only [loadDelivered, ok_iff]
    exact ⟨(), henvelope, _, loadReceipt_ok rfl rfl, receipt, rfl, (), hreceipt,
      rfl⟩
  have hpers : persistExternalSupervisorCallback prims delivered envelope receipt callback
      7 = .ok answered := by
    simp only [persistExternalSupervisorCallback, ok_iff, insertRow_eq_ok]
    refine ⟨_, rfl, _, ⟨?_, rfl⟩, rfl⟩
    simp [delivered, staged, callbackRow, callback]
  simp only [exec, reconcileAndPersistExternalSupervisorCallback]
  rw [perform_ok (k := (envelope, receipt))]
  · rfl
  · simp only [ok_iff]
    exact ⟨handoff, loadAdmission_ok rfl rfl (by decide), receipt, hdel,
      none, rfl, (), rfl, none, rfl, rfl⟩
  · simp only [bind_eq_ok]
    refine ⟨some callback, rfl, ?_⟩
    simp only [ok_iff]
    exact ⟨(), validateCallback_ok, (), hcallback, answered, hpers,
      rfl⟩

end

variable (issuedAt : Nat)

/-- A cancellation of the handoff and its acknowledgement, issued at the given time. -/
def acknowledged : AuthCancellation where
  schemaVersion := "ananke.local-trusted-supervisor-authenticated-cancellation.v1"
  cancellation :=
    ⟨"ananke.remote-supervisor-cancellation.v1", name, sha 3, sha 9, sha 12, 1⟩
  acknowledgement := {
    schemaVersion := "ananke.local-trusted-supervisor-cancellation-acknowledgement.v1"
    acknowledgementID := name
    acknowledgementHash := sha 13
    cancellationHash := sha 12
    deliveryHash := sha 8
    envelopeHash := sha 3
    receiptHash := sha 9
    attemptNumber := 1
    channelBindingHash := sha 26
    nonceHash := sha 27
    issuedAt := clockText issuedAt
    signerKeySPKISHA256 := sha 0
    trustRootID := name }
  acknowledgementAuthentication :=
    authentication .cancellation (sha 13) (sha 27) (sha 26) (clockText issuedAt)

theorem sealed_cancel :
    sealExternalSupervisorCancellation prims (acknowledged issuedAt).cancellation =
      .ok (acknowledged issuedAt).cancellation := by
  unfold acknowledged
  refine sealWith_eq_ok.mpr ⟨?_, rfl⟩
  simp [cancellationIdentityHash]

theorem sealed_ack : sealExternalSupervisorCancellationAcknowledgement prims
        (acknowledged issuedAt).acknowledgement =
      .ok (acknowledged issuedAt).acknowledgement := by
  unfold acknowledged
  refine sealWith_eq_ok.mpr ⟨?_, rfl⟩
  simp [acknowledgementHash]

theorem validateCancellation_ok :
    validateAuthenticatedExternalSupervisorCancellation prims (acknowledged issuedAt) envelope
      receipt = .ok () := by
  have hauth := sealed_auth .cancellation 13 27 26 issuedAt (by simp)
  simp only [validateAuthenticatedExternalSupervisorCancellation, ok_iff]
  exact ⟨(), rfl, (), sealed_cancel issuedAt, (), sealed_ack issuedAt, (),
    hauth, rfl, rfl, rfl, rfl, rfl, rfl, rfl, rfl, rfl⟩

def cancelled (s : Store Doc) (issuedAt : Nat) : Store Doc :=
  { s with
    cancellations := [cancelRow prims envelope receipt (acknowledged issuedAt) 8]
    replay := s.replay ++
      [⟨.cancellation, name, sha 27, sha 12, sha 26, sha 11, sha 13, clockText 8⟩] }

theorem remember_ok {row : ReplayRow} (h : ∀ r ∈ s.replay, r.messageType ≠ row.messageType) :
    rememberExternalSupervisorReplay s row = .ok { s with replay := s.replay ++ [row] } := by
  have hkey (f : ReplayRow → String) : (row.messageType, f row) ∉
      s.replay.map fun r => (r.messageType, f r) :=
    not_mem_keys fun r hr heq => h r hr (congrArg Prod.fst heq)
  have hnone : select ReplayRow.record row.record s.replay = none :=
    select_eq_none.mpr (hkey ReplayRow.recordID)
  simp only [rememberExternalSupervisorReplay, hnone]
  rw [guard_eq_ok]
  exact ⟨hkey ReplayRow.nonceHash, rfl⟩

variable {issuedAt : Nat}

/-- The acknowledgement is taken whatever its time, and whether or not there is a callback. -/
theorem accept_ok {authn : Authenticator}
    (hlaunch : s.launch = db₄) (hhands : s.handoffs = [handoffRow])
    (hrcpts : s.receipts = [receiptRow prims envelope receipt 6])
    (hcanc : s.cancellations = [])
    (hreplay : ∀ row ∈ s.replay, row.messageType ≠ .cancellation)
    (hauthenticator : authn.verifyExternalSupervisorCancellation envelope receipt
      (acknowledged issuedAt) = true) :
    exec prims s (.accept (acknowledged issuedAt) fence (some authn) 8, true) =
      (cancelled s issuedAt, ⟨.ok (.cancellation (acknowledged issuedAt)), none⟩) := by
  have hadm : loadAuthenticatedHandoffAdmissionWithFence prims s name fence 8 =
      .ok handoff := by
    simp only [loadAuthenticatedHandoffAdmissionWithFence, ok_iff]
    exact ⟨handoff, loadAdmission_ok hlaunch hhands (by decide), boundary,
      hlaunch ▸ loadRecoveryBoundary_ok, (), ⟨rfl, rfl⟩, rfl⟩
  have hnone : loadExternalSupervisorCancellation prims s name = .ok none :=
    cancellation_eq_none.mpr (by simp [hcanc])
  have hpers : persistExternalSupervisorCancellation prims s envelope receipt
      (acknowledged issuedAt) 8 = .ok (cancelled s issuedAt) := by
    simp only [persistExternalSupervisorCancellation, ok_iff, insertRow_eq_ok]
    refine ⟨_, remember_ok hreplay, _, ⟨?_, rfl⟩, ?_⟩
    · simp [hcanc, cancelRow, envelope]
    · simp only [hcanc]
      rfl
  have haccept : acceptExternalSupervisorCancellation prims s (acknowledged issuedAt) fence
      (some authn) 8 = .ok (acknowledged issuedAt, some (cancelled s issuedAt)) := by
    simp only [acceptExternalSupervisorCancellation, ok_iff]
    refine ⟨authn, rfl, handoff, hadm, _, loadReceipt_ok hhands hrcpts, receipt, rfl, none, hnone,
      ?_⟩
    simp only [ok_iff]
    exact ⟨(), validateCancellation_ok issuedAt, (), hauthenticator, _, hpers, rfl⟩
  simp only [exec, haccept]
  rfl

theorem loadCancellation_ok (hhands : s.handoffs = [handoffRow])
    (hrcpts : s.receipts = [receiptRow prims envelope receipt 6])
    (hcanc : s.cancellations = [cancelRow prims envelope receipt (acknowledged issuedAt) 8]) :
    loadExternalSupervisorCancellation prims s name = .ok (some (acknowledged issuedAt)) := by
  have hsel : select CancellationRow.handoffID name s.cancellations =
      some (cancelRow prims envelope receipt (acknowledged issuedAt) 8) := by
    simp [hcanc, select, cancelRow, envelope]
  have hreceipt := loadReceipt_ok hhands hrcpts
  simp only [loadExternalSupervisorCancellation, hsel, ok_iff, decode_eq_ok,
    loadHandoffOf, loadReceiptOf]
  exact ⟨_, ⟨rfl, rfl⟩, handoff, ⟨_, loadHandoff_ok hhands, rfl⟩, receipt,
    ⟨_, hreceipt, rfl⟩, (), validateCancellation_ok issuedAt, rfl⟩

def trusting : Authenticator :=
  ⟨fun _ => true, fun _ _ => true, fun _ _ _ => true, fun _ _ _ => true⟩

def delivering : List (Op × Bool) :=
  launching ++ [(.deliver name (some trusting) (some fun _ => .ok receipt) 6, true)]

def reconciling : List (Op × Bool) :=
  delivering ++ [(.reconcile name (some trusting) (some fun _ _ => .ok (some callback)) 7, true)]

theorem run_delivering : run (exec prims) {} delivering = delivered := by
  rw [delivering, run_append, run_launching, run_cons_of (deliver_ok rfl rfl), run_nil]

theorem run_reconciling : run (exec prims) {} reconciling = answered := by
  rw [reconciling, run_append, run_delivering, run_cons_of (reconcile_ok rfl rfl rfl), run_nil]

def nextFence : LaunchFence := ⟨"two", sha 0, 2⟩

def db₅ : DB Doc :=
  { db₄ with
    claims := [claimRow, ⟨sha 1, nextFence, name, 2, clockText 9⟩]
    heads := [⟨sha 1, nextFence⟩]
    outbox := db₄.outbox ++ [⟨"d", sha 1, nextFence, 1, .pendingMaterialization, clockText 9⟩] }

theorem reclaimClaim_ok : reclaimLaunchClaim base db₄
    ⟨fence, ⟨sha 1, "two", sha 0, name, 2⟩⟩ "d" 9 =
      .ok (⟨nextFence, sha 1, name, 2, 9⟩, some db₅) := by
  have htwo : identifierPattern "two" = true := by decide
  have hreq : validateLaunchClaimRequest ⟨sha 1, "two", sha 0, name, 2⟩ = .ok () := by
    simp [validateLaunchClaimRequest, validateIdentifier, bind_eq_ok, htwo]
  have hact : requireActiveLaunchFence base db₄ (sha 1) fence = .ok claim := by
    refine fence_eq_ok.mpr ⟨rfl, sha 1, ?_, loadActiveClaim_ok rfl rfl⟩
    rw [resolveLaunchSpecHash, if_neg (sha_ne_empty 1)]
  have hgen : addInt claim.fence.fenceGeneration 1 = 2 := by decide
  have hclaim : insertLaunchClaim base db₄
      ⟨sha 1, "two", sha 0, name, 2⟩ 2 9 = .ok (⟨nextFence, sha 1, name, 2, 9⟩,
        { db₄ with claims := [claimRow, ⟨sha 1, nextFence, name, 2, clockText 9⟩] }) := by
    simp only [insertLaunchClaim, stamp_ok (show (0 : Int) ≤ 9 by decide), ok_bind, bind_eq_ok,
      insert_eq_ok]
    refine ⟨_, ⟨?_, rfl⟩, rfl⟩
    simp [db₄, db₃, db₂, claimRow, ClaimRow.claimID, fence, name]
  simp only [reclaimLaunchClaim, ok_iff]
  refine ⟨(), hreq, (), ⟨sha_ne_empty 1, by simp [fence, name],
    sha_ne_empty 0, le_refl _⟩, claim, hact,
    _, hgen.symm ▸ hclaim, ?_⟩
  simp only [insertLaunchOutbox, ok_iff, insert_eq_ok]
  refine ⟨_, ⟨_, ⟨?_, rfl⟩, rfl⟩, ?_⟩
  · simp [db₄, db₃, db₂, outboxRow, fence, nextFence]
  · simp only [update, db₅, db₄, db₃, db₂, List.map_cons, List.map_nil, if_pos]
    rfl

def reclaiming : Op × Bool :=
  (.launch (.reclaimLaunchClaim ⟨fence, ⟨sha 1, "two", sha 0, name, 2⟩⟩ "d" 9), true)

theorem reclaim_ok : exec prims delivered reclaiming = ({ delivered with launch := db₅ },
      ⟨.ok (.launch (.claimed ⟨nextFence, sha 1, name, 2, 9⟩)), none⟩) := by
  refine exec_launch (s := delivered) ?_
  simp only [Launch.exec, delivered, staged, reclaimClaim_ok]
  rfl

end Ananke.ExternalSupervisor.Instance
