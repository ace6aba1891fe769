import Ananke.Launch.Journal
import Ananke.Machine.Run

/-! The operations of the launch authority. Each is one immediate transaction, so
operations of different processes do not overlap; what a transaction wrote is there after
its commit or not at all. -/
namespace Ananke.Launch

open Text Validation Relational

variable {β : Type} [DecidableEq β] (p : Primitives β)

section

variable (db : DB β)

/-- What the proposal tables answer about an approval. -/
structure EligibilityRow where
  (approvalID proposalID : String)
  revision : Int
  revisionHash : String
  decidedAt : Option String
  decidedBy : String
  state : ReviewState
  proposalState : ProposalState
  lifecycleState : ReviewState

/-- The proposal tables, as the admission of a specification reads them. -/
structure Proposals where
  /-- The stored snapshot of the revision is there and is its own. -/
  checkRevision : LaunchRevisionIdentity → Except Err Unit
  /-- The approval of the proposal's current revision, where its columns can be read. -/
  approval : LaunchRevisionIdentity → String → Except Err (Option EligibilityRow)

def validateLaunchApprovalEligibility (proposals : Proposals)
    (rev : LaunchRevisionIdentity) (approvalID : String) :
    Except Err LaunchApprovalEligibility := do
  proposals.checkRevision rev
  let row ← expect (.launchApprovalIneligible "") (← proposals.approval rev approvalID)
  let decidedAt ← expect (.launchApprovalIneligible "") row.decidedAt
  let approvedAt ← expect (.launchRecordCorrupt "invalid P1 approval timestamp")
    (p.timeOf decidedAt)
  require (.launchApprovalIneligible "")
    (row.proposalID = rev.proposalID ∧ row.revision = rev.revision ∧
      row.revisionHash = rev.revisionHash ∧ row.approvalID = approvalID ∧
      row.state = .approved ∧ row.decidedBy = localGUIOperator ∧
      row.proposalState = .approved ∧ row.lifecycleState = .approved)
  pure ⟨row.approvalID, row.proposalID, row.revision, row.revisionHash, approvedAt,
    row.decidedBy, row.state⟩

def insert {ρ : Type} (action : String) (fits : Prop) [Decidable fits] (row : ρ)
    (rows : List ρ) : Except Err (List ρ) := do
  require (.sql action) fits
  pure (rows ++ [row])

/-- `nowStamp` and its time. -/
def stamp (now : Int) : Except Err (String × Int) := do
  let createdAt ← expect (.other "parse timestamp") (p.timeOf (p.formatTime now))
  pure (p.formatTime now, createdAt)

def storeLaunchSpec (req : LaunchAdmissionRequest) (proposals : Proposals) (now : Int) :
    Except Err (StoredLaunchSpec × Option (DB β)) := do
  let computed ← hashLaunchSpec p req.spec
  require .launchSpecHashMismatch (req.launchSpecHash = computed)
  (validateIdentifier req.approvalID "approval id").mapError .launchApprovalIneligible
  match ← loadLaunchSpec p db req.launchSpecHash with
  | some old =>
    require .launchSpecConflict (old.approval.approvalID = req.approvalID ∧ old.spec = req.spec)
    pure (old, none)
  | none =>
    let eligibility ← validateLaunchApprovalEligibility p proposals req.spec.revision req.approvalID
    let (createdText, createdAt) ← stamp p now
    let row : SpecRow β := {
      launchSpecHash := req.launchSpecHash
      proposalID := req.spec.revision.proposalID
      revision := req.spec.revision.revision
      revisionHash := req.spec.revision.revisionHash
      approvalID := eligibility.approvalID
      approvedAt := p.formatTime eligibility.approvedAt
      approvedBy := eligibility.approvedBy
      approvalState := eligibility.state
      specJSON := p.encodeSpec req.spec
      createdAt := createdText }
    let specs ← insert "insert launch spec"
      (row.launchSpecHash ∉ db.specs.map SpecRow.launchSpecHash ∧
        ∀ r ∈ db.specs, ¬ (r.proposalID = row.proposalID ∧ r.revision = row.revision ∧
          r.revisionHash = row.revisionHash ∧ r.approvalID = row.approvalID)) row db.specs
    pure (⟨req.spec, req.launchSpecHash, eligibility, createdAt⟩, some { db with specs := specs })

def insertLaunchClaim (req : LaunchClaimRequest) (gen : Int) (now : Int) :
    Except Err (TaskClaim × DB β) := do
  let (createdText, createdAt) ← stamp p now
  let fence : LaunchFence := ⟨req.claimID, req.claimTokenHash, gen⟩
  let row : ClaimRow :=
    ⟨req.launchSpecHash, fence, req.ownerID, req.attempt, createdText⟩
  let claims ← insert "insert launch claim" (row.claimID ∉ db.claims.map ClaimRow.claimID ∧
      (∀ r ∈ db.claims, ¬ (r.launchSpecHash = row.launchSpecHash ∧
        r.fence.fenceGeneration = gen)) ∧ 0 < gen ∧ 0 < row.attempt) row db.claims
  let claim : TaskClaim :=
    ⟨fence, req.launchSpecHash, req.ownerID, req.attempt, createdAt⟩
  if gen = 1 then
    let heads ← insert "insert active launch claim"
      (some claim.launchSpecHash ∉ db.heads.map HeadRow.launchSpecHash)
      (⟨claim.launchSpecHash, claim.fence⟩ : HeadRow) db.heads
    pure (claim, { db with claims := claims, heads := heads })
  else pure (claim, { db with claims := claims })

def insertLaunchOutbox (claim : TaskClaim) (seq : Int) (state : LaunchOutboxState)
    (outboxID : String) (now : Int) : Except Err (DB β) := do
  let row : OutboxRow :=
    ⟨outboxID, claim.launchSpecHash, claim.fence, seq, state, p.formatTime now⟩
  let outbox ← insert "insert launch outbox" (some outboxID ∉ db.outbox.map OutboxRow.outboxID ∧
      ∀ r ∈ db.outbox, ¬ (r.launchSpecHash = row.launchSpecHash ∧
        r.fence.fenceGeneration = row.fence.fenceGeneration ∧ r.sequence = seq))
    row db.outbox
  pure { db with outbox := outbox }

def acquireLaunchClaim (req : LaunchClaimRequest) (outboxID : String) (now : Int) :
    Except Err (TaskClaim × Option (DB β)) := do
  validateLaunchClaimRequest req
  let _ ← expect .launchSpecNotFound (← loadLaunchSpec p db req.launchSpecHash)
  require .launchClaimAlreadyActive
    ((← loadActiveLaunchClaim p db req.launchSpecHash).isSome = false)
  let (claim, db) ← insertLaunchClaim p db req 1 now
  let db ← insertLaunchOutbox p db claim 1 .pendingMaterialization outboxID now
  pure (claim, some db)

/-- The sum of two machine integers. -/
def addInt (a b : Int) : Int := Int.bmod (a + b) (2 ^ 64)

def reclaimLaunchClaim (req : LaunchClaimReclaimRequest) (outboxID : String) (now : Int) :
    Except Err (TaskClaim × Option (DB β)) := do
  validateLaunchClaimRequest req.claim
  require (.launchSpecInvalid "invalid reclaim fence")
    (req.claim.launchSpecHash ≠ "" ∧ req.expectedFence.claimID ≠ "" ∧
      req.expectedFence.claimTokenHash ≠ "" ∧ 1 ≤ req.expectedFence.fenceGeneration)
  let active ← requireActiveLaunchFence p db req.claim.launchSpecHash req.expectedFence
  let (claim, db) ← insertLaunchClaim p db req.claim (addInt active.fence.fenceGeneration 1) now
  let heads := update HeadRow.launchSpecHash claim.launchSpecHash
    (fun head => { head with fence := claim.fence }) db.heads
  let db ← insertLaunchOutbox p { db with heads := heads } claim 1 .pendingMaterialization
    outboxID now
  pure (claim, some db)

def recordLaunchMaterializationReady (req : LaunchMaterializationRequest) (outboxID : String)
    (now : Int) : Except Err (LaunchMaterialization × Option (DB β)) := do
  validateLaunchMaterializationRequest req
  let active ← requireActiveLaunchFence p db "" req.fence
  let stored ← expect .launchSpecNotFound (← loadLaunchSpec p db active.launchSpecHash)
  require .launchMaterializationMismatch
    (req.materializationHash = stored.spec.sealedContract.materializationHash ∧
      req.nonce = stored.spec.sealedContract.nonce)
  match ← loadLaunchMaterialization p db active.launchSpecHash active.fence.fenceGeneration with
  | some old =>
    validatePersistedLaunchMaterialization stored old
    require .launchMaterializationConflict
      (old.fence = req.fence ∧ old.materializationID = req.materializationID ∧
        old.materializationHash = req.materializationHash ∧
        old.nonce = req.nonce)
    pure (old, none)
  | none =>
    let (createdText, createdAt) ← stamp p now
    let row : MaterializationRow := ⟨req.materializationID, active.launchSpecHash,
      req.fence, req.materializationHash, req.nonce, launchMaterializationStateReady, createdText⟩
    let materializations ← insert "insert launch materialization"
      (row.materializationID ∉ db.materializations.map MaterializationRow.materializationID ∧
        (∀ r ∈ db.materializations, ¬ (r.launchSpecHash = row.launchSpecHash ∧
          r.fence.fenceGeneration = row.fence.fenceGeneration)) ∧
        0 < row.fence.fenceGeneration) row db.materializations
    let db ← insertLaunchOutbox p { db with materializations := materializations } active 2
      .pendingRunAdmission outboxID now
    pure (⟨req.fence, active.launchSpecHash, req.materializationID,
      req.materializationHash, req.nonce, createdAt⟩, some db)

def insertRunIntent (active : TaskClaim) (req : LaunchRunIntentRequest) (outboxID : String)
    (now : Int) : Except Err (LaunchRunIntent × Option (DB β)) := do
  let (createdText, createdAt) ← stamp p now
  let row : RunIntentRow := ⟨req.runID, active.launchSpecHash, active.fence,
    req.materializationID, req.attempt, createdText⟩
  let runIntents ← insert "insert launch run intent"
    (row.runID ∉ db.runIntents.map RunIntentRow.runID ∧
      (∀ r ∈ db.runIntents, ¬ (r.launchSpecHash = row.launchSpecHash ∧
        r.fence.fenceGeneration = row.fence.fenceGeneration)) ∧
      0 < row.fence.fenceGeneration ∧ 0 < row.attempt) row db.runIntents
  let fact : StateFactRow :=
    ⟨req.runID, 1, launchStateFactCreated, active.fence.claimTokenHash, createdText⟩
  let facts ← insert "insert launch created fact"
    (∀ r ∈ db.runFacts, ¬ (r.runID = fact.runID ∧ r.sequence = fact.sequence)) fact
    db.runFacts
  let db ← insertLaunchOutbox p { db with runIntents := runIntents, runFacts := facts }
    active 3 .pendingProcessAdmission outboxID now
  pure (⟨active.fence, active.launchSpecHash, req.materializationID, req.runID,
    req.attempt, ⟨1, active.fence.claimTokenHash, createdAt⟩, createdAt⟩, some db)

def createLaunchRunIntent (req : LaunchRunIntentRequest) (outboxID : String) (now : Int) :
    Except Err (LaunchRunIntent × Option (DB β)) := do
  validateLaunchRunIntentRequest req
  let active ← requireActiveLaunchFence p db "" req.fence
  let stored ← expect .launchSpecNotFound (← loadLaunchSpec p db active.launchSpecHash)
  require .launchRunIntentConflict (req.attempt = active.attempt)
  let found ← loadLaunchMaterialization p db active.launchSpecHash active.fence.fenceGeneration
  each (validatePersistedLaunchMaterialization stored) found.toList
  let mat ← expect .launchMaterializationNotReady found
  require .launchMaterializationNotReady (mat.fence = active.fence ∧
    mat.materializationID = req.materializationID)
  match ← loadLaunchRunIntent p db req.runID with
  | some old =>
    require .launchRunIntentConflict (old.fence = req.fence ∧
      old.materializationID = req.materializationID ∧
      old.attempt = req.attempt)
    pure (old, none)
  | none =>
    match ← loadLaunchRunIntentByGeneration p db active.launchSpecHash
        active.fence.fenceGeneration with
    | some old =>
      require .launchRunIntentConflict (old.runID = req.runID)
      pure (old, none)
    | none => insertRunIntent p db active req outboxID now

/-- What appending an intent has in common for both tables of intents: the rows, what they
are called, their state, and the error that a different intent of the run is answered with. -/
def appendIntent (name : String) (state : Option String) (conflict : Err) (rows : List IntentRow)
    (req : LaunchIntentRequest) (now : Int) :
    Except Err (LaunchIntent × Option (List IntentRow)) := do
  validateLaunchIntentRequest req
  let active ← requireActiveLaunchFence p db "" req.fence
  requireLaunchRunIntentFence p db req.runID active
  match ← loadIntent p name state rows req.runID with
  | some old =>
    require conflict (old.fence = req.fence ∧ old.intentID = req.intentID)
    pure (old, none)
  | none =>
    let (createdText, createdAt) ← stamp p now
    let row : IntentRow := ⟨req.intentID, req.runID, active.fence, state, createdText⟩
    let rows ← insert ("insert " ++ name ++ " intent")
      (row.intentID ∉ rows.map IntentRow.intentID ∧ row.runID ∉ rows.map IntentRow.runID ∧
        0 < row.fence.fenceGeneration) row rows
    pure (⟨active.fence, req.runID, req.intentID, createdAt⟩, some rows)

def appendLaunchTerminalIntent (req : LaunchIntentRequest) (now : Int) :
    Except Err (LaunchIntent × Option (DB β)) := do
  let (intent, rows) ← appendIntent p db "terminal" none .launchTerminalIntentConflict
    db.terminalIntents req now
  pure (intent, rows.map fun rows => { db with terminalIntents := rows })

def settleLaunchEvidenceIntent (req : LaunchIntentRequest) (now : Int) :
    Except Err (LaunchIntent × Option (DB β)) := do
  let (intent, rows) ← appendIntent p db "evidence" (some "settled")
    .launchEvidenceIntentConflict db.evidenceIntents req now
  pure (intent, rows.map fun rows => { db with evidenceIntents := rows })

def admitLaunchFence (launchSpecHash : String) (fence : LaunchFence) :
    Except Err LaunchRecoveryBoundary := do
  let boundary ← loadLaunchRecoveryBoundary p db launchSpecHash
  require .launchStaleFence (boundary.claim.fence = fence)
  pure boundary

inductive Op
  | storeLaunchSpec (request : LaunchAdmissionRequest) (proposals : Proposals) (now : Int)
  | acquireLaunchClaim (request : LaunchClaimRequest) (outboxID : String) (now : Int)
  | reclaimLaunchClaim (request : LaunchClaimReclaimRequest) (outboxID : String) (now : Int)
  | recordLaunchMaterializationReady (request : LaunchMaterializationRequest)
      (outboxID : String) (now : Int)
  | createLaunchRunIntent (request : LaunchRunIntentRequest) (outboxID : String) (now : Int)
  | appendLaunchTerminalIntent (request : LaunchIntentRequest) (now : Int)
  | settleLaunchEvidenceIntent (request : LaunchIntentRequest) (now : Int)
  | withLaunchFenceAdmission (launchSpecHash : String) (fence : LaunchFence)
      (invoke : LaunchRecoveryBoundary → Except Err Unit)

inductive Answer
  | stored (spec : StoredLaunchSpec)
  | claimed (claim : TaskClaim)
  | materialized (materialization : LaunchMaterialization)
  | intended (run : LaunchRunIntent)
  | noted (intent : LaunchIntent)
  | done

/-- The answer of an operation, and the boundary its callback was run with. -/
structure Outcome where
  answer : Except Err Answer
  invoked : Option LaunchRecoveryBoundary := none

/-- The end of a transaction: what was written is kept if the commit succeeds, and a
transaction without a commit is rolled back. -/
def settle {σ ε α : Type} (commits : Bool) (fail : ε) (s : σ) :
    Except ε (α × Option σ) → σ × Except ε α
  | .error e => (s, .error e)
  | .ok (a, none) => (s, .ok a)
  | .ok (a, some s') => if commits then (s', .ok a) else (s, .error fail)

/-- One operation, in a transaction whose commit succeeds or not. -/
def exec (op : Op × Bool) : DB β × Outcome :=
  let conclude {α : Type} (answer : α → Answer) (res : Except Err (α × Option (DB β))) :
      DB β × Outcome :=
    let (db', res) := settle op.2 (.sql "commit") db res
    (db', ⟨res.map answer, none⟩)
  match op.1 with
  | .storeLaunchSpec req proposals now =>
    conclude .stored (storeLaunchSpec p db req proposals now)
  | .acquireLaunchClaim req outboxID now =>
    conclude .claimed (acquireLaunchClaim p db req outboxID now)
  | .reclaimLaunchClaim req outboxID now =>
    conclude .claimed (reclaimLaunchClaim p db req outboxID now)
  | .recordLaunchMaterializationReady req outboxID now =>
    conclude .materialized (recordLaunchMaterializationReady p db req outboxID now)
  | .createLaunchRunIntent req outboxID now =>
    conclude .intended (createLaunchRunIntent p db req outboxID now)
  | .appendLaunchTerminalIntent req now =>
    conclude .noted (appendLaunchTerminalIntent p db req now)
  | .settleLaunchEvidenceIntent req now =>
    conclude .noted (settleLaunchEvidenceIntent p db req now)
  | .withLaunchFenceAdmission launchSpecHash fence invoke =>
    match admitLaunchFence p db launchSpecHash fence with
    | .error e => (db, ⟨.error e, none⟩)
    | .ok boundary => (db, ⟨(invoke boundary).map fun _ => .done, some boundary⟩)

end

end Ananke.Launch
