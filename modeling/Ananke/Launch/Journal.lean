import Mathlib.Data.List.MinMax
import Ananke.Launch.Record
import Ananke.Relational.Table

/-! The tables of the launch authority and how they are read. Only the claim heads are ever
changed in place. A primary key can be `NULL`; a specification or a claim without its key is
selected by nothing, and there is none here. -/
namespace Ananke.Launch

open Text Validation Relational

structure SpecRow (β : Type) where
  (launchSpecHash proposalID : String)
  revision : Int
  (revisionHash approvalID approvedAt approvedBy : String)
  approvalState : ReviewState
  specJSON : β
  createdAt : String

/-- The columns `claim_id`, `claim_token_hash` and `fence_generation`, here and below, are
the fence. -/
structure ClaimRow where
  launchSpecHash : String
  fence : LaunchFence
  ownerID : String
  attempt : Int
  createdAt : String

def ClaimRow.claimID (row : ClaimRow) : String := row.fence.claimID

structure HeadRow where
  launchSpecHash : Option String
  fence : LaunchFence

structure MaterializationRow where
  materializationID : Option String
  launchSpecHash : String
  fence : LaunchFence
  (materializationHash nonce state createdAt : String)

structure OutboxRow where
  outboxID : Option String
  launchSpecHash : String
  fence : LaunchFence
  sequence : Int
  state : LaunchOutboxState
  createdAt : String

structure RunIntentRow where
  runID : Option String
  launchSpecHash : String
  fence : LaunchFence
  materializationID : String
  attempt : Int
  createdAt : String

structure StateFactRow where
  runID : String
  sequence : Int
  (kind tokenHash writtenAt : String)

/-- A row of the terminal intents or of the evidence intents; only these have a state. -/
structure IntentRow where
  intentID : Option String
  runID : String
  fence : LaunchFence
  state : Option String
  createdAt : String

structure DB (β : Type) where
  specs : List (SpecRow β) := []
  claims : List ClaimRow := []
  heads : List HeadRow := []
  materializations : List MaterializationRow := []
  outbox : List OutboxRow := []
  runIntents : List RunIntentRow := []
  runFacts : List StateFactRow := []
  terminalIntents : List IntentRow := []
  evidenceIntents : List IntentRow := []

variable {β : Type} [DecidableEq β] (p : Primitives β)

section

variable (db : DB β)

/-- `Scan` into a string. -/
def scan (column : Option String) : Except Err String :=
  expect (.sql "converting NULL to string is unsupported") column

def readLaunchSpec (row : SpecRow β) : Except Err StoredLaunchSpec := do
  let spec ← expect (.launchRecordCorrupt "decode launch spec") (p.decodeSpec row.specJSON)
  require (.launchRecordCorrupt "launch spec bytes are not canonical")
    (p.encodeSpec spec = row.specJSON)
  require (.launchRecordCorrupt "launch spec identity mismatch")
    (hashLaunchSpec p spec = .ok row.launchSpecHash ∧
      spec.revision = ⟨row.proposalID, row.revision, row.revisionHash⟩)
  let approvedAt ← expect (.launchRecordCorrupt "invalid approval timestamp")
    (p.timeOf row.approvedAt)
  let createdAt ← expect (.launchRecordCorrupt "invalid launch spec timestamp")
    (p.timeOf row.createdAt)
  require (.launchRecordCorrupt "stored approval eligibility is invalid")
    (row.approvalState = .approved ∧ row.approvedBy = localGUIOperator ∧ approvedAt ≠ 0)
  pure {
    spec := spec
    launchSpecHash := row.launchSpecHash
    approval := ⟨row.approvalID, row.proposalID, row.revision, row.revisionHash, approvedAt,
      row.approvedBy, row.approvalState⟩
    createdAt := createdAt }

variable (launchSpecHash : String)

def loadLaunchSpec : Except Err (Option StoredLaunchSpec) :=
  match select SpecRow.launchSpecHash launchSpecHash db.specs with
  | none => .ok none
  | some row => (readLaunchSpec p row).map some

def readClaim (row : ClaimRow) : Except Err TaskClaim := do
  require (.launchRecordCorrupt "active claim head mismatch")
    (1 ≤ row.fence.fenceGeneration ∧ 1 ≤ row.attempt)
  let createdAt ← expect (.launchRecordCorrupt "invalid claim timestamp") (p.timeOf row.createdAt)
  pure ⟨row.fence, row.launchSpecHash, row.ownerID, row.attempt, createdAt⟩

/-- The claim that the head of a specification names, by its whole identity. -/
def loadActiveLaunchClaim : Except Err (Option TaskClaim) :=
  match select HeadRow.launchSpecHash launchSpecHash db.heads with
  | none => .ok none
  | some head =>
    match db.claims.find? fun claim =>
        some claim.launchSpecHash = head.launchSpecHash ∧ claim.fence = head.fence with
    | none =>
      .error (.launchRecordCorrupt "active claim head does not name its immutable claim")
    | some claim => (readClaim p claim).map some

def launchSpecHashForClaim (claimID : String) : Except Err String :=
  (expect .launchClaimNotFound (select ClaimRow.claimID claimID db.claims)).map
    ClaimRow.launchSpecHash

/-- The specification a fence is presented for: with none given, the one that was claimed
under the fence's claim. -/
def resolveLaunchSpecHash (fence : LaunchFence) : Except Err String :=
  if launchSpecHash = "" then launchSpecHashForClaim db fence.claimID else .ok launchSpecHash

def requireActiveLaunchFence (fence : LaunchFence) : Except Err TaskClaim := do
  let launchSpecHash ← resolveLaunchSpecHash db launchSpecHash fence
  let found ← loadActiveLaunchClaim p db launchSpecHash
  let active ← expect .launchClaimNotFound found
  require .launchStaleFence (active.fence = fence)
  pure active

def launchMaterializationStateReady : String := "ready"

def readMaterialization (row : MaterializationRow) : Except Err LaunchMaterialization := do
  let materializationID ← scan row.materializationID
  require (.launchRecordCorrupt "invalid materialization record")
    (row.state = launchMaterializationStateReady ∧
      launchHashPattern row.materializationHash = true ∧ launchNoncePattern row.nonce = true)
  let createdAt ← expect (.launchRecordCorrupt "invalid materialization timestamp")
    (p.timeOf row.createdAt)
  pure ⟨row.fence, row.launchSpecHash, materializationID, row.materializationHash, row.nonce,
    createdAt⟩

def loadLaunchMaterialization (gen : Int) : Except Err (Option LaunchMaterialization) :=
  match db.materializations.find? fun row =>
      row.launchSpecHash = launchSpecHash ∧ row.fence.fenceGeneration = gen with
  | none => .ok none
  | some row => (readMaterialization p row).map some

def validatePersistedLaunchMaterialization (stored : StoredLaunchSpec)
    (mat : LaunchMaterialization) : Except Err Unit :=
  require (.launchRecordCorrupt "materialization does not match sealed launch spec")
    (mat.materializationHash = stored.spec.sealedContract.materializationHash ∧
      mat.nonce = stored.spec.sealedContract.nonce)

def launchStateFactCreated : String := "created"

def readRunIntent (runID : String) (row : RunIntentRow) (fact : StateFactRow) :
    Except Err LaunchRunIntent := do
  require (.launchRecordCorrupt "invalid run created fact")
    (fact.kind = launchStateFactCreated ∧ fact.sequence = 1 ∧
      fact.tokenHash = row.fence.claimTokenHash ∧ 1 ≤ row.attempt)
  let createdAt ← expect (.launchRecordCorrupt "invalid run intent timestamp")
    (p.timeOf row.createdAt)
  let writtenAt ← expect (.launchRecordCorrupt "invalid run fact timestamp")
    (p.timeOf fact.writtenAt)
  pure ⟨row.fence, row.launchSpecHash, row.materializationID, runID, row.attempt,
    ⟨fact.sequence, fact.tokenHash, writtenAt⟩, createdAt⟩

def loadLaunchRunIntent (runID : String) : Except Err (Option LaunchRunIntent) :=
  match select RunIntentRow.runID runID db.runIntents with
  | none => .ok none
  | some row =>
    match db.runFacts.find? fun fact => fact.runID = runID ∧ fact.sequence = 1 with
    | none => .error (.launchRecordCorrupt "run intent lacks its created fact")
    | some fact => (readRunIntent p runID row fact).map some

def loadLaunchRunIntentByGeneration (gen : Int) : Except Err (Option LaunchRunIntent) :=
  match db.runIntents.find? fun row =>
      row.launchSpecHash = launchSpecHash ∧ row.fence.fenceGeneration = gen with
  | none => .ok none
  | some row => do
    let runID ← scan row.runID
    loadLaunchRunIntent p db runID

def requireLaunchRunIntentFence (runID : String) (active : TaskClaim) : Except Err Unit := do
  let found ← loadLaunchRunIntent p db runID
  let run ← expect .launchRunIntentNotFound found
  require .launchStaleFence (run.fence = active.fence ∧ run.launchSpecHash = active.launchSpecHash)

/-- `state` is the one that the rows of the table are to have. -/
def loadIntent (name : String) (state : Option String) (rows : List IntentRow) (runID : String) :
    Except Err (Option LaunchIntent) :=
  match select IntentRow.runID runID rows with
  | none => .ok none
  | some row => do
    let intentID ← scan row.intentID
    require (.launchRecordCorrupt ("invalid " ++ name ++ " intent state")) (row.state = state)
    let createdAt ← expect (.launchRecordCorrupt ("invalid " ++ name ++ " intent timestamp"))
      (p.timeOf row.createdAt)
    pure (some ⟨row.fence, row.runID, intentID, createdAt⟩)

def loadLaunchTerminalIntent : String → Except Err (Option LaunchIntent) :=
  loadIntent p "terminal" none db.terminalIntents

def loadLaunchEvidenceIntent : String → Except Err (Option LaunchIntent) :=
  loadIntent p "evidence" (some "settled") db.evidenceIntents

def validLaunchOutboxStage (seq : Int) (state : LaunchOutboxState) : Prop :=
  seq = 1 ∧ state = .pendingMaterialization ∨ seq = 2 ∧ state = .pendingRunAdmission ∨
    seq = 3 ∧ state = .pendingProcessAdmission

end

instance (seq : Int) (state : LaunchOutboxState) : Decidable (validLaunchOutboxStage seq state) :=
  inferInstanceAs (Decidable (_ ∨ _))

/-- The first of the rows with the highest sequence. -/
def OutboxRow.latest (rows : List OutboxRow) : Option OutboxRow :=
  rows.foldl (fun best row => match best with
    | some top => if top.sequence < row.sequence then some row else some top
    | none => some row) none

def loadLatestLaunchOutbox (db : DB β) (launchSpecHash : String) (gen : Int) :
    Except Err LaunchOutbox := do
  let rows := db.outbox.filter fun row =>
    row.launchSpecHash = launchSpecHash ∧ row.fence.fenceGeneration = gen
  let row ← expect (.launchRecordCorrupt "active claim lacks a launch outbox")
    (OutboxRow.latest rows)
  let outboxID ← scan row.outboxID
  require (.launchRecordCorrupt "invalid launch outbox stage")
    (validLaunchOutboxStage row.sequence row.state)
  let createdAt ← expect (.launchRecordCorrupt "invalid launch outbox timestamp")
    (p.timeOf row.createdAt)
  pure ⟨row.fence, row.launchSpecHash, outboxID, row.sequence, row.state, createdAt⟩

/-- A later fact of the active claim carries the claim's fence. -/
def checkFence (name : String) (claim : TaskClaim) (fence : Option LaunchFence) : Except Err Unit :=
  require (.launchRecordCorrupt (name ++ " does not match active claim"))
    (fence = none ∨ fence = some claim.fence)

/-- The later facts of the run that is intended, if one is. -/
def loadRunFacts (db : DB β) (claim : TaskClaim) (mat : Option LaunchMaterialization) :
    Option LaunchRunIntent → Except Err (Option LaunchIntent × Option LaunchIntent)
  | none => .ok (none, none)
  | some run => do
    checkFence "run intent" claim (some run.fence)
    require (.launchRecordCorrupt "run intent does not name the recovered materialization")
      (mat.map LaunchMaterialization.materializationID = some run.materializationID)
    let term ← loadLaunchTerminalIntent p db run.runID
    checkFence "terminal intent" claim (term.map LaunchIntent.fence)
    let evidence ← loadLaunchEvidenceIntent p db run.runID
    checkFence "evidence intent" claim (evidence.map LaunchIntent.fence)
    pure (term, evidence)

/-- What is to be done next, where the facts agree with the stage. -/
def recoveryAction (state : LaunchOutboxState) (materialized intended : Bool) :
    Except Err LaunchRecoveryAction :=
  match state with
  | .pendingMaterialization => do
    require (.launchRecordCorrupt "materialization boundary contains later facts")
      (materialized = false ∧ intended = false)
    pure .retryMaterialization
  | .pendingRunAdmission => do
    require (.launchRecordCorrupt "run-admission boundary facts mismatch")
      (materialized = true ∧ intended = false)
    pure .retryRunAdmission
  | .pendingProcessAdmission => do
    require (.launchRecordCorrupt "process-admission boundary facts mismatch")
      (materialized = true ∧ intended = true)
    pure .retryProcessAdmission
  | .other _ => .error (.launchRecordCorrupt "unknown outbox state")

def loadLaunchRecoveryBoundary (db : DB β) (launchSpecHash : String) :
    Except Err LaunchRecoveryBoundary := do
  let claim ← expect .launchClaimNotFound (← loadActiveLaunchClaim p db launchSpecHash)
  let stored ← expect .launchSpecNotFound (← loadLaunchSpec p db launchSpecHash)
  let outbox ← loadLatestLaunchOutbox p db launchSpecHash claim.fence.fenceGeneration
  checkFence "outbox" claim (some outbox.fence)
  let mat ← loadLaunchMaterialization p db launchSpecHash claim.fence.fenceGeneration
  each (validatePersistedLaunchMaterialization stored) mat.toList
  checkFence "materialization" claim (mat.map LaunchMaterialization.fence)
  let run ← loadLaunchRunIntentByGeneration p db launchSpecHash claim.fence.fenceGeneration
  let (term, evidence) ← loadRunFacts p db claim mat run
  let action ← recoveryAction outbox.state mat.isSome run.isSome
  pure ⟨launchSpecHash, claim, outbox, mat, run, term, evidence, action⟩

end Ananke.Launch
