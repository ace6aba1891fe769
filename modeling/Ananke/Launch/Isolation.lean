import Ananke.Launch.Writes
import Mathlib.Data.List.Sort
import Mathlib.Data.Set.List

/-! The listing of the active launches after a restart. What is listed for a specification is
read from its own rows, whatever the others hold, unless a head is `NULL`: it ends the listing. -/
namespace Ananke.Launch

open Text Validation Relational List

section

variable {β : Type} (db : DB β) (head : HeadRow) (hash : String)

def DB.claimsOf : List ClaimRow := db.claims.filter fun claim =>
  some claim.launchSpecHash = head.launchSpecHash ∧ claim.fence = head.fence

/-- The heads, each with when the claim that it names was made; a claim that is missing leaves
`NULL`. -/
def DB.joined : List (Option String × Option String) := db.heads.flatMap fun head =>
  match db.claimsOf head with
  | [] => [(none, head.launchSpecHash)]
  | claims => claims.map fun claim => (some claim.createdAt, head.launchSpecHash)

def DB.runsOf : List RunIntentRow := rowsOf RunIntentRow.launchSpecHash hash db.runIntents

/-- The rows of one specification, and those of its runs. -/
def DB.ofSpec : DB β :=
  let ofRun (runID : String) := (db.runsOf hash).any fun run => run.runID = some runID
  { specs := rowsOf SpecRow.launchSpecHash hash db.specs
    claims := rowsOf ClaimRow.launchSpecHash hash db.claims
    heads := rowsOf HeadRow.launchSpecHash hash db.heads
    materializations := rowsOf MaterializationRow.launchSpecHash hash db.materializations
    outbox := rowsOf OutboxRow.launchSpecHash hash db.outbox
    runIntents := db.runsOf hash
    runFacts := db.runFacts.filter fun fact => ofRun fact.runID
    terminalIntents := db.terminalIntents.filter fun intent => ofRun intent.runID
    evidenceIntents := db.evidenceIntents.filter fun intent => ofRun intent.runID }

end

variable {β : Type}

/-- `ORDER BY claim.created_at, head.launch_spec_hash`, where `NULL` comes first -/
def DB.ordered (db : DB β) : List (Option String × Option String) :=
  db.joined.insertionSort fun a b =>
    a.1.toList < b.1.toList ∨ a.1 = b.1 ∧ ¬ b.2.toList < a.2.toList

/-- A row that is not scanned ends the listing. -/
def listLaunchRecoveryBoundaries [DecidableEq β] (p : Primitives β) (db : DB β) :
    Except Err (List (String × Except Err LaunchRecoveryBoundary)) := do
  let hashes ← collect (fun row => scan row.2) db.ordered
  pure (hashes.map fun hash => (hash, loadLaunchRecoveryBoundary p db hash))

/-- Tables with their primary keys, which are apart where they are not `NULL`. -/
structure KeyedDB (β : Type) extends DB β where
  claimKeys : (claims.map ClaimRow.claimID).Nodup
  runKeys : (runIntents.filterMap RunIntentRow.runID).Nodup

variable {p : Primitives β} {db : KeyedDB β} {hash runID : String} {gen : Int} {row : RunIntentRow}

theorem loadActiveClaim_ofSpec :
    loadActiveLaunchClaim p (db.ofSpec hash) hash = loadActiveLaunchClaim p db.toDB hash := by
  have hhead : select HeadRow.launchSpecHash hash (db.ofSpec hash).heads =
      select HeadRow.launchSpecHash hash db.heads := by
    simp [select, DB.ofSpec, rowsOf]
  rw [loadActiveLaunchClaim, loadActiveLaunchClaim, hhead]
  cases hsel : select HeadRow.launchSpecHash hash db.heads with
  | none => rfl
  | some head => simp [DB.ofSpec, rowsOf, key_of_select hsel]

theorem find?_ofRun {ρ : Type} {key : ρ → String} {rows : List ρ} {g : ρ → Bool}
    (hrow : row ∈ db.runsOf hash) (hg : ∀ r, g r = true → some (key r) = row.runID) :
    (rows.filter fun r => (db.runsOf hash).any fun run => run.runID = some (key r)).find? g =
      rows.find? g := by
  rw [find?_filter]
  congr
  funext r
  cases hr : g r with
  | false => simp
  | true => simpa using ⟨row, hrow, (hg r hr).symm⟩

theorem loadRunIntent_ofSpec (hrow : row ∈ db.runsOf hash) (hid : row.runID = some runID) :
    loadLaunchRunIntent p (db.ofSpec hash) runID = loadLaunchRunIntent p db.toDB runID := by
  have hown : select RunIntentRow.runID (some runID) (db.runsOf hash) = some row :=
    select_of_key (db.runKeys.sublist (filter_sublist.filterMap _)) hrow hid
  have hall := select_of_key db.runKeys (mem_filter.mp hrow).1 hid
  simp only [loadLaunchRunIntent, DB.ofSpec, hown, hall]
  rw [find?_ofRun hrow (by simp_all)]

theorem loadIntent_ofSpec {name : String} {state : Option String} {rows : List IntentRow}
    (hrow : row ∈ db.runsOf hash) (hid : row.runID = some runID) :
    loadIntent p name state
      (rows.filter fun r => (db.runsOf hash).any fun run => run.runID = some r.runID) runID =
        loadIntent p name state rows runID := by
  rw [loadIntent, select, find?_ofRun hrow (by simp [hid])]
  rfl

theorem mem_runsOf (hrow : (db.runIntents.find? fun row =>
    row.launchSpecHash = hash ∧ row.fence.fenceGeneration = gen) = some row) :
    row ∈ db.runsOf hash := by
  have hspec := find?_some hrow
  exact mem_filter.mpr ⟨mem_of_find?_eq_some hrow, by simp_all⟩

theorem runByGeneration_ofSpec : loadLaunchRunIntentByGeneration p (db.ofSpec hash) hash gen =
      loadLaunchRunIntentByGeneration p db.toDB hash gen := by
  have hfind : ((db.ofSpec hash).runIntents.find? fun row =>
      row.launchSpecHash = hash ∧ row.fence.fenceGeneration = gen) =
      db.runIntents.find? fun row =>
        row.launchSpecHash = hash ∧ row.fence.fenceGeneration = gen := by
    simp [DB.ofSpec, DB.runsOf, rowsOf]
  simp only [loadLaunchRunIntentByGeneration, hfind]
  split
  · rfl
  next hrow =>
    cases hid : RunIntentRow.runID _ with
    | none => rfl
    | some runID => exact loadRunIntent_ofSpec (mem_runsOf hrow) hid

theorem loadRunFacts_ofSpec {run : Option LaunchRunIntent} (claim : TaskClaim)
    (mat : Option LaunchMaterialization)
    (h : loadLaunchRunIntentByGeneration p db.toDB hash gen = .ok run) :
    loadRunFacts p (db.ofSpec hash) claim mat run = loadRunFacts p db.toDB claim mat run := by
  cases run with
  | none => rfl
  | some run =>
    unfold loadLaunchRunIntentByGeneration at h
    split at h
    · cases h
    next hrow =>
      obtain ⟨runID, hid, h⟩ := bind_eq_ok.mp h
      obtain ⟨_, -, -, hsame, -⟩ := loadRunIntent_eq_some h
      simp only [loadRunFacts, loadLaunchTerminalIntent, loadLaunchEvidenceIntent, DB.ofSpec, hsame,
        loadIntent_ofSpec (mem_runsOf hrow) (expect_eq_ok.mp hid)]

variable [DecidableEq β]

theorem boundary_ofSpec : loadLaunchRecoveryBoundary p (db.ofSpec hash) hash =
    loadLaunchRecoveryBoundary p db.toDB hash := by
  have hspec : loadLaunchSpec p (db.ofSpec hash) hash = loadLaunchSpec p db.toDB hash := by
    simp [loadLaunchSpec, select, DB.ofSpec, rowsOf]
  have hout (gen : Int) : loadLatestLaunchOutbox p (db.ofSpec hash) hash gen =
      loadLatestLaunchOutbox p db.toDB hash gen := by
    simp [loadLatestLaunchOutbox, DB.ofSpec, rowsOf, Bool.and_comm, Bool.and_left_comm]
  have hmat (gen : Int) : loadLaunchMaterialization p (db.ofSpec hash) hash gen =
        loadLaunchMaterialization p db.toDB hash gen := by
    simp [loadLaunchMaterialization, DB.ofSpec, rowsOf]
  simp only [loadLaunchRecoveryBoundary, loadActiveClaim_ofSpec, hspec, hout,
    hmat, runByGeneration_ofSpec]
  refine bind_congr fun _ => bind_congr fun claim => bind_congr fun _ => bind_congr fun _ =>
    bind_congr fun _ => bind_congr fun _ => bind_congr fun mat => bind_congr fun _ =>
    bind_congr fun _ => ?_
  cases hload : loadLaunchRunIntentByGeneration p db.toDB hash claim.fence.fenceGeneration with
  | error e => rfl
  | ok run => simp only [ok_bind, loadRunFacts_ofSpec claim mat hload]

omit [DecidableEq β] in
theorem joined_hashes : db.joined.map Prod.snd = db.heads.map HeadRow.launchSpecHash := by
  rw [DB.joined, map_flatMap, ← flatMap_pure_eq_map]
  congr
  funext head
  have hfence : ∀ claim ∈ db.claimsOf head, claim.fence = head.fence := by
    simp [DB.claimsOf]
  have hkeys : ((db.claimsOf head).map ClaimRow.claimID).Nodup :=
    db.claimKeys.sublist (filter_sublist.map _)
  -- claims that the head names have one key, so that there is at most one
  rcases hrows : db.claimsOf head with _ | ⟨claim, _ | ⟨other, rest⟩⟩
  · rfl
  · rfl
  · simp_all [ClaimRow.claimID]

theorem scanned_iff {α : Type} {rows : List (α × Option String)} {hashes : List String} :
    collect (fun row => scan row.2) rows = .ok hashes ↔ rows.map Prod.snd = hashes.map some := by
  induction rows generalizing hashes with
  | nil => cases hashes <;> simp [collect]
  | cons row rows ih =>
    have hscan (hash : String) : scan row.2 = .ok hash ↔ row.2 = some hash := expect_eq_ok
    simp only [collect, ok_iff, ih, hscan, map_cons]
    cases hashes with
    | nil => simp
    | cons hash hashes => simp

end Ananke.Launch
