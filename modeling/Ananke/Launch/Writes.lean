import Ananke.Launch.Fencing

/-! What an operation of the launch authority writes, table by table, and what it has found
before it writes. -/
namespace Ananke.Launch

open Validation Relational List

variable {β : Type}

/-- The text of a time that can be read back. -/
def Primitives.Readable (p : Primitives β) (text : String) : Prop := (p.timeOf text).isSome = true

/-- The outbox row of a stage of a claim. -/
def ClaimRow.stage (claim : ClaimRow) (outboxID : String) (seq : Int)
    (state : LaunchOutboxState) (createdAt : String) : OutboxRow :=
  ⟨outboxID, claim.launchSpecHash, claim.fence, seq, state, createdAt⟩

/-- The columns by which a fact belongs to a generation of a specification. -/
def ClaimRow.generation (claim : ClaimRow) : String × Int :=
  (claim.launchSpecHash, claim.fence.fenceGeneration)

def OutboxRow.generation (row : OutboxRow) : String × Int :=
  (row.launchSpecHash, row.fence.fenceGeneration)

def MaterializationRow.generation (row : MaterializationRow) : String × Int :=
  (row.launchSpecHash, row.fence.fenceGeneration)

def RunIntentRow.generation (row : RunIntentRow) : String × Int :=
  (row.launchSpecHash, row.fence.fenceGeneration)

/-- The row of a specification that was admitted. -/
def LaunchAdmissionRequest.row (p : Primitives β) (req : LaunchAdmissionRequest)
    (approval : LaunchApprovalEligibility) (createdAt : String) : SpecRow β where
  launchSpecHash := req.launchSpecHash
  proposalID := req.spec.revision.proposalID
  revision := req.spec.revision.revision
  revisionHash := req.spec.revision.revisionHash
  approvalID := approval.approvalID
  approvedAt := p.formatTime approval.approvedAt
  approvedBy := approval.approvedBy
  approvalState := approval.state
  specJSON := p.encodeSpec req.spec
  createdAt := createdAt

/-- A new row of a table of intents, for a run that is intended. -/
structure NewIntent (p : Primitives β) (db : DB β) (state : Option String) (rows : List IntentRow)
    (row : IntentRow) : Prop where
  named : row.intentID ≠ none
  state : row.state = state
  run : ∃ run ∈ db.runIntents, run.runID = row.runID ∧ run.fence = row.fence
  fresh : row.runID ∉ rows.map IntentRow.runID
  readable : p.Readable row.createdAt

variable {p : Primitives β} {db db' : DB β} {now : Int} {outboxID launchSpecHash : String}
  {fence : LaunchFence} {active : TaskClaim}

theorem readable_of_stamp {text : String} {time : Int} (h : stamp p now = .ok (text, time)) :
    text = p.formatTime now ∧ p.Readable (p.formatTime now) := by
  obtain ⟨htime, rfl⟩ := stamp_eq_ok.mp h
  exact ⟨rfl, by rw [Primitives.Readable, htime]; rfl⟩

theorem claim_of_active (h : requireActiveLaunchFence p db launchSpecHash fence = .ok active) :
    ∃ claim ∈ db.claims, claim.launchSpecHash = active.launchSpecHash ∧
      claim.fence = active.fence ∧ claim.attempt = active.attempt ∧ active.fence = fence := by
  obtain ⟨hfence, _, -, hload⟩ := fence_eq_ok.mp h
  obtain ⟨hspec, _, row, -, hrow, hrowSpec, hrowFence, hsame, hatt, -⟩ :=
    claim_eq_some hload
  exact ⟨row, hrow, hrowSpec.trans hspec.symm, hrowFence.trans hsame.symm, hatt.symm, hfence⟩

variable {gen : Int}

theorem loadMaterialization_eq_none : loadLaunchMaterialization p db launchSpecHash gen = .ok none ↔
      ∀ r ∈ db.materializations, r.generation ≠ (launchSpecHash, gen) := by
  simp only [loadLaunchMaterialization, MaterializationRow.generation, ne_eq, Prod.mk.injEq]
  split
  next hnone => simpa using hnone
  next row hrow =>
    have hrow' := List.find?_some hrow
    simp only [decide_eq_true_eq] at hrow'
    simp only [map_eq_ok, reduceCtorEq, and_false, exists_false, false_iff, not_forall, not_not]
    exact ⟨row, mem_of_find?_eq_some hrow, hrow'⟩

variable {mat : LaunchMaterialization}

theorem loadMaterialization_eq_some
    (h : loadLaunchMaterialization p db launchSpecHash gen = .ok (some mat)) :
    ∃ row ∈ db.materializations, row.generation = (launchSpecHash, gen) ∧
      row.materializationID = mat.materializationID := by
  unfold loadLaunchMaterialization at h
  split at h
  · cases h
  next row hrow =>
    have hrow' := List.find?_some hrow
    simp only [decide_eq_true_eq] at hrow'
    simp only [map_eq_ok, readMaterialization, ok_iff, Option.some.injEq] at h
    obtain ⟨-, ⟨_, hid, -, -, -, -, rfl⟩, rfl⟩ := h
    exact ⟨row, mem_of_find?_eq_some hrow, Prod.ext hrow'.1 hrow'.2, expect_eq_ok.mp hid⟩

variable {run : LaunchRunIntent}

theorem loadRunIntent_eq_some {runID : String}
    (h : loadLaunchRunIntent p db runID = .ok (some run)) :
    ∃ row ∈ db.runIntents, row.runID = runID ∧ run.runID = runID ∧ row.fence = run.fence := by
  unfold loadLaunchRunIntent at h
  split at h
  · cases h
  next row hrow =>
    split at h
    · cases h
    · simp only [map_eq_ok, readRunIntent, ok_iff, Option.some.injEq] at h
      obtain ⟨-, ⟨-, -, -, -, -, -, rfl⟩, rfl⟩ := h
      exact ⟨row, mem_of_find?_eq_some hrow, key_of_select hrow, rfl, rfl⟩

theorem loadRunIntent_eq_none {runID : String} (h : loadLaunchRunIntent p db runID = .ok none) :
    some runID ∉ db.runIntents.map RunIntentRow.runID := by
  unfold loadLaunchRunIntent at h
  split at h
  next hnone => exact select_eq_none.mp hnone
  · split at h
    · cases h
    · simp at h

theorem loadByGeneration_eq_none
    (h : loadLaunchRunIntentByGeneration p db launchSpecHash gen = .ok none) :
    ∀ r ∈ db.runIntents, r.generation ≠ (launchSpecHash, gen) := by
  unfold loadLaunchRunIntentByGeneration at h
  split at h
  next hnone =>
    simpa [RunIntentRow.generation] using hnone
  next hrow =>
    obtain ⟨runID, hid, h⟩ := bind_eq_ok.mp h
    have hid := expect_eq_ok.mp hid
    exact absurd (hid ▸ mem_map_of_mem (mem_of_find?_eq_some hrow)) (loadRunIntent_eq_none h)

variable {req : LaunchIntentRequest} {intent : LaunchIntent}

theorem appendIntent_new {name : String} {state : Option String} {conflict : Err}
    {rows rows' : List IntentRow}
    (h : appendIntent p db name state conflict rows req now = .ok (intent, some rows')) :
    ∃ row, NewIntent p db state rows row ∧ rows' = rows ++ [row] := by
  simp only [appendIntent, ok_iff, requireLaunchRunIntentFence] at h
  obtain ⟨-, -, _, -, -, ⟨-, hrun, _, rfl, hfence, -⟩, found, -, h⟩ := h
  obtain ⟨row, hrow, hid, -, hrowFence⟩ := loadRunIntent_eq_some hrun
  cases found with
  | some old =>
    simp at h
  | none =>
    simp only [ok_iff, insert_eq_ok, Prod.mk.injEq, Option.some.injEq] at h
    obtain ⟨⟨_, _⟩, hstamp, _, ⟨⟨-, hfresh, -⟩, rfl⟩, -, rfl⟩ := h
    obtain ⟨rfl, hread⟩ := readable_of_stamp hstamp
    exact ⟨_, ⟨Option.some_ne_none _, rfl, ⟨row, hrow, hid, hrowFence.trans hfence⟩, hfresh,
      hread⟩, rfl⟩

variable [DecidableEq β]

/-- What an operation that commits writes. -/
inductive Writes (p : Primitives β) (db : DB β) : Op → DB β → Prop
  | store {request : LaunchAdmissionRequest} {proposals : Proposals} {now : Int}
      (approval : LaunchApprovalEligibility)
      (hhash : hashLaunchSpec p request.spec = .ok request.launchSpecHash)
      (heligible : validateLaunchApprovalEligibility p proposals request.spec.revision
        request.approvalID = .ok approval)
      (hreadable : p.Readable (p.formatTime now))
      (hfresh : request.launchSpecHash ∉ db.specs.map SpecRow.launchSpecHash) :
      Writes p db (.storeLaunchSpec request proposals now)
        { db with specs := db.specs ++ [request.row p approval (p.formatTime now)] }
  | acquire {request : LaunchClaimRequest} {outboxID : String} {now : Int} (row : ClaimRow)
      (stored : StoredLaunchSpec)
      (hstored : loadLaunchSpec p db row.launchSpecHash = .ok (some stored))
      (hnew : NewClaim db row)
      (hfirst : row.fence.fenceGeneration = 1)
      (hhead : some row.launchSpecHash ∉ db.heads.map HeadRow.launchSpecHash)
      (hrequest : row.launchSpecHash = request.launchSpecHash ∧ row.attempt = request.attempt)
      (hreadable : p.Readable row.createdAt) :
      Writes p db (.acquireLaunchClaim request outboxID now)
        { db with
          claims := db.claims ++ [row]
          heads := db.heads ++ [⟨row.launchSpecHash, row.fence⟩]
          outbox := db.outbox ++ [row.stage outboxID 1 .pendingMaterialization row.createdAt] }
  | reclaim {request : LaunchClaimReclaimRequest} {outboxID : String} {now : Int} (row : ClaimRow)
      (head : HeadRow) (hnew : NewClaim db row)
      (hhead : select HeadRow.launchSpecHash row.launchSpecHash db.heads = some head)
      (hgeneration : row.fence.fenceGeneration = addInt head.fence.fenceGeneration 1)
      (hrequest : row.launchSpecHash = request.claim.launchSpecHash ∧
        row.attempt = request.claim.attempt)
      (hreadable : p.Readable row.createdAt) :
      Writes p db (.reclaimLaunchClaim request outboxID now)
        { db with
          claims := db.claims ++ [row]
          heads := update HeadRow.launchSpecHash row.launchSpecHash
            (fun head => { head with fence := row.fence }) db.heads
          outbox := db.outbox ++ [row.stage outboxID 1 .pendingMaterialization row.createdAt] }
  | materialize {request : LaunchMaterializationRequest} {outboxID : String} {now : Int}
      (claim : ClaimRow) (stored : StoredLaunchSpec) (hclaim : claim ∈ db.claims)
      (hstored : loadLaunchSpec p db claim.launchSpecHash = .ok (some stored))
      (hcontract : request.materializationHash = stored.spec.sealedContract.materializationHash ∧
        request.nonce = stored.spec.sealedContract.nonce)
      (hnone : ∀ r ∈ db.materializations, r.generation ≠ claim.generation)
      (hreadable : p.Readable (p.formatTime now)) :
      Writes p db (.recordLaunchMaterializationReady request outboxID now)
        { db with
          materializations := db.materializations ++ [⟨request.materializationID,
            claim.launchSpecHash, claim.fence, request.materializationHash, request.nonce,
            launchMaterializationStateReady, p.formatTime now⟩]
          outbox := db.outbox ++ [claim.stage outboxID 2 .pendingRunAdmission (p.formatTime now)] }
  | intend {request : LaunchRunIntentRequest} {outboxID : String} {now : Int} (claim : ClaimRow)
      (materialization : MaterializationRow) (hclaim : claim ∈ db.claims)
      (hattempt : request.attempt = claim.attempt)
      (hmaterialization : materialization ∈ db.materializations)
      (hgeneration : materialization.generation = claim.generation)
      (hnames : materialization.materializationID = request.materializationID)
      (hfresh : some request.runID ∉ db.runIntents.map RunIntentRow.runID)
      (hnone : ∀ r ∈ db.runIntents, r.generation ≠ claim.generation)
      (hreadable : p.Readable (p.formatTime now)) :
      Writes p db (.createLaunchRunIntent request outboxID now)
        { db with
          runIntents := db.runIntents ++ [⟨request.runID, claim.launchSpecHash, claim.fence,
            request.materializationID, claim.attempt, p.formatTime now⟩]
          runFacts := db.runFacts ++ [⟨request.runID, 1, launchStateFactCreated,
            claim.fence.claimTokenHash, p.formatTime now⟩]
          outbox := db.outbox ++
            [claim.stage outboxID 3 .pendingProcessAdmission (p.formatTime now)] }
  | terminal {request : LaunchIntentRequest} {now : Int} (row : IntentRow)
      (hnew : NewIntent p db none db.terminalIntents row) :
      Writes p db (.appendLaunchTerminalIntent request now)
        { db with terminalIntents := db.terminalIntents ++ [row] }
  | evidence {request : LaunchIntentRequest} {now : Int} (row : IntentRow)
      (hnew : NewIntent p db (some "settled") db.evidenceIntents row) :
      Writes p db (.settleLaunchEvidenceIntent request now)
        { db with evidenceIntents := db.evidenceIntents ++ [row] }

theorem storeSpec_writes {req : LaunchAdmissionRequest} {proposals : Proposals}
    {stored : StoredLaunchSpec}
    (h : storeLaunchSpec p db req proposals now = .ok (stored, some db')) :
    Writes p db (.storeLaunchSpec req proposals now) db' := by
  simp only [storeLaunchSpec, ok_iff] at h
  obtain ⟨_, hhash, -, rfl, -, -, found, -, h⟩ := h
  cases found with
  | some old =>
    simp at h
  | none =>
    simp only [ok_iff, insert_eq_ok, Prod.mk.injEq, Option.some.injEq] at h
    obtain ⟨approval, helig, ⟨_, _⟩, hstamp, _, ⟨⟨hfresh, -⟩, rfl⟩, -, rfl⟩ := h
    obtain ⟨rfl, hread⟩ := readable_of_stamp hstamp
    exact .store approval hhash helig hread hfresh

variable {claim : TaskClaim}

theorem acquireClaim_writes {req : LaunchClaimRequest}
    (h : acquireLaunchClaim p db req outboxID now = .ok (claim, some db')) :
    Writes p db (.acquireLaunchClaim req outboxID now) db' := by
  simp only [acquireLaunchClaim, ok_iff, Prod.mk.injEq, Option.some.injEq] at h
  obtain ⟨-, -, _, hload, stored, rfl, -, -, -, -, ⟨_, _⟩, hclaim, _, hout, -, rfl⟩ := h
  obtain ⟨row, hnew, hspec, hatt, hfence, ⟨htext, hread⟩, hclaimSpec, hclaimFence, -,
    hcase⟩ := insertClaim_eq_ok hclaim
  rcases hcase with ⟨-, hhead, rfl⟩ | ⟨hone, -⟩
  · rw [insertOutbox_eq_ok hout, hclaimSpec, hclaimFence, ← htext]
    exact .acquire row stored (hspec ▸ hload) hnew (by rw [hfence]) hhead ⟨hspec, hatt⟩ hread
  · exact absurd rfl hone

theorem reclaimClaim_writes {req : LaunchClaimReclaimRequest}
    (h : reclaimLaunchClaim p db req outboxID now = .ok (claim, some db')) :
    Writes p db (.reclaimLaunchClaim req outboxID now) db' := by
  obtain ⟨-, head, -, -, hhead, -, row, hnew, hspec, hatt, hread, hgen, rfl⟩ :=
    reclaimClaim_eq_ok h
  exact .reclaim row head hnew (hspec ▸ hhead) hgen ⟨hspec, hatt⟩ hread

theorem ready_writes {req : LaunchMaterializationRequest}
    (h : recordLaunchMaterializationReady p db req outboxID now = .ok (mat, some db')) :
    Writes p db (.recordLaunchMaterializationReady req outboxID now) db' := by
  simp only [recordLaunchMaterializationReady, ok_iff] at h
  obtain ⟨-, -, _, hact, _, hstored, stored, rfl, -, hcont, old, hexist, h⟩ := h
  obtain ⟨claim, hclaim, hspec, hfence, -, hsame⟩ := claim_of_active hact
  cases old with
  | some old =>
    simp [ok_iff] at h
  | none =>
    simp only [ok_iff, insert_eq_ok, Prod.mk.injEq, Option.some.injEq] at h
    obtain ⟨⟨_, _⟩, hstamp, _, ⟨-, rfl⟩, _, hout, -, rfl⟩ := h
    obtain ⟨rfl, hread⟩ := readable_of_stamp hstamp
    rw [insertOutbox_eq_ok hout, ← hsame, ← hfence, ← hspec]
    rw [← hspec] at hstored hexist
    rw [← hfence] at hexist
    exact .materialize claim stored hclaim hstored hcont
      (loadMaterialization_eq_none.mp hexist) hread

theorem createRunIntent_writes {req : LaunchRunIntentRequest}
    (h : createLaunchRunIntent p db req outboxID now = .ok (run, some db')) :
    Writes p db (.createLaunchRunIntent req outboxID now) db' := by
  simp only [createLaunchRunIntent, ok_iff] at h
  obtain ⟨-, -, _, hact, -, -, _, -, -, hatt, _, hmat, -, -,
    _, rfl, -, ⟨-, hnames⟩, found, hfound, h⟩ := h
  obtain ⟨claim, hclaim, hspec, hfence, hsame, -⟩ := claim_of_active hact
  cases found with
  | some old =>
    simp at h
  | none =>
    rw [bind_eq_ok] at h
    obtain ⟨found, hfound', h⟩ := h
    cases found with
    | some old =>
      simp at h
    | none =>
      simp only [insertRunIntent, ok_iff, insert_eq_ok, Prod.mk.injEq, Option.some.injEq] at h
      obtain ⟨⟨_, _⟩, hstamp, _, ⟨-, rfl⟩, _, ⟨-, rfl⟩, _, hout, -, rfl⟩ := h
      obtain ⟨rfl, hread⟩ := readable_of_stamp hstamp
      rw [insertOutbox_eq_ok hout, ← hfence, ← hspec, hatt, ← hsame]
      rw [← hspec, ← hfence] at hmat hfound'
      obtain ⟨row, hrow, hgen, hid⟩ := loadMaterialization_eq_some hmat
      exact .intend claim row hclaim (hatt.trans hsame.symm) hrow hgen
        (hid.trans (congrArg some hnames)) (loadRunIntent_eq_none hfound)
        (loadByGeneration_eq_none hfound') hread

theorem appendTerminal_writes
    (h : appendLaunchTerminalIntent p db req now = .ok (intent, some db')) :
    Writes p db (.appendLaunchTerminalIntent req now) db' := by
  simp only [appendLaunchTerminalIntent, ok_iff, Prod.mk.injEq, Option.map_eq_some_iff] at h
  obtain ⟨⟨_, _⟩, happ, -, _, rfl, rfl⟩ := h
  obtain ⟨row, hnew, rfl⟩ := appendIntent_new happ
  exact .terminal row hnew

theorem settleEvidence_writes
    (h : settleLaunchEvidenceIntent p db req now = .ok (intent, some db')) :
    Writes p db (.settleLaunchEvidenceIntent req now) db' := by
  simp only [settleLaunchEvidenceIntent, ok_iff, Prod.mk.injEq, Option.map_eq_some_iff] at h
  obtain ⟨⟨_, _⟩, happ, -, _, rfl, rfl⟩ := h
  obtain ⟨row, hnew, rfl⟩ := appendIntent_new happ
  exact .evidence row hnew

theorem writes_settle {α : Type} {op : Op} {commits : Bool} {res : Except Err (α × Option (DB β))}
    (h : ∀ a db', res = .ok (a, some db') → Writes p db op db') :
    (settle commits (Err.sql "commit") db res).1 = db ∨
      Writes p db op (settle commits (Err.sql "commit") db res).1 := by
  rcases settle_fst with hs | ⟨a, ha⟩
  · exact .inl hs
  · exact .inr (h a _ ha)

theorem exec_writes (p : Primitives β) (db : DB β) (op : Op × Bool) :
    (exec p db op).1 = db ∨ Writes p db op.1 (exec p db op).1 := by
  obtain ⟨op, _⟩ := op
  cases op with
  | storeLaunchSpec => exact writes_settle fun _ _ => storeSpec_writes
  | acquireLaunchClaim => exact writes_settle fun _ _ => acquireClaim_writes
  | reclaimLaunchClaim => exact writes_settle fun _ _ => reclaimClaim_writes
  | recordLaunchMaterializationReady =>
    exact writes_settle fun _ _ => ready_writes
  | createLaunchRunIntent => exact writes_settle fun _ _ => createRunIntent_writes
  | appendLaunchTerminalIntent => exact writes_settle fun _ _ => appendTerminal_writes
  | settleLaunchEvidenceIntent => exact writes_settle fun _ _ => settleEvidence_writes
  | withLaunchFenceAdmission =>
    left
    simp only [exec]
    split <;> rfl

theorem Writes.moves {op : Op} (h : Writes p db op db') : Moves db db' := by
  cases h with
  | acquire row _ _ hnew hfirst hhead => exact .acquire row hnew hfirst hhead rfl rfl
  | reclaim row head hnew hhead hgen => exact .reclaim row head hnew hhead hgen rfl rfl
  | _ => exact .stay rfl rfl

theorem exec_moves (p : Primitives β) (db : DB β) (op : Op × Bool) : Moves db (exec p db op).1 := by
  rcases exec_writes p db op with hsame | hwrit
  · exact .stay (by rw [hsame]) (by rw [hsame])
  · exact hwrit.moves

end Ananke.Launch
