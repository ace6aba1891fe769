import Ananke.Launch.Fencing
import Ananke.Proposal.Journal

/-! What the operations write, one effect for each group of statements, and what each
operation that commits has checked before. -/
namespace Ananke.Proposal

open Validation Relational List
open Launch (ReviewState ProposalState localGUIOperator addInt)

variable {β : Type}

variable (db : DB β)

def DB.addRevision (m : ProposalMutation) (snap : β) (now : String) : DB β :=
  { db with
    revisions := db.revisions ++ [⟨m.proposalID, m.revision, m.revisionHash, snap⟩]
    approvals := db.approvals ++
      [{ identity := m, createdAt := now, createdBy := localGUIOperator, state := .pending }]
    lifecycles := db.lifecycles ++ [⟨m, .pending, now, now, 1⟩] }

/-- The pending pairs that are meant, moved to another state. -/
def DB.movePair (life approval : ProposalMutation → Prop)
    [DecidablePred life] [DecidablePred approval] (state : ReviewState) (now : String)
    (note : ApprovalRow → ApprovalRow) : DB β :=
  { db with
    lifecycles := updateWhere (fun row => life row.identity ∧ row.state = .pending)
      (fun row => { row with state := state, updatedAt := now, version := row.version + 1 })
      db.lifecycles
    approvals := updateWhere (fun row => approval row.identity ∧ row.state = .pending)
      (fun row => { note row with state := state }) db.approvals }

/-- The open proposal with that current revision, changed. -/
def DB.setProposal (cur : String × Int × String) (f : ProposalRow → ProposalRow) : DB β :=
  { db with
    proposals := updateWhere (fun row => row.names = cur ∧ row.state = .opened) f db.proposals }

/-- The number that the next activity of the proposal gets. -/
def DB.nextSequence (proposalID : String) : Int :=
  match ((rowsOf ActivityRow.proposalID proposalID db.activity).map ActivityRow.sequence).max? with
  | none => 1
  | some maximum => addInt maximum 1

def DB.log (row : IdempotencyRow) (now : String) : DB β :=
  { db with
    idempotency := db.idempotency ++ [row]
    activity := db.activity ++
      [⟨db.nextSequence row.identity.proposalID, row.operation, row.identity, now⟩] }

/-- The identity names a lifecycle that is paired with its approval, and a revision. -/
def Named (m : ProposalMutation) : Prop :=
  m ∈ db.lifecycles.map LifecycleRow.identity ∧ m ∈ db.approvals.map ApprovalRow.identity ∧
    m.names ∈ db.revisions.map RevisionRow.names

variable {db db' : DB β} {m : ProposalMutation} {snap : β} {text : String}

theorem mem_pairs {pair : LifecycleRow × ApprovalRow} : pair ∈ db.pairs ↔
    pair.1 ∈ db.lifecycles ∧ pair.2 ∈ db.approvals ∧ pair.2.identity = pair.1.identity := by
  obtain ⟨life, approval⟩ := pair
  simp only [DB.pairs, mem_flatMap, mem_map, mem_filter, decide_eq_true_eq, Prod.mk.injEq]
  constructor
  · rintro ⟨_, hl, _, ⟨ha, he⟩, rfl, rfl⟩
    exact ⟨hl, ha, he⟩
  · rintro ⟨hl, ha, he⟩
    exact ⟨life, hl, approval, ⟨ha, he⟩, rfl, rfl⟩

theorem mutation_eq_ok {u : Unit} : validateProposalMutationIdentity db m = .ok u ↔ Named db m := by
  rw [validateProposalMutationIdentity, require_eq_ok, Named]
  simp only [mem_map]
  constructor
  · rintro ⟨⟨l, a⟩, hpair, rfl, hnames⟩
    obtain ⟨hl, ha, he⟩ := mem_pairs.mp hpair
    exact ⟨⟨l, hl, rfl⟩, ⟨a, ha, he⟩, hnames⟩
  · rintro ⟨⟨l, hl, rfl⟩, ⟨a, ha, he⟩, hnames⟩
    exact ⟨(l, a), mem_pairs.mpr ⟨hl, ha, he⟩, rfl, hnames⟩

/-- What is new about a revision when its rows are inserted. -/
structure FreshRevision (db : DB β) (m : ProposalMutation) : Prop where
  revisionHash : m.revisionHash ∉ db.revisions.map RevisionRow.revisionHash
  approvalID : m.approvalID ∉ db.approvals.map ApprovalRow.approvalID
  positive : 0 < m.revision

theorem insertPending_eq_ok {actions : String × String × String}
    (h : insertPendingRevision db actions m snap text = .ok db') :
    FreshRevision db m ∧ db' = db.addRevision m snap text := by
  simp only [insertPendingRevision, ok_iff, insertOne_eq_ok] at h
  obtain ⟨_, ⟨⟨hhash, -, hpos⟩, rfl⟩, _, ⟨⟨happr, -⟩, rfl⟩, _, ⟨-, rfl⟩, rfl⟩ := h
  exact ⟨⟨hhash, happr, hpos⟩, rfl⟩

theorem movePending_eq_ok {conflict : Err} {life approval : ProposalMutation → Prop}
    [DecidablePred life] [DecidablePred approval] {state : ReviewState}
    {note : ApprovalRow → ApprovalRow}
    (h : movePending db conflict life approval state text note = .ok db') :
    db' = db.movePair life approval state text note := by
  simp only [movePending, ok_iff, updateOne_eq_ok] at h
  obtain ⟨_, ⟨-, rfl⟩, _, ⟨-, rfl⟩, rfl⟩ := h
  rfl

theorem proposal_eq_ok {conflict : Err} {cur : String × Int × String}
    {f : ProposalRow → ProposalRow} (h : updateProposal db conflict cur f = .ok db') :
    db' = db.setProposal cur f := by
  simp only [updateProposal, ok_iff, updateOne_eq_ok] at h
  obtain ⟨_, ⟨-, rfl⟩, rfl⟩ := h
  rfl

theorem onlyIf_eq_ok {c : Prop} [Decidable c] {statement : DB β → Except Err (DB β)}
    {changed : DB β} (hchanged : ∀ db', statement db = .ok db' → db' = changed)
    (h : onlyIf c statement db = .ok db') : db' = if c then changed else db := by
  unfold onlyIf at h
  split
  next hc =>
    rw [if_pos hc] at h
    exact hchanged db' h
  next hc =>
    rw [if_neg hc] at h
    cases h
    rfl

section

variable {operation : Operation} {resource key : String} {fail : Err} {bodyHash : Option String}
  {mutate : String → Except Err (ProposalMutation × Option (DB β))}

theorem replayOr_eq_ok {r : ProposalMutation × Option (DB β)} :
    replayOr db operation resource key fail bodyHash mutate = .ok r ↔ ∃ hash, bodyHash = some hash ∧
        ((∃ replay, lookupProposalIdempotency db operation resource key hash = .ok (some replay) ∧
            r = (replay, none)) ∨
          lookupProposalIdempotency db operation resource key hash = .ok none ∧
            mutate hash = .ok r) := by
  simp only [replayOr, ok_iff]
  constructor
  · rintro ⟨hash, hhash, found, hfound, h⟩
    cases found with
    | some replay =>
      cases h
      exact ⟨hash, hhash, .inl ⟨replay, hfound, rfl⟩⟩
    | none => exact ⟨hash, hhash, .inr ⟨hfound, h⟩⟩
  · rintro ⟨hash, hhash, ⟨replay, hfound, rfl⟩ | ⟨hfound, h⟩⟩
    · exact ⟨hash, hhash, some replay, hfound, rfl⟩
    · exact ⟨hash, hhash, none, hfound, h⟩

theorem mutate_of_replayOr
    (h : replayOr db operation resource key fail bodyHash mutate = .ok (m, some db')) :
    ∃ hash, bodyHash = some hash ∧ mutate hash = .ok (m, some db') := by
  obtain ⟨hash, hhash, ⟨_, -, hreplay⟩ | ⟨-, h⟩⟩ := replayOr_eq_ok.mp h
  · cases hreplay
  · exact ⟨hash, hhash, h⟩

end

theorem conclude_eq_ok {operation : Operation} {resource key bodyHash : String}
    (h : conclude db operation resource key bodyHash m text = .ok db') :
    Named db m ∧
      (localGUIOperator, operation, resource, key) ∉ db.idempotency.map IdempotencyRow.key ∧
      0 < db.nextSequence m.proposalID ∧
      db' = db.log ⟨localGUIOperator, operation, resource, key, bodyHash, m⟩ text := by
  simp only [conclude, insertProposalIdempotency, appendProposalActivity, ok_iff, insertOne_eq_ok,
    mutation_eq_ok] at h
  obtain ⟨-, ⟨-, hnamed, -, ⟨⟨hkey, -⟩, rfl⟩, rfl⟩, -, ⟨⟨-, hpos, -⟩, rfl⟩, rfl⟩ := h
  exact ⟨hnamed, hkey, hpos, rfl⟩

/-- The bytes of a row are those of the snapshot, and its hash is theirs. -/
structure Sealed (p : Primitives β) (row : RevisionRow β) (revision : Revision) : Prop where
  bytes : p.encodeRevision revision = some row.snapshotJSON
  hash : row.revisionHash = p.digest row.snapshotJSON
  proposalID : revision.proposalID = row.proposalID
  revision : revision.revision = row.revision

/-- The snapshot of a row names the parent by number and hash. -/
def Links (p : Primitives β) (parent : Option (Int × String)) (row : RevisionRow β) : Prop :=
  ∃ rev, Sealed p row rev ∧ rev.parentRevision = parent.map Prod.fst ∧
    rev.parentRevisionHash = parent.map Prod.snd

def Op.operation : Op → Operation
  | .create _ _ _ _ => .createProposal
  | .append _ _ _ => .appendRevision
  | .decide _ _ => .decideApproval
  | .withdraw _ _ => .withdrawProposal

def Op.resource : Op → String
  | .create _ _ _ _ => "proposal_collection"
  | .append req _ _ => req.proposalID
  | .decide req _ => req.approvalID
  | .withdraw req _ => req.proposalID

def Op.idempotencyKey : Op → String
  | .create req _ _ _ => req.idempotencyKey
  | .append req _ _ => req.idempotencyKey
  | .decide req _ => req.idempotencyKey
  | .withdraw req _ => req.idempotencyKey

def Op.body : Op → Body
  | .create req _ _ _ => createRequestBody req
  | .append req _ _ => appendRevisionRequestBody req
  | .decide req _ => decisionRequestBody req
  | .withdraw req _ => withdrawProposalRequestBody req

def Op.now : Op → Int
  | .create _ _ _ now => now
  | .append _ _ now => now
  | .decide _ now => now
  | .withdraw _ now => now

/-- Under which key the operation is recorded. -/
def Op.key (op : Op) : String × Operation × String × String :=
  (localGUIOperator, op.operation, op.resource, op.idempotencyKey)

/-- What the operations change of the proposals, before they record it. -/
inductive Changes (p : Primitives β) (db : DB β) (m : ProposalMutation) : Op → DB β → Prop
  | create {request : CreateProposalRequest} {proposalID approvalID : Option String} {now : Int}
      (row : ProposalRow) (snapshot : β)
      (hnew : row.proposalID ∉ db.proposals.map ProposalRow.proposalID)
      (hnames : row.names = m.names) (hopened : row.state = .opened) (hfirst : m.revision = 1)
      (hfresh : FreshRevision db m)
      (hlinks : Links p none ⟨m.proposalID, m.revision, m.revisionHash, snapshot⟩) :
      Changes p db m (.create request proposalID approvalID now)
        ({ db with proposals := db.proposals ++ [row] }.addRevision m snapshot (p.formatTime now))
  | append {request : AppendProposalRevisionRequest} {approvalID : Option String} {now : Int}
      (row : ProposalRow) (lifecycle : LifecycleRow) (snapshot : β) (hrow : row ∈ db.proposals)
      (hexpected : row.names = (request.proposalID, request.expectedCurrentRevision,
        request.expectedCurrentRevisionHash)) (hopened : row.state = .opened)
      (hlifecycle : lifecycle ∈ db.lifecycles) (hnames : lifecycle.identity.names = row.names)
      (hstate : lifecycle.state = .pending ∨ lifecycle.state = .rejected)
      (hid : m.proposalID = row.proposalID) (hnext : m.revision = addInt row.currentRevision 1)
      (hfresh : FreshRevision db m)
      (hlinks : Links p (some (row.currentRevision, row.currentRevisionHash))
        ⟨m.proposalID, m.revision, m.revisionHash, snapshot⟩) :
      Changes p db m (.append request approvalID now) ((if lifecycle.state = .pending then
            (db.addRevision m snapshot (p.formatTime now)).movePair
              (fun m' => m'.proposalID = m.proposalID ∧ m'.revision = row.currentRevision)
              (fun m' => m'.proposalID = m.proposalID ∧ m'.revision = row.currentRevision)
              .superseded (p.formatTime now) id
          else db.addRevision m snapshot (p.formatTime now)).setProposal row.names fun row =>
            { row with currentRevision := m.revision, currentRevisionHash := m.revisionHash })
  | decide {request : DecideProposalApprovalRequest} {now : Int} (row : ProposalRow)
      (lifecycle : LifecycleRow) (approval : ApprovalRow) (hrow : row ∈ db.proposals)
      (hnames : row.names = m.names) (hopened : row.state = .opened)
      (hlifecycle : lifecycle ∈ db.lifecycles) (hidentity : lifecycle.identity = m)
      (hpending : lifecycle.state = .pending) (happroval : approval ∈ db.approvals)
      (hsame : approval.identity = m) :
      Changes p db m (.decide request now)
        (let moved := db.movePair (fun m' => m' = m) (fun m' => m'.approvalID = m.approvalID)
            (decidedState request.decision) (p.formatTime now) fun row =>
              { row with
                decidedAt := some (p.formatTime now)
                decidedBy := some localGUIOperator
                decisionIdempotencyKey := some request.idempotencyKey
                reason := some request.reason }
          if decidedState request.decision = .approved then
            moved.setProposal m.names fun row => { row with state := .approved }
          else moved)
  | withdraw {request : WithdrawProposalRequest} {now : Int} (row : ProposalRow)
      (lifecycle : LifecycleRow) (approval : ApprovalRow) (hrow : row ∈ db.proposals)
      (hopened : row.state = .opened) (hlifecycle : lifecycle ∈ db.lifecycles)
      (hidentity : lifecycle.identity = m) (hnames : row.names = m.names)
      (hstate : lifecycle.state = .pending ∨ lifecycle.state = .rejected)
      (happroval : approval ∈ db.approvals) (hsame : approval.identity = m) :
      Changes p db m (.withdraw request now) ((if lifecycle.state = .pending then
            db.movePair (fun m' => m' = m) (fun m' => m'.approvalID = m.approvalID) .withdrawn
              (p.formatTime now) id
          else db).setProposal row.names fun row => { row with state := .withdrawn })

/-- What an operation that commits writes: its changes, then its records. -/
inductive Writes (p : Primitives β) (db : DB β) (op : Op) (m : ProposalMutation) : DB β → Prop
  | intro (changed : DB β) (bodyHash : String) (hchanges : Changes p db m op changed)
      (hbody : p.bodyHash op.body = some bodyHash) (hnamed : Named changed m)
      (hkey : op.key ∉ changed.idempotency.map IdempotencyRow.key)
      (hsequence : 0 < changed.nextSequence m.proposalID) :
      Writes p db op m (changed.log
        ⟨localGUIOperator, op.operation, op.resource, op.idempotencyKey, bodyHash, m⟩
        (p.formatTime op.now))

variable {p : Primitives β}

theorem ProposalMutation.ext_names {m m' : ProposalMutation} (h : m.names = m'.names)
    (hid : m.approvalID = m'.approvalID) : m = m' := by
  obtain ⟨_, _, _, _⟩ := m
  obtain ⟨_, _, _, _⟩ := m'
  simp only [ProposalMutation.names, Prod.mk.injEq] at h
  obtain ⟨rfl, rfl, rfl⟩ := h
  cases hid
  rfl

theorem snapshot_eq_some {rev : Revision} {revisionHash : String} :
    canonicalRevisionSnapshot p rev = some (snap, revisionHash) ↔
      p.encodeRevision rev = some snap ∧ revisionHash = p.digest snap := by
  simp only [canonicalRevisionSnapshot, Option.map_eq_some_iff, Prod.mk.injEq]
  constructor
  · rintro ⟨_, h, rfl, rfl⟩
    exact ⟨h, rfl⟩
  · rintro ⟨h, rfl⟩
    exact ⟨snap, h, rfl, rfl⟩

variable {now : Int}

theorem createProposal_writes {req : CreateProposalRequest} {proposalID approvalID : Option String}
    (h : createProposal p db req proposalID approvalID now = .ok (m, some db')) :
    Writes p db (.create req proposalID approvalID now) m db' := by
  obtain ⟨bodyHash, hbody, h⟩ := mutate_of_replayOr h
  simp only [ok_iff, insertOne_eq_ok, Prod.mk.injEq, Option.some.injEq] at h
  obtain ⟨-, -, _, rfl, _, rfl, _, -, ⟨snap, _⟩,
    hsnap, _, ⟨hnew, rfl⟩, _, hinsert, _, hconc, rfl, rfl⟩ := h
  obtain ⟨hbytes, hhash⟩ := snapshot_eq_some.mp hsnap
  obtain ⟨hfresh, rfl⟩ := insertPending_eq_ok hinsert
  obtain ⟨hnamed, hkey, hseq, rfl⟩ := conclude_eq_ok hconc
  refine .intro _ bodyHash ?_ hbody hnamed hkey hseq
  exact .create _ snap hnew rfl rfl rfl ⟨hfresh.1, hfresh.2, hfresh.3⟩
    ⟨_, ⟨hbytes, hhash, rfl, rfl⟩, rfl, rfl⟩

theorem find_pairs {names : String × Int × String} {life : LifecycleRow} {approval : ApprovalRow}
    (h : db.pairs.find? (fun pair => pair.1.identity.names = names) = some (life, approval)) :
    life ∈ db.lifecycles ∧ approval ∈ db.approvals ∧
      approval.identity = life.identity ∧ life.identity.names = names := by
  obtain ⟨hl, ha, he⟩ := mem_pairs.mp (mem_of_find?_eq_some h)
  have hnames := List.find?_some h
  simp only [decide_eq_true_eq] at hnames
  exact ⟨hl, ha, he, hnames⟩

theorem append_writes {req : AppendProposalRevisionRequest} {approvalID : Option String}
    (h : appendProposalRevision p db req approvalID now = .ok (m, some db')) :
    Writes p db (.append req approvalID now) m db' := by
  obtain ⟨bodyHash, hbody, h⟩ := mutate_of_replayOr h
  simp only [ok_iff, Prod.mk.injEq, Option.some.injEq] at h
  obtain ⟨-, -, row, hrow, -, ⟨hopen, hrev, hhash⟩, ⟨life, _⟩, hpair, -, -, -,
    hstate, _, rfl, _, -, ⟨snap, _⟩, hsnap, _, hinsert,
    _, hsupersede, _, hupdate, _, hconc, rfl, rfl⟩ := h
  obtain ⟨hlife, -, -, hnames⟩ := find_pairs hpair
  obtain ⟨hbytes, hdigest⟩ := snapshot_eq_some.mp hsnap
  obtain ⟨hfresh, rfl⟩ := insertPending_eq_ok hinsert
  obtain rfl := onlyIf_eq_ok (fun _ => movePending_eq_ok) hsupersede
  obtain rfl := proposal_eq_ok hupdate
  obtain ⟨hnamed, hkey, hseq, rfl⟩ := conclude_eq_ok hconc
  have hid := key_of_select hrow
  refine .intro _ bodyHash ?_ hbody hnamed hkey hseq
  exact .append row life snap (mem_of_find?_eq_some hrow)
    (by rw [ProposalRow.names, hid, hrev, hhash]) hopen hlife hnames hstate hid.symm
    rfl hfresh ⟨_, ⟨hbytes, hdigest, rfl, rfl⟩, rfl, rfl⟩

theorem decide_writes {req : DecideProposalApprovalRequest}
    (h : decideProposalApproval p db req now = .ok (m, some db')) :
    Writes p db (.decide req now) m db' := by
  obtain ⟨bodyHash, hbody, h⟩ := mutate_of_replayOr h
  simp only [ok_iff, Prod.mk.injEq, Option.some.injEq] at h
  obtain ⟨-, -, approval, happr, -, ⟨hsame, -⟩, row, hrow, life, hlife, -,
    ⟨hopen, hrev, hhash, hpend⟩, _, hmove, _, hupdate, _, hconc, rfl,
    rfl⟩ := h
  have hid := key_of_select happr
  obtain rfl := movePending_eq_ok hmove
  obtain rfl := onlyIf_eq_ok (fun _ => proposal_eq_ok) hupdate
  obtain ⟨hnamed, hkey, hseq, rfl⟩ := conclude_eq_ok hconc
  refine .intro _ bodyHash ?_ hbody hnamed hkey hseq
  refine .decide row life approval (mem_of_find?_eq_some hrow) ?_ hopen
    (mem_of_find?_eq_some hlife) (key_of_select hlife) hpend
    (mem_of_find?_eq_some happr)
    (ProposalMutation.ext_names hsame hid)
  rw [ProposalRow.names, key_of_select hrow, hrev, hhash]
  rfl

theorem withdrawProposal_writes {req : WithdrawProposalRequest}
    (h : withdrawProposal p db req now = .ok (m, some db')) :
    Writes p db (.withdraw req now) m db' := by
  obtain ⟨bodyHash, hbody, h⟩ := mutate_of_replayOr h
  simp only [ok_iff, Prod.mk.injEq, Option.some.injEq] at h
  obtain ⟨-, -, row, hrow, -, hopen, ⟨life, approval⟩, hpair, -, -, -, hstate, _, hmove,
    _, hupdate, _, hconc, rfl, rfl⟩ := h
  obtain ⟨hlife, happr, hsame, hnames⟩ := find_pairs hpair
  obtain rfl := onlyIf_eq_ok (fun _ => movePending_eq_ok) hmove
  obtain rfl := proposal_eq_ok hupdate
  obtain ⟨hnamed, hkey, hseq, rfl⟩ := conclude_eq_ok hconc
  refine .intro _ bodyHash ?_ hbody hnamed hkey hseq
  exact .withdraw row life approval (mem_of_find?_eq_some hrow) hopen hlife rfl
    hnames.symm hstate happr hsame

theorem result_writes {op : Op} (h : op.result p db = .ok (m, some db')) :
    Writes p db op m db' := by
  cases op with
  | create => exact createProposal_writes h
  | append => exact append_writes h
  | decide => exact decide_writes h
  | withdraw => exact withdrawProposal_writes h

end Ananke.Proposal
