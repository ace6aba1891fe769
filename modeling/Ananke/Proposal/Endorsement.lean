import Ananke.Proposal.Consistency
import Ananke.Proposal.Instance

/-! Proposals and launches in one store. A specification is stored for a revision that is
approved, and what is approved stays so. -/
namespace Ananke.Proposal

open Validation Relational Machine List
open Launch (LaunchRevisionIdentity SpecRow localGUIOperator)

variable {β γ : Type}

/-- What a launch is asked for by: the names of a revision. -/
def revisionNames (rev : LaunchRevisionIdentity) : String × Int × String :=
  (rev.proposalID, rev.revision, rev.revisionHash)

/-- The proposals joined with their current revisions, and these with their pairs. -/
def DB.currentPairs (db : DB γ) : List (ProposalRow × LifecycleRow × ApprovalRow) :=
  db.proposals.flatMap fun proposal =>
    (db.revisions.filter fun rev => rev.names = proposal.names).flatMap fun rev =>
      (db.pairs.filter fun pair => pair.1.identity.names = rev.names).map fun pair =>
        (proposal, pair)

variable {p : Primitives γ} {db : DB γ}

/-- The revision is the current one of a proposal, and proposal, lifecycle and approval are
approved, the latter by the operator. -/
def Approved (db : DB γ) (m : ProposalMutation) : Prop :=
  ∃ proposal ∈ db.proposals, proposal.names = m.names ∧ proposal.state = .approved ∧
    (∃ life ∈ db.lifecycles, life.identity = m ∧ life.state = .approved) ∧
    ∃ approval ∈ db.approvals, approval.identity = m ∧ approval.state = .approved ∧
      approval.decidedBy = some localGUIOperator

theorem mem_currentPairs {proposal : ProposalRow} {life : LifecycleRow}
    {approval : ApprovalRow} (h : (proposal, life, approval) ∈ db.currentPairs) :
    proposal ∈ db.proposals ∧ life ∈ db.lifecycles ∧ approval ∈ db.approvals ∧
      approval.identity = life.identity ∧ life.identity.names = proposal.names := by
  simp only [DB.currentPairs, mem_flatMap, mem_filter, mem_map, decide_eq_true_eq,
    Prod.mk.injEq] at h
  obtain ⟨_, hprop, _, ⟨-, hrev⟩, _, ⟨hpair, hnames⟩, rfl, rfl⟩ := h
  obtain ⟨hl, ha, hident⟩ := mem_pairs.mp hpair
  exact ⟨hprop, hl, ha, hident, hnames.trans hrev⟩

variable {m : ProposalMutation}

theorem approved_about : Approved (db.about m.proposalID) m ↔ Approved db m := by
  simp only [Approved, DB.about, rowsOf, mem_filter, decide_eq_true_eq]
  constructor
  · rintro ⟨proposal, ⟨hp, -⟩, hnames, hstate, ⟨life, ⟨hl, -⟩, hlife⟩, approval, ⟨ha, -⟩, happr⟩
    exact ⟨proposal, hp, hnames, hstate, ⟨life, hl, hlife⟩, approval, ha, happr⟩
  · rintro ⟨proposal, hp, hnames, hstate, ⟨life, hl, hident, hlife⟩, approval, ha, hident', happr⟩
    exact ⟨proposal, ⟨hp, congrArg Prod.fst hnames⟩, hnames, hstate,
      ⟨life, ⟨hl, congrArg ProposalMutation.proposalID hident⟩, hident, hlife⟩,
      approval, ⟨ha, congrArg ProposalMutation.proposalID hident'⟩, hident', happr⟩

theorem approved_exec {op : Op × Bool} (h : Approved db m)
    (hcons : Consistent p db) : Approved (exec p db op).1 m := by
  obtain ⟨proposal, hprop, hnames, happr, -⟩ := id h
  have hid : proposal.proposalID = m.proposalID := congrArg Prod.fst hnames
  have hclosed : (exec p db op).1.about m.proposalID = db.about m.proposalID :=
    hid ▸ about_closed hcons hprop (by rw [happr]; decide)
  rw [← approved_about, hclosed, approved_about]
  exact h

variable [DecidableEq γ]

/-- The tables of the proposals, as the admission of a specification reads them. -/
def DB.answers (q : Primitives γ) (db : DB γ) : Launch.Proposals where
  checkRevision rev :=
    match select RevisionRow.names (revisionNames rev) db.revisions with
    | none => .error (.launchApprovalIneligible "")
    | some row => do
      let stored ← expect (.launchRecordCorrupt "decode P1 revision")
        (q.decodeRevision row.snapshotJSON)
      require (.launchRecordCorrupt "P1 revision snapshot does not match identity")
        (canonicalRevisionSnapshot q stored = some (row.snapshotJSON, row.revisionHash) ∧
          stored.proposalID = rev.proposalID ∧ stored.revision = rev.revision)
  approval rev approvalID :=
    match db.currentPairs.find? fun (proposal, _, approval) =>
        proposal.names = revisionNames rev ∧ approval.approvalID = approvalID with
    | none => .ok none
    | some (proposal, life, approval) => do
      let decidedBy ← expect (.sql "scan approval") approval.decidedBy
      pure (some ⟨approval.approvalID, approval.identity.proposalID, approval.identity.revision,
        approval.identity.revisionHash, approval.decidedAt, decidedBy, approval.state,
        proposal.state, life.state⟩)

structure Store (β γ : Type) where
  proposals : DB γ := {}
  launch : Launch.DB β := {}

/-- What both parts of the store take from elsewhere, with one clock. -/
structure StorePrimitives (β γ : Type) where
  proposal : Primitives γ
  launch : Launch.Primitives β
  timeOf : proposal.timeOf = launch.timeOf
  formatTime : proposal.formatTime = launch.formatTime

inductive StoreOp
  | proposal (op : Op)
  | launch (op : Launch.Op)

/-- A specification is stored on what the tables answer at that moment. -/
def answered (q : Primitives γ) (db : DB γ) : Launch.Op → Launch.Op
  | .storeLaunchSpec request _ now => .storeLaunchSpec request (db.answers q) now
  | op => op

/-- One operation, in a transaction whose commit succeeds or not. -/
def storeExec [DecidableEq β] (p : StorePrimitives β γ) (s : Store β γ) (op : StoreOp × Bool) :
    Store β γ × (Except Err ProposalMutation ⊕ Launch.Outcome) :=
  match op.1 with
  | .proposal proposalOp =>
    let (db, res) := exec p.proposal s.proposals (proposalOp, op.2)
    ({ s with proposals := db }, .inl res)
  | .launch launchOp =>
    let (db, outcome) := Launch.exec p.launch s.launch (answered p.proposal s.proposals launchOp,
      op.2)
    ({ s with launch := db }, .inr outcome)

theorem approved_of_eligible {q : Launch.Primitives β} {rev : LaunchRevisionIdentity}
    {approvalID : String} {eligibility : Launch.LaunchApprovalEligibility}
    (h : Launch.validateLaunchApprovalEligibility q (db.answers p) rev approvalID =
      .ok eligibility) :
    eligibility.approvalID = approvalID ∧
      Approved db ⟨rev.proposalID, rev.revision, rev.revisionHash, approvalID⟩ := by
  simp only [Launch.validateLaunchApprovalEligibility, ok_iff, DB.answers] at h
  obtain ⟨-, -, _, hfound, _, rfl, _, -, _, -, -,
    ⟨_, _, _, hid, hstate, hby, hopen, hlife⟩, rfl⟩ := h
  refine ⟨hid, ?_⟩
  split at hfound
  · cases hfound
  next proposal life approval hfind =>
    simp only [ok_iff, Option.some.injEq] at hfound
    obtain ⟨_, hdec, rfl⟩ := hfound
    have hagree := List.find?_some hfind
    simp only [decide_eq_true_eq] at hagree
    obtain ⟨hp, hl, ha, hident, hnames⟩ := mem_currentPairs (mem_of_find?_eq_some hfind)
    have hm : approval.identity = ⟨rev.proposalID, rev.revision, rev.revisionHash, approvalID⟩ :=
      ProposalMutation.ext_names ((congrArg ProposalMutation.names hident).trans
        (hnames.trans hagree.1)) hagree.2
    refine ⟨proposal, hp, hagree.1, hopen, ⟨life, hl, hident.symm.trans hm, hlife⟩,
      approval, ha, hm, hstate, hdec.trans (congrArg some hby)⟩

/-- The columns by which a specification names its approval. -/
def specIdentity (row : SpecRow β) : ProposalMutation :=
  ⟨row.proposalID, row.revision, row.revisionHash, row.approvalID⟩

/-- The specification is one for the revision that its columns name, and this is approved. -/
structure Endorsed (q : StorePrimitives β γ) (s : Store β γ) (row : SpecRow β) : Prop where
  spec : ∃ spec, row.specJSON = q.launch.encodeSpec spec ∧
    spec.revision = ⟨row.proposalID, row.revision, row.revisionHash⟩
  approved : Approved s.proposals (specIdentity row)

structure AllEndorsed (q : StorePrimitives β γ) (s : Store β γ) : Prop where
  consistent : Consistent q.proposal s.proposals
  endorsed : ∀ row ∈ s.launch.specs, Endorsed q s row

variable [DecidableEq β] {q : StorePrimitives β γ} {s : Store β γ} {row : SpecRow β}

omit [DecidableEq γ] in
theorem specs_of_writes {r : Launch.Primitives β} {launch launch' : Launch.DB β} {op : Launch.Op}
    (h : Launch.Writes r launch op launch') : launch'.specs = launch.specs ∨
      ∃ req proposals now approval, op = .storeLaunchSpec req proposals now ∧
        Launch.validateLaunchApprovalEligibility r proposals req.spec.revision
          req.approvalID = .ok approval ∧
        launch'.specs = launch.specs ++ [req.row r approval (r.formatTime now)] := by
  cases h with
  | store approval hhash helig => exact .inr ⟨_, _, _, approval, rfl, helig, rfl⟩
  | _ => exact .inl rfl

theorem specs_storeExec (q : StorePrimitives β γ) (s : Store β γ) (op : StoreOp × Bool) :
    (storeExec q s op).1.launch.specs = s.launch.specs ∨ ∃ row, Endorsed q s row ∧
        (storeExec q s op).1.launch.specs = s.launch.specs ++ [row] := by
  obtain ⟨op, commits⟩ := op
  cases op with
  | proposal => exact .inl rfl
  | launch op =>
    rcases Launch.exec_writes q.launch s.launch (answered q.proposal s.proposals op, commits) with
      hsame | hwrit
    · exact .inl (congrArg Launch.DB.specs hsame)
    · rcases specs_of_writes hwrit with hsame | ⟨req, proposals, now, approval, hop, helig, hspecs⟩
      · exact .inl hsame
      · refine .inr ⟨_, ?_, hspecs⟩
        -- the proposals that were asked are those of the store
        cases op with
        | storeLaunchSpec =>
          cases hop
          obtain ⟨hid, happr⟩ := approved_of_eligible helig
          refine ⟨⟨req.spec, rfl, rfl⟩, ?_⟩
          rw [← hid] at happr
          exact happr
        | _ => cases hop

variable {op : StoreOp × Bool}

theorem Endorsed.storeExec (h : Endorsed q s row)
    (hcons : Consistent q.proposal s.proposals) : Endorsed q (storeExec q s op).1 row := by
  refine ⟨h.spec, ?_⟩
  obtain ⟨op, _⟩ := op
  cases op with
  | proposal => exact approved_exec h.approved hcons
  | launch => exact h.approved

theorem AllEndorsed.storeExec (h : AllEndorsed q s) : AllEndorsed q (storeExec q s op).1 where
  consistent := by
    obtain ⟨op, _⟩ := op
    cases op with
    | proposal => exact consistent_exec h.consistent
    | launch => exact h.consistent
  endorsed := by
    have hold : ∀ row ∈ s.launch.specs, Endorsed q (Proposal.storeExec q s op).1 row :=
      fun row hrow => (h.endorsed row hrow).storeExec h.consistent
    rcases specs_storeExec q s op with hsame | ⟨row', hrow', hspecs⟩
    · exact hsame ▸ hold
    · rw [hspecs]
      exact forall_snoc.mpr ⟨hold, hrow'.storeExec h.consistent⟩

variable {ops : List (StoreOp × Bool)}

theorem allEndorsed_run : AllEndorsed q (run (storeExec q) {} ops) :=
  invariant_run (fun _ _ => AllEndorsed.storeExec) ⟨consistent_empty, by simp⟩

theorem mem_specs_run (h : row ∈ s.launch.specs) :
    row ∈ (run (storeExec q) s ops).launch.specs := by
  refine invariant_run (I := fun s : Store β γ => row ∈ s.launch.specs) ?_ h
  intro s op hrow
  rcases specs_storeExec q s op with hsame | ⟨row', -, hspecs⟩
  · rw [hsame]
    exact hrow
  · rw [hspecs]
    exact mem_append_left _ hrow

/-- Only approved work is launched: a specification that is stored is there for ever, and for
ever what it names is approved. -/
theorem launched_work_approved (q : StorePrimitives β γ) (before after : List (StoreOp × Bool)) :
    ∀ row ∈ (run (storeExec q) {} before).launch.specs,
      row ∈ (run (storeExec q) {} (before ++ after)).launch.specs ∧
        Endorsed q (run (storeExec q) {} (before ++ after)) row := by
  intro row hrow
  have hstays : row ∈ (run (storeExec q) {} (before ++ after)).launch.specs := by
    rw [run_append]
    exact mem_specs_run hrow
  exact ⟨hstays, allEndorsed_run.endorsed row hstays⟩

section

open Instance
open TrustedSupervisor.Instance (sha clockText)
open ExternalSupervisor.Instance (Doc spec proposals stored db₁ specRow exec_storeLaunchSpec
  spec_of_eligible)

/-- One clock for the proposal and its launch. -/
def launching : StorePrimitives Doc Revision where
  proposal := prims
  launch := ExternalSupervisor.Instance.prims.toPrimitives
  timeOf := rfl
  formatTime := rfl

/-- The proposal is created and approved, and its specification stored. -/
def approving : List (StoreOp × Bool) :=
  [(.proposal creating, true), (.proposal deciding, true),
    (.launch (.storeLaunchSpec ⟨spec, sha 1, name⟩ proposals 1), true)]

theorem eligible_approved : Launch.validateLaunchApprovalEligibility
    ExternalSupervisor.Instance.prims.toPrimitives (Instance.approved.answers prims)
    spec.revision name = .ok stored.approval := by
  simp only [Launch.validateLaunchApprovalEligibility, ok_iff]
  refine ⟨(), rfl, _, rfl, _, rfl, clockText 1, rfl, 1,
    ExternalSupervisor.Instance.timeOf_clockText 1, (), ?_, rfl⟩
  exact ⟨rfl, rfl, rfl, rfl, rfl, rfl, rfl, rfl⟩

theorem run_approving : run (storeExec launching) {} approving = ⟨Instance.approved, db₁⟩ := by
  have hcreate : storeExec launching {} (.proposal creating, true) =
      (⟨created, {}⟩, .inl (.ok identity)) := by
    simp only [storeExec, launching, exec_creating]
  have hdecide : storeExec launching ⟨created, {}⟩ (.proposal deciding, true) =
      (⟨Instance.approved, {}⟩, .inl (.ok identity)) := by
    simp only [storeExec, launching, exec_deciding]
  have hstore := exec_storeLaunchSpec (spec_of_eligible eligible_approved)
  have hlaunch : storeExec launching ⟨Instance.approved, {}⟩ (.launch (.storeLaunchSpec
      ⟨spec, sha 1, name⟩ proposals 1),
      true) = (⟨Instance.approved, db₁⟩, .inr ⟨.ok (.stored stored), none⟩) := by
    simp only [storeExec, launching, answered]
    rw [show ExternalSupervisor.Instance.name = name from rfl] at hstore
    rw [hstore]
  rw [approving, run_cons_of hcreate, run_cons_of hdecide, run_cons_of hlaunch, run_nil]

theorem launched_work_approved_withdrawing :
    specRow ∈ (run (storeExec launching) {} approving).launch.specs ∧
      Endorsed launching (run (storeExec launching) {}
        (approving ++ [(.proposal (.withdraw ⟨name, name⟩ 2), true)]))
        specRow := by
  have hmem : specRow ∈ (run (storeExec launching) {} approving).launch.specs := by
    rw [run_approving]
    exact mem_singleton_self _
  exact ⟨hmem, (launched_work_approved launching approving _ _ hmem).2⟩

end

end Ananke.Proposal
