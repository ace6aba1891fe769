import Mathlib.Data.List.Chain
import Ananke.Proposal.Effect

/-! The rows about one proposal. An operation writes the dossier of one proposal and leaves
those of all others as they are. -/
namespace Ananke.Proposal

open Validation Relational List
open Launch (ReviewState ProposalState localGUIOperator addInt)

variable {β : Type}

def ApprovalRow.proposalID (row : ApprovalRow) : String := row.identity.proposalID

def IdempotencyRow.proposalID (row : IdempotencyRow) : String := row.identity.proposalID

/-- The rows about one proposal, table by table. -/
def DB.about (db : DB β) (proposalID : String) : DB β where
  proposals := rowsOf ProposalRow.proposalID proposalID db.proposals
  revisions := rowsOf RevisionRow.proposalID proposalID db.revisions
  approvals := rowsOf ApprovalRow.proposalID proposalID db.approvals
  lifecycles := rowsOf LifecycleRow.proposalID proposalID db.lifecycles
  activity := rowsOf ActivityRow.proposalID proposalID db.activity
  idempotency := rowsOf IdempotencyRow.proposalID proposalID db.idempotency

variable {p : Primitives β} {db changed : DB β} {op : Op} {m : ProposalMutation} {snap : β}
  {text proposalID : String} {life approval : ProposalMutation → Prop} [DecidablePred life]
  [DecidablePred approval] {state : ReviewState} {note : ApprovalRow → ApprovalRow}
  {names : String × Int × String} {f : ProposalRow → ProposalRow}

theorem about_add_self (h : m.proposalID = proposalID) :
    (db.addRevision m snap text).about proposalID =
    (db.about proposalID).addRevision m snap text := by
  subst h
  simp [DB.about, DB.addRevision, rowsOf, ApprovalRow.proposalID, LifecycleRow.proposalID]

theorem about_add_other (h : m.proposalID ≠ proposalID) :
    (db.addRevision m snap text).about proposalID = db.about proposalID := by
  simp [DB.about, DB.addRevision, rowsOf, ApprovalRow.proposalID, LifecycleRow.proposalID, h]

theorem about_movePair (hnote : ∀ row, (note row).identity = row.identity) :
    (db.movePair life approval state text note).about proposalID =
      (db.about proposalID).movePair life approval state text note := by
  simp only [DB.about, DB.movePair]
  rw [rowsOf_updateWhere, rowsOf_updateWhere]
  · exact fun _ => rfl
  · intro row
    exact congrArg ProposalMutation.proposalID (hnote row)

theorem about_setProposal (hf : ∀ row, (f row).proposalID = row.proposalID) :
    (db.setProposal names f).about proposalID = (db.about proposalID).setProposal names f := by
  simp only [DB.about, DB.setProposal]
  rw [rowsOf_updateWhere hf]

theorem setProposal_of_none (h : ∀ row ∈ db.proposals, row.names ≠ names) :
    db.setProposal names f = db := by
  rw [DB.setProposal, updateWhere_none fun row hrow hc => h row hrow hc.1]

theorem mem_about {κ : Type} {key : κ → String} {r : κ} {rows : List κ}
    (h : r ∈ rowsOf key proposalID rows) : r ∈ rows ∧ key r = proposalID := by
  simpa [rowsOf] using h

theorem about_set_other (hf : ∀ row, (f row).proposalID = row.proposalID)
    (h : names.1 ≠ proposalID) : (db.setProposal names f).about proposalID =
      db.about proposalID := by
  rw [about_setProposal hf]
  refine setProposal_of_none fun row hrow hnames => h ?_
  rw [← hnames]
  exact (mem_about hrow).2

theorem about_movePair_other (hnote : ∀ row, (note row).identity = row.identity)
    (hlives : ∀ row ∈ db.lifecycles, life row.identity → row.proposalID ≠ proposalID)
    (happrs : ∀ row ∈ db.approvals, approval row.identity → row.proposalID ≠ proposalID) :
    (db.movePair life approval state text note).about proposalID = db.about proposalID := by
  rw [about_movePair hnote, DB.movePair, updateWhere_none, updateWhere_none]
  · intro row hrow hmeant
    exact hlives row (mem_about hrow).1 hmeant.1 (mem_about hrow).2
  · intro row hrow hmeant
    exact happrs row (mem_about hrow).1 hmeant.1 (mem_about hrow).2

theorem nextSequence_about : (db.about proposalID).nextSequence proposalID =
    db.nextSequence proposalID := by
  have h : rowsOf ActivityRow.proposalID proposalID
      (rowsOf ActivityRow.proposalID proposalID db.activity) =
      rowsOf ActivityRow.proposalID proposalID db.activity := by
    simp [rowsOf]
  simp only [DB.nextSequence, DB.about, h]

variable {row : IdempotencyRow}

theorem about_log_self (h : row.identity.proposalID = proposalID) :
    (db.log row text).about proposalID = (db.about proposalID).log row text := by
  subst h
  simp only [DB.log, nextSequence_about]
  simp [DB.about, rowsOf, ActivityRow.proposalID, IdempotencyRow.proposalID]

theorem about_log_other (h : row.identity.proposalID ≠ proposalID) :
    (db.log row text).about proposalID = db.about proposalID := by
  simp [DB.about, DB.log, rowsOf, ActivityRow.proposalID, IdempotencyRow.proposalID, h]

/-- The keys of the tables. -/
structure Keyed (db : DB β) : Prop where
  proposals : (db.proposals.map ProposalRow.proposalID).Nodup
  hashes : (db.revisions.map RevisionRow.revisionHash).Nodup
  approvals : (db.approvals.map ApprovalRow.approvalID).Nodup
  idempotency : (db.idempotency.map IdempotencyRow.key).Nodup

theorem keyed_empty : Keyed ({} : DB β) :=
  ⟨nodup_nil, nodup_nil, nodup_nil, nodup_nil⟩

theorem Keyed.addRevision (h : Keyed db) (hfresh : FreshRevision db m) :
    Keyed (db.addRevision m snap text) where
  proposals := h.proposals
  hashes := nodup_snoc h.hashes hfresh.revisionHash
  approvals := nodup_snoc h.approvals hfresh.approvalID
  idempotency := h.idempotency

theorem Keyed.movePair (h : Keyed db) (hnote : ∀ row, (note row).identity = row.identity) :
    Keyed (db.movePair life approval state text note) where
  proposals := h.proposals
  hashes := h.hashes
  approvals := by
    simp only [DB.movePair]
    rw [map_updateWhere_of_eq]
    · exact h.approvals
    · intro row
      exact congrArg ProposalMutation.approvalID (hnote row)
  idempotency := h.idempotency

theorem Keyed.setProposal (h : Keyed db) (hf : ∀ row, (f row).proposalID = row.proposalID) :
    Keyed (db.setProposal names f) where
  proposals := by
    simp only [DB.setProposal]
    rw [map_updateWhere_of_eq hf]
    exact h.proposals
  hashes := h.hashes
  approvals := h.approvals
  idempotency := h.idempotency

/-- An approval is known by its own identifier, so a move that names it stays within its
proposal. -/
theorem Keyed.about_moveOne_other (h : Keyed db) {row : ApprovalRow} (hrow : row ∈ db.approvals)
    (hsame : row.identity = m) (hnote : ∀ row, (note row).identity = row.identity)
    (hid : m.proposalID ≠ proposalID) :
    (db.movePair (fun m' => m' = m) (fun m' => m'.approvalID = m.approvalID) state text
      note).about proposalID = db.about proposalID := by
  refine about_movePair_other hnote ?_ ?_
  · rintro l - rfl
    exact hid
  · intro a ha he
    have heq : a = row := eq_of_key_eq h.approvals ha hrow (he.trans (hsame ▸ rfl))
    rw [heq, ApprovalRow.proposalID, hsame]
    exact hid

theorem Changes.keyed (h : Changes p db m op changed) (hkeyed : Keyed db) : Keyed changed := by
  cases h with
  | create row snap hnew hnames hopen hfirst hfresh =>
    refine Keyed.addRevision ?_ ⟨hfresh.1, hfresh.2, hfresh.3⟩
    exact ⟨nodup_snoc hkeyed.proposals hnew, hkeyed.hashes, hkeyed.approvals, hkeyed.idempotency⟩
  | append row life snap hrow hexp hopen hlife hnames hstate hid hnext hfresh hlinks =>
    refine Keyed.setProposal ?_ fun _ => rfl
    split
    · exact (hkeyed.addRevision hfresh).movePair fun _ => rfl
    · exact hkeyed.addRevision hfresh
  | decide row life approval hrow hnames hopen hlife hident hpend happr hsame =>
    dsimp only
    split
    · refine Keyed.setProposal ?_ fun _ => rfl
      exact hkeyed.movePair fun _ => rfl
    · exact hkeyed.movePair fun _ => rfl
  | withdraw row life approval hrow hopen hlife hident hnames hstate happr hsame =>
    refine Keyed.setProposal ?_ fun _ => rfl
    split
    · exact hkeyed.movePair fun _ => rfl
    · exact hkeyed

theorem Changes.about_other (h : Changes p db m op changed) (hkeyed : Keyed db)
    (hid : m.proposalID ≠ proposalID) : changed.about proposalID = db.about proposalID := by
  cases h with
  | create row snap hnew hnames =>
    rw [about_add_other hid]
    have hrow : row.proposalID = m.proposalID := congrArg Prod.fst hnames
    simp [DB.about, rowsOf, hrow, hid]
  | append row life snap hrow hexp hopen hlife hnames hstate hrowID hnext hfresh hlinks =>
    refine (about_set_other ?_ ?_).trans ?_
    · exact fun _ => rfl
    · exact fun he => hid (hrowID.trans he)
    split
    · refine (about_movePair_other (fun _ => rfl) ?_ ?_).trans (about_add_other hid)
      · rintro _ - ⟨hl, -⟩ rfl
        exact hid hl.symm
      · rintro _ - ⟨ha, -⟩ rfl
        exact hid ha.symm
    · exact about_add_other hid
  | decide row life approval hrow hnames hopen hlife hident hpend happr hsame =>
    dsimp only
    split
    · refine (about_set_other ?_ hid).trans ?_
      · exact fun _ => rfl
      · exact hkeyed.about_moveOne_other happr hsame (fun _ => rfl) hid
    · exact hkeyed.about_moveOne_other happr hsame (fun _ => rfl) hid
  | withdraw row life approval hrow hopen hlife hident hnames hstate happr hsame =>
    have hrowID : row.names.1 = m.proposalID := congrArg Prod.fst hnames
    refine (about_set_other ?_ ?_).trans ?_
    · exact fun _ => rfl
    · exact hrowID ▸ hid
    split
    · exact hkeyed.about_moveOne_other happr hsame (fun _ => rfl) hid
    · rfl

end Ananke.Proposal
