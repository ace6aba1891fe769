import Ananke.Proposal.Dossier

/-! The review of a proposal: one line of revisions, of which only the last can be pending,
approved or withdrawn, and what each operation does to it. -/
namespace Ananke.Proposal

open Validation Relational List
open Launch (ReviewState ProposalState localGUIOperator addInt addInt_lt addInt_succ)

variable {β : Type}

/-- What the state of a proposal says about the review of its current revision. -/
def Stands : ProposalState → ReviewState → Prop
  | .opened, state => state = .pending ∨ state = .rejected
  | .approved, state => state = .approved
  | .withdrawn, state => state = .withdrawn ∨ state = .rejected

/-- A lifecycle and an approval that say the same. -/
structure Matched (pair : LifecycleRow × ApprovalRow) : Prop where
  review : pair.2.review = pair.1.review
  version : pair.1.version = if pair.1.state = .pending then 1 else 2
  decided : pair.2.state = .approved →
    pair.2.decidedBy = some localGUIOperator ∧ pair.2.decidedAt.isSome = true

/-- The review of a revision that is not the current one any more. -/
def Over (pair : LifecycleRow × ApprovalRow) : Prop :=
  pair.1.state = .superseded ∨ pair.1.state = .rejected

/-- Each snapshot names the one before it, and the first names none. -/
structure Linked (p : Primitives β) (rows : List (RevisionRow β)) : Prop where
  first : ∀ row ∈ rows.head?, Links p none row
  next : rows.IsChain fun parent row => Links p (some (parent.revision, parent.revisionHash)) row

/-- The dossier of a proposal: its reviews in the order of its revisions, and its history. -/
structure Filed (p : Primitives β) (row : ProposalRow)
    (earlier : List (LifecycleRow × ApprovalRow)) (last : LifecycleRow × ApprovalRow) (d : DB β) :
    Prop where
  proposals : d.proposals = [row]
  lifecycles : d.lifecycles = (earlier ++ [last]).map Prod.fst
  approvals : d.approvals = (earlier ++ [last]).map Prod.snd
  matched : ∀ pair ∈ earlier ++ [last], Matched pair
  ended : ∀ pair ∈ earlier, Over pair
  current : last.1.identity.names = row.names
  stands : Stands row.state last.1.state
  named : d.revisions.map RevisionRow.names = d.lifecycles.map fun l => l.identity.names
  numbered : Numbered (d.revisions.map RevisionRow.revision)
  bound : row.currentRevision < 2 ^ 63
  linked : Linked p d.revisions
  sequence : Numbered (d.activity.map ActivityRow.sequence)
  sequenceBound : (d.activity.length : Int) < 2 ^ 63

variable {p : Primitives β} {row : ProposalRow} {earlier : List (LifecycleRow × ApprovalRow)}
  {last pair : LifecycleRow × ApprovalRow} {db d changed : DB β} {m : ProposalMutation}
  {snap : β} {text : String} {op : Op}

/-- A pair in its new state. -/
def moved (state : ReviewState) (text : String) (note : ApprovalRow → ApprovalRow)
    (pair : LifecycleRow × ApprovalRow) : LifecycleRow × ApprovalRow :=
  ({ pair.1 with state := state, updatedAt := text, version := pair.1.version + 1 },
    { note pair.2 with state := state })

/-- The pair of a new revision. -/
def pendingPair (m : ProposalMutation) (text : String) : LifecycleRow × ApprovalRow :=
  (⟨m, .pending, text, text, 1⟩,
    { identity := m, createdAt := text, createdBy := localGUIOperator, state := .pending })

theorem matched_pendingPair : Matched (pendingPair m text) := ⟨rfl, rfl, nofun⟩

theorem Matched.state (h : Matched pair) : pair.2.state = pair.1.state := congrArg Prod.snd h.review

theorem Matched.identity (h : Matched pair) : pair.2.identity = pair.1.identity :=
  congrArg Prod.fst h.review

theorem Over.not_pending (h : Over pair) : pair.1.state ≠ .pending := by
  rcases h with h | h <;> rw [h] <;> decide

theorem Matched.moved {state : ReviewState} {note : ApprovalRow → ApprovalRow} (h : Matched pair)
    (hpend : pair.1.state = .pending) (hstate : state ≠ .pending)
    (hnote : ∀ row, (note row).identity = row.identity)
    (hdec : state = .approved → (note pair.2).decidedBy = some localGUIOperator ∧
      (note pair.2).decidedAt.isSome = true) : Matched (moved state text note pair) where
  review := by
    simp only [Proposal.moved, ApprovalRow.review, LifecycleRow.review, hnote, h.identity]
  version := by
    simp only [Proposal.moved, h.version, hpend, if_neg hstate]
    rfl
  decided := hdec

/-- Among reviews that are over, the current one and some that are not meant, a move moves
the current one. -/
theorem movePair_pairs (rest : List (LifecycleRow × ApprovalRow))
    (life approval : ProposalMutation → Prop) [DecidablePred life]
    [DecidablePred approval] (state : ReviewState) (text : String)
    (note : ApprovalRow → ApprovalRow)
    (hl : d.lifecycles = (earlier ++ [last] ++ rest).map Prod.fst)
    (ha : d.approvals = (earlier ++ [last] ++ rest).map Prod.snd)
    (hearl : ∀ pair ∈ earlier, Matched pair ∧ Over pair) (hlast : Matched last)
    (hpend : last.1.state = .pending) (hlife : life last.1.identity)
    (happr : approval last.1.identity)
    (hrest : ∀ pair ∈ rest, ¬ life pair.1.identity ∧ ¬ approval pair.2.identity) :
    (d.movePair life approval state text note).lifecycles =
        (earlier ++ [moved state text note last] ++ rest).map Prod.fst ∧
      (d.movePair life approval state text note).approvals =
        (earlier ++ [moved state text note last] ++ rest).map Prod.snd := by
  simp only [DB.movePair, hl, ha, map_append, map_singleton, updateWhere_append,
    updateWhere_singleton]
  constructor
  · rw [updateWhere_none, updateWhere_none, if_pos ⟨hlife, hpend⟩]
    · rfl
    · rintro l hl ⟨hmeant, -⟩
      obtain ⟨pair, hpair, rfl⟩ := mem_map.mp hl
      exact (hrest pair hpair).1 hmeant
    · rintro _ hl ⟨-, hl'⟩
      obtain ⟨pair, hpair, rfl⟩ := mem_map.mp hl
      exact (hearl pair hpair).2.not_pending hl'
  · rw [updateWhere_none, updateWhere_none,
      if_pos ⟨hlast.identity ▸ happr, hlast.state.trans hpend⟩]
    · rfl
    · rintro a ha ⟨hmeant, -⟩
      obtain ⟨pair, hpair, rfl⟩ := mem_map.mp ha
      exact (hrest pair hpair).2 hmeant
    · rintro _ ha ⟨-, ha'⟩
      obtain ⟨pair, hpair, rfl⟩ := mem_map.mp ha
      exact (hearl pair hpair).2.not_pending ((hearl pair hpair).1.state ▸ ha')

theorem linked_snoc {rows : List (RevisionRow β)} {parent new : RevisionRow β}
    (h : Linked p (rows ++ [parent]))
    (hnew : Links p (some (parent.revision, parent.revisionHash)) new) :
    Linked p (rows ++ [parent] ++ [new]) where
  first := by
    cases rows with
    | nil => exact h.first
    | cons r rows => exact h.first
  next := by
    refine isChain_append.mpr ⟨h.next, isChain_singleton _, ?_⟩
    simpa using hnew

section

variable (h : Filed p row earlier last d)
include h

theorem Filed.revisions_snoc : ∃ rows r, d.revisions = rows ++ [r] ∧ r.names = row.names ∧
      rows.map RevisionRow.names = earlier.map fun pair => pair.1.identity.names := by
  have hnamed := h.named
  rw [h.lifecycles, map_map, map_append, map_eq_append_iff] at hnamed
  obtain ⟨rows, _, hrows, hearl, hlast⟩ := hnamed
  obtain ⟨r, rfl, hr⟩ := map_eq_singleton_iff.mp hlast
  exact ⟨rows, r, hrows, hr.trans h.current, hearl⟩

theorem Filed.revision_eq : row.currentRevision = d.revisions.length := by
  obtain ⟨_, r, hrows, hr, -⟩ := h.revisions_snoc
  have hnum := h.numbered
  rw [hrows, map_append, map_singleton, numbered_snoc] at hnum
  have hrev : r.revision = row.currentRevision := congrArg (fun n => n.2.1) hr
  rw [← hrev, hnum.2, hrows]
  simp

theorem Filed.eq_last {l : LifecycleRow} (hl : l ∈ d.lifecycles)
    (hrev : l.identity.revision = row.currentRevision) : l = last.1 := by
  have hnumbers : d.lifecycles.map (fun l => l.identity.revision) =
      d.revisions.map RevisionRow.revision := by
    have hnamed := congrArg (List.map fun n : String × Int × String => n.2.1) h.named
    rw [map_map, map_map] at hnamed
    exact hnamed.symm
  have hlast : last.1 ∈ d.lifecycles := by
    rw [h.lifecycles]
    simp
  refine eq_of_key_eq (hnumbers ▸ h.numbered.nodup) hl hlast ?_
  exact hrev.trans (congrArg (fun n => n.2.1) h.current).symm

theorem Filed.earlier_matched : ∀ pair ∈ earlier, Matched pair ∧ Over pair := fun pair hpair =>
  ⟨h.matched pair (mem_append_left _ hpair), h.ended pair hpair⟩

theorem Filed.last_matched : Matched last :=
  h.matched last (by simp)

end

theorem nextSequence_eq (hrows : rowsOf ActivityRow.proposalID m.proposalID d.activity = d.activity)
    (hnum : Numbered (d.activity.map ActivityRow.sequence))
    (hbound : (d.activity.length : Int) < 2 ^ 63) (hpos : 0 < d.nextSequence m.proposalID) :
    d.nextSequence m.proposalID = d.activity.length + 1 ∧ d.nextSequence m.proposalID < 2 ^ 63 := by
  rw [DB.nextSequence, hrows] at hpos ⊢
  cases hmax : (d.activity.map ActivityRow.sequence).max? with
  | none =>
    rw [List.max?_eq_none_iff, map_eq_nil_iff] at hmax
    simp [hmax]
  | some maximum =>
    obtain ⟨hmem, hle⟩ := List.max?_eq_some_iff.mp hmax
    have hmaximum : maximum = d.activity.length := by
      have hupper := hnum.mem.mp hmem
      have hlen := hle (d.activity.length : Int) (hnum.mem.mpr (by
        rw [length_map] at hupper ⊢
        omega))
      rw [length_map] at hupper
      omega
    rw [hmax] at hpos
    dsimp only at hpos ⊢
    subst hmaximum
    exact ⟨addInt_succ (by omega) hbound hpos, addInt_lt _ _⟩

theorem Filed.log {irow : IdempotencyRow} (h : Filed p row earlier last d)
    (hrows : rowsOf ActivityRow.proposalID irow.identity.proposalID d.activity = d.activity)
    (hpos : 0 < d.nextSequence irow.identity.proposalID) :
    Filed p row earlier last (d.log irow text) := by
  obtain ⟨hnext, _⟩ := nextSequence_eq hrows h.sequence h.sequenceBound hpos
  refine { h with sequence := ?_, sequenceBound := ?_ }
  · simp only [DB.log, map_append, map_singleton]
    rw [numbered_snoc, length_map]
    exact ⟨h.sequence, hnext⟩
  · simp only [DB.log, length_append, length_singleton]
    push_cast
    omega

theorem filed_create (hnames : row.names = m.names) (hopen : row.state = .opened)
    (hfirst : m.revision = 1)
    (hlinks : Links p none ⟨m.proposalID, m.revision, m.revisionHash, snap⟩) :
    Filed p row [] (pendingPair m text) (DB.addRevision { proposals := [row] } m snap text) where
  proposals := rfl
  lifecycles := rfl
  approvals := rfl
  matched := by
    intro pair hpair
    rw [nil_append, mem_singleton] at hpair
    subst hpair
    exact matched_pendingPair
  ended := by simp
  current := hnames.symm
  stands := by
    rw [hopen]
    exact .inl rfl
  named := rfl
  numbered := by
    simp only [DB.addRevision, nil_append, map_singleton, hfirst]
    rfl
  bound := by
    have hrev : row.currentRevision = m.revision := congrArg (fun n => n.2.1) hnames
    omega
  linked := {
    first := by simpa [DB.addRevision] using hlinks
    next := isChain_singleton _ }
  sequence := rfl
  sequenceBound := by simp [DB.addRevision]

variable {row' : ProposalRow}

section

variable (h : Filed p row earlier last d) (last' : LifecycleRow × ApprovalRow)
  (hmatched : Matched last')
include h last' hmatched

theorem Filed.revise {d' : DB β} (hover : Over last')
    (hsame : last'.1.identity = last.1.identity) (hnext : m.revision = addInt row.currentRevision 1)
    (hpos : 0 < m.revision)
    (hlinks : Links p (some (row.currentRevision, row.currentRevisionHash))
      ⟨m.proposalID, m.revision, m.revisionHash, snap⟩)
    (hrow : row'.names = m.names) (hopen : row'.state = .opened)
    (hprops : d'.proposals = [row']) (hrevs : d'.revisions =
      d.revisions ++ [⟨m.proposalID, m.revision, m.revisionHash, snap⟩])
    (hlives : d'.lifecycles =
      (earlier ++ [last'] ++ [pendingPair m text]).map Prod.fst) (happrs : d'.approvals =
      (earlier ++ [last'] ++ [pendingPair m text]).map Prod.snd)
    (hactivity : d'.activity = d.activity) :
    Filed p row' (earlier ++ [last']) (pendingPair m text) d' where
  proposals := hprops
  lifecycles := hlives
  approvals := happrs
  matched := forall_snoc.mpr ⟨forall_snoc.mpr
    ⟨fun pair hpair => (h.earlier_matched pair hpair).1, hmatched⟩, matched_pendingPair⟩
  ended := forall_snoc.mpr ⟨h.ended, hover⟩
  current := hrow.symm
  stands := by
    rw [hopen]
    exact .inl rfl
  named := by
    rw [hrevs, hlives, map_append, h.named, h.lifecycles]
    simp only [map_append, map_map, map_singleton, hsame]
    rfl
  numbered := by
    rw [hrevs, map_append, map_singleton, numbered_snoc, length_map]
    refine ⟨h.numbered, ?_⟩
    dsimp only
    have hlen := h.revision_eq
    rw [hnext] at hpos ⊢
    rw [addInt_succ (by omega) h.bound hpos, hlen]
  bound := by
    have hrev : row'.currentRevision = m.revision := congrArg (fun n => n.2.1) hrow
    rw [hrev, hnext]
    exact addInt_lt _ _
  linked := by
    obtain ⟨_, r, hrows, hr, -⟩ := h.revisions_snoc
    have hrev : r.revision = row.currentRevision := congrArg (fun n => n.2.1) hr
    have hhash : r.revisionHash = row.currentRevisionHash := congrArg (fun n => n.2.2) hr
    rw [hrevs, hrows]
    refine linked_snoc (hrows ▸ h.linked) ?_
    rw [hrev, hhash]
    exact hlinks
  sequence := hactivity ▸ h.sequence
  sequenceBound := hactivity ▸ h.sequenceBound

theorem Filed.restate {d' : DB β}
    (hsame : last'.1.identity = last.1.identity) (hrow : row'.names = row.names)
    (hstands : Stands row'.state last'.1.state) (hprops : d'.proposals = [row'])
    (hrevs : d'.revisions = d.revisions)
    (hlives : d'.lifecycles = (earlier ++ [last']).map Prod.fst)
    (happrs : d'.approvals = (earlier ++ [last']).map Prod.snd)
    (hactivity : d'.activity = d.activity) : Filed p row' earlier last' d' where
  proposals := hprops
  lifecycles := hlives
  approvals := happrs
  matched := forall_snoc.mpr ⟨fun pair hpair => (h.earlier_matched pair hpair).1, hmatched⟩
  ended := h.ended
  current := by rw [hsame, h.current, hrow]
  stands := hstands
  named := by
    rw [hrevs, hlives, h.named, h.lifecycles]
    simp [hsame]
  numbered := hrevs ▸ h.numbered
  bound := by
    have hrev : row'.currentRevision = row.currentRevision := congrArg (fun n => n.2.1) hrow
    rw [hrev]
    exact h.bound
  linked := hrevs ▸ h.linked
  sequence := hactivity ▸ h.sequence
  sequenceBound := hactivity ▸ h.sequenceBound

end

end Ananke.Proposal
