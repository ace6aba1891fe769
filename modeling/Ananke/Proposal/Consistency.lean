import Ananke.Proposal.Review

/-! In every run the tables of the proposals are consistent, and a proposal that is approved
or withdrawn is never changed again. -/
namespace Ananke.Proposal

open Validation Relational Machine List
open Launch (ReviewState ProposalState localGUIOperator)

variable {β : Type} {p : Primitives β} {row : ProposalRow}
  {earlier : List (LifecycleRow × ApprovalRow)} {last : LifecycleRow × ApprovalRow}
  {db db' d changed : DB β} {m : ProposalMutation} {text proposalID : String} {op : Op}

/-- A dossier is empty or that of a proposal. -/
def Sound (p : Primitives β) (d : DB β) : Prop :=
  d = {} ∨ ∃ row earlier last, Filed p row earlier last d

theorem Sound.filed (h : Sound p (db.about proposalID)) (hrow : row ∈ db.proposals)
    (hid : row.proposalID = proposalID) : ∃ earlier last, Filed p row earlier last
    (db.about proposalID) := by
  have hmem : row ∈ (db.about proposalID).proposals := by
    simpa [DB.about, rowsOf, hid] using hrow
  rcases h with hempty | ⟨row', earlier, last, hfiled⟩
  · rw [hempty] at hmem
    cases hmem
  · rw [hfiled.proposals, mem_singleton] at hmem
    exact ⟨earlier, last, hmem ▸ hfiled⟩

theorem Sound.eq_empty (h : Sound p (db.about proposalID))
    (hnew : proposalID ∉ db.proposals.map ProposalRow.proposalID) : db.about proposalID = {} := by
  rcases h with hempty | ⟨row, earlier, last, hfiled⟩
  · exact hempty
  · have hmem : row ∈ (db.about proposalID).proposals := by
      rw [hfiled.proposals]
      exact mem_singleton_self row
    obtain ⟨hrow, hid⟩ := mem_about hmem
    exact absurd (mem_map.mpr ⟨row, hrow, hid⟩) hnew

variable {l : LifecycleRow}

theorem mem_about_lifecycles (hl : l ∈ db.lifecycles) (hid : l.proposalID = proposalID) :
    l ∈ (db.about proposalID).lifecycles := by
  simpa [DB.about, rowsOf, hid] using hl

variable {f : ProposalRow → ProposalRow}

theorem setProposal_one {names : String × Int × String}
    (hprops : d.proposals = [row]) (hnames : row.names = names)
    (hopen : row.state = .opened) : (d.setProposal names f).proposals = [f row] := by
  rw [DB.setProposal, hprops, updateWhere_singleton, if_pos ⟨hnames, hopen⟩]

theorem Filed.lifecycle_eq (h : Filed p row earlier last (db.about proposalID))
    (hid : row.proposalID = proposalID) (hl : l ∈ db.lifecycles)
    (hnames : l.identity.names = row.names) :
    l = last.1 := by
  refine h.eq_last (mem_about_lifecycles hl ?_) (congrArg (fun n => n.2.1) hnames)
  exact (congrArg Prod.fst hnames).trans hid

theorem Filed.append {snap : β}
    (h : Filed p row earlier last (db.about m.proposalID)) (hopen : row.state = .opened)
    (hlast : l = last.1) (hstate : l.state = .pending ∨ l.state = .rejected)
    (hid : m.proposalID = row.proposalID) (hnext : m.revision = Launch.addInt row.currentRevision 1)
    (hpos : 0 < m.revision)
    (hlinks : Links p (some (row.currentRevision, row.currentRevisionHash))
      ⟨m.proposalID, m.revision, m.revisionHash, snap⟩)
    (hf : ∀ row, (f row).proposalID = row.proposalID) (hrow : (f row).names = m.names)
    (hstill : (f row).state = .opened) :
    ∃ earlier last, Filed p (f row) earlier last (((if l.state = .pending then
          (db.addRevision m snap text).movePair
            (fun m' => m'.proposalID = m.proposalID ∧ m'.revision = row.currentRevision)
            (fun m' => m'.proposalID = m.proposalID ∧ m'.revision = row.currentRevision)
            .superseded text id
        else db.addRevision m snap text).setProposal row.names f).about m.proposalID) := by
  subst hlast
  rw [about_setProposal hf]
  have hlives : ((db.about m.proposalID).addRevision m snap text).lifecycles =
      (earlier ++ [last] ++ [pendingPair m text]).map Prod.fst := by
    rw [map_append, ← h.lifecycles]
    rfl
  have happrs : ((db.about m.proposalID).addRevision m snap text).approvals =
      (earlier ++ [last] ++ [pendingPair m text]).map Prod.snd := by
    rw [map_append, ← h.approvals]
    rfl
  split
  next hpend =>
    have hcur : last.1.identity.proposalID = m.proposalID ∧
        last.1.identity.revision = row.currentRevision :=
      ⟨(congrArg Prod.fst h.current).trans hid.symm, congrArg (fun n => n.2.1) h.current⟩
    have hnew : ¬ (m.proposalID = m.proposalID ∧ m.revision = row.currentRevision) := by
      rintro ⟨-, he⟩
      rw [hnext] at hpos he
      have := h.revision_eq
      rw [Launch.addInt_succ (by omega) h.bound hpos] at he
      omega
    obtain ⟨hl, ha⟩ := movePair_pairs [pendingPair m text]
      (fun m' => m'.proposalID = m.proposalID ∧ m'.revision = row.currentRevision)
      (fun m' => m'.proposalID = m.proposalID ∧ m'.revision = row.currentRevision)
      .superseded text id hlives happrs h.earlier_matched h.last_matched hpend hcur hcur (by
        intro pair hpair
        rw [mem_singleton] at hpair
        subst hpair
        exact ⟨hnew, hnew⟩)
    rw [about_movePair, about_add_self rfl]
    · refine ⟨_, _, h.revise (moved .superseded text id last) ?_ (.inl rfl) rfl hnext hpos
        hlinks hrow hstill ?_ rfl hl ha rfl⟩
      · exact h.last_matched.moved hpend (by decide) (fun _ => rfl) (by simp)
      · exact setProposal_one h.proposals rfl hopen
    · exact fun _ => rfl
  next hpend =>
    rw [about_add_self rfl]
    refine ⟨_, _, h.revise last h.last_matched (.inr (hstate.resolve_left hpend)) rfl hnext hpos
      hlinks hrow hstill ?_ rfl hlives happrs rfl⟩
    exact setProposal_one h.proposals rfl hopen

theorem Filed.move (h : Filed p row earlier last d) (state : ReviewState) (text : String)
    (note : ApprovalRow → ApprovalRow) (hpend : last.1.state = .pending)
    (hident : last.1.identity = m) (hstate : state ≠ .pending)
    (hnote : ∀ row, (note row).identity = row.identity)
    (hdec : state = .approved → (note last.2).decidedBy = some localGUIOperator ∧
      (note last.2).decidedAt.isSome = true) :
    Matched (moved state text note last) ∧
      (d.movePair (fun m' => m' = m) (fun m' => m'.approvalID = m.approvalID) state text
        note).lifecycles = (earlier ++ [moved state text note last]).map Prod.fst ∧
      (d.movePair (fun m' => m' = m) (fun m' => m'.approvalID = m.approvalID) state text
        note).approvals = (earlier ++ [moved state text note last]).map Prod.snd := by
  refine ⟨h.last_matched.moved hpend hstate hnote hdec, ?_⟩
  have hmoves := movePair_pairs [] (fun m' => m' = m)
    (fun m' => m'.approvalID = m.approvalID) state text note (by simpa using h.lifecycles)
    (by simpa using h.approvals) h.earlier_matched h.last_matched hpend hident
    (by rw [hident]) (by simp)
  simpa using hmoves

theorem Filed.decide {state : ReviewState} {note : ApprovalRow → ApprovalRow}
    (h : Filed p row earlier last (db.about m.proposalID)) (hopen : row.state = .opened)
    (hnames : row.names = m.names) (hpend : last.1.state = .pending)
    (hident : last.1.identity = m) (hstate : state = .approved ∨ state = .rejected)
    (hnote : ∀ row, (note row).identity = row.identity)
    (hdec : (note last.2).decidedBy = some localGUIOperator ∧ (note last.2).decidedAt.isSome = true)
    (hf : ∀ row, (f row).names = row.names) (hres : (f row).state = .approved) :
    ∃ row earlier last, Filed p row earlier last ((if state = .approved then
          (db.movePair (fun m' => m' = m) (fun m' => m'.approvalID = m.approvalID) state text
            note).setProposal m.names f
        else db.movePair (fun m' => m' = m) (fun m' => m'.approvalID = m.approvalID) state text
          note).about m.proposalID) := by
  have hsettled : state ≠ .pending := by
    rintro rfl
    simp at hstate
  obtain ⟨hmatch, hl, ha⟩ := h.move state text note hpend hident hsettled hnote
    fun _ => hdec
  split
  next happr =>
    rw [about_setProposal fun row => congrArg Prod.fst (hf row), about_movePair hnote]
    refine ⟨_, _, _, h.restate _ hmatch rfl (hf row) ?_ ?_ rfl hl ha rfl⟩
    · rw [hres]
      exact happr
    · exact setProposal_one h.proposals hnames hopen
  next happr =>
    rw [about_movePair hnote]
    refine ⟨_, _, _, h.restate _ hmatch rfl rfl ?_ h.proposals rfl hl ha rfl⟩
    rw [hopen]
    exact .inr (hstate.resolve_left happr)

theorem Filed.withdraw
    (h : Filed p row earlier last (db.about m.proposalID)) (hopen : row.state = .opened)
    (hlast : l = last.1) (hident : last.1.identity = m)
    (hstate : l.state = .pending ∨ l.state = .rejected)
    (hf : ∀ row, (f row).names = row.names) (hres : (f row).state = .withdrawn) :
    ∃ row' earlier last, Filed p row' earlier last (((if l.state = .pending then
          db.movePair (fun m' => m' = m) (fun m' => m'.approvalID = m.approvalID) .withdrawn text id
        else db).setProposal row.names f).about m.proposalID) := by
  subst hlast
  rw [about_setProposal fun row => congrArg Prod.fst (hf row)]
  split
  next hpend =>
    obtain ⟨hmatch, hl, ha⟩ := h.move .withdrawn text id hpend hident (by decide)
      (fun _ => rfl) (by simp)
    rw [about_movePair]
    · refine ⟨_, _, _, h.restate _ hmatch rfl (hf row) ?_ ?_ rfl hl ha rfl⟩
      · rw [hres]
        exact .inl rfl
      · exact setProposal_one h.proposals rfl hopen
    · exact fun _ => rfl
  next hpend =>
    refine ⟨_, _, _, h.restate last h.last_matched rfl
      (hf row) ?_ ?_ rfl h.lifecycles h.approvals rfl⟩
    · rw [hres]
      exact .inr (hstate.resolve_left hpend)
    · exact setProposal_one h.proposals rfl hopen

theorem decidedState_cases (decision : String) :
    decidedState decision = .approved ∨ decidedState decision = .rejected := by
  unfold decidedState
  split
  · exact .inl rfl
  · exact .inr rfl

/-- What was revised and what was reviewed stays as it was written. -/
structure Archives (db db' : DB β) : Prop where
  revisions : db.revisions <+: db'.revisions
  approvals : ∀ row ∈ db.approvals, row.state ≠ .pending → row ∈ db'.approvals

section

variable (h : Changes p db m op changed)
include h

theorem Changes.archives : Archives db changed := by
  cases h with
  | create => exact ⟨prefix_append .., fun _ hrow _ => mem_append_left _ hrow⟩
  | append =>
    split
    · exact ⟨prefix_append .., fun _ hrow hd =>
        mem_updateWhere (mem_append_left _ hrow) fun h => hd h.2⟩
    · exact ⟨prefix_append .., fun _ hrow _ => mem_append_left _ hrow⟩
  | decide =>
    dsimp only
    split <;> exact ⟨prefix_rfl, fun _ hrow hd => mem_updateWhere hrow fun h => hd h.2⟩
  | withdraw =>
    split
    · exact ⟨prefix_rfl, fun _ hrow hd => mem_updateWhere hrow fun h => hd h.2⟩
    · exact ⟨prefix_rfl, fun _ hrow _ => hrow⟩

theorem Changes.filed (hsound : Sound p (db.about m.proposalID)) :
    ∃ row earlier last, Filed p row earlier last (changed.about m.proposalID) := by
  cases h with
  | create row snap hnew hnames hopen hfirst hfresh hlinks =>
    have hid : row.proposalID = m.proposalID := congrArg Prod.fst hnames
    have hempty := hsound.eq_empty (hid ▸ hnew)
    have habout : { db with proposals := db.proposals ++ [row] }.about m.proposalID =
        { proposals := [row] } := by
      have hrows : (db.about m.proposalID).proposals = [] := by rw [hempty]
      simp only [DB.about, DB.mk.injEq] at hempty hrows ⊢
      obtain ⟨-, hrest⟩ := hempty
      refine ⟨?_, hrest⟩
      rw [rowsOf_snoc hid, hrows, nil_append]
    rw [about_add_self rfl, habout]
    exact ⟨row, _, _, filed_create hnames hopen hfirst hlinks⟩
  | append row life snap hrow hexp hopen hlife hnames hstate hid hnext hfresh hlinks =>
    obtain ⟨earlier, last, hfiled⟩ := hsound.filed hrow hid.symm
    refine ⟨_, hfiled.append hopen (hfiled.lifecycle_eq hid.symm hlife hnames) hstate hid
      hnext hfresh.positive hlinks ?_ ?_ ?_⟩
    · exact fun _ => rfl
    · rw [ProposalRow.names, ← hid]
      rfl
    · exact hopen
  | decide row life approval hrow hnames hopen hlife hident hpend happr hsame =>
    have hid := congrArg Prod.fst hnames
    obtain ⟨earlier, last, hfiled⟩ := hsound.filed hrow hid
    have hlast := hfiled.lifecycle_eq hid hlife (hident ▸ hnames.symm)
    refine hfiled.decide hopen hnames (hlast ▸ hpend) (hlast ▸ hident)
      (decidedState_cases _) ?_ ⟨rfl, rfl⟩ ?_ rfl
    · exact fun _ => rfl
    · exact fun _ => rfl
  | withdraw row life approval hrow hopen hlife hident hnames hstate happr hsame =>
    have hid := congrArg Prod.fst hnames
    obtain ⟨_, _, hfiled⟩ := hsound.filed hrow hid
    have hlast := hfiled.lifecycle_eq hid hlife (hident ▸ hnames.symm)
    refine hfiled.withdraw hopen hlast (hlast ▸ hident) hstate ?_ rfl
    exact fun _ => rfl

theorem Changes.ne_closed (hkeyed : Keyed db)
    (hrow : row ∈ db.proposals) (hclosed : row.state ≠ .opened) :
    m.proposalID ≠ row.proposalID := by
  intro hid
  have hopen : ∀ row' ∈ db.proposals, row'.proposalID = m.proposalID → row'.state ≠ .opened := by
    intro row' hrow' hid'
    rw [eq_of_key_eq hkeyed.proposals hrow' hrow (hid'.trans hid)]
    exact hclosed
  cases h with
  | create row' snap hnew hnames =>
    have hid' := congrArg Prod.fst hnames
    exact hnew (mem_map.mpr ⟨row, hrow, (hid'.trans hid).symm⟩)
  | append row' life snap hrow' hexp hopened hlife hnames hstate hid' hnext hfresh
      hlinks => exact hopen row' hrow' hid'.symm hopened
  | decide row' life approval hrow' hnames hopened hlife hident hpend happr
      hsame => exact hopen row' hrow' (congrArg Prod.fst hnames) hopened
  | withdraw row' life approval hrow' hopened hlife hident hnames hstate happr
      hsame => exact hopen row' hrow' (congrArg Prod.fst hnames) hopened

theorem Changes.records :
    changed.idempotency = db.idempotency ∧ changed.activity = db.activity := by
  cases h with
  | create => exact ⟨rfl, rfl⟩
  | append | withdraw =>
    simp only [DB.setProposal]
    split <;> exact ⟨rfl, rfl⟩
  | decide =>
    dsimp only
    split <;> exact ⟨rfl, rfl⟩

end

structure Consistent (p : Primitives β) (db : DB β) : Prop where
  keyed : Keyed db
  sound : ∀ proposalID, Sound p (db.about proposalID)
  recorded : db.activity.length = db.idempotency.length

theorem consistent_empty : Consistent p ({} : DB β) where
  keyed := keyed_empty
  sound _ := .inl rfl
  recorded := rfl

section

variable (h : Writes p db op m db') (hkeyed : Keyed db)
include h hkeyed

theorem Writes.keyed : Keyed db' := by
  obtain ⟨_, _, hch, _, _, hkey, _⟩ := h
  have hchanged := hch.keyed hkeyed
  exact ⟨hchanged.proposals, hchanged.hashes, hchanged.approvals,
    nodup_snoc hchanged.idempotency hkey⟩

theorem Writes.about_other
    (hid : m.proposalID ≠ proposalID) : db'.about proposalID = db.about proposalID := by
  obtain ⟨_, _, hch, _⟩ := h
  exact (about_log_other hid).trans (hch.about_other hkeyed hid)

theorem Writes.ne_closed (hrow : row ∈ db.proposals)
    (hclosed : row.state ≠ .opened) : m.proposalID ≠ row.proposalID := by
  obtain ⟨_, _, hch, _⟩ := h
  exact hch.ne_closed hkeyed hrow hclosed

end

theorem Writes.filed (h : Writes p db op m db') (hsound : Sound p (db.about m.proposalID)) :
    ∃ row earlier last, Filed p row earlier last (db'.about m.proposalID) := by
  obtain ⟨_, _, hch, _, _, _, hseq⟩ := h
  obtain ⟨row, earlier, last, hfiled⟩ := hch.filed hsound
  refine ⟨row, earlier, last, ?_⟩
  rw [about_log_self rfl]
  refine hfiled.log ?_ ?_
  · simp [DB.about, rowsOf]
  · rw [nextSequence_about]
    exact hseq

theorem Writes.archives (h : Writes p db op m db') : Archives db db' := by
  obtain ⟨_, _, hch, _⟩ := h
  exact ⟨hch.archives.revisions, hch.archives.approvals⟩

theorem Consistent.writes (h : Consistent p db) (hwrit : Writes p db op m db') :
    Consistent p db' where
  keyed := hwrit.keyed h.keyed
  sound := by
    intro proposalID
    by_cases hid : m.proposalID = proposalID
    · subst hid
      exact .inr (hwrit.filed (h.sound _))
    · rw [hwrit.about_other h.keyed hid]
      exact h.sound proposalID
  recorded := by
    obtain ⟨_, _, hch, _⟩ := hwrit
    simp [DB.log, hch.records, h.recorded]

theorem exec_cases (p : Primitives β) (db : DB β) (op : Op × Bool) : (exec p db op).1 = db ∨
    ∃ m, (exec p db op).2 = .ok m ∧ Writes p db op.1 m (exec p db op).1 := by
  obtain ⟨op, commits⟩ := op
  cases hr : op.result p db with
  | error e => exact .inl (by simp only [exec, hr, Launch.settle])
  | ok r =>
    obtain ⟨m, written⟩ := r
    cases written with
    | none => exact .inl (by simp only [exec, hr, Launch.settle])
    | some db' =>
      cases commits with
      | false => exact .inl (by simp [exec, hr, Launch.settle])
      | true =>
        have he : exec p db (op, true) = (db', .ok m) := by simp [exec, hr, Launch.settle]
        rw [he]
        exact .inr ⟨m, rfl, result_writes hr⟩

theorem consistent_exec {op : Op × Bool} (h : Consistent p db) : Consistent p (exec p db op).1 := by
  rcases exec_cases p db op with hsame | ⟨m, -, hwrit⟩
  · rw [hsame]
    exact h
  · exact h.writes hwrit

theorem consistent_run {ops : List (Op × Bool)} (h : Consistent p db) :
    Consistent p (run (exec p) db ops) :=
  invariant_run (fun _ _ => consistent_exec) h

/-- The record of the reviews is never rewritten: whatever operations follow, a review that was
decided, superseded or withdrawn keeps every column, and no revision is changed or lost. -/
theorem reviews_archived (p : Primitives β) (db : DB β) (ops : List (Op × Bool)) :
    Archives db (run (exec p) db ops) := by
  refine invariant_run (I := Archives db) (fun db' op h => ?_) ⟨prefix_rfl, fun _ hrow _ => hrow⟩
  rcases exec_cases p db' op with hsame | ⟨_, -, hwrites⟩
  · rwa [hsame]
  · have hstep := hwrites.archives
    refine ⟨h.revisions.trans hstep.revisions, fun row hrow hd => ?_⟩
    exact hstep.approvals row (h.approvals row hrow hd) hd

/-- A proposal that is approved or withdrawn keeps its whole dossier. -/
theorem about_closed {op : Op × Bool} (h : Consistent p db) (hrow : row ∈ db.proposals)
    (hclosed : row.state ≠ .opened) :
    (exec p db op).1.about row.proposalID = db.about row.proposalID := by
  rcases exec_cases p db op with hsame | ⟨m, -, hwrit⟩
  · rw [hsame]
  · exact hwrit.about_other h.keyed (hwrit.ne_closed h.keyed hrow hclosed)

/-- The tables, as they are about one proposal. -/
structure Orderly (p : Primitives β) (db : DB β) (row : ProposalRow) : Prop where
  numbered : Numbered ((db.about row.proposalID).revisions.map RevisionRow.revision)
  current : row.currentRevision = (db.about row.proposalID).revisions.length ∧
    row.names ∈ db.revisions.map RevisionRow.names
  linked : Linked p (db.about row.proposalID).revisions
  named : (db.about row.proposalID).revisions.map RevisionRow.names =
    (db.about row.proposalID).lifecycles.map fun l => l.identity.names
  agree : (db.about row.proposalID).approvals.map ApprovalRow.review =
    (db.about row.proposalID).lifecycles.map LifecycleRow.review
  former : ∀ l ∈ db.lifecycles, l.proposalID = row.proposalID →
    l.identity.revision ≠ row.currentRevision → l.state = .superseded ∨ l.state = .rejected
  stands : ∀ l ∈ db.lifecycles, l.proposalID = row.proposalID →
    l.identity.revision = row.currentRevision → Stands row.state l.state
  approved : ∀ l ∈ db.lifecycles, l.proposalID = row.proposalID → l.state = .approved →
    row.state = .approved
  versions : ∀ l ∈ db.lifecycles, l.proposalID = row.proposalID →
    l.version = if l.state = .pending then 1 else 2
  activity : Numbered ((db.about row.proposalID).activity.map ActivityRow.sequence)

theorem Filed.cases_lifecycle
    (h : Filed p row earlier last (db.about row.proposalID)) (hl : l ∈ db.lifecycles)
    (hid : l.proposalID = row.proposalID) : (∃ pair ∈ earlier, pair.1 = l) ∨ l = last.1 := by
  have hmem := mem_about_lifecycles hl hid
  rw [h.lifecycles, map_append, mem_append, mem_map, map_singleton, mem_singleton] at hmem
  exact hmem

theorem Stands.approved {proposal : ProposalState} (h : Stands proposal .approved) :
    proposal = .approved := by
  cases proposal with
  | opened | withdrawn => simp [Stands] at h
  | approved => rfl

theorem Filed.orderly (h : Filed p row earlier last (db.about row.proposalID)) :
    Orderly p db row where
  numbered := h.numbered
  current := by
    refine ⟨h.revision_eq, ?_⟩
    obtain ⟨_, r, hrows, hr, -⟩ := h.revisions_snoc
    have hmem : r ∈ (db.about row.proposalID).revisions := by
      rw [hrows]
      simp
    exact mem_map.mpr ⟨r, (mem_about hmem).1, hr⟩
  linked := h.linked
  named := h.named
  agree := by
    rw [h.approvals, h.lifecycles, map_map, map_map]
    exact map_congr_left fun pair hpair => (h.matched pair hpair).review
  former := by
    intro l hl hid hne
    rcases h.cases_lifecycle hl hid with ⟨pair, hpair, rfl⟩ | rfl
    · exact h.ended pair hpair
    · exact absurd (congrArg (fun n => n.2.1) h.current) hne
  stands := by
    intro l hl hid hrev
    rw [h.eq_last (mem_about_lifecycles hl hid) hrev]
    exact h.stands
  approved := by
    intro l hl hid happr
    rcases h.cases_lifecycle hl hid with ⟨pair, hpair, rfl⟩ | rfl
    · rcases h.ended pair hpair with hover | hover <;> rw [happr] at hover <;> cases hover
    · have hstands := h.stands
      rw [happr] at hstands
      exact hstands.approved
  versions := by
    intro l hl hid
    rcases h.cases_lifecycle hl hid with ⟨pair, hpair, rfl⟩ | rfl
    · exact (h.earlier_matched pair hpair).1.version
    · exact h.last_matched.version
  activity := h.sequence

/-- However the operations are interleaved and whatever they are called with: the tables about
each proposal are in order, there are no rows about any other, and a proposal that is approved
or withdrawn is not changed any more. -/
theorem reachable_orderly (p : Primitives β) (ops : List (Op × Bool)) :
    (∀ row ∈ (run (exec p) {} ops).proposals, Orderly p (run (exec p) {} ops) row) ∧
      (∀ proposalID, proposalID ∉ (run (exec p) {} ops).proposals.map ProposalRow.proposalID →
        (run (exec p) {} ops).about proposalID = {}) ∧
      ∀ row ∈ (run (exec p) {} ops).proposals, row.state ≠ .opened → ∀ op : Op × Bool,
        (exec p (run (exec p) {} ops) op).1.about row.proposalID =
          (run (exec p) {} ops).about row.proposalID := by
  have hconsistent : Consistent p (run (exec p) {} ops) := consistent_run consistent_empty
  refine ⟨?_, ?_, ?_⟩
  · intro row hrow
    obtain ⟨_, _, hfiled⟩ := (hconsistent.sound row.proposalID).filed hrow rfl
    exact hfiled.orderly
  · intro proposalID hnew
    exact (hconsistent.sound proposalID).eq_empty hnew
  · intro row hrow hclosed op
    exact about_closed hconsistent hrow hclosed

end Ananke.Proposal
