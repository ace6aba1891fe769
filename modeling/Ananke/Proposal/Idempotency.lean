import Ananke.Proposal.Consistency
import Ananke.Proposal.Instance

/-! Idempotency: what a mutation was recorded under answers its replay for ever, and a
different request under the same key is refused. -/
namespace Ananke.Proposal

open Validation Relational Machine List
open Launch (localGUIOperator addInt)

variable {β : Type} {p : Primitives β} {db db' changed : DB β} {m m' : ProposalMutation}
  {op op' : Op} {row : IdempotencyRow}

/-- SHA-256 tells the bodies apart that can be canonicalised. -/
def CollisionFree (p : Primitives β) : Prop :=
  ∀ body body' hash, p.bodyHash body = some hash → p.bodyHash body' = some hash → body = body'

variable {text : String}

theorem Named.addRevision {new : ProposalMutation} {snap : β}
    (h : Named db m) : Named (db.addRevision new snap text) m := by
  obtain ⟨hl, ha, hr⟩ := h
  simp only [Named, DB.addRevision, map_append, mem_append]
  exact ⟨.inl hl, .inl ha, .inl hr⟩

theorem Named.movePair {life approval : ProposalMutation → Prop} [DecidablePred life]
    [DecidablePred approval] {state : Launch.ReviewState}
    {note : ApprovalRow → ApprovalRow} (h : Named db m)
    (hnote : ∀ row, (note row).identity = row.identity) :
    Named (db.movePair life approval state text note) m := by
  simp only [Named, DB.movePair]
  rw [map_updateWhere_of_eq, map_updateWhere_of_eq]
  · exact h
  · exact hnote
  · exact fun _ => rfl

theorem Named.setProposal {names : String × Int × String} {f : ProposalRow → ProposalRow}
    (h : Named db m) : Named (db.setProposal names f) m := h

theorem Named.changes (h : Named db m') (hch : Changes p db m op changed) :
    Named changed m' := by
  cases hch with
  | create => exact Named.addRevision h
  | append =>
    refine Named.setProposal ?_
    split
    · exact (h.addRevision).movePair fun _ => rfl
    · exact h.addRevision
  | decide =>
    dsimp only
    split
    · refine Named.setProposal ?_
      exact h.movePair fun _ => rfl
    · exact h.movePair fun _ => rfl
  | withdraw =>
    refine Named.setProposal ?_
    split
    · exact h.movePair fun _ => rfl
    · exact h

theorem Changes.revisions_subset (h : Changes p db m op changed) :
    db.revisions ⊆ changed.revisions := by
  cases h with
  | create => exact subset_append_left _ _
  | append =>
    simp only [DB.setProposal]
    split <;> exact subset_append_left _ _
  | decide =>
    dsimp only
    split <;> exact Subset.refl _
  | withdraw =>
    simp only [DB.setProposal]
    split <;> exact Subset.refl _

/-- What is known of the request behind a record, of an append above all. -/
structure Remembered (p : Primitives β) (db : DB β) (row : IdempotencyRow) (op : Op) : Prop where
  key : row.key = op.key
  bodyHash : p.bodyHash op.body = some row.requestBodyHash
  appended : ∀ req approvalID now, op = .append req approvalID now →
    row.identity.proposalID = req.proposalID ∧
      row.identity.revision = addInt req.expectedCurrentRevision 1 ∧
      (req.proposalID, req.expectedCurrentRevision, req.expectedCurrentRevisionHash) ∈
        db.revisions.map RevisionRow.names

structure Recorded (p : Primitives β) (db : DB β) : Prop where
  named : ∀ row ∈ db.idempotency, Named db row.identity
  remembered : ∀ row ∈ db.idempotency, ∃ op, Remembered p db row op
  /-- No two appends have made the same revision. -/
  appends : ∀ row ∈ db.idempotency, ∀ row' ∈ db.idempotency, row.operation = .appendRevision →
    row'.operation = .appendRevision → row.identity.names = row'.identity.names → row = row'

theorem recorded_empty : Recorded p ({} : DB β) := ⟨by simp, by simp, by simp⟩

variable {req : AppendProposalRevisionRequest} {approvalID : Option String} {now : Int}

theorem Changes.appended (h : Changes p db m (.append req approvalID now) changed)
    (hcons : Consistent p db) :
    m.proposalID = req.proposalID ∧ m.revision = addInt req.expectedCurrentRevision 1 ∧
      (req.proposalID, req.expectedCurrentRevision, req.expectedCurrentRevisionHash) ∈
        db.revisions.map RevisionRow.names ∧
      m.revisionHash ∉ db.revisions.map RevisionRow.revisionHash := by
  cases h with
  | append row life snap hrow hexp hopen hlife hnames hstate hid hnext hfresh hlinks =>
    have hprop := congrArg Prod.fst hexp
    have hrev : row.currentRevision = req.expectedCurrentRevision :=
      congrArg (fun n => n.2.1) hexp
    obtain ⟨_, _, hfiled⟩ := (hcons.sound row.proposalID).filed hrow rfl
    refine ⟨hid.trans hprop, hrev ▸ hnext, ?_, hfresh.revisionHash⟩
    rw [← hexp]
    exact hfiled.orderly.current.2

theorem Remembered.changes (h : Remembered p db row op') (hch : Changes p db m op changed) :
    Remembered p changed row op' where
  key := h.key
  bodyHash := h.bodyHash
  appended := by
    intro req approvalID now hop
    obtain ⟨hid, hrev, hmem⟩ := h.appended req approvalID now hop
    exact ⟨hid, hrev, map_subset _ hch.revisions_subset hmem⟩

variable {bodyHash : String}

theorem Changes.remembered (h : Changes p db m op changed)
    (hcons : Consistent p db) (hbody : p.bodyHash op.body = some bodyHash) :
    Remembered p changed
      ⟨localGUIOperator, op.operation, op.resource, op.idempotencyKey, bodyHash, m⟩ op where
  key := rfl
  bodyHash := hbody
  appended := by
    rintro req approvalID now rfl
    obtain ⟨hid, hrev, hmem, -⟩ := h.appended hcons
    exact ⟨hid, hrev, map_subset _ h.revisions_subset hmem⟩

theorem Changes.new_append (h : Changes p db m op changed) (hcons : Consistent p db)
    (hnamed : Named db m') (hop : op.operation = .appendRevision) : m'.names ≠ m.names := by
  cases op with
  | append =>
    obtain ⟨-, -, -, hfresh⟩ := h.appended hcons
    intro he
    obtain ⟨r, hr, hnames⟩ := mem_map.mp hnamed.2.2
    refine hfresh (mem_map.mpr ⟨r, hr, ?_⟩)
    exact congrArg (fun n => n.2.2) (hnames.trans he)
  | _ => cases hop

theorem Recorded.writes (h : Recorded p db) (hcons : Consistent p db)
    (hwrit : Writes p db op m db') : Recorded p db' := by
  obtain ⟨changed, _, hch, hbody, hnamed, _⟩ := hwrit
  have hrecords := hch.records.1
  constructor
  · have hkept : ∀ row ∈ changed.idempotency, Named changed row.identity := fun row hrow =>
      (h.named row (hrecords ▸ hrow)).changes hch
    exact forall_snoc.mpr ⟨hkept, hnamed⟩
  · refine forall_snoc.mpr ⟨fun row hrow => ?_, ?_⟩
    · obtain ⟨op', hop'⟩ := h.remembered row (hrecords ▸ hrow)
      have hkept := hop'.changes hch
      exact ⟨op', hkept.key, hkept.bodyHash, hkept.appended⟩
    · have hnew := hch.remembered hcons hbody
      exact ⟨op, hnew.key, hnew.bodyHash, hnew.appended⟩
  · intro row hrow row' hrow' hop hop' he
    simp only [DB.log, mem_snoc, hrecords] at hrow hrow'
    rcases hrow with hrow | rfl <;> rcases hrow' with hrow' | rfl
    · exact h.appends row hrow row' hrow' hop hop' he
    · exact absurd he (hch.new_append hcons (h.named row hrow) hop')
    · exact absurd he.symm (hch.new_append hcons (h.named row' hrow') hop)
    · rfl

/-- The tables are consistent and the records are those of operations that succeeded. -/
def Kept (p : Primitives β) (db : DB β) : Prop := Consistent p db ∧ Recorded p db

theorem kept_exec {op : Op × Bool} (h : Kept p db) : Kept p (exec p db op).1 := by
  refine ⟨consistent_exec h.1, ?_⟩
  rcases exec_cases p db op with hsame | ⟨m, -, hwrit⟩
  · rw [hsame]
    exact h.2
  · exact h.2.writes h.1 hwrit

theorem kept_run {ops : List (Op × Bool)} : Kept p (run (exec p) {} ops) :=
  invariant_run (fun _ _ => kept_exec) ⟨consistent_empty, recorded_empty⟩

theorem Writes.mem_idempotency (h : Writes p db op m db') (hrow : row ∈ db.idempotency) :
    row ∈ db'.idempotency := by
  obtain ⟨_, _, hch, _⟩ := h
  exact mem_append_left _ (hch.records.1 ▸ hrow)

theorem mem_idempotency_run (p : Primitives β) (ops : List (Op × Bool))
    (h : row ∈ db.idempotency) : row ∈ (run (exec p) db ops).idempotency := by
  refine invariant_run (I := fun db : DB β => row ∈ db.idempotency) ?_ h
  intro db op hrow
  rcases exec_cases p db op with hsame | ⟨m, -, hwrit⟩
  · rw [hsame]
    exact hrow
  · exact hwrit.mem_idempotency hrow

section

variable (h : Kept p db) (hrow : row ∈ db.idempotency) (hkey : row.key = op.key)
include h hrow hkey

theorem lookup_of_record (bodyHash : String) :
    lookupProposalIdempotency db op.operation op.resource op.idempotencyKey bodyHash =
      if row.requestBodyHash = bodyHash then .ok (some row.identity)
      else .error .idempotencyConflict := by
  have hsel : select IdempotencyRow.key op.key db.idempotency = some row := by
    rw [← hkey]
    exact select_of_mem h.1.keyed.idempotency hrow
  have hnamed : validateProposalMutationIdentity db row.identity = .ok () :=
    mutation_eq_ok.mpr (h.2.named row hrow)
  rw [Op.key] at hsel
  simp only [lookupProposalIdempotency, hsel, hnamed, ok_bind]
  unfold require
  split <;> rfl

theorem result_of_record (hbody : p.bodyHash op.body = some bodyHash) :
    op.result p db = if row.requestBodyHash = bodyHash then .ok (row.identity, none)
      else .error .idempotencyConflict := by
  have hlookup := lookup_of_record h hrow hkey bodyHash
  have hhead : ∀ fail mutate, replayOr db op.operation op.resource op.idempotencyKey fail
      (p.bodyHash op.body) mutate = if row.requestBodyHash = bodyHash then .ok (row.identity, none)
        else .error .idempotencyConflict := by
    intro fail mutate
    simp only [replayOr, hbody, expect, ok_bind, hlookup]
    split <;> rfl
  cases op <;> exact hhead _ _

end

theorem record_of_lookup {operation : Operation} {resource key : String}
    (h : lookupProposalIdempotency db operation resource key bodyHash = .ok (some m)) :
    ∃ row ∈ db.idempotency, row.key = (localGUIOperator, operation, resource, key) ∧
      row.requestBodyHash = bodyHash ∧ row.identity = m := by
  unfold lookupProposalIdempotency at h
  split at h
  · cases h
  next row hrow =>
    simp only [ok_iff, Option.some.injEq] at h
    obtain ⟨-, -, -, hhash, rfl⟩ := h
    exact ⟨row, mem_of_find?_eq_some hrow, key_of_select hrow, hhash, rfl⟩

/-- A record of the request has this answer. -/
def Answered (p : Primitives β) (db : DB β) (op : Op) (m : ProposalMutation) : Prop :=
  ∃ row ∈ db.idempotency, row.key = op.key ∧
    p.bodyHash op.body = some row.requestBodyHash ∧ row.identity = m

theorem record_of_replayOr {fail : Err}
    {mutate : String → Except Err (ProposalMutation × Option (DB β))}
    (h : replayOr db op.operation op.resource op.idempotencyKey fail (p.bodyHash op.body) mutate =
      .ok (m, none)) (hmutate : ∀ hash, mutate hash ≠ .ok (m, none)) : Answered p db op m := by
  obtain ⟨bodyHash, hbody, ⟨_, hfound, hreplay⟩ | ⟨-, hfresh⟩⟩ := replayOr_eq_ok.mp h
  · cases hreplay
    obtain ⟨row, hrow, hkey, hhash, hident⟩ := record_of_lookup hfound
    exact ⟨row, hrow, hkey, hhash ▸ hbody, hident⟩
  · exact absurd hfresh (hmutate bodyHash)

theorem record_of_replay (h : op.result p db = .ok (m, none)) : Answered p db op m := by
  cases op
  all_goals
    refine record_of_replayOr h fun hash hfresh => ?_
    simp [ok_iff] at hfresh

theorem Writes.record (h : Writes p db op m db') : Answered p db' op m := by
  obtain ⟨_, _, _, hbody, _⟩ := h
  exact ⟨_, mem_append_right _ (mem_singleton_self _), rfl, hbody, rfl⟩

theorem record_of_ok {commits : Bool} (h : (exec p db (op, commits)).2 = .ok m) :
    Answered p (exec p db (op, commits)).1 op m := by
  rcases Launch.of_settle_ok h with ⟨hreplay, hsame⟩ | hwritten
  · rw [exec, hsame]
    exact record_of_replay hreplay
  · exact (result_writes hwritten).record

theorem Consistent.revision_unique (h : Consistent p db) {r r' : RevisionRow β}
    (hr : r ∈ db.revisions) (hr' : r' ∈ db.revisions) (hid : r.proposalID = r'.proposalID)
    (hrev : r.revision = r'.revision) : r = r' := by
  have hmem : r ∈ (db.about r'.proposalID).revisions := by
    simpa [DB.about, rowsOf, hid] using hr
  have hmem' : r' ∈ (db.about r'.proposalID).revisions := by
    simpa [DB.about, rowsOf] using hr'
  rcases h.sound r'.proposalID with hempty | ⟨row, earlier, last, hfiled⟩
  · rw [hempty] at hmem
    cases hmem
  · exact eq_of_key_eq hfiled.numbered.nodup hmem hmem' hrev

section

variable (hfree : CollisionFree p) (h : Kept p db) (hrow : row ∈ db.idempotency)
include hfree h hrow

theorem record_appended
    (hbody : p.bodyHash (Op.append req approvalID now).body = some row.requestBodyHash) :
    row.identity.proposalID = req.proposalID ∧
      row.identity.revision = addInt req.expectedCurrentRevision 1 ∧
      (req.proposalID, req.expectedCurrentRevision, req.expectedCurrentRevisionHash) ∈
        db.revisions.map RevisionRow.names := by
  obtain ⟨op, hop⟩ := h.2.remembered row hrow
  have hsame := hfree _ _ _ hop.bodyHash hbody
  cases op with
  | append request' approvalID' now' =>
    obtain ⟨hid, hrev, hmem⟩ := hop.appended request' approvalID' now' rfl
    simp only [Op.body, appendRevisionRequestBody, Body.append.injEq] at hsame
    obtain ⟨hprop, hexp, hhash, -⟩ := hsame
    rw [hprop, hexp, hhash] at hmem
    exact ⟨hid.trans hprop, hexp ▸ hrev, hmem⟩
  | _ => cases hsame

/-- Two appends that were recorded for the same expected revision have the same key. -/
theorem append_unique {request' : AppendProposalRevisionRequest}
    {approvalID' : Option String} {now' : Int} {row' : IdempotencyRow}
    (hrow' : row' ∈ db.idempotency)
    (hkey : row.key = (Op.append req approvalID now).key)
    (hkey' : row'.key = (Op.append request' approvalID' now').key)
    (hbody : p.bodyHash (Op.append req approvalID now).body = some row.requestBodyHash)
    (hbody' : p.bodyHash (Op.append request' approvalID' now').body = some row'.requestBodyHash)
    (hrev : req.expectedCurrentRevision = request'.expectedCurrentRevision)
    (hhash : req.expectedCurrentRevisionHash = request'.expectedCurrentRevisionHash) :
    req.idempotencyKey = request'.idempotencyKey := by
  obtain ⟨hid, hnext, hmem⟩ := record_appended hfree h hrow hbody
  obtain ⟨hid', hnext', hmem'⟩ := record_appended hfree h hrow' hbody'
  -- the hash of the expected revision determines the proposal
  obtain ⟨r, hr, hnames⟩ := mem_map.mp hmem
  obtain ⟨r', hr', hnames'⟩ := mem_map.mp hmem'
  simp only [RevisionRow.names, Prod.mk.injEq] at hnames hnames'
  have hsame : r = r' := eq_of_key_eq h.1.keyed.hashes hr hr'
    (hnames.2.2.trans (hhash.trans hnames'.2.2.symm))
  have hprop : req.proposalID = request'.proposalID := by
    rw [← hnames.1, ← hnames'.1, hsame]
  -- so both made the revision after it
  obtain ⟨s, hs, hsnames⟩ := mem_map.mp (h.2.named row hrow).2.2
  obtain ⟨s', hs', hsnames'⟩ := mem_map.mp (h.2.named row' hrow').2.2
  have hmade : s = s' := by
    refine h.1.revision_unique hs hs' ?_ ?_
    · have h₁ : s.proposalID = row.identity.proposalID := congrArg Prod.fst hsnames
      have h₂ : s'.proposalID = row'.identity.proposalID := congrArg Prod.fst hsnames'
      rw [h₁, h₂, hid, hid', hprop]
    · have h₁ : s.revision = row.identity.revision := congrArg (fun n => n.2.1) hsnames
      have h₂ : s'.revision = row'.identity.revision := congrArg (fun n => n.2.1) hsnames'
      rw [h₁, h₂, hnext, hnext', hrev]
  have hrows : row = row' := by
    refine h.2.appends row hrow row' hrow' ?_ ?_ ?_
    · exact congrArg (fun k => k.2.1) hkey
    · exact congrArg (fun k => k.2.1) hkey'
    · rw [← hsnames, ← hsnames', hmade]
  have hkeys := (hrows ▸ hkey).symm.trans hkey'
  exact congrArg (fun k => k.2.2.2) hkeys

end

/-- The mutations of proposals are idempotent for ever. There is one activity for every record;
and after an operation that succeeded and any others, the same request is answered as before and
changes nothing, another request under its key is refused, and no other append finds the same
current revision. -/
theorem mutations_idempotent (p : Primitives β) (hfree : CollisionFree p) :
    (∀ ops, (run (exec p) {} ops).activity.length = (run (exec p) {} ops).idempotency.length) ∧
      ∀ (before after : List (Op × Bool)) (op : Op) (commits : Bool) (m : ProposalMutation),
        (exec p (run (exec p) {} before) (op, commits)).2 = .ok m →
        let db := run (exec p) {} (before ++ (op, commits) :: after)
        (∀ op' : Op, ∀ commits', op'.key = op.key → op'.body = op.body →
            exec p db (op', commits') = (db, .ok m)) ∧
          (∀ op' : Op, ∀ commits', op'.key = op.key → op'.body ≠ op.body →
            (p.bodyHash op'.body).isSome = true →
              exec p db (op', commits') = (db, .error .idempotencyConflict)) ∧
          ∀ req approvalID now request' approvalID' now' commits' m',
            op = .append req approvalID now →
            (exec p db (.append request' approvalID' now', commits')).2 = .ok m' →
            req.expectedCurrentRevision = request'.expectedCurrentRevision →
            req.expectedCurrentRevisionHash = request'.expectedCurrentRevisionHash →
            req.idempotencyKey = request'.idempotencyKey := by
  refine ⟨fun ops => kept_run.1.recorded, ?_⟩
  intro before after op commits m hok db
  have hkept : Kept p db := kept_run
  obtain ⟨row, hrow, hkey, hbody, hidentity⟩ := record_of_ok hok
  have hstill : row ∈ db.idempotency := by
    have hafter := mem_idempotency_run p after hrow
    rwa [← run_cons, ← run_append] at hafter
  refine ⟨?_, ?_, ?_⟩
  · intro op' commits' hkey' hsame
    have hresult := result_of_record hkept hstill (hkey.trans hkey'.symm) (hsame ▸ hbody)
    rw [if_pos rfl, hidentity] at hresult
    rw [exec, hresult]
    rfl
  · intro op' commits' hkey' hother hcanonical
    obtain ⟨hash, hhash⟩ := Option.isSome_iff_exists.mp hcanonical
    have hne : row.requestBodyHash ≠ hash := by
      rintro rfl
      exact hother (hfree _ _ _ hhash hbody)
    have hresult := result_of_record hkept hstill (hkey.trans hkey'.symm) hhash
    rw [if_neg hne] at hresult
    rw [exec, hresult]
    rfl
  · rintro req approvalID now request' approvalID' now' commits' m' rfl hok' hrevision hexpected
    obtain ⟨_, hrow', hkey', hbody', -⟩ := record_of_ok hok'
    have hrow₁ := mem_idempotency_run p [(.append request' approvalID' now', commits')] hstill
    exact append_unique hfree (kept_exec hkept) hrow₁ hrow' hkey hkey' hbody hbody' hrevision
      hexpected

section

open Instance
open TrustedSupervisor.Instance (sha sha_ne)

theorem collisionFree : CollisionFree prims := by
  intro body body' hash h h'
  simp only [prims, Option.map_eq_some_iff] at h h'
  obtain ⟨i, hi, rfl⟩ := h
  obtain ⟨j, hj, hhash⟩ := h'
  obtain ⟨_, hbody, -⟩ := List.idxOf?_eq_some_iff.mp hi
  obtain ⟨_, hbody', -⟩ := List.idxOf?_eq_some_iff.mp hj
  have hlen : bodies.length = 3 := rfl
  have hsame : i = j := by
    by_contra hne
    exact sha_ne (by omega) hhash
  subst hsame
  exact hbody.symm.trans hbody'

/-- A proposal is created and approved, each once, whatever is submitted under their keys
afterwards. -/
theorem mutations_idempotent_approved :
    CollisionFree prims ∧ run (exec prims) {} [(creating, true), (deciding, true)] = approved ∧
      exec prims approved (creating, true) = (approved, .ok identity) ∧
      exec prims approved (deciding, true) = (approved, .ok identity) ∧
      exec prims approved (.create request' none none 1, true) =
        (approved, .error .idempotencyConflict) := by
  have hcreated := (mutations_idempotent prims collisionFree).2 [] [(deciding, true)] creating
    true identity (by rw [run_nil, exec_creating])
  have hdecided := (mutations_idempotent prims collisionFree).2 [(creating, true)] [] deciding
    true identity (by rw [run_cons, run_nil, exec_creating, exec_deciding])
  simp only [nil_append, cons_append, run_cons, run_nil, exec_creating, exec_deciding]
    at hcreated hdecided ⊢
  refine ⟨collisionFree, trivial, hcreated.1 creating true rfl rfl,
    hdecided.1 deciding true rfl rfl, ?_⟩
  refine hcreated.2.1 _ true rfl ?_ ?_
  · decide
  · rw [show (Op.create request' none none 1).body = createRequestBody request' from rfl,
      bodyHash_request']
    rfl

end

end Ananke.Proposal
