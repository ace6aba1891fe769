import Ananke.TrustedSupervisor.Consistency
import Ananke.TrustedSupervisor.Inversion

/-! Every operation of the journal keeps it consistent, where it is used with care. -/
namespace Ananke.TrustedSupervisor

open Text Validation Relational Machine List

variable {β : Type} {p : Primitives β} {auth : AuditJournalAuthority} {j j' : Journal β}
  {intent : AuditExecutionIntent} {evs : List AuditExecutionEvent}
  {ev : AuditExecutionEvent} {c : AuditCancellationIntent β}

section effects

theorem Sound.replayed (h : Sound p auth j) {row : ReplayRow} (hv : ReplayValid p j row) :
    Sound p auth { j with replays := j.replays ++ [row] } where
  requests := h.requests.replay hv
  executions := h.executions.frame rfl rfl
  cancellations := h.cancellations.mono rfl rfl fun _ _ hs =>
    hs.mono (fun _ _ _ ht => ht.frame rfl rfl) (fun _ hr => hr) rfl

variable {row : RequestRow β}

theorem Sound.committed (h : Sound p auth j) (hv : RowValid p row)
    (hn : NoncesFresh j row.request) : Sound p auth { j with
      requests := j.requests ++ [row], nonces := j.nonces ++ nonceRows row.request } where
  requests := h.requests.commit hv hn rfl rfl rfl
  executions := h.executions.frame rfl rfl
  cancellations := h.cancellations.mono rfl rfl fun _ _ hs =>
    hs.mono (fun _ _ _ ht => ht.frame rfl rfl) (fun _ hr => select_snoc_some hr) rfl

variable {entry : ExecutionPolicyEntry}

theorem Sound.intended (h : Sound p auth j) (hs : sealAuditExecutionIntent p intent = .ok intent)
    (hr : auth.resolveIntent intent = .ok entry)
    (hfresh : intent.intentHash ∉ j.auditIntents.map AuditIntentRow.intentHash)
    (hfresh' : intent.envelopeHash ∉ j.auditIntents.map AuditIntentRow.envelopeHash) :
    Sound p auth { j with auditIntents := j.auditIntents ++ [intentRowOf p intent] } where
  requests := h.requests.frame rfl rfl rfl
  executions := h.executions.intend hs hr hfresh hfresh' rfl rfl
  cancellations := h.cancellations.mono rfl rfl fun _ _ hs =>
    hs.mono (fun _ _ _ ht => ht.intend rfl rfl) (fun _ hr => hr) rfl

section

variable (h : Settled p auth j c) (hp : p.Lawful) (hx : Executions p auth j)
include h hp hx

theorem Settled.fenced_or_ended (hc : cancelRowOf p c ∈ j.cancellationIntents)
    (ht : Told p auth j intent evs) (he : intent.envelopeHash = c.envelopeHash) :
    Fenced j intent.envelopeHash ∨ ∃ before term, evs = before ++ [term] ∧
      (term.state = .cancelled ∨ term.state = .waitingForHuman) := by
  unfold Settled at h
  cases hs : select OutcomeRow.intentHash c.intentHash j.cancellationOutcomes with
  | none => exact .inl ⟨_, hc, he.symm, select_eq_none.mp hs⟩
  | some row =>
    rw [hs] at h
    obtain ⟨_, before, term, hend⟩ := h
    obtain ⟨rfl, rfl⟩ := hx.unique_envelope hp ht hend.told (he.trans hend.envelopeHash.symm)
    refine .inr ⟨before, term, rfl, ?_⟩
    rw [hend.state]
    cases row.outcome
    · exact .inl rfl
    · exact .inr rfl

theorem Settled.append (ht : Told p auth j intent evs)
    (hne : intent.envelopeHash ≠ c.envelopeHash) (hev : ev.intentHash = intent.intentHash)
    (hi : j'.auditIntents = j.auditIntents)
    (he : j'.auditEvents = j.auditEvents ++ [eventRowOf p ev])
    (hr : ∀ row, select RequestRow.requestHash c.requestHash j.requests = some row →
      select RequestRow.requestHash c.requestHash j'.requests = some row)
    (ho : select OutcomeRow.intentHash c.intentHash j'.cancellationOutcomes =
      select OutcomeRow.intentHash c.intentHash j.cancellationOutcomes) :
    Settled p auth j' c := by
  refine h.mono (fun intent' events' henv ht' => ht'.append_of_ne hi he ?_) hr ho
  intro heq
  obtain ⟨rfl, _⟩ := hx.unique hp ht ht' (hev.symm.trans heq)
  exact hne henv

end

theorem Sound.appended (h : Sound p auth j) (hp : p.Lawful)
    (ht : Told p auth j intent evs) (hf : ¬ Fenced j intent.envelopeHash) (hx : ev.Exact)
    (hv : Accepted p auth intent (evs ++ [ev])) :
    Sound p auth { j with auditEvents := j.auditEvents ++ [eventRowOf p ev] } where
  requests := h.requests.frame rfl rfl rfl
  executions := h.executions.append ht rfl rfl hx hv hp
  cancellations := h.cancellations.mono rfl rfl fun c hc hs => by
    have hne : intent.envelopeHash ≠ c.envelopeHash := by
      intro he
      rcases hs.fenced_or_ended hp h.executions hc ht he with hfenced | ⟨before, last, rfl, hl⟩
      · exact hf hfenced
      · have := not_ended_of_append hv (List.getLast?_concat ..)
        rcases hl with hl | hl <;> simp [hl] at this
    exact hs.append hp h.executions ht hne (intentHash_append hv) rfl rfl (fun _ hr => hr) rfl

theorem Sound.asked (h : Sound p auth j) (hc : c.Exact)
    (hs : sealAuditCancellationIntent p c = .ok c) (ha : Asked p auth j c intent evs)
    (hfresh : ∀ row ∈ j.cancellationIntents, row.intentHash ≠ c.intentHash ∧
      row.requestHash ≠ c.requestHash ∧ row.envelopeHash ≠ c.envelopeHash) :
    Sound p auth { j with
      cancellationIntents := j.cancellationIntents ++ [cancelRowOf p c] } where
  requests := h.requests.frame rfl rfl rfl
  executions := h.executions.frame rfl rfl
  cancellations := {
    settled := by
      intro row hrow
      rcases mem_append.mp hrow with hrow | hrow
      · obtain ⟨c', rfl, hx', hs', hset⟩ := h.cancellations.settled row hrow
        exact ⟨c', rfl, hx', hs', hset.mono (fun _ _ _ ht => ht.frame rfl rfl) (fun _ hr => hr) rfl⟩
      · refine ⟨c, mem_singleton.mp hrow, hc, hs, ?_⟩
        -- an outcome would belong to an intent that is already there
        have hnone : select OutcomeRow.intentHash c.intentHash j.cancellationOutcomes = none := by
          refine select_eq_none.mpr fun hmem => ?_
          obtain ⟨outcome, ho, heq⟩ := mem_map.mp hmem
          obtain ⟨row', hrow', heq'⟩ := mem_map.mp (h.cancellations.owned outcome ho)
          exact (hfresh row' hrow').1 (heq'.trans heq)
        simp only [Settled, hnone]
        exact ⟨intent, evs, { ha with told := ha.told.frame rfl rfl }⟩
    requestHashes := nodup_snoc h.cancellations.requestHashes
      (not_mem_keys fun row hrow => (hfresh row hrow).2.1)
    intentHashes := nodup_snoc h.cancellations.intentHashes
      (not_mem_keys fun row hrow => (hfresh row hrow).1)
    envelopeHashes := nodup_snoc h.cancellations.envelopeHashes
      (not_mem_keys fun row hrow => (hfresh row hrow).2.2)
    owned := by
      intro row hrow
      rw [map_append]
      exact mem_append_left _ (h.cancellations.owned row hrow) }

theorem Sound.closed (h : Sound p auth j) (hp : p.Lawful) (hc : Pending p j c)
    (ht : Told p auth j intent evs) (henv : intent.envelopeHash = c.envelopeHash)
    (hx : ev.Exact) (hv : Accepted p auth intent (evs ++ [ev]))
    {outcome : CancelOutcome} (hstate : ev.state = outcome.auditState)
    (hatt : ev.attempt = c.attempt) {req : RequestRow β} (hvalid : RowValid p req)
    (hreq : req.request = cancelRequest c)
    (hfresh : c.requestHash ∉ j.requests.map RequestRow.requestHash)
    (hn : NoncesFresh j req.request) :
    Sound p auth (closedWith p j c ev outcome req) where
  requests := h.requests.commit hvalid hn rfl rfl rfl
  executions := h.executions.append ht rfl rfl hx hv hp
  cancellations := {
    settled := by
      intro row hmem
      obtain ⟨c', rfl, hx', hs', hset⟩ := h.cancellations.settled row hmem
      refine ⟨c', rfl, hx', hs', ?_⟩
      by_cases hhash : c'.intentHash = c.intentHash
      · have heq := eq_of_key_eq h.cancellations.intentHashes hmem hc.row hhash
        obtain rfl := cancelRowOf_inj hp hx' hc.exact heq
        have hsel : select RequestRow.requestHash c'.requestHash (j.requests ++ [req]) =
            some req := by
          rw [select_append, select_eq_none.mpr hfresh]
          simp [RequestRow.requestHash, hreq, cancelRequest]
        simp only [Settled, closedWith, select_append, hc.outcome]
        exact ⟨intent, evs, ev, {
          told := ht.append rfl rfl hx hv
          envelopeHash := henv
          state := hstate
          eventHash := rfl
          occurredAt := rfl
          attempt := hatt
          response := ⟨hvalid.2.2.2.2.1, hvalid.2.1, hvalid.2.2.1⟩
          bound := ⟨req, hsel, by rw [hreq]; rfl, by rw [hreq]; rfl, rfl⟩ }⟩
      · have hne : intent.envelopeHash ≠ c'.envelopeHash := by
          intro he
          have heq := eq_of_key_eq h.cancellations.envelopeHashes hmem hc.row (he.symm.trans henv)
          exact hhash (congrArg CancelIntentRow.intentHash heq)
        refine hset.append hp h.executions ht hne (intentHash_append hv) rfl rfl
          (fun _ hr => select_snoc_some hr) ?_
        simp [closedWith, select_append, Ne.symm hhash]
    requestHashes := h.cancellations.requestHashes
    intentHashes := h.cancellations.intentHashes
    envelopeHashes := h.cancellations.envelopeHashes
    owned := forall_snoc.mpr ⟨h.cancellations.owned, mem_map.mpr ⟨_, hc.row, rfl⟩⟩ }

end effects

section operations

theorem valid_now (hp : p.Lawful) {now : Nat} :
    validServerJournalTimestamp p (p.formatTime now) = true := by
  simp [validServerJournalTimestamp, hp.time]

variable {event' : AuditExecutionEvent}

theorem exact_of_authenticate (hx : ev.Exact)
    (h : auth.authenticateEvent p ev = .ok event') : event'.Exact := by
  obtain rfl | ⟨_, rfl, ha⟩ := authenticate_eq_ok h
  · exact hx
  · obtain ⟨h1, h2, h3, h4, h5, h6, h7, _⟩ := hx
    exact ⟨h1, h2, h3, h4, h5, h6, h7, ha ▸ h1⟩

theorem exact_of_cancellable (hs : CancelSealed p c) (hc : Cancellable evs c)
    (hx : ∀ ev ∈ evs, ev.Exact) : c.Exact := by
  have hv : 1 ≤ c.attempt ∧ c.attempt ≤ 10 := by
    unfold CancelSealed sealAuditCancellationIntent at hs
    dsimp only at hs
    split at hs
    next heq =>
      split at heq
      next hv => exact ⟨hv.2.2.2.2.1, hv.2.2.2.2.2.1⟩
      · cases heq
    · exact hs.elim
  have hpid : ExactInt c.expectedPID ∧ ExactInt c.expectedPGID := by
    have habsent : c.expectedPID = 0 ∧ c.expectedPGID = 0 ∧ c.expectedStartIdentity = "" →
        ExactInt c.expectedPID ∧ ExactInt c.expectedPGID := by
      rintro ⟨h1, h2, _⟩
      rw [h1, h2]
      decide
    unfold Cancellable at hc
    dsimp only at hc
    cases hl : evs.getLast? with
    | none => exact habsent (by simpa only [hl] using hc)
    | some last =>
      rw [hl] at hc
      dsimp only at hc
      split at hc
      case h_6 =>
        obtain ⟨_, _, h3, h4, _⟩ := hx last (mem_of_getLast? hl)
        exact ⟨hc.1 ▸ h3, hc.2.1 ▸ h4⟩
      case h_7 => exact habsent hc
      all_goals exact hc.elim
  exact ⟨⟨by omega, by omega⟩, hpid⟩

theorem sealed_of_cancellation (hp : p.Lawful) (hc : c.Exact) (hs : CancelSealed p c) :
    sealAuditCancellationIntent p c = .ok c := by
  unfold CancelSealed at hs
  split at hs
  next sealed heq =>
    have hx : sealed.Exact := by
      unfold sealAuditCancellationIntent at heq
      dsimp only at heq
      split at heq
      · cases heq
        exact hc
      · cases heq
    have hdec := congrArg p.decodeCancel hs
    rw [hp.cancellation hx, hp.cancellation hc] at hdec
    rw [heq, Option.some.inj hdec]
  · exact hs.elim

theorem hasPrefix_cancel {receiptHash : String} (h : protocolHashPattern receiptHash = true) :
    hasPrefix ("cancel:" ++ receiptHash) (Operation.cancel.text ++ ":sha256:") = true := by
  unfold protocolHashPattern at h
  split at h
  next digits hl =>
    simp [hasPrefix, Operation.text, hl]
  · cases h

theorem valid_cancelRequest (hs : sealAuditCancellationIntent p c = .ok c) :
    validServerJournalRequest p (cancelRequest c) := by
  obtain ⟨⟨_, _, _, hkey, _, _, _, _, hsize, hsize', _, hhashes, h1, h2, h3⟩, _⟩ :=
    sealing_eq_ok.mp hs
  simp only [forall_mem_cons] at hhashes
  obtain ⟨hreq, _, hrn, hsn, hen, _, hrec, _⟩ := hhashes
  refine ⟨hreq, hrn, hsn, .inr hen, h1, h2, .inr h3, .inr (.inr rfl), ?_, hsize, hsize'⟩
  simp only [cancelRequest, hkey]
  exact hasPrefix_cancel hrec

variable [DecidableEq β] {entry : ExecutionPolicyEntry} {row : RequestRow β}

theorem Sound.insertAuditIntentTx (h : Sound p auth j) (hr : auth.resolveIntent intent = .ok entry)
    (hop : insertAuditIntentTx p j intent = .ok j') : Sound p auth j' := by
  obtain ⟨hs, rfl | ⟨hfresh, hfresh', rfl⟩⟩ := insertion_eq_ok hop
  · exact h
  · exact h.intended hs hr hfresh hfresh'

theorem Sound.storeAuditIntent (h : Sound p auth j)
    (hop : storeAuditIntent p auth j intent = .ok j') : Sound p auth j' := by
  obtain ⟨⟨_, hr⟩, hins⟩ := storeIntent_eq_ok hop
  exact h.insertAuditIntentTx hr hins

variable {req : ServerJournalRequest β} {build : Option (β → Except Err AuditExecutionIntent)}
  {resp : Except Err β} {now : Nat} {bytes : β} {seen : Bool}

theorem Sound.replayRequest (h : Sound p auth j) (hp : p.Lawful)
    (hsel : select RequestRow.requestHash req.requestHash j.requests = some row)
    (hop : replayRequest p j req now row = .ok (j', bytes, seen)) : Sound p auth j' := by
  rw [TrustedSupervisor.replayRequest, guard_eq_ok, pure_eq_ok] at hop
  obtain ⟨rfl, heq⟩ := hop
  cases heq
  have hv := h.requests.valid row (mem_of_find?_eq_some hsel)
  exact h.replayed ⟨by simp, valid_now hp, row, hsel, hv.2.2.2.1.symm, hv.2.2.2.2.1.symm⟩

/-- The audit intent that comes with a new request is one the policy resolves. -/
def BuildsResolved (auth : AuditJournalAuthority)
    (build : Option (β → Except Err AuditExecutionIntent)) (resp : Except Err β) : Prop :=
  ∀ f ∈ build, ∀ bytes, resp = .ok bytes → ∀ intent, f bytes = .ok intent →
    ∃ entry, auth.resolveIntent intent = .ok entry

section

variable (h : Sound p auth j) (hp : p.Lawful)
include h hp

theorem Sound.acceptRequest (hv : validServerJournalRequest p req)
    (hb : BuildsResolved auth build resp)
    (hop : acceptRequest p j req build resp now = .ok (j', bytes, seen)) :
    Sound p auth j' := by
  obtain ⟨hans, hsize, _, hfresh, _, hbuilt, hins⟩ := acceptRequest_eq_ok hop
  have hvalid : RowValid p (requestCommit p req bytes now) :=
    ⟨hv, hsize.1, hsize.2, rfl, rfl, valid_now hp⟩
  have hsound := h.committed hvalid hfresh
  cases build with
  | none =>
    cases hbuilt
    cases hins
    exact hsound
  | some f =>
    obtain ⟨intent, hf, rfl⟩ := map_eq_ok.mp hbuilt
    obtain ⟨_, hr⟩ := hb f rfl _ hans intent hf
    exact hsound.insertAuditIntentTx hr hins

theorem Sound.transact (hb : select RequestRow.requestHash req.requestHash j.requests = none →
      BuildsResolved auth build resp)
    (hop : transact p auth j req build resp now = .ok (j', bytes, seen)) :
    Sound p auth j' := by
  rw [TrustedSupervisor.transact, guard_eq_ok, seq_eq_ok] at hop
  obtain ⟨hv, _, hop⟩ := hop
  cases hsel : select RequestRow.requestHash req.requestHash j.requests with
  | some row =>
    rw [hsel] at hop
    exact h.replayRequest hp hsel hop
  | none =>
    rw [hsel] at hop
    exact h.acceptRequest hp hv.1 (hb hsel) hop

theorem Sound.appendAuditEvent (hx : ev.Exact)
    (hop : appendAuditEvent p auth j ev = .ok j') : Sound p auth j' := by
  obtain ⟨_, _, _, hauth, hload, hfence, rfl | ⟨hv, rfl⟩⟩ :=
    appendEvent_eq_ok hop
  · exact h
  · exact h.appended hp (h.executions.told_of_load hp hload).1 hfence
      (exact_of_authenticate hx hauth) hv

theorem Sound.requestAuditCancellation {record : AuditCancellationRecord β}
    (hop : requestAuditCancellation p auth j c = .ok (j', record)) : Sound p auth j' := by
  obtain ⟨hs, rfl | ⟨_, _, _, hload, ⟨hhand, hrec, hatt⟩, hcan, hfresh,
    rfl⟩⟩ := request_eq_ok hop
  · exact h
  · obtain ⟨ht, henv⟩ := h.executions.told_of_load hp hload
    have hx := exact_of_cancellable hs hcan ht.exact
    exact h.asked hx (sealed_of_cancellation hp hx hs)
      ⟨ht, henv rfl, hhand, hrec, hatt, hcan⟩ hfresh

end

variable {outcome : CancelOutcome} {record : AuditCancellationRecord β}

/-- No other cancellation has the hash of this one. -/
def CollisionFree (p : Primitives β) (j : Journal β) (c : AuditCancellationIntent β) : Prop :=
  ∀ row ∈ j.cancellationIntents, row.intentHash = c.intentHash → row = cancelRowOf p c

omit [DecidableEq β] in
theorem Sound.endCancellation (h : Sound p auth j) (hp : p.Lawful) (hc : c.Exact)
    (hs : sealAuditCancellationIntent p c = .ok c) (hfree : CollisionFree p j c)
    (hx : ev.Exact) (hstate : ev.state = outcome.auditState)
    (hatt : Fenced j c.envelopeHash → ev.attempt = c.attempt)
    (hop : endCancellation p auth j c ev outcome resp = .ok (j', record)) :
    Sound p auth j' := by
  obtain ⟨_, _, _, hload, henv, hv, hsize, ⟨hfresh, _⟩, hn, ⟨row, hrow, hhash⟩,
    hunique, rfl⟩ := ending_eq_ok hop
  have hmem := hfree row hrow hhash ▸ hrow
  have hnone : select OutcomeRow.intentHash c.intentHash
      j.cancellationOutcomes = none := select_eq_none.mpr (not_mem_keys hunique)
  have ht := (h.executions.told_of_load hp hload).1
  have hvalid := sealing_eq_ok.mp hs
  have hev := (event_eq_ok.mp
    (sealed_of_valid hv (mem_append_right _ (mem_singleton.mpr rfl))).1).1.1
  have htime : validServerJournalTimestamp p ev.occurredAt = true := by
    obtain ⟨_, _, _, _, _, _, _, _, _, _, _, ht, _⟩ := hev
    exact ht
  refine h.closed hp ⟨hmem, hc, hs, hnone⟩ ht henv hx hv hstate
    (hatt ⟨_, hmem, rfl, select_eq_none.mp hnone⟩) ?_ rfl hfresh hn
  exact ⟨valid_cancelRequest hs, hsize.1, hsize.2, hvalid.2.1.symm, rfl, htime⟩

theorem Sound.completeAuditCancellation (h : Sound p auth j) (hp : p.Lawful) (hc : c.Exact)
    (hfree : CollisionFree p j c) (hx : ev.Exact)
    (hatt : Fenced j c.envelopeHash → ev.attempt = c.attempt)
    (hop : completeAuditCancellation p auth j c ev outcome resp = .ok (j', record)) :
    Sound p auth j' := by
  obtain ⟨⟨hs, hstate⟩, _, event', _, hauth, _, _, ⟨_, rfl⟩ | ⟨_, hend⟩⟩ :=
    complete_eq_ok hop
  · exact h
  · have hsame : event'.state = ev.state ∧ event'.attempt = ev.attempt := by
      obtain rfl | ⟨_, rfl, _⟩ := authenticate_eq_ok hauth <;> exact ⟨rfl, rfl⟩
    exact h.endCancellation hp hc (sealed_of_cancellation hp hc hs) hfree
      (exact_of_authenticate hx hauth) (hsame.1.trans hstate)
      (fun hf => hsame.2.trans (hatt hf)) hend

/-- What the journal does not check by itself. -/
def Careful (p : Primitives β) (auth : AuditJournalAuthority) (j : Journal β) : JournalOp β → Prop
  | .transact req build resp _ =>
    select RequestRow.requestHash req.requestHash j.requests = none → BuildsResolved auth build resp
  | .storeAuditIntent _ => True
  | .appendAuditEvent ev => ev.Exact
  | .requestAuditCancellation _ => True
  | .completeAuditCancellation c ev _ _ =>
    c.Exact ∧ ev.Exact ∧ CollisionFree p j c ∧ (Fenced j c.envelopeHash → ev.attempt = c.attempt)

variable {op : JournalOp β}

theorem Sound.exec (h : Sound p auth j) (hp : p.Lawful)
    (hg : Careful p auth j op) : Sound p auth (exec p auth j op).1 := by
  unfold TrustedSupervisor.exec
  split
  next j' hop =>
    cases op with
    | transact =>
      obtain ⟨⟨j₁, _, _⟩, hdone, rfl⟩ := map_eq_ok.mp hop
      exact h.transact hp hg hdone
    | storeAuditIntent => exact h.storeAuditIntent hop
    | appendAuditEvent => exact h.appendAuditEvent hp hg hop
    | requestAuditCancellation =>
      obtain ⟨⟨j₁, record⟩, hdone, rfl⟩ := map_eq_ok.mp hop
      exact h.requestAuditCancellation hp hdone
    | completeAuditCancellation =>
      obtain ⟨⟨_, _⟩, hdone, rfl⟩ := map_eq_ok.mp hop
      obtain ⟨hc, hx, hfree, hatt⟩ := hg
      exact h.completeAuditCancellation hp hc hfree hx hatt hdone
  · exact h

theorem sound_run (hp : p.Lawful) {ops : List (JournalOp β)}
    (hm : Meets (exec p auth) (Careful p auth) {} ops) :
    Sound p auth (run (exec p auth) {} ops) :=
  invariant_meets (fun _ _ h hg => h.exec hp hg) hm Sound.empty

theorem validate_of_exec (h : (exec p auth j op).2 = .ok ()) :
    validateServerJournalContent p auth j = .ok () := by
  unfold exec at h
  split at h
  next j' hop =>
    cases op with
    | transact =>
      obtain ⟨_, hdone, _⟩ := map_eq_ok.mp hop
      rw [transact, seq_eq_ok, seq_eq_ok] at hdone
      exact hdone.2.1
    | storeAuditIntent =>
      simp only [perform, storeAuditIntent, ok_iff] at hop
      obtain ⟨_, _, _, hdone, _⟩ := hop
      exact hdone
    | appendAuditEvent =>
      simp only [perform, appendAuditEvent, ok_iff] at hop
      obtain ⟨_, _, _, _, _, hdone, _⟩ := hop
      exact hdone
    | requestAuditCancellation =>
      obtain ⟨_, hdone, _⟩ := map_eq_ok.mp hop
      rw [requestAuditCancellation, seq_eq_ok, seq_eq_ok] at hdone
      exact hdone.2.1
    | completeAuditCancellation =>
      obtain ⟨_, hdone, _⟩ := map_eq_ok.mp hop
      exact (complete_eq_ok hdone).2.1
  · cases h

end operations

end Ananke.TrustedSupervisor
