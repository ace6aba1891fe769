import Ananke.TrustedSupervisor.Instance
import Ananke.TrustedSupervisor.Preservation

/-! When the operations succeed on a consistent journal, and what they then write. -/
namespace Ananke.TrustedSupervisor

open Text Validation Relational Machine List

section

variable {β : Type} {p : Primitives β} {auth : AuditJournalAuthority}
  {j : Journal β} {intent : AuditExecutionIntent} {evs : List AuditExecutionEvent}
  {ev : AuditExecutionEvent} {c : AuditCancellationIntent β}

theorem cancellation_of_sealed (hs : sealAuditCancellationIntent p c = .ok c) :
    CancelSealed p c := by
  simp [CancelSealed, hs, equalAuditCancellationIntent]

variable {event' : AuditExecutionEvent} {outcome : CancelOutcome} {bytes : β}

/-- The values of the cancellation that must be unused for its request to be committed. -/
structure Unclaimed (j : Journal β) (c : AuditCancellationIntent β) : Prop where
  requests : ∀ r ∈ j.requests, r.requestHash ≠ c.requestHash ∧
    r.request.operationKey ≠ c.operationKey
  nonces : ∀ r ∈ j.nonces, r.nonceHash ∉ nonceHashes c

theorem Requests.nonce_mem (h : Requests p j) {row : RequestRow β} (hrow : row ∈ j.requests) :
    row.request.requestNonceHash ∈ j.nonces.map NonceRow.nonceHash ∧
      row.request.responseNonceHash ∈ j.nonces.map NonceRow.nonceHash := by
  rw [h.nonces, map_flatMap]
  constructor <;> refine mem_flatMap.mpr ⟨row, hrow, ?_⟩ <;> simp [nonceRows]

theorem Told.insertEvent (ht : Told p auth j intent evs)
    (hv : Accepted p auth intent (evs ++ [ev])) :
    insertEvent p j ev = .ok { j with auditEvents := j.auditEvents ++ [eventRowOf p ev] } := by
  have hhash := intentHash_append hv
  have hseq : ev.sequence = evs.length + 1 := by
    have hlt : evs.length < (evs ++ [ev]).length := by simp
    simpa using seq_of_valid hv hlt
  rw [TrustedSupervisor.insertEvent, guard_eq_ok]
  refine ⟨⟨⟨_, ht.row, hhash.symm⟩, ?_⟩, rfl⟩
  rintro row hrow ⟨heq, hseq'⟩
  have hmem : row ∈ rowsOf AuditEventRow.intentHash intent.intentHash j.auditEvents := by
    simp [rowsOf, hrow, heq, hhash]
  rw [ht.rows] at hmem
  obtain ⟨_, he, rfl⟩ := mem_map.mp hmem
  obtain ⟨_, hi, rfl⟩ := getElem_of_mem he
  have := seq_of_valid ht.valid hi
  simp only [eventRowOf] at hseq'
  omega

theorem Requests.insertRequest (h : Requests p j) {row : RequestRow β} {additional : String}
    (hr : ∀ r ∈ j.requests, r.requestHash ≠ row.requestHash ∧
      r.request.operationKey ≠ row.request.operationKey)
    (hn : ∀ n ∈ j.nonces, n.nonceHash ∉ [row.request.requestNonceHash,
      row.request.responseNonceHash, additional]) :
    insertRequest j row = .ok { j with requests := j.requests ++ [row] } := by
  rw [TrustedSupervisor.insertRequest, guard_eq_ok]
  refine ⟨fun r hrow => ?_, rfl⟩
  obtain ⟨hrn, hsn⟩ := h.nonce_mem hrow
  obtain ⟨n, hnmem, hne⟩ := mem_map.mp hrn
  obtain ⟨m, hmmem, hme⟩ := mem_map.mp hsn
  have hn' := hn n hnmem
  have hm' := hn m hmmem
  simp only [mem_cons, not_mem_nil, not_or] at hn' hm'
  exact ⟨(hr r hrow).1, (hr r hrow).2, hne ▸ hn'.1, hme ▸ hm'.2.1⟩

variable {req : ServerJournalRequest β}

theorem mem_nonces {n : String} (h : n ∈ (nonceRows req).map NonceRow.nonceHash) :
    n ∈ [req.requestNonceHash, req.responseNonceHash, req.additionalNonceHash] := by
  unfold nonceRows at h
  split at h <;> simp at h ⊢
  · exact h.imp_right .inl
  · exact h

theorem insertNonces_fresh (hnodup : ((nonceRows req).map NonceRow.nonceHash).Nodup)
    (hn : ∀ n ∈ j.nonces, n.nonceHash ∉ [req.requestNonceHash, req.responseNonceHash,
      req.additionalNonceHash]) :
    insertNonces j (nonceRows req) = .ok { j with nonces := j.nonces ++ nonceRows req } := by
  rw [insertNonces, guard_eq_ok]
  refine ⟨⟨hnodup, fun row hrow hmem => ?_⟩, rfl⟩
  obtain ⟨n, hnmem, heq⟩ := mem_map.mp hmem
  exact hn n hnmem (heq ▸ mem_nonces (mem_map_of_mem hrow))

theorem nodup_cancelRequest (hs : sealAuditCancellationIntent p c = .ok c) :
    ((nonceRows (cancelRequest c)).map NonceRow.nonceHash).Nodup := by
  obtain ⟨⟨_, _, _, _, _, _, _, _, _, _, _, hhashes, h1, h2, h3⟩, _⟩ :=
    sealing_eq_ok.mp hs
  have hne : c.exclusivityNonceHash ≠ "" := hash_ne_empty (hhashes _ (by simp))
  simp [nonceRows, cancelRequest, hne, h1, h2, h3]

theorem nodup_nonceRows (hv : validServerJournalRequest p req) :
    ((nonceRows req).map NonceRow.nonceHash).Nodup := by
  obtain ⟨_, _, _, _, h1, h2, h3, _⟩ := hv
  unfold nonceRows
  split
  · simp [h1]
  next hne => simp [h1, h2, h3.resolve_left hne]

theorem endCancellation_accepted (h : Sound p auth j) (hp : p.Lawful)
    (hc : Pending p j c) (ha : Asked p auth j c intent evs)
    (hv : Accepted p auth intent (evs ++ [ev]))
    (hsize : 0 < p.size bytes ∧ p.size bytes ≤ maxFrameBytes) (hu : Unclaimed j c)
    (hhash : ∀ r ∈ j.cancellationOutcomes, r.auditEventHash ≠ ev.eventHash) :
    endCancellation p auth j c ev outcome (.ok bytes) =
      .ok (closedWith p j c ev outcome (cancellationCommit p c ev bytes),
        ⟨c, outcome.state, some outcome, some bytes⟩) := by
  have hload := h.executions.load hp ha.told
  rw [ha.envelopeHash] at hload
  have hseq : ev.sequence = evs.length + 1 := by
    have hlt : evs.length < (evs ++ [ev]).length := by simp
    simpa using seq_of_valid hv hlt
  have hreq : Requests p { j with auditEvents := j.auditEvents ++ [eventRowOf p ev] } :=
    h.requests.frame rfl rfl rfl
  have hunique : ∀ r ∈ j.cancellationOutcomes, r.intentHash ≠ c.intentHash :=
    fun r hr heq => select_eq_none.mp hc.outcome (mem_map.mpr ⟨r, hr, heq⟩)
  simp only [endCancellation, insertOutcome, ok_iff]
  exact ⟨_, hload, (), ⟨ha.envelopeHash, ha.handoffID, ha.receiptHash, intentHash_append hv, hseq,
    hv⟩, bytes, rfl, (), hsize, _, ha.told.insertEvent hv, _,
    hreq.insertRequest hu.requests hu.nonces, _,
    insertNonces_fresh (nodup_cancelRequest hc.sealed) hu.nonces, _,
    ⟨(), ⟨⟨_, hc.row, rfl⟩, fun r hr => ⟨hunique r hr, hhash r hr⟩⟩, rfl⟩, rfl⟩

variable [DecidableEq β]

theorem exec_of_perform {op : JournalOp β} {j' : Journal β}
    (h : perform p auth j op = .ok j') : exec p auth j op = (j', .ok ()) := by
  rw [exec, h]

section

variable (h : Sound p auth j) (hp : p.Lawful)
include h hp

theorem transact_accepted (hv : validServerJournalRequest p req)
    (hr : ∀ r ∈ j.requests, r.requestHash ≠ req.requestHash ∧
      r.request.operationKey ≠ req.operationKey)
    (hn : ∀ n ∈ j.nonces, n.nonceHash ∉ [req.requestNonceHash, req.responseNonceHash,
      req.additionalNonceHash])
    (hsize : 0 < p.size bytes ∧ p.size bytes ≤ maxFrameBytes) (now : Nat) :
    transact p auth j req none (.ok bytes) now = .ok ({ j with
        requests := j.requests ++ [requestCommit p req bytes now]
        nonces := j.nonces ++ nonceRows req }, bytes, false) := by
  have hsel : select RequestRow.requestHash req.requestHash j.requests = none :=
    select_eq_none.mpr (not_mem_keys fun r hrow => (hr r hrow).1)
  have hins : insertRequest j (requestCommit p req bytes now) =
      .ok { j with requests := j.requests ++ [requestCommit p req bytes now] } :=
    h.requests.insertRequest hr hn
  rw [transact, require_of ⟨hv, by simp⟩, ok_bind, h.validate hp, ok_bind, hsel]
  dsimp only
  rw [acceptRequest, require_of fun r hrow => (hr r hrow).2, ok_bind, require_of hn, ok_bind,
    ok_bind, require_of hsize, ok_bind]
  exact bind_eq_ok.mpr ⟨none, rfl, bind_eq_ok.mpr ⟨_, hins, bind_eq_ok.mpr ⟨_,
    insertNonces_fresh (nodup_nonceRows hv) hn, rfl⟩⟩⟩

theorem storeAuditIntent_accepted
    {entry : ExecutionPolicyEntry} (hr : auth.resolveIntent intent = .ok entry)
    (hs : sealAuditExecutionIntent p intent = .ok intent)
    (hi : intent.intentHash ∉ j.auditIntents.map AuditIntentRow.intentHash)
    (he : intent.envelopeHash ∉ j.auditIntents.map AuditIntentRow.envelopeHash) :
    storeAuditIntent p auth j intent =
      .ok { j with auditIntents := j.auditIntents ++ [intentRowOf p intent] } := by
  rw [storeAuditIntent, hr, ok_bind, h.validate hp, ok_bind, insertAuditIntentTx, seq_eq_ok,
    select_eq_none.mpr he, guard_eq_ok, require_eq_ok]
  exact ⟨hs, hi, rfl⟩

theorem request_accepted
    (hs : sealAuditCancellationIntent p c = .ok c) (ha : Asked p auth j c intent evs)
    (hfree : ¬ CancellationConflict j c)
    (hnew : ∀ row ∈ j.cancellationIntents, row.intentHash ≠ c.intentHash ∧
      row.requestHash ≠ c.requestHash) :
    requestAuditCancellation p auth j c =
      .ok ({ j with cancellationIntents := j.cancellationIntents ++ [cancelRowOf p c] },
        ⟨c, .requested, none, none⟩) := by
  have hnone : loadAuditCancellationTx p auth j c.requestHash "" = .ok none := by
    have hrow : j.cancelRow c.requestHash "" = none :=
      select_eq_none.mpr (not_mem_keys fun row hrow => (hnew row hrow).2)
    rw [loadAuditCancellationTx, hrow]
  have hload := h.executions.load hp ha.told
  rw [ha.envelopeHash] at hload
  rw [requestAuditCancellation, guard_eq_ok, h.validate hp, ok_bind, hnone, ok_bind]
  refine ⟨cancellation_of_sealed hs, ?_⟩
  simp only [acceptCancellation, insertCancellation, ok_iff]
  refine ⟨(), hfree, _, hload, (), ⟨ha.handoffID, ha.receiptHash, ha.attempt⟩, (), ha.cancellable,
    _, ⟨(), fun row hrow => ?_, rfl⟩, rfl⟩
  -- the unique columns are among those the conflict query looks at
  have hrowfree : ¬ (row.operationKey = c.operationKey ∨
      row.requestNonceHash ∈ nonceHashes c ∨ row.responseNonceHash ∈ nonceHashes c ∨
      row.exclusivityNonceHash ∈ nonceHashes c ∨ row.envelopeHash = c.envelopeHash ∨
      row.receiptHash = c.receiptHash ∨ row.cancellationHash = c.cancellationHash) :=
    fun hcol => hfree (.inr (.inr ⟨row, hrow, hcol⟩))
  simp only [not_or, nonceHashes, mem_cons, not_mem_nil] at hrowfree
  obtain ⟨hk, hrn, hsn, hen, hev, hrec, hcan⟩ := hrowfree
  exact ⟨(hnew row hrow).1, (hnew row hrow).2, hk, hrn.1, hsn.2.1, hen.2.2.1, hev, hrec, hcan⟩

theorem complete_accepted (hc : Pending p j c) (ha : Asked p auth j c intent evs)
    (hevent : sealAuditExecutionEvent p ev = .ok ev)
    (hstate : ev.state = outcome.auditState)
    (hauth : auth.authenticateEvent p ev = .ok event')
    (hv : Accepted p auth intent (evs ++ [event']))
    (hsize : 0 < p.size bytes ∧ p.size bytes ≤ maxFrameBytes) (hu : Unclaimed j c)
    (hhash : ∀ r ∈ j.cancellationOutcomes, r.auditEventHash ≠ event'.eventHash) :
    completeAuditCancellation p auth j c ev outcome (.ok bytes) =
      .ok (closedWith p j c event' outcome (cancellationCommit p c event' bytes),
        ⟨c, outcome.state, some outcome, some bytes⟩) := by
  obtain ⟨_, hcrow, hc', _, _, hload⟩ := h.cancellations.load h.executions hp hc.row
  obtain rfl := cancelRowOf_inj hp hc' hc.exact hcrow.symm
  have hstate' := recordTold_state.mpr hc.outcome
  rw [completeAuditCancellation, guard_eq_ok, hauth, ok_bind, h.validate hp, ok_bind]
  refine ⟨⟨cancellation_of_sealed hc.sealed, hevent, hstate⟩, bind_eq_ok.mpr ⟨_, hload, ?_⟩⟩
  rw [expect, ok_bind, recordTold_intent, guard_eq_ok, if_neg (by simpa using hstate')]
  refine ⟨⟨rfl, rfl, rfl, rfl, rfl, rfl, rfl, rfl, rfl, rfl, rfl⟩, ?_⟩
  exact endCancellation_accepted h hp hc ha hv hsize hu hhash

end

theorem checkCancellation_of_valid (hvalid : validateServerJournalContent p auth j = .ok ())
    {row : CancelIntentRow β} (hrow : row ∈ j.cancellationIntents) :
    checkCancellation p auth j row.requestHash = .ok () := by
  rw [validateServerJournalContent, seq_eq_ok, seq_eq_ok, seq_eq_ok, seq_eq_ok,
    validateAuditCancellationContent, seq_eq_ok] at hvalid
  exact each_eq_ok.mp hvalid.2.2.2.2.2 _ (mem_map_of_mem hrow)

/-- The journal after a cancellation can only be read if the execution ended in the attempt the
cancellation named. -/
theorem attempt_of_validate_closedWith (h : Sound p auth j) (hp : p.Lawful)
    (hc : Pending p j c) (ht : Told p auth j intent evs)
    (henv : intent.envelopeHash = c.envelopeHash)
    (hx : ev.Exact) (hv : Accepted p auth intent (evs ++ [ev]))
    {req : RequestRow β} (hvalid : validateServerJournalContent p auth
      (closedWith p j c ev outcome req) = .ok ()) : ev.attempt = c.attempt := by
  have hexec : Executions p auth (closedWith p j c ev outcome req) :=
    h.executions.append ht rfl rfl hx hv hp
  have htold : Told p auth (closedWith p j c ev outcome req) intent
    (evs ++ [ev]) := ht.append rfl rfl hx hv
  have hcheck := checkCancellation_of_valid hvalid hc.row
  rw [checkCancellation, bind_eq_ok] at hcheck
  obtain ⟨_, hfound, _⟩ := hcheck
  have hsel : (closedWith p j c ev outcome req).cancelRow
      (cancelRowOf p c).requestHash "" = some (cancelRowOf p c) :=
    select_of_mem h.cancellations.requestHashes hc.row
  rw [mapError_eq_ok, loadAuditCancellationTx, hsel] at hfound
  simp only [readCancellation_rowOf hp hc.exact hc.sealed, ok_iff] at hfound
  obtain ⟨_, ⟨⟩, _, hrec, _⟩ := hfound
  have hout : select OutcomeRow.intentHash c.intentHash
      (closedWith p j c ev outcome req).cancellationOutcomes =
      some ⟨c.intentHash, outcome, ev.eventHash, req.responseBytes,
        req.responseBytesHash, ev.occurredAt⟩ := by
    simp [closedWith, select_append, hc.outcome]
  simp only [recordOf, hout, checkOutcome, ok_iff] at hrec
  obtain ⟨_, ⟨_, _, _, hload, _, _, _, hlast, hbound⟩, _⟩ := hrec
  rw [← henv, hexec.load hp htold] at hload
  cases hload
  rw [List.getLast?_concat] at hlast
  cases hlast
  exact hbound.2.2.2

end

section instances

open Instance

def cancelling (attempt : Int) : List (JournalOp (List Token)) :=
  [.storeAuditIntent intent, .requestAuditCancellation (cancel attempt),
    .completeAuditCancellation (cancel attempt) cancelled .completed (.ok [.text "cancelled"])]

def stored : Journal (List Token) where
  auditIntents := [intentRowOf prims intent]

def requested (attempt : Int) : Journal (List Token) :=
  { stored with cancellationIntents := [cancelRowOf prims (cancel attempt)] }

variable {j : Journal (List Token)}

theorem told_intent (hi : j.auditIntents = stored.auditIntents)
    (he : j.auditEvents = []) : Told prims authority j intent [] where
  row := by simp [hi, stored]
  rows := by simp [he, rowsOf]
  exact := by simp
  valid := history_eq_ok.mpr ⟨sealed_intent, entry, resolve_intent, rfl⟩

theorem exec_store : exec prims authority {} (.storeAuditIntent intent) = (stored, .ok ()) := by
  refine exec_of_perform ?_
  exact storeAuditIntent_accepted Sound.empty lawful resolve_intent sealed_intent
    (by simp) (by simp)

theorem sound_stored : Sound prims authority stored :=
  Sound.empty.intended sealed_intent resolve_intent (by simp) (by simp)

variable {attempt : Int}

theorem asked_cancellation (hi : j.auditIntents = stored.auditIntents)
    (he : j.auditEvents = []) (h2 : attempt ≤ 2) :
    Asked prims authority j (cancel attempt) intent [] where
  told := told_intent hi he
  envelopeHash := rfl
  handoffID := rfl
  receiptHash := rfl
  attempt := h2
  cancellable := ⟨rfl, rfl, rfl⟩

section

variable (h1 : 1 ≤ attempt) (h2 : attempt ≤ 2)
include h1 h2

theorem exec_request : exec prims authority stored (.requestAuditCancellation (cancel attempt)) =
      (requested attempt, .ok ()) := by
  have h := request_accepted sound_stored lawful
    (sealed_cancel h1 (by omega)) (asked_cancellation rfl rfl h2)
    (by simp [CancellationConflict, stored]) (by simp [stored])
  exact exec_of_perform (map_eq_ok.mpr ⟨_, h, rfl⟩)

theorem exact_cancel : (cancel attempt).Exact := by
  unfold AuditCancellationIntent.Exact ExactInt
  simp only [cancel]
  omega

theorem sound_requested : Sound prims authority (requested attempt) :=
  sound_stored.asked (exact_cancel h1 h2) (sealed_cancel h1 (by omega))
    (asked_cancellation rfl rfl h2) (by simp [stored])

theorem pending_requested : Pending prims (requested attempt) (cancel attempt) where
  row := by simp [requested]
  exact := exact_cancel h1 h2
  sealed := sealed_cancel h1 (by omega)
  outcome := rfl

end

theorem exact_cancelled : (signed cancelled).Exact := by decide

def commit (attempt : Int) : RequestRow (List Token) :=
  cancellationCommit prims (cancel attempt) (signed cancelled) [.text "cancelled"]

theorem exec_complete (h1 : 1 ≤ attempt) (h2 : attempt ≤ 2) :
    exec prims authority (requested attempt)
        (.completeAuditCancellation (cancel attempt) cancelled .completed
          (.ok [.text "cancelled"])) =
      (closedWith prims (requested attempt) (cancel attempt) (signed cancelled)
        .completed (commit attempt), .ok ()) := by
  have hunclaimed : Unclaimed (requested attempt) (cancel attempt) :=
    ⟨by simp [requested, stored], by simp [requested, stored]⟩
  have hstate : cancelled.state = CancelOutcome.completed.auditState := rfl
  have h := complete_accepted (sound_requested h1 h2) lawful
    (pending_requested h1 h2) (asked_cancellation rfl rfl h2) sealed_cancelled hstate
    authenticate_cancelled history_cancelled
    (show 0 < prims.size [.text "cancelled"] ∧ _ by decide) hunclaimed
    (by simp [requested, stored])
  exact exec_of_perform (map_eq_ok.mpr ⟨_, h, rfl⟩)

theorem run_cancelling (h1 : 1 ≤ attempt) (h2 : attempt ≤ 2) :
    outcomes (exec prims authority) {} (cancelling attempt) = [.ok (), .ok (), .ok ()] ∧
      run (exec prims authority) {} (cancelling attempt) =
        closedWith prims (requested attempt) (cancel attempt) (signed cancelled)
          .completed (commit attempt) := by
  simp [cancelling, outcomes, exec_store, exec_request h1 h2, exec_complete h1 h2]

/-- A journal that is only used with care passes its own validation after every operation. -/
theorem validateServerJournalContent_run {β : Type} [DecidableEq β] {p : Primitives β}
    {auth : AuditJournalAuthority} (hp : p.Lawful) {ops : List (JournalOp β)}
    (hm : Meets (exec p auth) (Careful p auth) {} ops) :
    validateServerJournalContent p auth (run (exec p auth) {} ops) = .ok () :=
  (sound_run hp hm).validate hp

/-- An execution that is cancelled in the attempt it is in. -/
theorem validateServerJournalContent_cancelling : validateServerJournalContent prims authority
      (run (exec prims authority) {} (cancelling 1)) = .ok () := by
  refine validateServerJournalContent_run lawful ⟨trivial, trivial, ?_, trivial⟩
  rw [exec_store, exec_request (by decide) (by decide)]
  exact ⟨exact_cancel (by decide) (by decide), by decide,
    by simp [CollisionFree, requested], fun _ => rfl⟩

/-- A cancellation that names another attempt is accepted all the same, and no operation
succeeds any more. -/
theorem journal_unusable_after_cancellation :
    outcomes (exec prims authority) {} (cancelling 2) = [.ok (), .ok (), .ok ()] ∧
      ∀ op, (exec prims authority
        (run (exec prims authority) {} (cancelling 2)) op).2 ≠ .ok () := by
  have h1 : (1 : Int) ≤ 2 := by decide
  have h2 : (2 : Int) ≤ 2 := by decide
  obtain ⟨hout, hrun⟩ := run_cancelling h1 h2
  refine ⟨hout, fun op hop => ?_⟩
  have hvalid := validate_of_exec hop
  rw [hrun] at hvalid
  have hattempt := attempt_of_validate_closedWith (sound_requested h1 h2) lawful
    (pending_requested h1 h2) (told_intent rfl rfl) rfl exact_cancelled
    history_cancelled hvalid
  exact absurd hattempt (by decide)

end instances

end Ananke.TrustedSupervisor
