import Ananke.TrustedSupervisor.Operation

/-! What an operation has checked and written when it succeeds. -/
namespace Ananke.TrustedSupervisor

open Text Validation Relational

variable {β : Type} {p : Primitives β} {auth : AuditJournalAuthority} {j j' : Journal β}
  {intent : AuditExecutionIntent} {ev : AuditExecutionEvent} {c : AuditCancellationIntent β}

section

variable (p : Primitives β) (j : Journal β) (c : AuditCancellationIntent β) (ev :
  AuditExecutionEvent)

/-- The nonces of the request are its own and were not used before. -/
def NoncesFresh (req : ServerJournalRequest β) : Prop :=
  ((nonceRows req).map NonceRow.nonceHash).Nodup ∧
    ∀ r ∈ nonceRows req, r.nonceHash ∉ j.nonces.map NonceRow.nonceHash

def requestCommit (req : ServerJournalRequest β) (bytes : β) (now : Nat) : RequestRow β :=
  ⟨req, p.hashJournalBytes req.requestBytes, bytes, p.hashJournalBytes bytes, p.formatTime now⟩

/-- The request row a completed cancellation leaves. -/
def cancellationCommit (bytes : β) : RequestRow β :=
  ⟨cancelRequest c, c.requestBytesHash, bytes, p.hashJournalBytes bytes, ev.occurredAt⟩

/-- The journal after a cancellation has ended. -/
def closedWith (outcome : CancelOutcome) (req : RequestRow β) : Journal β :=
  { j with
    auditEvents := j.auditEvents ++ [eventRowOf p ev]
    requests := j.requests ++ [req]
    nonces := j.nonces ++ nonceRows req.request
    cancellationOutcomes := j.cancellationOutcomes ++ [⟨c.intentHash, outcome, ev.eventHash,
      req.responseBytes, req.responseBytesHash, ev.occurredAt⟩] }

end

theorem commit_eq_ok {row : RequestRow β} {j₁ : Journal β} (h₁ : insertRequest j row = .ok j₁)
    (h₂ : insertNonces j₁ (nonceRows row.request) = .ok j') :
    (row.requestHash ∉ j.requests.map RequestRow.requestHash ∧
      row.request.operationKey ∉ j.requests.map (·.request.operationKey)) ∧
      NoncesFresh j row.request ∧ j' = { j with
        requests := j.requests ++ [row], nonces := j.nonces ++ nonceRows row.request } := by
  rw [insertRequest, guard_eq_ok, pure_eq_ok] at h₁
  obtain ⟨hkeys, rfl⟩ := h₁
  rw [insertNonces, guard_eq_ok, pure_eq_ok] at h₂
  obtain ⟨hfresh, rfl⟩ := h₂
  refine ⟨⟨fun hmem => ?_, fun hmem => ?_⟩, hfresh, rfl⟩ <;>
    obtain ⟨r, hr, heq⟩ := List.mem_map.mp hmem
  · exact (hkeys r hr).1 heq
  · exact (hkeys r hr).2.1 heq

theorem authenticate_eq_ok {event' : AuditExecutionEvent}
    (h : auth.authenticateEvent p ev = .ok event') :
    event' = ev ∨ ∃ a, event' = { ev with authentication := a } ∧ a.sequence = ev.sequence := by
  rw [AuditJournalAuthority.authenticateEvent, seq_eq_ok] at h
  obtain ⟨_, h⟩ := h
  split at h
  · rw [seq_eq_ok, pure_eq_ok] at h
    exact .inl h.2.symm
  · cases h
    exact .inr ⟨_, rfl, rfl⟩

theorem insertEvent_eq_ok (h : insertEvent p j ev = .ok j') :
    j' = { j with auditEvents := j.auditEvents ++ [eventRowOf p ev] } := by
  rw [insertEvent, seq_eq_ok, pure_eq_ok] at h
  exact h.2.symm

variable {outcome : CancelOutcome} {resp : Except Err β} {record : AuditCancellationRecord β}

theorem ending_eq_ok (h : endCancellation p auth j c ev outcome resp = .ok (j', record)) :
    ∃ intent evs bytes, loadAuditExecutionTx p auth j c.envelopeHash "" = .ok (intent, evs) ∧
      intent.envelopeHash = c.envelopeHash ∧
      validateAuditExecutionHistory p auth intent (evs ++ [ev]) = .ok () ∧
      (0 < p.size bytes ∧ p.size bytes ≤ maxFrameBytes) ∧
      (c.requestHash ∉ j.requests.map RequestRow.requestHash ∧
        c.operationKey ∉ j.requests.map (·.request.operationKey)) ∧
      NoncesFresh j (cancelRequest c) ∧
      (∃ row ∈ j.cancellationIntents, row.intentHash = c.intentHash) ∧
      (∀ r ∈ j.cancellationOutcomes, r.intentHash ≠ c.intentHash) ∧
      j' = closedWith p j c ev outcome (cancellationCommit p c ev bytes) := by
  simp only [endCancellation, ok_iff] at h
  obtain ⟨⟨intent, evs⟩, hload, _, ⟨henv, _, _, _, _, hv⟩, bytes, _, _, hsize, _, h₁, _, h₂, _,
    h₃, _, h₄, h⟩ := h
  cases h
  obtain rfl := insertEvent_eq_ok h₁
  obtain ⟨hkeys, hn, rfl⟩ := commit_eq_ok h₂ h₃
  rw [insertOutcome, guard_eq_ok, pure_eq_ok] at h₄
  obtain ⟨⟨howned, hunique⟩, rfl⟩ := h₄
  exact ⟨intent, evs, bytes, hload, henv, hv, hsize, hkeys, hn, howned,
    fun r hr => (hunique r hr).1, rfl⟩

variable [DecidableEq β]

theorem insertion_eq_ok (h : insertAuditIntentTx p j intent = .ok j') :
    sealAuditExecutionIntent p intent = .ok intent ∧ (j' = j ∨
      intent.intentHash ∉ j.auditIntents.map AuditIntentRow.intentHash ∧
      intent.envelopeHash ∉ j.auditIntents.map AuditIntentRow.envelopeHash ∧
      j' = { j with auditIntents := j.auditIntents ++ [intentRowOf p intent] }) := by
  rw [insertAuditIntentTx, guard_eq_ok] at h
  obtain ⟨hs, h⟩ := h
  refine ⟨hs, ?_⟩
  cases hsel : select AuditIntentRow.envelopeHash intent.envelopeHash j.auditIntents with
  | some row =>
    rw [hsel, seq_eq_ok, pure_eq_ok] at h
    exact .inl h.2.symm
  | none =>
    rw [hsel, guard_eq_ok, pure_eq_ok] at h
    exact .inr ⟨h.1, select_eq_none.mp hsel, h.2.symm⟩

/-- The table of intents stays, or has one more that is sealed. -/
def Intends (p : Primitives β) (j : Journal β) (intents : List (AuditIntentRow β)) : Prop :=
  intents = j.auditIntents ∨ ∃ intent, sealAuditExecutionIntent p intent = .ok intent ∧
    intent.intentHash ∉ j.auditIntents.map AuditIntentRow.intentHash ∧
    intents = j.auditIntents ++ [intentRowOf p intent]

theorem intends_of_insertIntentTx (h : insertAuditIntentTx p j intent = .ok j') :
    ∃ intents, Intends p j intents ∧ j' = { j with auditIntents := intents } := by
  obtain ⟨hs, rfl | ⟨hfresh, _, rfl⟩⟩ := insertion_eq_ok h
  · exact ⟨_, .inl rfl, rfl⟩
  · exact ⟨_, .inr ⟨intent, hs, hfresh, rfl⟩, rfl⟩

theorem insertBuiltIntent_eq_ok {built : Option AuditExecutionIntent}
    (h : insertBuiltIntent p j built = .ok j') :
    ∃ intents, Intends p j intents ∧ j' = { j with auditIntents := intents } := by
  cases built with
  | none =>
    cases h
    exact ⟨_, .inl rfl, rfl⟩
  | some intent => exact intends_of_insertIntentTx h

theorem storeIntent_eq_ok (h : storeAuditIntent p auth j intent = .ok j') :
    (∃ entry, auth.resolveIntent intent = .ok entry) ∧ insertAuditIntentTx p j intent = .ok j' := by
  simp only [storeAuditIntent, ok_iff] at h
  obtain ⟨entry, hr, _, _, h⟩ := h
  exact ⟨⟨entry, hr⟩, h⟩

section transact

variable {req : ServerJournalRequest β}
  {build : Option (β → Except Err AuditExecutionIntent)} {resp : Except Err β} {now : Nat}
  {bytes : β} {seen : Bool}

theorem acceptRequest_eq_ok {bytes : β} {seen : Bool}
    (h : acceptRequest p j req build resp now = .ok (j', bytes, seen)) :
    resp = .ok bytes ∧ (0 < p.size bytes ∧ p.size bytes ≤ maxFrameBytes) ∧
      (req.requestHash ∉ j.requests.map RequestRow.requestHash ∧
        req.operationKey ∉ j.requests.map (·.request.operationKey)) ∧
      NoncesFresh j req ∧ ∃ built, buildIntent build bytes = .ok built ∧
        insertBuiltIntent p { j with
          requests := j.requests ++ [requestCommit p req bytes now]
          nonces := j.nonces ++ nonceRows req } built = .ok j' := by
  simp only [acceptRequest, ok_iff] at h
  obtain ⟨_, _, _, _, _, hans, _, hsize, built, hbuilt, _, h₁, _, h₂, _, h₃, h⟩ := h
  cases h
  obtain ⟨hkeys, hfresh, rfl⟩ := commit_eq_ok h₁ h₂
  exact ⟨hans, hsize, hkeys, hfresh, built, hbuilt, h₃⟩

theorem transact_eq_ok (h : transact p auth j req build resp now = .ok (j', bytes, seen)) :
    (∃ replay, (∃ row ∈ j.requests, row.request = req ∧ row.responseBytes = bytes) ∧
      j' = { j with replays := j.replays ++ [replay] }) ∨
    ∃ row intents, row.request = req ∧ row.responseBytes = bytes ∧ resp = .ok bytes ∧
      (row.requestHash ∉ j.requests.map RequestRow.requestHash ∧
        row.request.operationKey ∉ j.requests.map (·.request.operationKey)) ∧
      NoncesFresh j row.request ∧ Intends p j intents ∧ j' = { j with
        requests := j.requests ++ [row], nonces := j.nonces ++ nonceRows row.request
        auditIntents := intents } := by
  rw [transact, seq_eq_ok, seq_eq_ok] at h
  obtain ⟨_, _, h⟩ := h
  cases hsel : select RequestRow.requestHash req.requestHash j.requests with
  | some row =>
    rw [hsel] at h
    dsimp only at h
    rw [replayRequest, guard_eq_ok, pure_eq_ok] at h
    obtain ⟨hreq, h⟩ := h
    cases h
    exact .inl ⟨_, ⟨row, List.mem_of_find?_eq_some hsel, hreq, rfl⟩, rfl⟩
  | none =>
    rw [hsel] at h
    obtain ⟨hans, _, hkeys, hfresh, _, _, hins⟩ := acceptRequest_eq_ok h
    obtain ⟨intents, hintents, rfl⟩ := insertBuiltIntent_eq_ok hins
    exact .inr ⟨requestCommit p req bytes now, intents, rfl, rfl, hans, hkeys, hfresh,
      hintents, rfl⟩

end transact

theorem appendEvent_eq_ok (h : appendAuditEvent p auth j ev = .ok j') :
    ∃ event' intent evs, auth.authenticateEvent p ev = .ok event' ∧
      loadAuditExecutionTx p auth j "" event'.intentHash = .ok (intent, evs) ∧
      ¬ Fenced j intent.envelopeHash ∧
      (j' = j ∨ validateAuditExecutionHistory p auth intent (evs ++ [event']) = .ok () ∧
        j' = { j with auditEvents := j.auditEvents ++ [eventRowOf p event'] }) := by
  simp only [appendAuditEvent, ok_iff] at h
  obtain ⟨_, _, event', hauth, _, _, ⟨intent, evs⟩, hload, _, _, _, hfence, _, _, h⟩ := h
  refine ⟨event', intent, evs, hauth, hload, hfence, ?_⟩
  unfold extendHistory at h
  split at h
  · rw [seq_eq_ok, pure_eq_ok] at h
    exact .inl h.2.symm
  · rw [seq_eq_ok, seq_eq_ok] at h
    exact .inr ⟨h.2.1, insertEvent_eq_ok h.2.2⟩

theorem request_eq_ok (h : requestAuditCancellation p auth j c = .ok (j', record)) :
    CancelSealed p c ∧ (j' = j ∨ ¬ CancellationConflict j c ∧ ∃ intent evs,
      loadAuditExecutionTx p auth j c.envelopeHash "" = .ok (intent, evs) ∧
      (intent.handoffID = c.handoffID ∧ intent.receiptHash = c.receiptHash ∧
        c.attempt ≤ intent.attemptCap) ∧ Cancellable evs c ∧
      (∀ row ∈ j.cancellationIntents, row.intentHash ≠ c.intentHash ∧
        row.requestHash ≠ c.requestHash ∧ row.envelopeHash ≠ c.envelopeHash) ∧
      j' = { j with cancellationIntents := j.cancellationIntents ++ [cancelRowOf p c] }) := by
  rw [requestAuditCancellation, guard_eq_ok, seq_eq_ok, bind_eq_ok] at h
  obtain ⟨hs, _, found, _, h⟩ := h
  refine ⟨hs, ?_⟩
  cases found with
  | some old =>
    rw [seq_eq_ok] at h
    cases h.2
    exact .inl rfl
  | none =>
    simp only [acceptCancellation, insertCancellation, ok_iff] at h
    obtain ⟨_, hfree, ⟨intent, evs⟩, hload, _, hbound, _, hcan, _, ⟨_, hfresh, rfl⟩, h⟩ := h
    cases h
    refine .inr ⟨hfree, intent, evs, hload, hbound, hcan, fun row hrow => ?_, rfl⟩
    obtain ⟨h1, h2, _, _, _, _, h7, _⟩ := hfresh row hrow
    exact ⟨h1, h2, h7⟩

theorem complete_eq_ok
    (h : completeAuditCancellation p auth j c ev outcome resp = .ok (j', record)) :
    (CancelSealed p c ∧ ev.state = outcome.auditState) ∧
      validateServerJournalContent p auth j = .ok () ∧
      ∃ event' old, auth.authenticateEvent p ev = .ok event' ∧
      loadAuditCancellationTx p auth j c.requestHash "" = .ok (some old) ∧
      sameAuditCancellationRequest old.intent c ∧
      (old.state ≠ .requested ∧ j' = j ∨ old.state = .requested ∧
        endCancellation p auth j c event' outcome resp = .ok (j', record)) := by
  simp only [completeAuditCancellation, ok_iff] at h
  obtain ⟨_, ⟨hs, _, hstate⟩, event', hauth, _, hvalid, _, hfound, old, rfl, _, hsame, h⟩ := h
  refine ⟨⟨hs, hstate⟩, hvalid, event', old, hauth, hfound, hsame, ?_⟩
  split at h
  next hended =>
    rw [seq_eq_ok] at h
    cases h.2
    exact .inl ⟨hended, rfl⟩
  next hopen => exact .inr ⟨not_not.mp hopen, h⟩

end Ananke.TrustedSupervisor
