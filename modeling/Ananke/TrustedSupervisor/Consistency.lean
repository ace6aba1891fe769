import Ananke.Machine.Run
import Ananke.TrustedSupervisor.Telling

/-! The journal stays readable. What each operation writes passes the checks that every
later operation makes first, as long as the operations are careful where the journal
itself is not. -/
namespace Ananke.TrustedSupervisor

open Text Validation Relational List

variable {β : Type} {p : Primitives β} {auth : AuditJournalAuthority} {j j' : Journal β}

section requests

/-- The tables of requests: each used up its nonces, and only committed ones are replayed. -/
structure Requests (p : Primitives β) (j : Journal β) : Prop where
  valid : ∀ row ∈ j.requests, RowValid p row
  nonces : j.nonces = j.requests.flatMap fun row => nonceRows row.request
  fresh : (j.nonces.map NonceRow.nonceHash).Nodup
  replays : ∀ row ∈ j.replays, ReplayValid p j row

theorem foldl_putNonce {rows m : List NonceRow}
    (h : ((m ++ rows).map NonceRow.nonceHash).Nodup) : rows.foldl putNonce m = m ++ rows := by
  induction rows generalizing m with
  | nil => simp
  | cons row rows ih =>
    have hkeep : m.filter (fun r => r.nonceHash ≠ row.nonceHash) = m := by
      rw [filter_eq_self]
      intro r hr
      rw [map_append, nodup_append] at h
      simpa using h.2.2 r.nonceHash (mem_map_of_mem hr) row.nonceHash (by simp)
    rw [foldl_cons, putNonce, hkeep, ih (by simpa using h)]
    simp

theorem Requests.expected (h : Requests p j) : expectedNonces j = j.nonces := by
  have hn := h.nonces ▸ h.fresh
  rw [expectedNonces, foldl_putNonce (by simpa using hn), nil_append, ← h.nonces]

theorem Requests.checkNonces (h : Requests p j) : checkNonces j = .ok () := by
  rw [TrustedSupervisor.checkNonces, h.expected, seq_eq_ok, each_eq_ok, require_eq_ok]
  exact ⟨fun row hrow => require_eq_ok.mpr hrow, fun row hrow => mem_map_of_mem hrow⟩

theorem Requests.frame (h : Requests p j) (hr : j'.requests = j.requests)
    (hn : j'.nonces = j.nonces) (hp : j'.replays = j.replays) : Requests p j' where
  valid := hr ▸ h.valid
  nonces := by rw [hn, hr, h.nonces]
  fresh := hn ▸ h.fresh
  replays row hrow := by
    have := h.replays row (hp ▸ hrow)
    simpa [ReplayValid, hr] using this

variable {row : RequestRow β}

theorem ReplayValid.append {replay : ReplayRow} (h : ReplayValid p j replay)
    (hr : j'.requests = j.requests ++ [row]) : ReplayValid p j' replay := by
  obtain ⟨h1, ht, req, hs, hb⟩ := h
  exact ⟨h1, ht, req, hr ▸ select_snoc_some hs, hb⟩

theorem Requests.commit (h : Requests p j) (hv : RowValid p row)
    (hn : ((nonceRows row.request).map NonceRow.nonceHash).Nodup ∧
      ∀ r ∈ nonceRows row.request, r.nonceHash ∉ j.nonces.map NonceRow.nonceHash)
    (hr : j'.requests = j.requests ++ [row]) (hnon : j'.nonces = j.nonces ++ nonceRows row.request)
    (hrep : j'.replays = j.replays) : Requests p j' where
  valid := hr ▸ forall_snoc.mpr ⟨h.valid, hv⟩
  nonces := by rw [hnon, hr, h.nonces]; simp
  fresh := by
    rw [hnon, map_append, nodup_append]
    refine ⟨h.fresh, hn.1, ?_⟩
    rintro a ha b hb rfl
    obtain ⟨r, hmem, rfl⟩ := mem_map.mp hb
    exact hn.2 r hmem ha
  replays r hmem := (h.replays r (hrep ▸ hmem)).append hr

theorem Requests.replay (h : Requests p j) {replay : ReplayRow} (hv : ReplayValid p j replay) :
    Requests p { j with replays := j.replays ++ [replay] } where
  valid := h.valid
  nonces := h.nonces
  fresh := h.fresh
  replays := forall_snoc.mpr ⟨h.replays, hv⟩

end requests

section executions

variable {intent intent' : AuditExecutionIntent} {evs events' : List AuditExecutionEvent}
  {ev : AuditExecutionEvent}

theorem Executions.frame (h : Executions p auth j) (hi : j'.auditIntents = j.auditIntents)
    (he : j'.auditEvents = j.auditEvents) : Executions p auth j' where
  told row hrow := by
    obtain ⟨intent, evs, rfl, ht⟩ := h.told row (hi ▸ hrow)
    exact ⟨intent, evs, rfl, ht.frame hi he⟩
  intentHashes := hi ▸ h.intentHashes
  envelopeHashes := hi ▸ h.envelopeHashes
  owned row hrow := hi ▸ h.owned row (he ▸ hrow)

theorem Told.intend (h : Told p auth j intent evs)
    (hi : j'.auditIntents = j.auditIntents ++ [intentRowOf p intent'])
    (he : j'.auditEvents = j.auditEvents) : Told p auth j' intent evs where
  row := by rw [hi]; exact mem_append_left _ h.row
  rows := he ▸ h.rows
  exact := h.exact
  valid := h.valid

theorem Executions.intend (h : Executions p auth j)
    (hs : sealAuditExecutionIntent p intent' = .ok intent') {entry : ExecutionPolicyEntry}
    (hr : auth.resolveIntent intent' = .ok entry)
    (hfresh : intent'.intentHash ∉ j.auditIntents.map AuditIntentRow.intentHash)
    (hfresh' : intent'.envelopeHash ∉ j.auditIntents.map AuditIntentRow.envelopeHash)
    (hi : j'.auditIntents = j.auditIntents ++ [intentRowOf p intent'])
    (he : j'.auditEvents = j.auditEvents) : Executions p auth j' where
  told row hrow := by
    rw [hi] at hrow
    rcases mem_append.mp hrow with hrow | hrow
    · obtain ⟨intent, evs, rfl, ht⟩ := h.told row hrow
      exact ⟨intent, evs, rfl, ht.intend hi he⟩
    · refine ⟨intent', [], mem_singleton.mp hrow, ?_, ?_, by simp, ?_⟩
      · rw [hi]
        simp
      · rw [he, map_nil]
        exact rowsOf_eq_nil fun r hr hh => hfresh (hh ▸ h.owned r hr)
      · exact history_eq_ok.mpr ⟨hs, entry, hr, rfl⟩
  intentHashes := hi ▸ nodup_snoc h.intentHashes hfresh
  envelopeHashes := hi ▸ nodup_snoc h.envelopeHashes hfresh'
  owned row hrow := by
    rw [hi, map_append]
    exact mem_append_left _ (h.owned row (he ▸ hrow))

variable (ht : Told p auth j intent evs) (hi : j'.auditIntents = j.auditIntents)
  (he : j'.auditEvents = j.auditEvents ++ [eventRowOf p ev])

include ht hi he

theorem Told.append_of_ne (hne : ev.intentHash ≠ intent.intentHash) :
    Told p auth j' intent evs where
  row := hi ▸ ht.row
  rows := by
    have hrow : (eventRowOf p ev).intentHash ≠ intent.intentHash := hne
    rw [he, rowsOf_snoc_ne hrow, ht.rows]
  exact := ht.exact
  valid := ht.valid

variable (hx : ev.Exact) (hv : Accepted p auth intent (evs ++ [ev]))

include hx hv

theorem Told.append : Told p auth j' intent (evs ++ [ev]) where
  row := hi ▸ ht.row
  rows := by
    have hrow : (eventRowOf p ev).intentHash = intent.intentHash := intentHash_append hv
    rw [he, rowsOf_snoc hrow, ht.rows, map_append]
    rfl
  exact := forall_snoc.mpr ⟨ht.exact, hx⟩
  valid := hv

theorem Executions.append (h : Executions p auth j) (hp : p.Lawful) : Executions p auth j' where
  told row hrow := by
    obtain ⟨intent', events', rfl, ht'⟩ := h.told row (hi ▸ hrow)
    have hev := intentHash_append hv
    by_cases heq : intent'.intentHash = intent.intentHash
    · obtain ⟨rfl, rfl⟩ := h.unique hp ht' ht heq
      exact ⟨intent', _, rfl, ht'.append hi he hx hv⟩
    · exact ⟨intent', events', rfl, ht'.append_of_ne hi he fun hh => heq (hh.symm.trans hev)⟩
  intentHashes := hi ▸ h.intentHashes
  envelopeHashes := hi ▸ h.envelopeHashes
  owned := by
    rw [hi, he]
    exact forall_snoc.mpr ⟨h.owned, mem_map.mpr ⟨_, ht.row, (intentHash_append hv).symm⟩⟩

end executions

section cancellations

variable {c : AuditCancellationIntent β} {outcome : OutcomeRow β}

section

variable (p : Primitives β) (auth : AuditJournalAuthority) (j : Journal β)

/-- The cancellation is in the journal and has not ended. -/
structure Pending (c : AuditCancellationIntent β) : Prop where
  row : cancelRowOf p c ∈ j.cancellationIntents
  exact : c.Exact
  sealed : sealAuditCancellationIntent p c = .ok c
  outcome : select OutcomeRow.intentHash c.intentHash j.cancellationOutcomes = none

/-- The execution is as it was when the cancellation was asked for. -/
structure Asked (c : AuditCancellationIntent β) (intent : AuditExecutionIntent)
    (events : List AuditExecutionEvent) : Prop where
  told : Told p auth j intent events
  envelopeHash : intent.envelopeHash = c.envelopeHash
  handoffID : intent.handoffID = c.handoffID
  receiptHash : intent.receiptHash = c.receiptHash
  attempt : c.attempt ≤ intent.attemptCap
  cancellable : Cancellable events c

/-- The execution ended with the cancellation. -/
structure Ended (c : AuditCancellationIntent β) (row : OutcomeRow β)
    (intent : AuditExecutionIntent) (events : List AuditExecutionEvent)
    (terminal : AuditExecutionEvent) : Prop where
  told : Told p auth j intent (events ++ [terminal])
  envelopeHash : intent.envelopeHash = c.envelopeHash
  state : terminal.state = row.outcome.auditState
  eventHash : terminal.eventHash = row.auditEventHash
  occurredAt : terminal.occurredAt = row.completedAt
  attempt : terminal.attempt = c.attempt
  response : row.responseBytesHash = p.hashJournalBytes row.responseBytes ∧
    0 < p.size row.responseBytes ∧ p.size row.responseBytes ≤ maxFrameBytes
  bound : RequestBinds j c.requestHash
    ⟨c, row.outcome.state, some row.outcome, some row.responseBytes⟩

/-- A cancellation waits for its outcome or has it. -/
def Settled (c : AuditCancellationIntent β) : Prop :=
  match select OutcomeRow.intentHash c.intentHash j.cancellationOutcomes with
  | none => ∃ intent evs, Asked p auth j c intent evs
  | some row => ∃ intent evs term, Ended p auth j c row intent evs term

/-- The tables of cancellations. -/
structure Cancellations : Prop where
  settled : ∀ row ∈ j.cancellationIntents, ∃ c, row = cancelRowOf p c ∧ c.Exact ∧
    sealAuditCancellationIntent p c = .ok c ∧ Settled p auth j c
  requestHashes : (j.cancellationIntents.map CancelIntentRow.requestHash).Nodup
  intentHashes : (j.cancellationIntents.map CancelIntentRow.intentHash).Nodup
  envelopeHashes : (j.cancellationIntents.map CancelIntentRow.envelopeHash).Nodup
  owned : ∀ row ∈ j.cancellationOutcomes,
    row.intentHash ∈ j.cancellationIntents.map CancelIntentRow.intentHash

end

theorem cancelRowOf_inj (hp : p.Lawful) {c c' : AuditCancellationIntent β} (hc : c.Exact)
    (hc' : c'.Exact) (h : cancelRowOf p c = cancelRowOf p c') : c = c' := by
  have hb := congrArg (fun row => p.decodeCancel row.intentBytes) h
  simp only [cancelRowOf] at hb
  rw [hp.cancellation hc, hp.cancellation hc'] at hb
  exact Option.some.inj hb

/-- What a change of the other tables must keep for the cancellation to stay settled. -/
theorem Settled.mono (h : Settled p auth j c)
    (ht : ∀ intent evs, intent.envelopeHash = c.envelopeHash →
      Told p auth j intent evs → Told p auth j' intent evs)
    (hr : ∀ row, select RequestRow.requestHash c.requestHash j.requests = some row →
      select RequestRow.requestHash c.requestHash j'.requests = some row)
    (ho : select OutcomeRow.intentHash c.intentHash j'.cancellationOutcomes =
      select OutcomeRow.intentHash c.intentHash j.cancellationOutcomes) :
    Settled p auth j' c := by
  unfold Settled at h ⊢
  rw [ho]
  cases hs : select OutcomeRow.intentHash c.intentHash j.cancellationOutcomes with
  | none =>
    rw [hs] at h
    obtain ⟨intent, evs, ha⟩ := h
    exact ⟨intent, evs, { ha with told := ht _ _ ha.envelopeHash ha.told }⟩
  | some row =>
    rw [hs] at h
    obtain ⟨intent, evs, term, he⟩ := h
    obtain ⟨req, hsel, hbind⟩ := he.bound
    exact ⟨intent, evs, term, { he with
      told := ht _ _ he.envelopeHash he.told
      bound := ⟨req, hr _ hsel, hbind⟩ }⟩

theorem Cancellations.mono (h : Cancellations p auth j)
    (hc : j'.cancellationIntents = j.cancellationIntents)
    (ho : j'.cancellationOutcomes = j.cancellationOutcomes)
    (hs : ∀ c, cancelRowOf p c ∈ j.cancellationIntents → Settled p auth j c →
      Settled p auth j' c) : Cancellations p auth j' where
  settled row hrow := by
    have hmem := hc ▸ hrow
    obtain ⟨c, rfl, hx, hseal, hset⟩ := h.settled row hmem
    exact ⟨c, rfl, hx, hseal, hs c hmem hset⟩
  requestHashes := hc ▸ h.requestHashes
  intentHashes := hc ▸ h.intentHashes
  envelopeHashes := hc ▸ h.envelopeHashes
  owned row hrow := hc ▸ h.owned row (ho ▸ hrow)

theorem Ended.checkOutcome {intent : AuditExecutionIntent} {evs : List AuditExecutionEvent}
    {term : AuditExecutionEvent} (h : Ended p auth j c outcome intent evs term)
    (hx : Executions p auth j) (hp : p.Lawful) :
    checkOutcome p auth j c outcome = .ok () := by
  have hmem : term ∈ evs ++ [term] := by simp
  obtain ⟨⟨hev, _⟩, hhash⟩ :=
    event_eq_ok.mp (sealed_of_valid h.told.valid hmem).1
  have hpat : protocolHashPattern outcome.auditEventHash = true := by
    rw [← h.eventHash, ← hhash]
    exact hp.hash _
  have htime : validServerJournalTimestamp p outcome.completedAt = true := by
    obtain ⟨_, _, _, _, _, _, _, _, _, _, _, ht, _⟩ := hev
    exact h.occurredAt ▸ ht
  have hload := hx.load hp h.told
  rw [h.envelopeHash] at hload
  simp only [TrustedSupervisor.checkOutcome, ok_iff]
  exact ⟨(), ⟨hpat, h.response.1, h.response.2.1, h.response.2.2, htime⟩, _, hload, (),
    h.envelopeHash, term, by simp, h.state, h.eventHash, h.occurredAt, h.attempt⟩

/-- The record of a cancellation, as its outcome tells it. -/
def recordTold (j : Journal β) (c : AuditCancellationIntent β) : AuditCancellationRecord β :=
  match select OutcomeRow.intentHash c.intentHash j.cancellationOutcomes with
  | none => ⟨c, .requested, none, none⟩
  | some row => ⟨c, row.outcome.state, some row.outcome, some row.responseBytes⟩

@[simp] theorem recordTold_intent : (recordTold j c).intent = c := by
  unfold recordTold
  split <;> rfl

theorem recordTold_state : (recordTold j c).state = .requested ↔
    select OutcomeRow.intentHash c.intentHash j.cancellationOutcomes = none := by
  unfold recordTold
  split
  next h => simp [h]
  next row h => cases row.outcome <;> simp [h, CancelOutcome.state]

theorem Settled.recordOf (h : Settled p auth j c) (hx : Executions p auth j)
    (hp : p.Lawful) : recordOf p auth j c = .ok (recordTold j c) := by
  unfold Settled at h
  unfold TrustedSupervisor.recordOf recordTold
  cases hs : select OutcomeRow.intentHash c.intentHash j.cancellationOutcomes with
  | none => rfl
  | some row =>
    rw [hs] at h
    obtain ⟨_, _, _, he⟩ := h
    exact seq_eq_ok.mpr ⟨he.checkOutcome hx hp, rfl⟩

theorem Settled.requestBinds (h : Settled p auth j c)
    (hs : (recordTold j c).state ≠ .requested) : RequestBinds j c.requestHash (recordTold j c) := by
  unfold Settled at h
  rw [ne_eq, recordTold_state] at hs
  cases ho : select OutcomeRow.intentHash c.intentHash j.cancellationOutcomes with
  | none => exact absurd ho hs
  | some row =>
    rw [ho] at h
    obtain ⟨_, _, _, he⟩ := h
    simpa only [recordTold, ho] using he.bound

theorem requestHash_of_sealed (h : sealAuditCancellationIntent p c = .ok c) :
    protocolHashPattern c.requestHash = true := by
  obtain ⟨⟨_, _, _, _, _, _, _, _, _, _, _, hhashes, _⟩, _⟩ :=
    sealing_eq_ok.mp h
  exact hhashes _ (by simp)

variable [DecidableEq β]

section

variable (h : Cancellations p auth j) (hx : Executions p auth j) (hp : p.Lawful)
include h hx hp

variable {row : CancelIntentRow β}

theorem Cancellations.load_of_row {requestHash envelopeHash : String}
    (hrow : j.cancelRow requestHash envelopeHash = some row) :
    ∃ c, row = cancelRowOf p c ∧ c.Exact ∧ sealAuditCancellationIntent p c = .ok c ∧
      Settled p auth j c ∧ loadAuditCancellationTx p auth j requestHash envelopeHash =
        .ok (some (recordTold j c)) := by
  have hmem : row ∈ j.cancellationIntents := by
    unfold Journal.cancelRow at hrow
    split at hrow <;> exact mem_of_find?_eq_some hrow
  obtain ⟨c, rfl, hc, hs, hset⟩ := h.settled row hmem
  refine ⟨c, rfl, hc, hs, hset, ?_⟩
  simp only [loadAuditCancellationTx, hrow, readCancellation_rowOf hp hc hs, ok_bind,
    hset.recordOf hx hp]
  rfl

theorem Cancellations.load (hrow : row ∈ j.cancellationIntents) :
    ∃ c, row = cancelRowOf p c ∧ c.Exact ∧ sealAuditCancellationIntent p c = .ok c ∧
      Settled p auth j c ∧
      loadAuditCancellationTx p auth j row.requestHash "" = .ok (some (recordTold j c)) :=
  h.load_of_row hx hp (select_of_mem h.requestHashes hrow)

theorem Cancellations.checkCancellation (hrow : row ∈ j.cancellationIntents) :
    checkCancellation p auth j row.requestHash = .ok () := by
  obtain ⟨_, rfl, _, _, hset, hload⟩ := h.load hx hp hrow
  rw [TrustedSupervisor.checkCancellation, bind_eq_ok]
  refine ⟨_, mapError_eq_ok.mpr hload, ?_⟩
  simp only [expect, ok_bind, select_of_mem h.requestHashes hrow]
  rw [guard_eq_ok, require_eq_ok, recordTold_intent]
  exact ⟨⟨rfl, rfl, rfl, rfl, rfl, rfl, rfl, rfl⟩, hset.requestBinds⟩

theorem Cancellations.validate : validateAuditCancellationContent p auth j = .ok () := by
  rw [validateAuditCancellationContent, seq_eq_ok, each_eq_ok, each_eq_ok]
  constructor
  · intro requestHash hmem
    obtain ⟨row, hrow, rfl⟩ := mem_map.mp hmem
    obtain ⟨_, rfl, _, hs, _⟩ := h.settled row hrow
    exact require_eq_ok.mpr (requestHash_of_sealed hs)
  · intro requestHash hmem
    obtain ⟨_, hrow, rfl⟩ := mem_map.mp hmem
    exact h.checkCancellation hx hp hrow

end

end cancellations

/-- The invariant of the journal. -/
structure Sound (p : Primitives β) (authority : AuditJournalAuthority) (j : Journal β) : Prop where
  requests : Requests p j
  executions : Executions p authority j
  cancellations : Cancellations p authority j

theorem Sound.empty : Sound p auth {} where
  requests := ⟨by simp, by simp, by simp, by simp⟩
  executions := ⟨by simp, by simp, by simp, by simp⟩
  cancellations := ⟨by simp, by simp, by simp, by simp, by simp⟩

theorem Sound.validate [DecidableEq β] (h : Sound p auth j) (hp : p.Lawful) :
    validateServerJournalContent p auth j = .ok () := by
  rw [validateServerJournalContent, seq_eq_ok, each_eq_ok, seq_eq_ok, seq_eq_ok, each_eq_ok,
    seq_eq_ok]
  exact ⟨fun row hrow => require_eq_ok.mpr (h.requests.valid row hrow), h.requests.checkNonces,
    fun row hrow => require_eq_ok.mpr (h.requests.replays row hrow),
    h.executions.validate hp, h.cancellations.validate h.executions hp⟩

end Ananke.TrustedSupervisor
