import Ananke.TrustedSupervisor.Operation

/-! What the journal tells: reading back an execution or a cancellation gives what was
written. -/
namespace Ananke.TrustedSupervisor

open Text Validation Relational List

variable {β : Type} {p : Primitives β} {auth : AuditJournalAuthority}

section history

variable {intent : AuditExecutionIntent} {entry : ExecutionPolicyEntry}
  {prev : Option AuditExecutionEvent} {index : Nat} {ev : AuditExecutionEvent}
  {evs : List AuditExecutionEvent}

theorem checked_eq_ok : checkEvent p auth intent entry prev index ev = .ok () ↔
    auth.verifyEvent ev = .ok () ∧ PolicyBound p intent entry index ev ∧
    checkPlace p prev ev = .ok () ∧ checkProcessTimes p ev = .ok () ∧
    checkEvidence p intent entry ev = .ok () := by
  simp [checkEvent, seq_eq_ok]

theorem checkEvents_append : checkEvents p auth intent entry prev index (evs ++ [ev]) = .ok () ↔
      checkEvents p auth intent entry prev index evs = .ok () ∧
      checkEvent p auth intent entry (evs.getLast?.or prev) (index + evs.length) ev = .ok () := by
  induction evs generalizing prev index with
  | nil => simp [checkEvents, seq_eq_ok]
  | cons e evs ih =>
    have hlast : (e :: evs).getLast?.or prev = evs.getLast?.or (some e) := by
      rw [List.getLast?_cons]
      cases evs.getLast? <;> simp
    rw [cons_append, checkEvents, seq_eq_ok, ih, checkEvents, seq_eq_ok, hlast,
      length_cons, show index + 1 + evs.length = index + (evs.length + 1) by omega,
      and_assoc]

/-- The journal accepts the history of an execution. -/
abbrev Accepted (p : Primitives β) (auth : AuditJournalAuthority)
    (intent : AuditExecutionIntent) (evs : List AuditExecutionEvent) : Prop :=
  validateAuditExecutionHistory p auth intent evs = .ok ()

theorem history_eq_ok : validateAuditExecutionHistory p auth intent evs = .ok () ↔
      sealAuditExecutionIntent p intent = .ok intent ∧ ∃ entry,
        auth.resolveIntent intent = .ok entry ∧
        checkEvents p auth intent entry none 0 evs = .ok () := by
  rw [validateAuditExecutionHistory, guard_eq_ok, bind_eq_ok]

theorem history_append : validateAuditExecutionHistory p auth intent (evs ++ [ev]) = .ok () ↔
      Accepted p auth intent evs ∧ ∃ entry, auth.resolveIntent intent = .ok entry ∧
        checkEvent p auth intent entry evs.getLast? evs.length ev = .ok () := by
  simp only [history_eq_ok, checkEvents_append, Option.or_none, Nat.zero_add]
  constructor
  · rintro ⟨hs, entry, hr, hc, he⟩
    exact ⟨⟨hs, entry, hr, hc⟩, entry, hr, he⟩
  · rintro ⟨⟨hs, entry, hr, hc⟩, entry', hr', he⟩
    obtain rfl : entry = entry' := by simpa [hr] using hr'
    exact ⟨hs, entry, hr, hc, he⟩

theorem policyBound_of_events
    (h : checkEvents p auth intent entry prev index evs = .ok ()) {i : Nat}
    (hi : i < evs.length) : PolicyBound p intent entry (index + i) evs[i] := by
  induction evs generalizing prev index i with
  | nil => simp at hi
  | cons e evs ih =>
    rw [checkEvents, seq_eq_ok, checked_eq_ok] at h
    cases i with
    | zero => exact h.1.2.1
    | succ i =>
      have hi' : i < evs.length := by simpa using hi
      have := ih h.2 hi'
      rwa [show index + 1 + i = index + (i + 1) by omega] at this

section

variable (h : Accepted p auth intent evs)
include h

theorem policyBound_of_valid {i : Nat}
    (hi : i < evs.length) : ∃ entry, PolicyBound p intent entry i evs[i] := by
  obtain ⟨_, entry, _, hc⟩ := history_eq_ok.mp h
  exact ⟨entry, by simpa using policyBound_of_events hc hi⟩

theorem seq_of_valid {i : Nat} (hi : i < evs.length) : evs[i].sequence = i + 1 := by
  obtain ⟨_, _, _, hs, _⟩ := policyBound_of_valid h hi
  exact hs

theorem sealed_of_valid (he : ev ∈ evs) :
    sealAuditExecutionEvent p ev = .ok ev ∧ ev.intentHash = intent.intentHash := by
  obtain ⟨_, hi, rfl⟩ := getElem_of_mem he
  obtain ⟨_, hs, hh, _⟩ := policyBound_of_valid h hi
  exact ⟨hs, hh⟩

end

theorem intentHash_append (h : Accepted p auth intent (evs ++ [ev])) :
    ev.intentHash = intent.intentHash := by
  have hmem : ev ∈ evs ++ [ev] := by simp
  exact (sealed_of_valid h hmem).2

theorem not_ended_of_append (h : Accepted p auth intent (evs ++ [ev]))
    {last : AuditExecutionEvent} (hl : evs.getLast? = some last) :
    last.state = .prepared ∨ last.state = .running ∨ last.state = .finalizing ∨
      last.state = .timedOut := by
  obtain ⟨_, _, _, he⟩ := history_append.mp h
  obtain ⟨_, _, hp, _⟩ := checked_eq_ok.mp he
  rw [hl, checkPlace, checkSuccessor, guard_eq_ok] at hp
  have ht := hp.1.2
  revert ht
  unfold validExactAuditTransition
  cases last.state <;> simp

end history

section reading

variable {intent : AuditExecutionIntent} {ev : AuditExecutionEvent}
  {cancel : AuditCancellationIntent β}

theorem exact_of_sealed (h : sealAuditExecutionIntent p intent = .ok intent) : intent.Exact := by
  obtain ⟨⟨_, _, _, _, _, _, _, _⟩, _⟩ := intent_eq_ok.mp h
  unfold AuditExecutionIntent.Exact ExactInt
  omega

theorem readIntent_rowOf (hp : p.Lawful) (h : sealAuditExecutionIntent p intent = .ok intent) :
    readIntent p (intentRowOf p intent) = .ok intent := by
  have hd : p.decodeIntent (intentRowOf p intent).intentBytes = some intent :=
    hp.intent (exact_of_sealed h)
  simp only [readIntent, ok_iff, hd]
  exact ⟨(), rfl, intent, rfl, (), h, rfl⟩

theorem readEvent_eventRowOf (hp : p.Lawful) (hx : ev.Exact)
    (h : sealAuditExecutionEvent p ev = .ok ev) :
    readEvent p (eventRowOf p ev) = .ok ev := by
  have hd : p.decodeEvent (eventRowOf p ev).eventBytes = some ev := hp.event hx
  simp only [readEvent, ok_iff, hd]
  exact ⟨(), rfl, ev, rfl, (), h, rfl⟩

theorem readCancellation_rowOf [DecidableEq β] (hp : p.Lawful) (hx : cancel.Exact)
    (h : sealAuditCancellationIntent p cancel = .ok cancel) :
    readCancellation p (cancelRowOf p cancel) = .ok cancel := by
  have hd : p.decodeCancel (cancelRowOf p cancel).intentBytes =
    some cancel := hp.cancellation hx
  have hs : CancelSealed p cancel := by simp [CancelSealed, h, equalAuditCancellationIntent]
  simp only [readCancellation, ok_iff, hd]
  exact ⟨(), rfl, cancel, rfl, (), hs, rfl⟩

end reading

/-- The journal tells the execution of an intent by the events. -/
structure Told (p : Primitives β) (authority : AuditJournalAuthority) (j : Journal β)
    (intent : AuditExecutionIntent) (events : List AuditExecutionEvent) : Prop where
  row : intentRowOf p intent ∈ j.auditIntents
  rows : rowsOf AuditEventRow.intentHash intent.intentHash j.auditEvents = events.map (eventRowOf p)
  exact : ∀ event ∈ events, event.Exact
  valid : validateAuditExecutionHistory p authority intent events = .ok ()

variable {j j' : Journal β} {intent intent' : AuditExecutionIntent}
  {evs events' : List AuditExecutionEvent} {ev : AuditExecutionEvent}

section

variable (h : Told p auth j intent evs)
include h

theorem Told.sealed : sealAuditExecutionIntent p intent = .ok intent :=
  (history_eq_ok.mp h.valid).1

theorem Told.frame (hi : j'.auditIntents = j.auditIntents) (he : j'.auditEvents = j.auditEvents) :
    Told p auth j' intent evs where
  row := hi ▸ h.row
  rows := he ▸ h.rows
  exact := h.exact
  valid := h.valid

theorem Told.eventRows : j.eventRows intent.intentHash = evs.map (eventRowOf p) := by
  rw [Journal.eventRows, h.rows]
  refine List.Pairwise.insertionSort_eq ?_
  rw [pairwise_map, pairwise_iff_getElem]
  intro i k hi hk hik
  have hsi := seq_of_valid h.valid hi
  have hsk := seq_of_valid h.valid hk
  simp only [eventRowOf]
  omega

end

theorem hash_ne_empty {hash : String} (h : protocolHashPattern hash = true) : hash ≠ "" := by
  rintro rfl
  revert h
  decide

theorem envelope_of_sealed (h : sealAuditExecutionIntent p intent = .ok intent) :
    protocolHashPattern intent.envelopeHash = true := by
  obtain ⟨⟨_, _, _, _, _, _, _, _, _, _, hhashes⟩, _⟩ := intent_eq_ok.mp h
  exact hhashes _ (by simp)

theorem intentHash_ne_empty (hp : p.Lawful)
    (h : sealAuditExecutionIntent p intent = .ok intent) : intent.intentHash ≠ "" :=
  (intent_eq_ok.mp h).2 ▸ hash_ne_empty (hp.hash _)

variable {envelopeHash intentHash : String}

theorem Told.load_of_row (hp : p.Lawful) (h : Told p auth j intent evs)
    (hrow : j.intentRow envelopeHash intentHash = some (intentRowOf p intent)) :
    loadAuditExecutionTx p auth j envelopeHash intentHash = .ok (intent, evs) := by
  have hread : ∀ ev ∈ evs, readEvent p (eventRowOf p ev) = .ok ev :=
    fun ev he => readEvent_eventRowOf hp (h.exact ev he) (sealed_of_valid h.valid he).1
  simp only [loadAuditExecutionTx, hrow, expect, ok_bind, readIntent_rowOf hp h.sealed,
    h.eventRows, collect_map hread, h.valid]
  rfl

/-- Every intent is sealed, and where it has events, they are its history. -/
structure Recorded (p : Primitives β) (authority : AuditJournalAuthority) (j : Journal β) :
    Prop where
  recorded : ∀ row ∈ j.auditIntents, ∃ intent, row = intentRowOf p intent ∧
    sealAuditExecutionIntent p intent = .ok intent ∧
    (rowsOf AuditEventRow.intentHash intent.intentHash j.auditEvents = [] ∨
      ∃ events, Told p authority j intent events)
  intentHashes : (j.auditIntents.map AuditIntentRow.intentHash).Nodup
  owned : ∀ row ∈ j.auditEvents, row.intentHash ∈ j.auditIntents.map AuditIntentRow.intentHash

theorem loadTx_eq_ok
    (h : loadAuditExecutionTx p auth j envelopeHash intentHash = .ok (intent, evs)) :
    ∃ row, j.intentRow envelopeHash intentHash = some row ∧ readIntent p row = .ok intent ∧
      collect (readEvent p) (j.eventRows intent.intentHash) = .ok evs ∧
      Accepted p auth intent evs := by
  simp only [loadAuditExecutionTx, ok_iff] at h
  obtain ⟨row, hrow, _, hread, _, hcoll, _, hvalid, h⟩ := h
  cases h
  exact ⟨row, hrow, hread, hcoll, hvalid⟩

theorem Recorded.told_of_load (hx : Recorded p auth j) (hp : p.Lawful)
    (h : loadAuditExecutionTx p auth j envelopeHash intentHash = .ok (intent, evs)) :
    Told p auth j intent evs ∧ (intentHash = "" → intent.envelopeHash = envelopeHash) := by
  obtain ⟨row, hrow, hread, hcoll, hvalid⟩ := loadTx_eq_ok h
  have hmem : row ∈ j.auditIntents ∧ (intentHash = "" → row.envelopeHash = envelopeHash) := by
    unfold Journal.intentRow at hrow
    split at hrow
    next hne => exact ⟨mem_of_find?_eq_some hrow, fun he => absurd he hne⟩
    · exact ⟨mem_of_find?_eq_some hrow, fun _ => key_of_select hrow⟩
  obtain ⟨_, rfl, hs, hnone | ⟨_, ht⟩⟩ := hx.recorded row hmem.1
  · rw [readIntent_rowOf hp hs] at hread
    cases hread
    rw [Journal.eventRows, hnone] at hcoll
    cases hcoll
    exact ⟨⟨hmem.1, hnone, by simp, hvalid⟩, hmem.2⟩
  · have heq := ht.load_of_row hp hrow
    rw [h] at heq
    cases heq
    exact ⟨ht, hmem.2⟩

/-- The tables of executions: every intent has a history, and every event an intent. -/
structure Executions (p : Primitives β) (authority : AuditJournalAuthority) (j : Journal β) :
    Prop where
  told : ∀ row ∈ j.auditIntents, ∃ intent events,
    row = intentRowOf p intent ∧ Told p authority j intent events
  intentHashes : (j.auditIntents.map AuditIntentRow.intentHash).Nodup
  envelopeHashes : (j.auditIntents.map AuditIntentRow.envelopeHash).Nodup
  owned : ∀ row ∈ j.auditEvents, row.intentHash ∈ j.auditIntents.map AuditIntentRow.intentHash

section

variable (hx : Executions p auth j)
include hx

theorem Executions.recorded : Recorded p auth j where
  recorded row hrow := by
    obtain ⟨intent, evs, hr, ht⟩ := hx.told row hrow
    exact ⟨intent, hr, ht.sealed, .inr ⟨evs, ht⟩⟩
  intentHashes := hx.intentHashes
  owned := hx.owned

section

variable (hp : p.Lawful)
include hp

theorem Executions.load (h : Told p auth j intent evs) :
    loadAuditExecutionTx p auth j intent.envelopeHash "" = .ok (intent, evs) :=
  h.load_of_row hp (select_of_mem hx.envelopeHashes h.row)

theorem Executions.load_intentHash (h : Told p auth j intent evs) :
    loadAuditExecutionTx p auth j envelopeHash intent.intentHash = .ok (intent, evs) := by
  refine h.load_of_row hp ?_
  rw [Journal.intentRow, if_pos (intentHash_ne_empty hp h.sealed)]
  exact select_of_mem hx.intentHashes h.row

theorem Executions.told_of_load
    (h : loadAuditExecutionTx p auth j envelopeHash intentHash = .ok (intent, evs)) :
    Told p auth j intent evs ∧ (intentHash = "" → intent.envelopeHash = envelopeHash) :=
  hx.recorded.told_of_load hp h

theorem Executions.unique (h : Told p auth j intent evs) (h' : Told p auth j intent' events')
    (he : intent.intentHash = intent'.intentHash) : intent = intent' ∧ evs = events' := by
  have hl : loadAuditExecutionTx p auth j "" intent.intentHash = .ok (intent, evs) :=
    hx.load_intentHash hp h
  rw [he, hx.load_intentHash hp h'] at hl
  cases hl
  exact ⟨rfl, rfl⟩

theorem Executions.unique_envelope
    (h : Told p auth j intent evs) (h' : Told p auth j intent' events')
    (he : intent.envelopeHash = intent'.envelopeHash) : intent = intent' ∧ evs = events' := by
  have hl := hx.load hp h
  rw [he, hx.load hp h'] at hl
  cases hl
  exact ⟨rfl, rfl⟩

theorem Executions.validate : validateAuditJournalContent p auth j = .ok () := by
  rw [validateAuditJournalContent, seq_eq_ok, each_eq_ok, each_eq_ok]
  constructor
  · intro envelopeHash he
    obtain ⟨row, hrow, rfl⟩ := mem_map.mp he
    obtain ⟨intent, evs, rfl, ht⟩ := hx.told row hrow
    exact require_eq_ok.mpr (envelope_of_sealed ht.sealed)
  · intro envelopeHash he
    obtain ⟨row, hrow, rfl⟩ := mem_map.mp he
    obtain ⟨_, _, rfl, ht⟩ := hx.told row hrow
    have hl := hx.load hp ht
    rw [bind_eq_ok]
    exact ⟨_, hl, rfl⟩

end

end

end Ananke.TrustedSupervisor
