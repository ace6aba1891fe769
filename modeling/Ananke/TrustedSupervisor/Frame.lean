import Ananke.TrustedSupervisor.Executor
import Ananke.TrustedSupervisor.Shape

/-! The part that the events of an execution have in common: the place in the history, the
attempt with its descriptor and paths, the hash and the signature. -/
namespace Ananke.TrustedSupervisor

open Text Validation Relational Machine List

variable {β : Type} {p : Primitives β} {auth : AuditJournalAuthority}
  {intent : AuditExecutionIntent} {entry : ExecutionPolicyEntry}
  {evs : List AuditExecutionEvent} {ev last : AuditExecutionEvent}

section signing

/-- The signatures of the authority verify. -/
def AuditJournalAuthority.Signs (auth : AuditJournalAuthority) : Prop :=
  ∀ payload, auth.signatureForm (auth.sign payload) = true ∧
    auth.verify payload (auth.sign payload) = true

def AuditJournalAuthority.signed (auth : AuditJournalAuthority)
    (ev : AuditExecutionEvent) : AuditExecutionEvent :=
  { ev with authentication := { auth.unsigned ev with
      signature := auth.sign (authenticationPayload (auth.unsigned ev)) } }

theorem authenticate_of_sealed (hs : sealAuditExecutionEvent p ev = .ok ev)
    (ha : ev.authentication = {}) :
    auth.authenticateEvent p ev = .ok (auth.signed ev) := by
  rw [AuditJournalAuthority.authenticateEvent, require_of hs, ok_bind, if_neg (not_not.mpr ha)]
  rfl

theorem verifyEvent_signed (hs : auth.Signs) : auth.verifyEvent (auth.signed ev) = .ok () := by
  rw [AuditJournalAuthority.verifyEvent, seq_eq_ok, guard_eq_ok, require_eq_ok, require_eq_ok]
  exact ⟨⟨rfl, rfl, rfl, rfl, rfl, rfl, rfl⟩, (hs _).1, (hs _).2⟩

def sealedEvent (p : Primitives β) (ev : AuditExecutionEvent) : AuditExecutionEvent :=
  { ev with eventHash :=
      p.hashJournalBytes (p.encodeEvent { ev with eventHash := "", authentication := {} }) }

theorem sealEvent_of_valid (h : EventValid p ev ∧ StateValid p ev ∧ HashesValid ev) :
    sealAuditExecutionEvent p ev = .ok (sealedEvent p ev) := by
  have hbare : EventValid p { ev with eventHash := "", authentication := {} } ∧
    StateValid p { ev with eventHash := "", authentication := {} } ∧
    HashesValid { ev with eventHash := "", authentication := {} } := h
  rw [sealAuditExecutionEvent]
  exact if_pos hbare

theorem eq_sealedEvent {sealed : AuditExecutionEvent}
    (h : sealAuditExecutionEvent p ev = .ok sealed) :
    (EventValid p ev ∧ StateValid p ev ∧ HashesValid ev) ∧ sealed = sealedEvent p ev := by
  unfold sealAuditExecutionEvent at h
  dsimp only at h
  split at h
  next hvalid =>
    cases h
    exact ⟨hvalid, rfl⟩
  · cases h

theorem sealed_sealedEvent (h : EventValid p ev ∧ StateValid p ev ∧ HashesValid ev) :
    sealAuditExecutionEvent p (sealedEvent p ev) = .ok (sealedEvent p ev) :=
  event_eq_ok.mpr ⟨h, rfl⟩

end signing

section checks

theorem evidence_of_none (hs : ev.state ≠ .finalizing ∧ ev.state ≠ .completed)
    (h : ev.evidenceJSON = "" ∧ ev.evidenceHash = "" ∧ ev.outputSHA256 = "" ∧
      ev.outputSize = 0 ∧ ev.finalizingEventHash = "") :
    checkEvidence p intent entry ev = .ok () := by
  rw [checkEvidence, if_neg (not_or.mpr hs)]
  exact require_eq_ok.mpr h

theorem processTimes_of_none (hs : ev.processStartedAt = "")
    (hf : ev.processFinishedAt = "") : checkProcessTimes p ev = .ok () := by
  rw [checkProcessTimes, guard_eq_ok, require_eq_ok]
  exact ⟨.inl hs, .inl hf⟩

variable {prev : AuditExecutionEvent}

section

variable (htime : timeOf p prev.occurredAt ≤ timeOf p ev.occurredAt)
  (htransition : validExactAuditTransition prev ev = true)
include htime htransition

theorem successor_of_same (hatt : ev.attempt = prev.attempt) (hdesc : SameDescriptor prev ev)
    (hproc : prev.state ≠ .prepared → SameProcess prev ev)
    (hopen : prev.state ≠ .finalizing) : checkSuccessor p prev ev = .ok () := by
  rw [checkSuccessor, guard_eq_ok, checkDescriptor, if_pos hatt, seq_eq_ok,
    guard_eq_ok, require_eq_ok, require_eq_ok]
  refine ⟨⟨htime, htransition⟩, hdesc, fun h => hproc ?_, fun h => absurd h hopen⟩
  rcases h with ⟨h, _⟩ | ⟨h, _⟩ <;> simp [h]

theorem successor_of_retry (hatt : ev.attempt ≠ prev.attempt)
    (hresume : ev.resumeSessionUUID = prev.sessionUUID)
    (hstate : prev.state = .timedOut) : checkSuccessor p prev ev = .ok () := by
  rw [checkSuccessor, guard_eq_ok, checkDescriptor, if_neg hatt, seq_eq_ok,
    guard_eq_ok, require_eq_ok, require_eq_ok]
  refine ⟨⟨htime, htransition⟩, hresume, ?_, fun h => by simp [hstate] at h⟩
  rintro (⟨h, -⟩ | ⟨-, h⟩)
  · simp [hstate] at h
  · exact absurd h hatt

end

end checks

section frame

theorem isNameChar_of_isHex {c : Char} (h : isHex c = true) : isNameChar c = true := by
  simp only [isHex, isNameChar, isLower, Bool.or_eq_true, Bool.and_eq_true, decide_eq_true_eq] at *
  rcases h with h | ⟨h1, h2⟩
  · exact .inl (.inr h)
  · exact .inl (.inl ⟨h1, Char.le_trans h2 (by decide)⟩)

theorem threeDigits_spec {n : Nat} (hn : n < 100) :
    (threeDigits n).toList.length = 3 ∧ (threeDigits n).toList.all isNameChar = true := by
  revert n
  decide

theorem fragment_spec {hash : String} (h : protocolHashPattern hash = true) :
    (hashIDFragment hash).toList.length = 16 ∧
      (hashIDFragment hash).toList.all isNameChar = true := by
  unfold protocolHashPattern at h
  split at h
  next digits hdigits =>
    rw [Bool.and_eq_true, decide_eq_true_eq] at h
    have hfragment : hashIDFragment hash = String.ofList (digits.take 16) := by
      rw [hashIDFragment, hdigits]
      exact if_pos (by omega)
    rw [hfragment, String.toList_ofList, length_take, all_eq_true]
    refine ⟨by omega, fun c hc => isNameChar_of_isHex ?_⟩
    exact all_eq_true.mp h.2 c (mem_of_mem_take hc)
  · cases h

theorem taskIDPattern_eventID (h : protocolHashPattern intent.intentHash = true) {n : Nat}
    (hn : n < 100) : executionTaskIDPattern (auditExecutionEventID intent n) = true := by
  obtain ⟨hlen, hall⟩ := threeDigits_spec hn
  have hfragment := fragment_spec h
  have hlist : (auditExecutionEventID intent n).toList = 'a' :: ("udit_event_".toList ++
      (hashIDFragment intent.intentHash).toList ++ "_".toList ++ (threeDigits n).toList) := by
    simp [auditExecutionEventID]
  rw [executionTaskIDPattern, namePattern, hlist]
  simp only [length_append, all_append, hlen, hall, hfragment.1, hfragment.2]
  decide

/-- What an attempt gives to each of its events. -/
structure Descriptor (p : Primitives β) (intent : AuditExecutionIntent)
    (entry : ExecutionPolicyEntry) (attempt : Int) (invocation : AuditInvocation) : Prop where
  prompt : invocation.promptSHA256 = auditPromptSHA256 p invocation.resume.synthesizeOnly
  run : invocation.sessionRunID = intent.runID
  hash : p.auditCommandDescriptorHash entry invocation.promptSHA256 invocation.sessionRunID
    invocation.resume = .ok invocation.commandDescriptorHash
  form : protocolHashPattern invocation.commandDescriptorHash = true
  resume : invocation.resume.sessionUUID = "" ∨
    auditSessionUUIDPattern invocation.resume.sessionUUID = true
  synthesize : invocation.resume.synthesizeOnly = true → invocation.resume.sessionUUID ≠ ""
  bounds : 1 ≤ attempt ∧ attempt ≤ intent.attemptCap
  paths : let q := auditAttemptPaths p intent entry attempt
    validAuditPrivatePath p q.workPath = true ∧ validAuditPrivatePath p q.outputPath = true ∧
    validAuditPrivatePath p q.sessionPath = true ∧ validAuditPrivatePath p q.promptPath = true ∧
    validAuditPrivatePath p q.temporaryPath = true

theorem descriptor_of_policyBound {index : Nat} (h : PolicyBound p intent entry index ev) :
    Descriptor p intent entry ev.attempt ev.invocation := by
  obtain ⟨hs, _, _, _, h1, hcap, _, _, hrun, hprompt, hhash, hpaths⟩ := h
  obtain ⟨⟨hv, _⟩, _⟩ := event_eq_ok.mp hs
  obtain ⟨_, _, _, _, _, _, hform, _, _, hresume, hsynth, _, w1, w2, w3, w4, w5, _⟩ := hv
  refine ⟨hprompt, hrun, hhash, hform, hresume, hsynth, ⟨h1, hcap⟩, ?_⟩
  unfold validAuditExecutionEventPaths at hpaths
  rw [← hpaths]
  exact ⟨w1, w2, w3, w4, w5⟩

theorem PolicyBound.paths {index : Nat} (h : PolicyBound p intent entry index last)
    (he : validAuditExecutionEventPaths p intent entry ev)
    (hatt : ev.attempt = last.attempt) :
    ev.workPath = last.workPath ∧ ev.outputPath = last.outputPath ∧
      ev.sessionPath = last.sessionPath ∧ ev.promptPath = last.promptPath ∧
      ev.temporaryPath = last.temporaryPath := by
  obtain ⟨_, _, _, _, _, _, _, _, _, _, _, hl⟩ := h
  unfold validAuditExecutionEventPaths at he hl
  rw [hatt, ← hl] at he
  injection he with h1 h2 h3 h4 h5
  exact ⟨h1, h2, h3, h4, h5⟩

theorem policyBound_of_mem (hv : Accepted p auth intent evs)
    (hr : auth.resolveIntent intent = .ok entry) (he : ev ∈ evs) :
    ∃ index, PolicyBound p intent entry index ev := by
  obtain ⟨_, hi, rfl⟩ := getElem_of_mem he
  obtain ⟨_, entry', hr', hcheck⟩ := history_eq_ok.mp hv
  obtain rfl : entry = entry' := by simpa [hr] using hr'
  exact ⟨_, policyBound_of_events hcheck hi⟩

/-- The event is the next one of an execution, in this attempt. -/
structure Framed (p : Primitives β) (intent : AuditExecutionIntent) (entry : ExecutionPolicyEntry)
    (events : List AuditExecutionEvent) (attempt : Int) (invocation : AuditInvocation) (now : Nat)
    (event : AuditExecutionEvent) : Prop where
  schemaVersion : event.schemaVersion = auditExecutionEventSchemaVersion
  eventID : event.eventID = auditExecutionEventID intent (events.length + 1)
  intentHash : event.intentHash = intent.intentHash
  sequence : event.sequence = events.length + 1
  inAttempt : event.attempt = attempt
  occurredAt : event.occurredAt = p.formatTime now
  descriptor : event.invocation = invocation
  paths : validAuditExecutionEventPaths p intent entry event
  observation : event.state ≠ .timedOut → event.timeoutObservation = {}

variable {attempt : Int} {inv : AuditInvocation} {now : Nat}

theorem timeOf_now (hp : p.Lawful) : timeOf p (p.formatTime now) = now := by
  rw [timeOf, hp.time]

/-- A history has at most 31 events, so the number of the next is short. -/
theorem length_lt_of_valid (h : Accepted p auth intent evs) : evs.length + 1 < 100 := by
  obtain ⟨⟨_, _, _, _, _, _, _, _⟩, _⟩ :=
    intent_eq_ok.mp (history_eq_ok.mp h).1
  have := (shaped_of_valid h).length
  omega

section

variable (hf : Framed p intent entry evs attempt inv now ev)
include hf

section

variable (hp : p.Lawful) (hd : Descriptor p intent entry attempt inv)
include hp hd

theorem Framed.eventValid (hv : Accepted p auth intent evs) : EventValid p ev := by
  obtain ⟨⟨_, _, _, _, hrun, _, _, _⟩, hhash⟩ :=
    intent_eq_ok.mp (history_eq_ok.mp hv).1
  have hintent := hhash ▸ hp.hash _
  obtain rfl := hf.descriptor
  obtain rfl := hf.inAttempt
  have hpaths := hf.paths
  unfold validAuditExecutionEventPaths at hpaths
  obtain ⟨w1, w2, w3, w4, w5⟩ := hpaths ▸ hd.paths
  obtain ⟨_, _⟩ := hd.bounds
  have hseq := hf.sequence
  refine ⟨hf.schemaVersion, ?_, hf.intentHash ▸ hintent, by omega, by omega, by omega, hd.form,
    (congrArg _ hd.prompt).trans (hp.hash _), (congrArg _ hd.run).trans hrun, hd.resume,
    hd.synthesize, ?_, w1, w2, w3, w4, w5, hf.observation⟩
  · rw [hf.eventID]
    exact taskIDPattern_eventID hintent (length_lt_of_valid hv)
  · rw [hf.occurredAt]
    exact valid_now hp

theorem Framed.policyBound
    (hs : sealAuditExecutionEvent p ev = .ok ev) (hclock : timeOf p intent.createdAt ≤ now) :
    PolicyBound p intent entry evs.length ev := by
  obtain rfl := hf.descriptor
  obtain rfl := hf.inAttempt
  refine ⟨hs, hf.intentHash, hf.sequence, ?_, hd.bounds.1, hd.bounds.2, ?_, ?_, hd.run, hd.prompt,
    hd.hash, hf.paths⟩
  · rw [hf.eventID, hf.sequence]
    rfl
  · rw [hf.occurredAt, hp.time]
    rfl
  · rw [hf.occurredAt, timeOf_now hp]
    exact hclock

end

theorem Framed.signed : Framed p intent entry evs attempt inv now
      (auth.signed (sealedEvent p ev)) :=
  ⟨hf.schemaVersion, hf.eventID, hf.intentHash, hf.sequence, hf.inAttempt, hf.occurredAt,
    hf.descriptor, hf.paths, hf.observation⟩

theorem Framed.extends (hp : p.Lawful) (hsign : auth.Signs)
    (hv : Accepted p auth intent evs) (hr : auth.resolveIntent intent = .ok entry)
    (hd : Descriptor p intent entry attempt inv)
    (hclock : timeOf p intent.createdAt ≤ now) (hstate : StateValid p ev)
    (hhashes : HashesValid ev) (hplace : checkPlace p evs.getLast? ev = .ok ())
    (htimes : checkProcessTimes p ev = .ok ()) (hevid : checkEvidence p intent entry
      (auth.signed (sealedEvent p ev)) = .ok ()) :
    Accepted p auth intent (evs ++ [auth.signed (sealedEvent p ev)]) := by
  have hseal : sealAuditExecutionEvent p (auth.signed (sealedEvent p ev)) =
      .ok (auth.signed (sealedEvent p ev)) :=
    sealEvent_authentication _ (sealed_sealedEvent ⟨hf.eventValid hp hd hv, hstate, hhashes⟩)
  refine history_append.mpr ⟨hv, entry, hr, checked_eq_ok.mpr ?_⟩
  exact ⟨verifyEvent_signed hsign, hf.signed.policyBound hp hd hseal hclock, hplace, htimes, hevid⟩

end

variable [DecidableEq β] {j : Journal β}

section

variable (h : Sound p auth j) (hp : p.Lawful) (ht : Told p auth j intent evs)
  (hfence : ¬ Fenced j intent.envelopeHash) (hs : sealAuditExecutionEvent p ev = .ok ev)
include h hp ht hfence hs

variable {event' : AuditExecutionEvent}

theorem appendEvent_next (hauth : auth.authenticateEvent p ev = .ok event')
    (hhash : event'.intentHash = intent.intentHash) (hseq : event'.sequence = evs.length + 1) :
    appendAuditEvent p auth j ev =
      (validateAuditExecutionHistory p auth intent (evs ++ [event']) >>= fun _ =>
        insertEvent p j event') := by
  have hload : loadAuditExecutionTx p auth j "" event'.intentHash = .ok (intent, evs) := by
    rw [hhash]
    exact h.executions.load_intentHash hp ht
  have hshort := length_lt_of_valid ht.valid
  have hnew : ¬ event'.sequence ≤ evs.length := by omega
  rw [appendAuditEvent, require_of hs, ok_bind, hauth, ok_bind, h.validate hp, ok_bind, hload]
  refine ok_bind.trans ?_
  dsimp only
  rw [require_of hhash.symm, ok_bind, require_of hfence, ok_bind,
    require_of (show evs.length < 256 by omega), ok_bind, extendHistory, if_neg hnew,
    require_of hseq, ok_bind]

theorem appendEvent_accepted (hauth : auth.authenticateEvent p ev = .ok event')
    (hv : Accepted p auth intent (evs ++ [event'])) :
    appendAuditEvent p auth j ev =
      .ok { j with auditEvents := j.auditEvents ++ [eventRowOf p event'] } := by
  have hseq : event'.sequence = evs.length + 1 := by
    have hlt : evs.length < (evs ++ [event']).length := by simp
    simpa using seq_of_valid hv hlt
  rw [appendEvent_next h hp ht hfence hs hauth (intentHash_append hv) hseq, hv, ok_bind,
    ht.insertEvent hv]

end

def AuditJournalAuthority.stored (auth : AuditJournalAuthority) (p : Primitives β)
    (ev : AuditExecutionEvent) : AuditExecutionEvent :=
  auth.signed (sealedEvent p ev)

theorem Framed.exec_append (hf : Framed p intent entry evs attempt inv now ev)
    (h : Sound p auth j) (hp : p.Lawful) (ht : Told p auth j intent evs)
    (hfence : ¬ Fenced j intent.envelopeHash)
    (hd : Descriptor p intent entry attempt inv) (hstate : StateValid p ev)
    (hhashes : HashesValid ev) (hauth : ev.authentication = {})
    (hx : (auth.stored p ev).Exact)
    (hv : Accepted p auth intent (evs ++ [auth.stored p ev])) :
    let j' := { j with auditEvents := j.auditEvents ++ [eventRowOf p (auth.stored p ev)] }
    exec p auth j (.appendAuditEvent (sealedEvent p ev)) = (j', .ok ()) ∧
      Sound p auth j' ∧ Told p auth j' intent (evs ++ [auth.stored p ev]) := by
  have hs := sealed_sealedEvent ⟨hf.eventValid hp hd ht.valid, hstate, hhashes⟩
  refine ⟨exec_of_perform ?_, h.appended hp ht hfence hx hv, ht.append rfl rfl hx hv⟩
  exact appendEvent_accepted h hp ht hfence hs (authenticate_of_sealed hs hauth) hv

end frame

end Ananke.TrustedSupervisor
