import Ananke.TrustedSupervisor.Acceptance

/-! The shape of a history. It is derived from the checks of single events; none of it is
checked as a whole. -/
namespace Ananke.TrustedSupervisor

open Text Validation Relational Machine List

variable {β : Type} {p : Primitives β} {auth : AuditJournalAuthority}
  {intent : AuditExecutionIntent} {entry : ExecutionPolicyEntry}
  {evs : List AuditExecutionEvent} {prev ev : AuditExecutionEvent}

/-- Nothing follows. -/
def AuditState.Ends : AuditState → Prop
  | .completed | .failed | .cancelled | .waitingForHuman => True
  | _ => False

/-- How far an attempt has come. -/
def phase : AuditState → Int
  | .prepared => 1
  | .running => 2
  | .finalizing | .timedOut => 3
  | _ => 4

/-- A measure that increases with every event: an attempt that is followed by another has
three events at most. -/
def rank (ev : AuditExecutionEvent) : Int := 3 * (ev.attempt - 1) + phase ev.state

theorem one_le_phase (state : AuditState) : 1 ≤ phase state := by cases state <;> simp [phase]

theorem phase_le_four (state : AuditState) : phase state ≤ 4 := by cases state <;> simp [phase]

/-- The event stays within the attempt, or begins the next one. -/
def Continues (prev ev : AuditExecutionEvent) : Prop :=
  ev.attempt = prev.attempt ∧ ev.state ≠ .prepared ∨
    ev.attempt = prev.attempt + 1 ∧ prev.state = .timedOut ∧ ev.state = .prepared ∧
      ev.resumeSessionUUID = prev.sessionUUID

/-- Completion repeats evidence, output hash and exit code. -/
def Repeats (finalizing completed : AuditExecutionEvent) : Prop :=
  completed.evidenceJSON = finalizing.evidenceJSON ∧
  completed.evidenceHash = finalizing.evidenceHash ∧
  completed.outputSHA256 = finalizing.outputSHA256 ∧ completed.exitCode = finalizing.exitCode

/-- What one event says about the next. -/
structure Follows (p : Primitives β) (previous event : AuditExecutionEvent) : Prop where
  time : timeOf p previous.occurredAt ≤ timeOf p event.occurredAt
  ends : ¬ previous.state.Ends
  continues : Continues previous event
  rank : rank previous < rank event
  process : event.attempt = previous.attempt → previous.state ≠ .prepared →
    SameProcess previous event
  completed : event.state = .completed → previous.state = .finalizing ∧ Repeats previous event

theorem transition_cases (h : validExactAuditTransition prev ev = true) :
    ev.attempt = prev.attempt ∧ (prev.state = .prepared ∧
          (ev.state = .running ∨ ev.state = .cancelled ∨ ev.state = .waitingForHuman) ∨
        prev.state = .running ∧ isAuditProcessExitState ev.state = true ∨
        prev.state = .finalizing ∧ ev.state = .completed ∨
        prev.state = .timedOut ∧ (ev.state = .cancelled ∨ ev.state = .waitingForHuman)) ∨
    ev.attempt = prev.attempt + 1 ∧ prev.state = .timedOut ∧ ev.state = .prepared := by
  unfold validExactAuditTransition at h
  cases hs : prev.state <;> simp [hs] at h ⊢
  case prepared => simpa [or_assoc] using h
  case running => exact h
  case finalizing => exact h
  case timedOut => exact h.symm

theorem rank_lt_of_transition (h : validExactAuditTransition prev ev = true) :
    rank prev < rank ev := by
  unfold rank
  obtain ⟨ha, hcases⟩ | ⟨ha, hp, he⟩ := transition_cases h
  · have hphase : phase prev.state < phase ev.state := by
      rcases hcases with ⟨hp, he | he | he⟩ | ⟨hp, he⟩ | ⟨hp, he⟩ | ⟨hp, he | he⟩
      case inr.inl =>
        rw [hp]
        revert he
        cases ev.state <;> simp [isAuditProcessExitState, phase]
      all_goals simp [hp, he, phase]
    omega
  · rw [hp, he, ha]
    simp only [phase]
    omega

theorem follows_of_checkSuccessor (h : checkSuccessor p prev ev = .ok ()) :
    Follows p prev ev := by
  rw [checkSuccessor, guard_eq_ok, seq_eq_ok, guard_eq_ok, require_eq_ok] at h
  obtain ⟨⟨htime, htrans⟩, hdesc, hproc, hcompletion⟩ := h
  have hrank := rank_lt_of_transition htrans
  obtain ⟨ha, hcases⟩ | ⟨ha, hp, he⟩ := transition_cases htrans
  · refine ⟨htime, ?_, .inl ⟨ha, ?_⟩, hrank, ?_, ?_⟩
    · rcases hcases with ⟨hp, _⟩ | ⟨hp, _⟩ | ⟨hp, _⟩ | ⟨hp, _⟩ <;> simp [hp, AuditState.Ends]
    · intro he
      simp [he, isAuditProcessExitState] at hcases
    · intro _ hstarted
      rcases hcases with ⟨hp, _⟩ | ⟨hp, he⟩ | ⟨hp, _⟩ | ⟨hp, _⟩
      · exact absurd hp hstarted
      · exact hproc (.inl ⟨hp, he⟩)
      · obtain ⟨_, _, _, _, _, hsame, _⟩ := hcompletion hp
        exact hsame
      · exact hproc (.inr ⟨hp, ha⟩)
    · intro he
      have hp : prev.state = .finalizing := by
        simpa [he, isAuditProcessExitState] using hcases
      obtain ⟨_, _, _, _, _, _, _, hexit, hout, _, _, _, _, hjson, hhash, _⟩ := hcompletion hp
      exact ⟨hp, hjson, hhash, hout, hexit⟩
  · have hne : ev.attempt ≠ prev.attempt := by omega
    rw [checkDescriptor, if_neg hne, require_eq_ok] at hdesc
    refine ⟨htime, by simp [hp, AuditState.Ends], .inr ⟨ha, hp, he, hdesc⟩, hrank,
      fun heq => absurd heq hne, fun hc => ?_⟩
    rw [he] at hc
    cases hc

variable {i : Nat}

theorem checkPlace_of_events {before : Option AuditExecutionEvent} {index : Nat}
    (h : checkEvents p auth intent entry before index evs = .ok ())
    (hi : i < evs.length) :
    checkPlace p (if i = 0 then before else evs[i - 1]?) evs[i] = .ok () := by
  induction evs generalizing before index i with
  | nil => simp at hi
  | cons e evs ih =>
    rw [checkEvents, seq_eq_ok, checked_eq_ok] at h
    cases i with
    | zero => simpa using h.1.2.2.1
    | succ i =>
      have hi' : i < evs.length := by simpa using hi
      have hplace := ih h.2 hi'
      cases i <;> simpa using hplace

theorem follows_of_valid (h : Accepted p auth intent evs)
    (hi : i + 1 < evs.length) : Follows p evs[i] evs[i + 1] := by
  obtain ⟨_, _, _, hc⟩ := history_eq_ok.mp h
  have hplace := checkPlace_of_events hc hi
  have hprev : (if i + 1 = 0 then none else evs[i + 1 - 1]?) = some evs[i] := by simp
  rw [hprev] at hplace
  exact follows_of_checkSuccessor hplace

theorem initial_of_valid (h : Accepted p auth intent evs)
    (hi : 0 < evs.length) : Initial evs[0] := by
  obtain ⟨_, _, _, hc⟩ := history_eq_ok.mp h
  exact require_eq_ok.mp (checkPlace_of_events hc hi)

/-- The shape of a history. -/
structure Shaped (p : Primitives β) (intent : AuditExecutionIntent)
    (events : List AuditExecutionEvent) : Prop where
  sequence : ∀ {i : Nat} (hi : i < events.length), events[i].sequence = i + 1
  first : ∀ event ∈ events.head?, event.attempt = 1
  cap : ∀ event ∈ events, event.attempt ≤ intent.attemptCap
  continues : ∀ {i : Nat} (hi : i + 1 < events.length), Continues events[i] events[i + 1]
  ends : ∀ {i : Nat} (hi : i + 1 < events.length), ¬ events[i].state.Ends
  times : events.Pairwise fun a b => timeOf p a.occurredAt ≤ timeOf p b.occurredAt
  process : ∀ a ∈ events, ∀ b ∈ events, a.attempt = b.attempt → a.state ≠ .prepared →
    b.state ≠ .prepared → SameProcess a b
  completed : ∀ {i : Nat} (hi : i < events.length), events[i].state = .completed →
    ∃ k, ∃ _ : k + 1 = i, events[k].state = .finalizing ∧ Repeats events[k] events[i]
  length : (events.length : Int) ≤ 3 * intent.attemptCap + 1

section

variable (hf : ∀ {i : Nat} (hi : i + 1 < evs.length), Follows p evs[i] evs[i + 1]) {k : Nat}
include hf

theorem attempt_le (hik : i ≤ k) (hk : k < evs.length) : evs[i].attempt ≤ evs[k].attempt := by
  induction k, hik using Nat.le_induction with
  | base => exact le_refl _
  | succ k hik ih =>
    have hprev := ih (by omega)
    rcases (hf hk).continues with ⟨ha, _⟩ | ⟨ha, _⟩ <;> omega

theorem sameProcess_of_follows (hik : i ≤ k) (hk : k < evs.length)
    (ha : evs[i].attempt = evs[k].attempt) (hs : evs[i].state ≠ .prepared) :
    evs[k].state ≠ .prepared ∧ SameProcess evs[i] evs[k] := by
  induction k, hik using Nat.le_induction with
  | base => exact ⟨hs, rfl, rfl, rfl, rfl⟩
  | succ k hik ih =>
    have hstep := hf hk
    have hle := attempt_le hf hik (by omega)
    -- the events between the two are of the same attempt
    obtain ⟨hsame, hstate⟩ | ⟨_, _⟩ := hstep.continues
    · obtain ⟨hprev, h1, h2, h3, h4⟩ := ih (by omega) (by omega) hs
      obtain ⟨h1', h2', h3', h4'⟩ := hstep.process hsame hprev
      exact ⟨hstate, h1'.trans h1, h2'.trans h2, h3'.trans h3, h4'.trans h4⟩
    · omega

theorem succ_le_rank (h0 : ∀ h : 0 < evs.length, 1 ≤ rank evs[0]) (hi : i < evs.length) :
    (i : Int) + 1 ≤ rank evs[i] := by
  induction i with
  | zero => simpa using h0 hi
  | succ i ih =>
    have hprev := ih (by omega)
    have hlt := (hf hi).rank
    push_cast
    omega

end

theorem one_le_attemptCap (h : sealAuditExecutionIntent p intent = .ok intent) :
    1 ≤ intent.attemptCap := by
  obtain ⟨⟨_, _, _, _, _, h1, _⟩, _⟩ := intent_eq_ok.mp h
  exact h1

theorem shaped_nil (h : sealAuditExecutionIntent p intent = .ok intent) : Shaped p intent [] where
  sequence hi := absurd hi (by simp)
  first := by simp
  cap := by simp
  continues hi := absurd hi (by simp)
  ends hi := absurd hi (by simp)
  times := .nil
  process := by simp
  completed hi := absurd hi (by simp)
  length := by
    have hcap := one_le_attemptCap h
    simp only [length_nil]
    omega

theorem shaped_of_valid (h : Accepted p auth intent evs) : Shaped p intent evs := by
  have hf : ∀ {i : Nat} (hi : i + 1 < evs.length), Follows p evs[i] evs[i + 1] :=
    fun hi => follows_of_valid h hi
  have hcap : ∀ {i : Nat} (hi : i < evs.length), evs[i].attempt ≤ intent.attemptCap := by
    intro i hi
    obtain ⟨_, _, _, _, _, _, hle, _⟩ := policyBound_of_valid h hi
    exact hle
  refine ⟨fun hi => seq_of_valid h hi, ?_, ?_, fun hi => (hf hi).continues,
    fun hi => (hf hi).ends, ?_, ?_, ?_, ?_⟩
  · intro ev hevent
    cases evs with
    | nil => simp at hevent
    | cons e evs =>
      obtain rfl : e = ev := by simpa using hevent
      exact (initial_of_valid h (by simp)).1
  · intro ev hevent
    obtain ⟨i, hi, rfl⟩ := getElem_of_mem hevent
    exact hcap hi
  · have : IsTrans AuditExecutionEvent fun a b =>
        timeOf p a.occurredAt ≤ timeOf p b.occurredAt := ⟨fun _ _ _ => le_trans⟩
    exact isChain_iff_pairwise.mp (isChain_iff_getElem.mpr fun i hi => (hf hi).time)
  · intro a ha b hb hatt hsa hsb
    obtain ⟨i, hi, rfl⟩ := getElem_of_mem ha
    obtain ⟨k, hk, rfl⟩ := getElem_of_mem hb
    rcases Nat.le_total i k with hik | hki
    · exact (sameProcess_of_follows hf hik hk hatt hsa).2
    · obtain ⟨h1, h2, h3, h4⟩ := (sameProcess_of_follows hf hki hi hatt.symm hsb).2
      exact ⟨h1.symm, h2.symm, h3.symm, h4.symm⟩
  · intro i hi hdone
    cases i with
    | zero =>
      have hinitial := (initial_of_valid h hi).2.2.2
      simp [hdone] at hinitial
    | succ k => exact ⟨k, rfl, (hf hi).completed hdone⟩
  · have hone := one_le_attemptCap (history_eq_ok.mp h).1
    rcases Nat.eq_zero_or_pos evs.length with hlen | hlen
    · rw [hlen]
      push_cast
      omega
    · have hfirst : ∀ h0 : 0 < evs.length, 1 ≤ rank evs[0] := by
        intro h0
        have hphase := one_le_phase evs[0].state
        have hatt := (initial_of_valid h h0).1
        unfold rank
        omega
      have hlast : evs.length - 1 < evs.length := by omega
      have hrank := succ_le_rank hf hfirst hlast
      have hphase := phase_le_four evs[evs.length - 1].state
      have hatt := hcap hlast
      unfold rank at hrank
      omega

variable {j j' : Journal β}

theorem Recorded.frame (h : Recorded p auth j) (hi : j'.auditIntents = j.auditIntents)
    (he : j'.auditEvents = j.auditEvents) : Recorded p auth j' where
  recorded row hrow := by
    obtain ⟨intent, hr, hs, hnone | ⟨evs, ht⟩⟩ := h.recorded row (hi ▸ hrow)
    · exact ⟨intent, hr, hs, .inl (he ▸ hnone)⟩
    · exact ⟨intent, hr, hs, .inr ⟨evs, ht.frame hi he⟩⟩
  intentHashes := hi ▸ h.intentHashes
  owned row hrow := hi ▸ h.owned row (he ▸ hrow)

theorem Recorded.intend (h : Recorded p auth j)
    (hs : sealAuditExecutionIntent p intent = .ok intent)
    (hfresh : intent.intentHash ∉ j.auditIntents.map AuditIntentRow.intentHash)
    (hi : j'.auditIntents = j.auditIntents ++ [intentRowOf p intent])
    (he : j'.auditEvents = j.auditEvents) : Recorded p auth j' where
  recorded row hrow := by
    rw [hi] at hrow
    rcases mem_append.mp hrow with hrow | hrow
    · obtain ⟨intent', hr, hs', hnone | ⟨evs, ht⟩⟩ := h.recorded row hrow
      · exact ⟨intent', hr, hs', .inl (he ▸ hnone)⟩
      · exact ⟨intent', hr, hs', .inr ⟨evs, ht.intend hi he⟩⟩
    · refine ⟨intent, mem_singleton.mp hrow, hs, .inl ?_⟩
      rw [he]
      exact rowsOf_eq_nil fun r hr hh => hfresh (hh ▸ h.owned r hr)
  intentHashes := hi ▸ nodup_snoc h.intentHashes hfresh
  owned row hrow := by
    rw [hi, map_append]
    exact mem_append_left _ (h.owned row (he ▸ hrow))

theorem Recorded.append (h : Recorded p auth j) (ht : Told p auth j intent evs)
    (hx : ev.Exact) (hv : Accepted p auth intent (evs ++ [ev]))
    (hi : j'.auditIntents = j.auditIntents)
    (he : j'.auditEvents = j.auditEvents ++ [eventRowOf p ev]) : Recorded p auth j' where
  recorded row hrow := by
    have hev := intentHash_append hv
    obtain ⟨intent', rfl, hs, hstory⟩ := h.recorded row (hi ▸ hrow)
    by_cases heq : intent'.intentHash = intent.intentHash
    · have hsame := eq_of_key_eq h.intentHashes (hi ▸ hrow) ht.row heq
      exact ⟨intent, hsame, ht.sealed, .inr ⟨_, ht.append hi he hx hv⟩⟩
    · have hne : (eventRowOf p ev).intentHash ≠ intent'.intentHash := fun hh =>
        heq (hh.symm.trans hev)
      rcases hstory with hnone | ⟨events', ht'⟩
      · exact ⟨intent', rfl, hs, .inl (by rw [he, rowsOf_snoc_ne hne, hnone])⟩
      · exact ⟨intent', rfl, hs, .inr ⟨events', ht'.append_of_ne hi he hne⟩⟩
  intentHashes := hi ▸ h.intentHashes
  owned := by
    rw [hi, he]
    exact forall_snoc.mpr ⟨h.owned, mem_map.mpr ⟨_, ht.row, (intentHash_append hv).symm⟩⟩

/-- The event that the operation brings. -/
def JournalOp.event? : JournalOp β → Option AuditExecutionEvent
  | .appendAuditEvent ev => some ev
  | .completeAuditCancellation _ ev _ _ => some ev
  | _ => none

/-- What an operation writes to the tables of executions. -/
inductive Extends (p : Primitives β) (authority : AuditJournalAuthority) (j : Journal β) :
    JournalOp β → Journal β → Prop
  | neither {op : JournalOp β} {j' : Journal β} (hi : j'.auditIntents = j.auditIntents)
      (he : j'.auditEvents = j.auditEvents) : Extends p authority j op j'
  | intend {op : JournalOp β} {j' : Journal β} {intent : AuditExecutionIntent}
      (hs : sealAuditExecutionIntent p intent = .ok intent)
      (hfresh : intent.intentHash ∉ j.auditIntents.map AuditIntentRow.intentHash)
      (hi : j'.auditIntents = j.auditIntents ++ [intentRowOf p intent])
      (he : j'.auditEvents = j.auditEvents) : Extends p authority j op j'
  | append {op : JournalOp β} {j' : Journal β} {envelopeHash intentHash : String}
      {intent : AuditExecutionIntent} {events : List AuditExecutionEvent}
      {event event' : AuditExecutionEvent} (hop : op.event? = some event)
      (hauth : authority.authenticateEvent p event = .ok event')
      (hload : loadAuditExecutionTx p authority j envelopeHash intentHash = .ok (intent, events))
      (hv : validateAuditExecutionHistory p authority intent (events ++ [event']) = .ok ())
      (hi : j'.auditIntents = j.auditIntents)
      (he : j'.auditEvents = j.auditEvents ++ [eventRowOf p event']) : Extends p authority j op j'

variable {op : JournalOp β}

theorem extends_of_intends (h : Intends p j j'.auditIntents)
    (he : j'.auditEvents = j.auditEvents) : Extends p auth j op j' := by
  obtain hi | ⟨_, hs, hfresh, hi⟩ := h
  · exact .neither hi he
  · exact .intend hs hfresh hi he

theorem Recorded.extends (h : Recorded p auth j) (hp : p.Lawful)
    (hx : ∀ ev ∈ op.event?, ev.Exact) (he : Extends p auth j op j') :
    Recorded p auth j' := by
  cases he with
  | neither hi he => exact h.frame hi he
  | intend hs hfresh hi he => exact h.intend hs hfresh hi he
  | append hop hauth hload hv hi he =>
    exact h.append (h.told_of_load hp hload).1 (exact_of_authenticate (hx _ hop) hauth) hv hi he

variable [DecidableEq β]

theorem extends_exec (j : Journal β) (op : JournalOp β) :
    Extends p auth j op (exec p auth j op).1 := by
  cases h : perform p auth j op with
  | error e =>
    rw [exec, h]
    exact .neither rfl rfl
  | ok j' =>
    rw [exec_of_perform h]
    cases op with
    | transact =>
      obtain ⟨_, hop, rfl⟩ := map_eq_ok.mp h
      obtain ⟨_, _, hj⟩ | ⟨_, _, _, _, _, _, _, hintents, hj⟩ := transact_eq_ok hop
      · rw [hj]
        exact .neither rfl rfl
      · rw [hj]
        exact extends_of_intends hintents rfl
    | storeAuditIntent =>
      obtain ⟨_, hintents, rfl⟩ := intends_of_insertIntentTx (storeIntent_eq_ok h).2
      exact extends_of_intends hintents rfl
    | appendAuditEvent =>
      obtain ⟨_, _, _, hauth, hload, _, rfl | ⟨hv, rfl⟩⟩ := appendEvent_eq_ok h
      · exact .neither rfl rfl
      · exact .append rfl hauth hload hv rfl rfl
    | requestAuditCancellation =>
      obtain ⟨_, hop, rfl⟩ := map_eq_ok.mp h
      obtain ⟨_, hj | ⟨_, _, _, _, _, _, _, hj⟩⟩ := request_eq_ok hop <;>
        rw [hj] <;> exact .neither rfl rfl
    | completeAuditCancellation =>
      obtain ⟨_, hop, rfl⟩ := map_eq_ok.mp h
      obtain ⟨_, _, _, _, hauth, _, _, ⟨_, hj⟩ | ⟨_, hend⟩⟩ :=
        complete_eq_ok hop
      · rw [hj]
        exact .neither rfl rfl
      · obtain ⟨_, _, _, hload, _, hv, _, _, _, _, _, hj⟩ := ending_eq_ok hend
        rw [hj]
        exact .append rfl hauth hload hv rfl rfl

theorem recorded_run (hp : p.Lawful) {ops : List (JournalOp β)}
    (hx : ∀ op ∈ ops, ∀ ev ∈ op.event?, ev.Exact) :
    Recorded p auth (run (exec p auth) {} ops) := by
  refine invariant_mem (fun j op hop h => ?_) ⟨by simp, by simp, by simp⟩
  exact h.extends hp (hx op hop) (extends_exec j op)

/-- The shape of every history. Whatever is read from the journal after any operations has it;
an operation that adds an event has read such a history and leaves it extended by the event,
with that shape; and where the encoding keeps the events, the rows that are stored are those of
such a history. -/
theorem shaped_run (ops : List (JournalOp β)) :
    let j := run (exec p auth) {} ops
    (∀ envelopeHash intentHash intent evs,
      loadAuditExecutionTx p auth j envelopeHash intentHash = .ok (intent, evs) →
      Shaped p intent evs) ∧
    (∀ op, (exec p auth j op).1.auditEvents = j.auditEvents ∨
      ∃ envelopeHash intentHash intent evs ev,
        loadAuditExecutionTx p auth j envelopeHash intentHash = .ok (intent, evs) ∧
        Shaped p intent (evs ++ [ev]) ∧
        (exec p auth j op).1.auditEvents = j.auditEvents ++ [eventRowOf p ev]) ∧
    (p.Lawful → (∀ op ∈ ops, ∀ ev ∈ op.event?, ev.Exact) →
      ∀ row ∈ j.auditIntents, ∃ intent evs, row = intentRowOf p intent ∧
        rowsOf AuditEventRow.intentHash row.intentHash j.auditEvents =
          evs.map (eventRowOf p) ∧ Shaped p intent evs) := by
  intro j
  refine ⟨fun _ _ _ _ hload => ?_, fun op => ?_, fun hp hx row hrow => ?_⟩
  · obtain ⟨_, _, _, _, hvalid⟩ := loadTx_eq_ok hload
    exact shaped_of_valid hvalid
  · cases extends_exec (p := p) j op with
    | neither _ he => exact .inl he
    | intend _ _ _ he => exact .inl he
    | append _ _ hload hv _ he => exact .inr ⟨_, _, _, _, _, hload, shaped_of_valid hv, he⟩
  · obtain ⟨intent, rfl, hs, hnone | ⟨evs, ht⟩⟩ := (recorded_run hp hx).recorded row hrow
    · exact ⟨intent, [], rfl, hnone, shaped_nil hs⟩
    · exact ⟨intent, evs, rfl, ht.rows, shaped_of_valid ht.valid⟩

end Ananke.TrustedSupervisor
