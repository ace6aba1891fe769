import Ananke.TrustedSupervisor.Frame

/-! The event by which a requested cancellation ends its execution. -/
namespace Ananke.TrustedSupervisor

open Text Validation Relational Machine List

variable {β : Type} {p : Primitives β} {auth : AuditJournalAuthority}
  {intent : AuditExecutionIntent} {entry : ExecutionPolicyEntry} {evs : List AuditExecutionEvent}
  {ev last : AuditExecutionEvent} {c : AuditCancellationIntent β} {x : Finish} {j : Journal β}

theorem endProcess_finishedAt : (endProcess p c x).2 = x.result.finishedAt ∨
    0 < c.expectedPID ∧ (endProcess p c x).2 = p.formatTime x.terminatedAt := by
  unfold endProcess
  dsimp only
  split
  next h =>
    split
    · exact .inl rfl
    · split
      · exact .inl rfl
      · split
        · exact .inl rfl
        · dsimp only
          split
          · exact .inr ⟨h.2, rfl⟩
          · exact .inl rfl
  · exact .inl rfl

/-- What holds where the executor calls `finalizeRequestedCancellation`: a result that comes
with a finishing time is of the process that the history has as running, an invocation is made
from the policy, and the clock does not go back. -/
structure Called (p : Primitives β) (intent : AuditExecutionIntent) (entry : ExecutionPolicyEntry)
    (events : List AuditExecutionEvent) (x : Finish) : Prop where
  started : events = [] → x.result.startedAt = ""
  finished : x.result.finishedAt = "" ∨ ∃ last t, events.getLast? = some last ∧
    last.state = .running ∧ p.parseTime x.result.finishedAt = some (t, true) ∧
    timeOf p last.processStartedAt ≤ t ∧ t ≤ x.now
  stdout : x.result.stdoutSHA256 = "" ∨ protocolHashPattern x.result.stdoutSHA256 = true
  stderr : x.result.stderrSHA256 = "" ∨ protocolHashPattern x.result.stderrSHA256 = true
  exitCode : ExactInt x.result.exitCode
  prepared : ∀ inv ∈ x.invocation, events = [] → auditDescriptor p entry intent {} = .ok inv
  clock : timeOf p intent.createdAt ≤ x.now ∧ ∀ last ∈ events.getLast?,
    timeOf p last.occurredAt ≤ x.terminatedAt ∧ x.terminatedAt ≤ x.now

/-- The policy lets a first attempt be made: its command has a descriptor and its paths are
private. -/
structure Startable (p : Primitives β) (intent : AuditExecutionIntent)
    (entry : ExecutionPolicyEntry) : Prop where
  descriptor : ∃ hash, p.auditCommandDescriptorHash entry (auditPromptSHA256 p false) intent.runID
    {} = .ok hash ∧ protocolHashPattern hash = true
  paths : let q := auditAttemptPaths p intent entry 1
    validAuditPrivatePath p q.workPath = true ∧ validAuditPrivatePath p q.outputPath = true ∧
    validAuditPrivatePath p q.sessionPath = true ∧ validAuditPrivatePath p q.promptPath = true ∧
    validAuditPrivatePath p q.temporaryPath = true

theorem Startable.invocation (h : Startable p intent entry)
    (hs : sealAuditExecutionIntent p intent = .ok intent) :
    ∃ inv, auditDescriptor p entry intent {} = .ok inv ∧
      Descriptor p intent entry 1 inv := by
  obtain ⟨hash, hdesc, hform⟩ := h.descriptor
  refine ⟨⟨hash, auditPromptSHA256 p false, intent.runID, {}⟩, ?_, rfl, rfl, hdesc, hform, .inl rfl,
    nofun, ⟨le_refl _, one_le_attemptCap hs⟩, h.paths⟩
  rw [auditDescriptor, hdesc]
  rfl

theorem checkEvent_of_last (h : Accepted p auth intent evs)
    (hr : auth.resolveIntent intent = .ok entry) (hl : evs.getLast? = some last) :
    ∃ before index, checkEvent p auth intent entry before index last = .ok () := by
  obtain ⟨_, rfl⟩ := List.getLast?_eq_some_iff.mp hl
  obtain ⟨_, entry', hr', hc⟩ := history_append.mp h
  obtain rfl : entry = entry' := by simpa [hr] using hr'
  exact ⟨_, _, hc⟩

theorem exists_descriptor (hv : Accepted p auth intent evs)
    (hr : auth.resolveIntent intent = .ok entry) (hs : Startable p intent entry)
    (hx : Called p intent entry evs x) :
    ∃ inv, Descriptor p intent entry (lastAttempt evs) inv ∧
      (∀ last ∈ evs.getLast?, inv = last.invocation) ∧
      (evs.getLast? = none → inv.resume = {}) ∧
      ∀ ev, bindClosingEvent p ev evs.getLast? x.invocation entry intent =
        .ok (bindAuditEventInvocation ev inv) := by
  cases hl : evs.getLast? with
  | some last =>
    obtain ⟨_, _, hc⟩ := checkEvent_of_last hv hr hl
    refine ⟨last.invocation, ?_, by simp, nofun, fun ev => rfl⟩
    rw [lastAttempt, hl]
    exact descriptor_of_policyBound (checked_eq_ok.mp hc).2.1
  | none =>
    have hnil := List.getLast?_eq_none_iff.mp hl
    obtain ⟨inv, hdesc, _⟩ := hs.invocation (history_eq_ok.mp hv).1
    have hresume : inv.resume = {} := by
      rw [auditDescriptor, bind_eq_ok] at hdesc
      obtain ⟨_, _, heq⟩ := hdesc
      cases heq
      rfl
    refine ⟨inv, by rwa [lastAttempt, hl], by simp, fun _ => hresume, fun ev => ?_⟩
    cases hi : x.invocation with
    | none =>
      rw [bindClosingEvent, bindAuditEventDescriptor, hdesc]
      rfl
    | some given =>
      have heq := hx.prepared given hi hnil
      rw [hdesc] at heq
      cases heq
      rfl

/-- The closing event, whatever was met. -/
def closing (p : Primitives β) (intent : AuditExecutionIntent) (entry : ExecutionPolicyEntry)
    (evs : List AuditExecutionEvent) (c : AuditCancellationIntent β) (x : Finish)
    (inv : AuditInvocation) : AuditExecutionEvent :=
  let failureClass := cleanUp (endProcess p c x).1 x.cleanup
  closingEvent c x evs.getLast? failureClass (endProcess p c x).2
    (auditAttemptPaths p intent entry (lastAttempt evs))
    (bindAuditEventInvocation (newEvent p intent evs (outcomeOf failureClass).auditState
      (lastAttempt evs) x.now) inv)

theorem buildClosingEvent_eq {inv : AuditInvocation}
    (hpaths : ∀ ev ∈ evs, validAuditExecutionEventPaths p intent entry ev)
    (h1 : 1 ≤ lastAttempt evs)
    (hbind : ∀ ev, bindClosingEvent p ev evs.getLast? x.invocation entry intent =
      .ok (bindAuditEventInvocation ev inv)) :
    buildClosingEvent p intent entry evs c x = .ok (closing p intent entry evs c x inv,
        cleanUp (endProcess p c x).1 x.cleanup) := by
  have hlt : (lastAttempt evs - 1).toNat < (lastAttempt evs).toNat := by omega
  have hget : ((List.range (lastAttempt evs).toNat).map fun (i : Nat) =>
      auditAttemptPaths p intent entry ((i : Int) + 1))[(lastAttempt evs - 1).toNat]? =
      some (auditAttemptPaths p intent entry (lastAttempt evs)) := by
    rw [List.getElem?_map, List.getElem?_range hlt, Option.map_some,
      show ((lastAttempt evs - 1).toNat : Int) + 1 = lastAttempt evs by omega]
  have hnot : ¬ lastAttempt evs < 1 := by omega
  rw [buildClosingEvent, deriveRecoveredAuditInvocations, require_of hpaths, ok_bind]
  refine bind_eq_ok.mpr ⟨_, rfl, ?_⟩
  dsimp only
  rw [if_neg hnot, hget, expect, ok_bind, hbind, ok_bind]
  rfl

variable {inv : AuditInvocation}

theorem framed_closing : Framed p intent entry evs (lastAttempt evs) inv x.now
    (closing p intent entry evs c x inv) :=
  ⟨rfl, rfl, rfl, rfl, rfl, rfl, rfl, rfl, fun _ => rfl⟩

/-- The cancellation expects no process. -/
def Absent (c : AuditCancellationIntent β) : Prop :=
  c.expectedPID = 0 ∧ c.expectedPGID = 0 ∧ c.expectedStartIdentity = ""

/-- The cancellation expects the process of the event. -/
def Expects (c : AuditCancellationIntent β) (last : AuditExecutionEvent) : Prop :=
  c.expectedPID = last.pid ∧ c.expectedPGID = last.pgid ∧
    c.expectedStartIdentity = last.processStartIdentity

/-- Where a cancellation is accepted: before the first process, between the attempts, or while
a process runs. -/
theorem cancellable_cases (hv : Accepted p auth intent evs) (hcan : Cancellable evs c) :
    (Absent c ∧ evs.getLast? = none) ∨ ∃ last, evs.getLast? = some last ∧
      (Absent c ∧ last.state = .prepared ∨ Absent c ∧ last.state = .timedOut ∨
        Expects c last ∧ last.state = .running) := by
  unfold Cancellable at hcan
  cases hl : evs.getLast? with
  | none =>
    rw [hl] at hcan
    exact .inl ⟨hcan, rfl⟩
  | some last =>
    rw [hl] at hcan
    refine .inr ⟨last, rfl, ?_⟩
    have hstate : StateValid p last :=
      (event_eq_ok.mp (sealed_of_valid hv (mem_of_getLast? hl)).1).1.2.1
    cases hs : last.state <;> simp only [hs] at hcan
    case prepared => exact .inl ⟨hcan, rfl⟩
    case timedOut => exact .inr (.inl ⟨hcan, rfl⟩)
    case running => exact .inr (.inr ⟨hcan, rfl⟩)
    case other text => simp [StateValid, hs] at hstate

/-- The last event is one from which a cancellation can be brought to its end. -/
def Endable (c : AuditCancellationIntent β) : Option AuditExecutionEvent → Prop
  | none => Absent c
  | some last => Absent c ∧ last.state = .prepared ∨ Expects c last ∧ last.state = .running

section

variable (hv : Accepted p auth intent evs)
include hv

theorem endable_of_cancellable
    (hcan : Cancellable evs c) (hne : ∀ last ∈ evs.getLast?, last.state ≠ .timedOut) :
    Endable c evs.getLast? := by
  obtain ⟨habsent, hl⟩ | ⟨last, hl, hcases⟩ := cancellable_cases hv hcan
  · rw [hl]
    exact habsent
  · rw [hl]
    rcases hcases with h | ⟨_, h⟩ | h
    · exact .inl h
    · exact absurd h (hne last hl)
    · exact .inr h

theorem running_of_last (hr : auth.resolveIntent intent = .ok entry) (hl : evs.getLast? = some last)
    (hs : last.state = .running) : ProcessKnown p last ∧ (last.processStartedAt = "" ∨
      (p.parseTime last.processStartedAt).isSome = true ∧
      timeOf p last.processStartedAt ≤ timeOf p last.occurredAt) := by
  obtain ⟨_, _, hc⟩ := checkEvent_of_last hv hr hl
  obtain ⟨_, hbound, _, htimes, _⟩ := checked_eq_ok.mp hc
  have hstate := (event_eq_ok.mp hbound.1).1.2.1
  rw [checkProcessTimes, guard_eq_ok] at htimes
  simp only [StateValid, hs] at hstate
  exact ⟨hstate.1, htimes.1⟩

theorem prepared_of_last (hl : evs.getLast? = some last) (hs : last.state = .prepared) :
    last.processStartedAt = "" := by
  have hstate := (event_eq_ok.mp (sealed_of_valid hv (mem_of_getLast? hl)).1).1.2.1
  simp only [StateValid, hs] at hstate
  exact hstate.1.2.2.2.1

end

/-- The failure class of the call, once the artifacts are cleaned up. -/
def callFailure (p : Primitives β) (c : AuditCancellationIntent β) (x : Finish) : String :=
  cleanUp (endProcess p c x).1 x.cleanup

theorem failureClass_closing : (closing p intent entry evs c x inv).failureClass ≠ "" := by
  show (if callFailure p c x ≠ "" then callFailure p c x
    else if c.expectedPID = 0 then "operator_cancelled_before_start"
    else "operator_cancelled_owned_process") ≠ ""
  split
  · assumption
  · split <;> decide

theorem state_closing : (closing p intent entry evs c x inv).state = .cancelled ∨
    (closing p intent entry evs c x inv).state = .waitingForHuman := by
  show (outcomeOf (callFailure p c x)).auditState = .cancelled ∨
    (outcomeOf (callFailure p c x)).auditState = .waitingForHuman
  unfold outcomeOf
  split
  · exact .inl rfl
  · exact .inr rfl

theorem hashesValid_closing (hx : Called p intent entry evs x) :
    HashesValid (closing p intent entry evs c x inv) := by
  intro hash hmem
  simp only [mem_cons, not_mem_nil, or_false] at hmem
  rcases hmem with rfl | rfl | rfl | rfl | rfl
  · exact .inl rfl
  · exact hx.stdout
  · exact hx.stderr
  · exact .inl rfl
  · exact .inl rfl

theorem checkEvidence_closing : checkEvidence p intent entry
      (auth.signed (sealedEvent p (closing p intent entry evs c x inv))) =
      .ok () := by
  have hs := @state_closing _ p intent entry evs c x inv
  refine evidence_of_none ⟨fun h => ?_, fun h => ?_⟩ ⟨rfl, rfl, rfl, rfl, rfl⟩ <;>
    rcases hs with hs | hs <;> exact absurd (hs.symm.trans h) (by decide)

theorem startedAt_cases (hv : Accepted p auth intent evs)
    (hx : Called p intent entry evs x) (he : Endable c evs.getLast?) :
    (closing p intent entry evs c x inv).processStartedAt = "" ∨
      ∃ last, evs.getLast? = some last ∧ last.state = .running ∧
        (closing p intent entry evs c x inv).processStartedAt =
          last.processStartedAt := by
  show (evs.getLast?.map AuditExecutionEvent.processStartedAt).getD x.result.startedAt = "" ∨
    ∃ last, evs.getLast? = some last ∧ last.state = .running ∧
      (evs.getLast?.map AuditExecutionEvent.processStartedAt).getD x.result.startedAt =
        last.processStartedAt
  cases hl : evs.getLast? with
  | none => exact .inl (hx.started (List.getLast?_eq_none_iff.mp hl))
  | some last =>
    rw [hl] at he
    rcases he with ⟨_, hs⟩ | ⟨_, hs⟩
    · exact .inl (prepared_of_last hv hl hs)
    · exact .inr ⟨last, rfl, hs, rfl⟩

section

variable (hp : p.Lawful) (hv : Accepted p auth intent evs)
  (hr : auth.resolveIntent intent = .ok entry) (hx : Called p intent entry evs x)
  (he : Endable c evs.getLast?)
include hp hv hr hx he

theorem finishedAt_cases :
    (endProcess p c x).2 = "" ∨ ∃ last t, evs.getLast? = some last ∧ last.state = .running ∧
      p.parseTime (endProcess p c x).2 = some (t, true) ∧
      (last.processStartedAt = "" ∨ timeOf p last.processStartedAt ≤ t) ∧ t ≤ x.now := by
  rcases endProcess_finishedAt with hfin | ⟨hpid, hfin⟩
  · rw [hfin]
    obtain hnone | ⟨last, t, hl, hs, hparse, hstart, hnow⟩ := hx.finished
    · exact .inl hnone
    · exact .inr ⟨last, t, hl, hs, hparse, .inr hstart, hnow⟩
  · rw [hfin]
    cases hl : evs.getLast? with
    | none =>
      rw [hl] at he
      have := he.1
      omega
    | some last =>
      rw [hl] at he
      obtain ⟨habsent, _⟩ | ⟨_, hs⟩ := he
      · have := habsent.1
        omega
      · obtain ⟨hclock, hclock'⟩ := hx.clock.2 last hl
        refine .inr ⟨last, x.terminatedAt, rfl, hs, hp.time _, ?_, by exact_mod_cast hclock'⟩
        obtain hnone | ⟨_, hstart⟩ := (running_of_last hv hr hl hs).2
        · exact .inl hnone
        · exact .inr (hstart.trans hclock)

theorem identity_closing :
    let e := closing p intent entry evs c x inv
    IdentityUnknown e ∨ ProcessKnown p e ∧ (e.processFinishedAt = "" ∨
      validServerJournalTimestamp p e.processFinishedAt = true) := by
  intro e
  have hfin := finishedAt_cases hp hv hr hx he
  have hstart : e.processStartedAt =
    (evs.getLast?.map AuditExecutionEvent.processStartedAt).getD x.result.startedAt := rfl
  cases hl : evs.getLast? with
  | none =>
    rw [hl] at he hfin hstart
    obtain hfin | ⟨_, _, hsome, _⟩ := hfin
    · exact .inl ⟨he.1, he.2.1, he.2.2,
        hstart.trans (hx.started (List.getLast?_eq_none_iff.mp hl)), hfin⟩
    · cases hsome
  | some last =>
    rw [hl] at he hfin hstart
    rcases he with ⟨habsent, hs⟩ | ⟨hexp, hs⟩
    · have hnone : (endProcess p c x).2 = "" := by
        obtain hfin | ⟨_, _, hsome, hrun, _⟩ := hfin
        · exact hfin
        · cases hsome
          rw [hs] at hrun
          cases hrun
      exact .inl ⟨habsent.1, habsent.2.1, habsent.2.2,
        hstart.trans (prepared_of_last hv hl hs), hnone⟩
    · obtain ⟨hpid, hpgid, hid, hstarted⟩ := (running_of_last hv hr hl hs).1
      refine .inr ⟨⟨?_, ?_, ?_, ?_⟩, ?_⟩
      · exact (show e.pid = last.pid from hexp.1) ▸ hpid
      · exact (hexp.2.1.trans hpgid).trans hexp.1.symm
      · exact (show e.processStartIdentity = last.processStartIdentity from hexp.2.2) ▸ hid
      · rw [hstart]
        exact hstarted
      · obtain hfin | ⟨_, _, _, _, hparse, _⟩ := hfin
        · exact .inl hfin
        · refine .inr ?_
          rw [validServerJournalTimestamp, show e.processFinishedAt = (endProcess p c x).2 from rfl,
            hparse]

theorem stateValid_closing : StateValid p (closing p intent entry evs c x inv) := by
  unfold StateValid
  obtain hs | hs := @state_closing _ p intent entry evs c x inv
  · rw [hs]
    exact ⟨identity_closing hp hv hr hx he, failureClass_closing, rfl⟩
  · rw [hs]
    exact ⟨failureClass_closing, rfl⟩

theorem checkProcessTimes_closing :
    checkProcessTimes p (closing p intent entry evs c x inv) = .ok () := by
  have hnow : timeOf p (closing p intent entry evs c x inv).occurredAt = x.now :=
    timeOf_now hp
  have hstart := @startedAt_cases _ p auth intent entry evs c x inv hv hx he
  rw [checkProcessTimes, guard_eq_ok, require_eq_ok, hnow]
  constructor
  · obtain hnone | ⟨last, hl, hs, heq⟩ := hstart
    · exact .inl hnone
    · rw [heq]
      obtain hnone | ⟨hparse, hle⟩ := (running_of_last hv hr hl hs).2
      · exact .inl hnone
      · obtain ⟨_, _⟩ := hx.clock.2 last hl
        exact .inr ⟨hparse, by omega⟩
  · obtain hnone | ⟨last, t, hl, _, hparse, hpre, _⟩ := finishedAt_cases hp hv hr hx he
    · exact .inl hnone
    · have hfin : p.parseTime (closing p intent entry evs c x inv).processFinishedAt =
        some (t, true) := hparse
      have htime : timeOf p (closing p intent entry evs c x inv).processFinishedAt = t := by
        rw [timeOf, hfin]
      refine .inr ⟨by rw [hfin]; rfl, by rwa [htime], ?_⟩
      rw [htime]
      obtain hnone | ⟨last', hl', _, heq⟩ := hstart
      · exact .inl (by rw [if_pos hnone])
      · obtain rfl : last = last' := by simpa [hl] using hl'
        rw [heq]
        obtain hnone | hle := hpre
        · exact .inl (if_pos hnone)
        · by_cases hempty : last.processStartedAt = ""
          · exact .inl (if_pos hempty)
          · exact .inr (by rwa [if_neg hempty])

theorem checkPlace_closing (hlast : ∀ last ∈ evs.getLast?, inv = last.invocation)
    (hfirst : evs.getLast? = none → inv.resume = {}) :
    checkPlace p evs.getLast? (closing p intent entry evs c x inv) = .ok () := by
  have hstate := @state_closing _ p intent entry evs c x inv
  have hnow : timeOf p (closing p intent entry evs c x inv).occurredAt = x.now :=
    timeOf_now hp
  have hatt : (closing p intent entry evs c x inv).attempt = lastAttempt evs := rfl
  cases hl : evs.getLast? with
  | none =>
    rw [checkPlace, require_eq_ok]
    have hresume := hfirst hl
    exact ⟨by rw [hatt, lastAttempt, hl]; rfl, congrArg (·.sessionUUID) hresume,
      congrArg (·.synthesizeOnly) hresume, .inr hstate⟩
  | some last =>
    have hsame : (closing p intent entry evs c x inv).attempt = last.attempt := by
      rw [hatt, lastAttempt, hl]
      rfl
    obtain ⟨_, _⟩ := hx.clock.2 last hl
    have hopen := hl ▸ he
    refine successor_of_same (by omega) ?_ hsame ?_ ?_ ?_
    · unfold validExactAuditTransition
      rcases hopen with ⟨_, hs⟩ | ⟨_, hs⟩ <;> rcases hstate with h | h <;>
        simp [hs, h, hsame, isAuditProcessExitState]
    · obtain ⟨_, _, hc⟩ := checkEvent_of_last hv hr hl
      obtain rfl := hlast last hl
      exact ⟨rfl, rfl, rfl, rfl, rfl, (checked_eq_ok.mp hc).2.1.paths rfl hsame⟩
    · intro hstarted
      rcases hopen with ⟨_, hs⟩ | ⟨hexp, _⟩
      · exact absurd hs hstarted
      · refine ⟨hexp.1, hexp.2.1, hexp.2.2, ?_⟩
        show (evs.getLast?.map AuditExecutionEvent.processStartedAt).getD x.result.startedAt = _
        rw [hl]
        rfl
    · rcases hopen with ⟨_, hs⟩ | ⟨_, hs⟩ <;> simp [hs]

end

end Ananke.TrustedSupervisor
