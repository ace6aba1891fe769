import Ananke.TrustedSupervisor.Finalization

/-! The event by which the executor ends an attempt, and the one it falls back to. -/
namespace Ananke.TrustedSupervisor

open Text Validation Relational Machine List

section

variable {β : Type} (p : Primitives β) (auth : AuditJournalAuthority)

section

variable (intent : AuditExecutionIntent) (entry : ExecutionPolicyEntry) (evs : List
  AuditExecutionEvent)

def terminalEvent (state : AuditState) (attempt : Int) (inv : AuditInvocation)
    (res : AuditInvocationResult) (now : Nat) : AuditExecutionEvent :=
  { (newInvocationEvent p intent evs state attempt inv now).withPaths
      (auditAttemptPaths p intent entry attempt) with
    pid := res.pid
    pgid := res.pgid
    processStartIdentity := res.processStartIdentity
    exitCode := res.exitCode
    processStartedAt := res.startedAt
    processFinishedAt := res.finishedAt
    stdoutSHA256 := res.stdoutSHA256
    stderrSHA256 := res.stderrSHA256 }

/-- How an attempt ends, other than by waiting for a human. -/
inductive Ending
  | failed (failureClass : String)
  | cancelled
  | timedOut (timeoutEvidence : AuditTimeoutEvidence)
  | finalizing (outputSHA256 : String) (outputSize : Int) (evidenceJSON evidenceHash : String)

/-- The event that the executor makes of it. -/
def Ending.event (inv : AuditInvocation) (res : AuditInvocationResult) (now : Nat)
    (ending : Ending) : AuditExecutionEvent :=
  let term (state : AuditState) :=
    terminalEvent p intent entry evs state (lastAttempt evs) inv res now
  match ending with
  | .failed failureClass => { term .failed with failureClass }
  | .cancelled => { term .cancelled with failureClass := "operator_or_server_cancelled" }
  | .timedOut timeoutEvidence =>
    { term .timedOut with
      sessionUUID := timeoutEvidence.sessionUUID
      timeoutObservation := timeoutEvidence }
  | .finalizing outputSHA256 outputSize evidenceJSON evidenceHash =>
    { term .finalizing with
      sessionUUID := inv.resume.sessionUUID
      outputSHA256, outputSize, evidenceJSON, evidenceHash }

end

variable [DecidableEq β]

section

variable (j : Journal β) (evs : List AuditExecutionEvent) (ev : AuditExecutionEvent)

def appendEvent : Except Err (Journal β × List AuditExecutionEvent) := do
  let sealed ← sealAuditExecutionEvent p ev
  let j ← appendAuditEvent p auth j sealed
  pure (j, evs ++ [sealed])

def fallback : AuditExecutionEvent :=
  { ev with
    eventHash := ""
    authentication := {}
    state := .waitingForHuman
    failureClass := "terminal_event_persistence_failed"
    outputSHA256 := ""
    outputSize := 0
    evidenceJSON := ""
    evidenceHash := ""
    finalizingEventHash := "" }

/-- The state that was persisted, or the errors joined. -/
def appendRequiredTerminal :
    Except (List Err) (Journal β × List AuditExecutionEvent × AuditState) :=
  match appendEvent p auth j evs ev with
  | .ok (j, evs) => .ok (j, evs, ev.state)
  | .error err =>
    if ev.state = .waitingForHuman ∨ ∃ last ∈ evs.getLast?, last.state ≠ .prepared ∧
        last.state ≠ .running ∧ last.state ≠ .timedOut then .error [err]
    else match appendEvent p auth j evs (fallback ev) with
      | .ok (j, evs) => .ok (j, evs, .waitingForHuman)
      | .error fallbackErr => .error [err, fallbackErr]

end

end

section

variable {β : Type} {p : Primitives β} {auth : AuditJournalAuthority}
  {intent : AuditExecutionIntent} {entry : ExecutionPolicyEntry}
  {evs : List AuditExecutionEvent} {ev : AuditExecutionEvent}
  {inv : AuditInvocation} {res : AuditInvocationResult} {now : Nat} {ending : Ending}

/-- The history can be ended, and the invocation and the result are of its last attempt. -/
structure Closable (p : Primitives β) (intent : AuditExecutionIntent)
    (entry : ExecutionPolicyEntry) (events : List AuditExecutionEvent)
    (invocation : AuditInvocation) (result : AuditInvocationResult) : Prop where
  descriptor : Descriptor p intent entry (lastAttempt events) invocation
  first : events.getLast? = none → invocation.resume = {}
  last : ∀ last ∈ events.getLast?, invocation = last.invocation ∧ (last.state = .prepared ∨
    (last.state = .running ∨ last.state = .timedOut) ∧ result.pid = last.pid ∧
      result.pgid = last.pgid ∧ result.processStartIdentity = last.processStartIdentity ∧
      result.startedAt = last.processStartedAt)
  stdout : result.stdoutSHA256 = "" ∨ protocolHashPattern result.stdoutSHA256 = true
  stderr : result.stderrSHA256 = "" ∨ protocolHashPattern result.stderrSHA256 = true

/-- The clock has not gone back since the last event, nor while the process ran. -/
structure Onward (p : Primitives β) (intent : AuditExecutionIntent)
    (events : List AuditExecutionEvent) (result : AuditInvocationResult) (now : Nat) : Prop where
  created : timeOf p intent.createdAt ≤ now
  last : ∀ last ∈ events.getLast?, timeOf p last.occurredAt ≤ now
  started : result.startedAt = "" ∨ (p.parseTime result.startedAt).isSome = true ∧
    timeOf p result.startedAt ≤ now
  finished : result.finishedAt = "" ∨ (p.parseTime result.finishedAt).isSome = true ∧
    timeOf p result.finishedAt ≤ now ∧
    let startedAt := if result.startedAt = "" then 0 else timeOf p result.startedAt
    (startedAt = 0 ∨ startedAt ≤ timeOf p result.finishedAt)

section

variable [DecidableEq β] {j : Journal β} (h : Sound p auth j) (hp : p.Lawful)
  (ht : Told p auth j intent evs) (hfence : ¬ Fenced j intent.envelopeHash)
include h hp ht hfence

theorem appendEvent_accepts_iff (hauth : ev.authentication = {})
    (hhash : ev.intentHash = intent.intentHash) (hseq : ev.sequence = evs.length + 1) :
    (∃ r, appendEvent p auth j evs ev = .ok r) ↔ validateAuditExecutionHistory p auth intent
        (evs ++ [auth.stored p ev]) = .ok () := by
  constructor
  · rintro ⟨r, hr⟩
    simp only [appendEvent, ok_iff] at hr
    obtain ⟨sealed, hseal, j', happ, _⟩ := hr
    obtain ⟨hvalid, rfl⟩ := eq_sealedEvent hseal
    have hs := sealed_sealedEvent hvalid
    rw [appendEvent_next h hp ht hfence hs (authenticate_of_sealed hs hauth) hhash hseq,
      seq_eq_ok] at happ
    exact happ.1
  · intro hv
    obtain ⟨_, _, _, hc⟩ := history_append.mp hv
    obtain ⟨hvalid, _⟩ := event_eq_ok.mp (checked_eq_ok.mp hc).2.1.1
    change EventValid p ev ∧ StateValid p ev ∧ HashesValid ev at hvalid
    have hs := sealed_sealedEvent hvalid
    rw [appendEvent, sealEvent_of_valid hvalid, ok_bind,
      appendEvent_accepted h hp ht hfence hs (authenticate_of_sealed hs hauth) hv]
    exact ⟨_, rfl⟩

theorem appendRequired_ne_ok {last : AuditExecutionEvent}
    (hl : evs.getLast? = some last) (hback : now < timeOf p last.occurredAt)
    {r : Journal β × List AuditExecutionEvent × AuditState} :
    appendRequiredTerminal p auth j evs (ending.event p intent entry evs inv res now) ≠ .ok r := by
  have hrej {e : AuditExecutionEvent} {a : Journal β × List AuditExecutionEvent}
      (hauth : e.authentication = {}) (hhash : e.intentHash = intent.intentHash)
      (hseq : e.sequence = evs.length + 1) (hnow : e.occurredAt = p.formatTime now) :
      appendEvent p auth j evs e ≠ .ok a := by
    intro ha
    have hv := (appendEvent_accepts_iff h hp ht hfence hauth hhash hseq).mp ⟨a, ha⟩
    have hle : timeOf p last.occurredAt ≤ timeOf p e.occurredAt :=
      (pairwise_append.mp (shaped_of_valid hv).times).2.2 last (mem_of_getLast? hl)
        (auth.stored p e) (mem_singleton_self _)
    rw [hnow, timeOf_now hp] at hle
    omega
  intro hr
  rw [appendRequiredTerminal] at hr
  split at hr
  next happ => cases ending <;> exact hrej rfl rfl rfl rfl happ
  · split at hr
    · cases hr
    · split at hr
      next happ => cases ending <;> exact hrej rfl rfl rfl rfl happ
      · cases hr

end

/-- The fallback keeps the process, the clock and the observed timeout. -/
def waiting (p : Primitives β) (intent : AuditExecutionIntent) (entry : ExecutionPolicyEntry)
    (evs : List AuditExecutionEvent) (inv : AuditInvocation)
    (res : AuditInvocationResult) (now : Nat) (sessionUUID : String)
    (timeoutObservation : AuditTimeoutEvidence) : AuditExecutionEvent :=
  { terminalEvent p intent entry evs .waitingForHuman (lastAttempt evs) inv res now with
    failureClass := "terminal_event_persistence_failed"
    sessionUUID, timeoutObservation }

theorem exists_waiting (ending : Ending) :
    let ev := ending.event p intent entry evs inv res now
    ∃ u, fallback ev = waiting p intent entry evs inv res now u ev.timeoutObservation := by
  cases ending <;> exact ⟨_, rfl⟩

section

variable {u : String} {o : AuditTimeoutEvidence} (hp : p.Lawful)
  (hv : validateAuditExecutionHistory p auth intent evs = .ok ())
  (hr : auth.resolveIntent intent = .ok entry)
  (hx : Closable p intent entry evs inv res)
include hp hv hr hx

theorem checkPlace_waiting :
    let e := waiting p intent entry evs inv res now u o
    checkPlace p evs.getLast? e = .ok () ↔
      ∀ last ∈ evs.getLast?, timeOf p last.occurredAt ≤ now := by
  intro e
  have hnow : timeOf p e.occurredAt = now := timeOf_now hp
  have hatt : e.attempt = lastAttempt evs := rfl
  have hstate : e.state = .waitingForHuman := rfl
  cases hl : evs.getLast? with
  | none =>
    rw [lastAttempt, hl] at hatt
    rw [checkPlace, require_eq_ok]
    refine iff_of_true ⟨hatt, ?_, ?_, .inr (.inr hstate)⟩ (by simp)
    · show inv.resume.sessionUUID = ""
      rw [hx.first hl]
    · show inv.resume.synthesizeOnly = false
      rw [hx.first hl]
  | some last =>
    rw [lastAttempt, hl] at hatt
    obtain ⟨_, hbound⟩ := policyBound_of_mem hv hr (mem_of_getLast? hl)
    obtain ⟨rfl, hproc⟩ := hx.last last hl
    constructor
    · intro h _ hlast
      cases hlast
      rw [checkPlace, checkSuccessor, guard_eq_ok, hnow] at h
      exact h.1.1
    · intro hclock
      have hle : timeOf p last.occurredAt ≤ timeOf p e.occurredAt := by
        rw [hnow]
        exact hclock last rfl
      have hpaths : validAuditExecutionEventPaths p intent entry e := rfl
      have hsame : SameDescriptor last e :=
        ⟨rfl, rfl, rfl, rfl, rfl, hbound.paths hpaths hatt⟩
      refine successor_of_same hle ?_ hatt hsame ?_ ?_
      · unfold validExactAuditTransition
        rcases hproc with h | ⟨h | h, _⟩ <;>
          simpa [h, hstate, isAuditProcessExitState] using hatt
      · intro hne
        exact (hproc.resolve_left hne).2
      · rcases hproc with h | ⟨h | h, _⟩ <;> simp [h]

/-- The fallback extends the history unless it carries an observed timeout, or the clock has
gone back. -/
theorem validate_waiting_iff (hsign : auth.Signs) :
    let e := waiting p intent entry evs inv res now u o
    validateAuditExecutionHistory p auth intent (evs ++ [auth.stored p e]) = .ok () ↔
      o = {} ∧ Onward p intent evs res now := by
  intro e
  have hnow : timeOf p e.occurredAt = now := timeOf_now hp
  constructor
  · intro h
    obtain ⟨_, entry', hr', hc⟩ := history_append.mp h
    obtain rfl : entry = entry' := by simpa [hr] using hr'
    obtain ⟨_, ⟨hs, _, _, _, _, _, _, hcreated, _⟩, hplace, htimes, _⟩ := checked_eq_ok.mp hc
    have htimes : checkProcessTimes p e = .ok () := htimes
    rw [checkProcessTimes, guard_eq_ok, require_eq_ok, hnow] at htimes
    obtain ⟨⟨hvalid, _⟩, _⟩ := event_eq_ok.mp hs
    obtain ⟨_, _, _, _, _, _, _, _, _, _, _, _, _, _, _, _, _, hnone⟩ := hvalid
    have hlast := (checkPlace_waiting (u := u) (o := o) hp hv hr hx).mp hplace
    exact ⟨hnone (show AuditState.waitingForHuman ≠ .timedOut by decide), hnow ▸ hcreated, hlast,
      htimes.1, htimes.2⟩
  · rintro ⟨rfl, hcreated, hlast, hstarted, hfin⟩
    have hframed : Framed p intent entry evs (lastAttempt evs) inv now e :=
      ⟨rfl, rfl, rfl, rfl, rfl, rfl, rfl, rfl, fun _ => rfl⟩
    have hstate : StateValid p e := by
      have hs : e.state = .waitingForHuman := rfl
      rw [StateValid, hs]
      exact ⟨show "terminal_event_persistence_failed" ≠ "" by decide, rfl⟩
    have hhashes : HashesValid e := by
      simp [HashesValid, e, waiting, terminalEvent, newInvocationEvent, newEvent,
        bindAuditEventInvocation, AuditExecutionEvent.withPaths, hx.stdout, hx.stderr]
    have htimes : checkProcessTimes p e = .ok () := by
      rw [checkProcessTimes, guard_eq_ok, require_eq_ok, hnow]
      exact ⟨hstarted, hfin⟩
    have hevid : checkEvidence p intent entry (auth.signed (sealedEvent p e)) = .ok () :=
      evidence_of_none ⟨show AuditState.waitingForHuman ≠ .finalizing by decide,
        show AuditState.waitingForHuman ≠ .completed by decide⟩ ⟨rfl, rfl, rfl, rfl, rfl⟩
    have hplace : checkPlace p evs.getLast? e = .ok () :=
      (checkPlace_waiting hp hv hr hx).mpr hlast
    exact hframed.extends hp hsign hv hr hx.descriptor hcreated hstate hhashes hplace htimes hevid

end

/-- In every run that is used with care, an event that ends an attempt and is rejected is
replaced by its fallback just when it carries no observed timeout and the clock has not gone
back. -/
theorem rejected_terminal_iff [DecidableEq β] (hp : p.Lawful) (hsign : auth.Signs)
    {ops : List (JournalOp β)} (hm : Meets (exec p auth) (Careful p auth) {} ops) :
    let j := run (exec p auth) {} ops
    ∀ {intent entry evs inv res now} {ending : Ending},
      loadAuditExecutionTx p auth j intent.envelopeHash "" = .ok (intent, evs) →
      auth.resolveIntent intent = .ok entry → ¬ Fenced j intent.envelopeHash →
      Closable p intent entry evs inv res →
      let ev := ending.event p intent entry evs inv res now
      ∀ {e}, appendEvent p auth j evs ev = .error e →
        ((∃ j' events', appendRequiredTerminal p auth j evs ev =
            .ok (j', events', .waitingForHuman)) ↔
          ev.timeoutObservation = {} ∧ Onward p intent evs res now) := by
  intro j intent entry evs inv res now ending hload hr hfence hx ev e herr
  obtain ⟨ht, _⟩ := (sound_run hp hm).executions.told_of_load hp hload
  obtain ⟨u, hwaiting⟩ : ∃ u, fallback ev = waiting p intent entry evs inv res now u
    ev.timeoutObservation := exists_waiting ending
  refine Iff.trans ?_ (validate_waiting_iff (u := u) hp ht.valid hr hx hsign)
  rw [← appendEvent_accepts_iff (sound_run hp hm) hp ht hfence rfl rfl rfl, ← hwaiting]
  have hopen : ¬ (ev.state = .waitingForHuman ∨ ∃ last ∈ evs.getLast?,
      last.state ≠ .prepared ∧ last.state ≠ .running ∧ last.state ≠ .timedOut) := by
    rintro (h | ⟨last, hlast, h1, h2, h3⟩)
    · cases ending <;> cases h
    · rcases (hx.last last hlast).2 with h | ⟨h | h, _⟩ <;> contradiction
  rw [appendRequiredTerminal, herr]
  dsimp only
  rw [if_neg hopen]
  cases appendEvent p auth j evs (fallback ev) <;> simp

end

section instances

open Instance

def starting : List (JournalOp (List Token)) :=
  [.storeAuditIntent intent, .appendAuditEvent (sealedEvent prims prepared),
    .appendAuditEvent (sealedEvent prims running)]

theorem run_starting : run (exec prims authority) {} starting = toldBy story₂ := by
  rw [starting, run_cons_of exec_store, run_cons_of tell_prepared.1, run_cons_of tell_running.1,
    run_nil]

def exited : AuditInvocationResult where
  pid := 7
  pgid := 7
  processStartIdentity := "boot"
  startedAt := clockText 2
  finishedAt := clockText 3
  exitCode := 1

theorem rejected_terminal_iff_finalizing :
    let ev := Ending.event prims intent entry story₂ firstInvocation exited 3
      (.finalizing "" 0 "" "")
    ∃ j' events', appendRequiredTerminal prims authority
      (run (exec prims authority) {} starting) story₂ ev = .ok (j', events', .waitingForHuman) := by
  have hx : Closable prims intent entry story₂ firstInvocation exited := by
    refine ⟨descriptor_first, nofun, ?_, .inl rfl, .inl rfl⟩
    rintro _ ⟨⟩
    exact ⟨rfl, .inr ⟨.inl rfl, rfl, rfl, rfl, rfl⟩⟩
  have hload : loadAuditExecutionTx prims authority (toldBy story₂)
      intent.envelopeHash "" = .ok (intent, story₂) :=
    tell_running.2.1.executions.load lawful tell_running.2.2
  have hfence : ¬ Fenced (toldBy story₂) intent.envelopeHash := not_fenced
  have hm : Meets (exec prims authority) (Careful prims authority) {} starting :=
    ⟨trivial, show (sealedEvent prims prepared).Exact by decide,
      show (sealedEvent prims running).Exact by decide, trivial⟩
  have h2 : timeOf prims (clockText 2) ≤ (3 : Nat) := by rw [timeOf_clockText]; decide
  have h3 : timeOf prims (clockText 3) ≤ (3 : Nat) := by rw [timeOf_clockText]
  rw [← run_starting] at hload hfence
  refine (rejected_terminal_iff lawful signs hm hload resolve_intent hfence hx
    (e := .protocol) ?_).mpr ⟨rfl, createdAt_le 3, ?_, .inr ⟨isSome_clockText 2, h2⟩,
      .inr ⟨isSome_clockText 3, h3, .inr (clock_le (m := 2) (n := 3) (by decide))⟩⟩
  · rw [appendEvent, sealAuditExecutionEvent]
    dsimp only
    rw [if_neg fun h => absurd h.2.1.1 (by decide)]
    rfl
  · rintro _ ⟨⟩
    exact h2

/-- The clock is set back while an attempt runs: its failure is rejected, and so is the
fallback. -/
theorem terminal_lost :
    let ev := Ending.event prims intent entry story₂ firstInvocation exited 1
      (.failed "direct_omp_exit_nonzero")
    ∀ r, appendRequiredTerminal prims authority
      (run (exec prims authority) {} starting) story₂ ev ≠ .ok r := by
  intro ev r
  rw [run_starting]
  refine appendRequired_ne_ok tell_running.2.1 lawful tell_running.2.2 not_fenced
    List.getLast?_concat ?_
  rw [AuditJournalAuthority.stored, framed_running.signed.occurredAt, timeOf_now lawful]
  decide

end instances

end Ananke.TrustedSupervisor
