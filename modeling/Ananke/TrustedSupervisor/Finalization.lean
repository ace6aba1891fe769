import Ananke.TrustedSupervisor.Closing
import Ananke.TrustedSupervisor.Exclusivity

/-! A requested cancellation is brought to its end, unless its execution last timed out. -/
namespace Ananke.TrustedSupervisor

open Text Validation Relational Machine List

section

variable {β : Type} {p : Primitives β} {auth : AuditJournalAuthority}
  {intent : AuditExecutionIntent} {entry : ExecutionPolicyEntry}
  {evs : List AuditExecutionEvent} {ev last : AuditExecutionEvent}
  {c : AuditCancellationIntent β} {x : Finish}

/-- The closing event is built, can be sealed, and extends the history. -/
theorem exists_closing (hp : p.Lawful) (hsign : auth.Signs) (hv : Accepted p auth intent evs)
    (hr : auth.resolveIntent intent = .ok entry) (hstart : Startable p intent entry)
    (hx : Called p intent entry evs x) (he : Endable c evs.getLast?) :
    ∃ ev failureClass, buildClosingEvent p intent entry evs c x = .ok (ev, failureClass) ∧
      sealAuditExecutionEvent p ev = .ok (sealedEvent p ev) ∧
      sealAuditExecutionEvent p (sealedEvent p ev) = .ok (sealedEvent p ev) ∧
      ev.state = (outcomeOf failureClass).auditState ∧ ev.authentication = {} ∧
      Accepted p auth intent (evs ++ [auth.signed (sealedEvent p ev)]) := by
  obtain ⟨inv, hd, hlast, hfirst, hbind⟩ := exists_descriptor hv hr hstart hx
  have hpaths : ∀ ev ∈ evs, validAuditExecutionEventPaths p intent entry ev := by
    intro ev hevent
    obtain ⟨_, _, _, _, _, _, _, _, _, _, _, _, hpath⟩ := policyBound_of_mem hv hr hevent
    exact hpath
  have hframed : Framed p intent entry evs (lastAttempt evs) inv x.now
    (closing p intent entry evs c x inv) := framed_closing
  have hstate : StateValid p (closing p intent entry evs c x inv) :=
    stateValid_closing hp hv hr hx he
  have hhashes : HashesValid (closing p intent entry evs c x inv) :=
    hashesValid_closing hx
  have hvalid := And.intro (hframed.eventValid hp hd hv) (And.intro hstate hhashes)
  refine ⟨_, _, buildClosingEvent_eq hpaths hd.bounds.1 hbind,
    sealEvent_of_valid hvalid, sealed_sealedEvent hvalid, rfl, rfl, ?_⟩
  exact hframed.extends hp hsign hv hr hd hx.clock.1 hstate hhashes
    (checkPlace_closing hp hv hr hx he hlast hfirst) (checkProcessTimes_closing hp hv hr hx he)
    checkEvidence_closing

theorem pid_of_buildClosingEvent {failureClass : String}
    (h : buildClosingEvent p intent entry evs c x = .ok (ev, failureClass)) :
    ev.pid = c.expectedPID ∧ ev.attempt = lastAttempt evs := by
  simp only [buildClosingEvent, ok_iff] at h
  obtain ⟨_, _, _, _, bound, hbound, h⟩ := h
  cases h
  refine ⟨rfl, ?_⟩
  show bound.attempt = lastAttempt evs
  unfold bindClosingEvent at hbound
  split at hbound
  · cases hbound
    rfl
  · cases hbound
    rfl
  · rw [bindAuditEventDescriptor, bind_eq_ok] at hbound
    obtain ⟨_, _, h⟩ := hbound
    cases h
    rfl

theorem pid_pos_of_timedOut (hv : Accepted p auth intent (evs ++ [ev]))
    (hl : evs.getLast? = some last) (hs : last.state = .timedOut)
    (ha : ev.attempt = last.attempt) : 0 < ev.pid := by
  obtain ⟨hvalid, _, _, hc⟩ := history_append.mp hv
  obtain ⟨_, _, hplace, _⟩ := checked_eq_ok.mp hc
  rw [hl, checkPlace, checkSuccessor, seq_eq_ok, seq_eq_ok, guard_eq_ok, require_eq_ok] at hplace
  obtain ⟨_, _, hproc, _⟩ := hplace
  have hstate := (event_eq_ok.mp (sealed_of_valid hvalid (mem_of_getLast? hl)).1).1.2.1
  simp only [StateValid, hs] at hstate
  exact (hproc (.inr ⟨hs, ha⟩)).1 ▸ hstate.1.1

variable {j : Journal β} [DecidableEq β] {record : AuditCancellationRecord β}
  {resp : CancelOutcome → String → Except Err β}

/-- What a requested cancellation needs to be ended: the last event is not a timeout, nothing
it holds is taken, and the closing event has a hash of its own. -/
structure Finishable (p : Primitives β) (j : Journal β) (intent : AuditExecutionIntent)
    (entry : ExecutionPolicyEntry) (events : List AuditExecutionEvent)
    (c : AuditCancellationIntent β) (x : Finish) : Prop where
  last : ∀ last ∈ events.getLast?, last.state ≠ .timedOut
  unclaimed : Unclaimed j c
  fresh : ∀ event failureClass, buildClosingEvent p intent entry events c x =
    .ok (event, failureClass) → ∀ r ∈ j.cancellationOutcomes,
      r.auditEventHash ≠ (sealedEvent p event).eventHash

theorem Sound.asked_of_load (h : Sound p auth j) (hp : p.Lawful)
    (hrec : loadAuditCancellationTx p auth j "" intent.envelopeHash = .ok (some record))
    (hreq : record.state = .requested) (ht : Told p auth j intent evs) :
    Pending p j record.intent ∧ Asked p auth j record.intent intent evs := by
  have hne := hash_ne_empty (envelope_of_sealed ht.sealed)
  obtain ⟨row, hrow⟩ : ∃ row, j.cancelRow "" intent.envelopeHash = some row := by
    cases hsel : j.cancelRow "" intent.envelopeHash with
    | none => simp [loadAuditCancellationTx, hsel] at hrec
    | some row => exact ⟨row, rfl⟩
  have hmem : row ∈ j.cancellationIntents ∧ row.envelopeHash = intent.envelopeHash := by
    rw [Journal.cancelRow, if_pos hne] at hrow
    exact ⟨mem_of_find?_eq_some hrow, key_of_select hrow⟩
  obtain ⟨_, rfl, hc, hs, hset, hl⟩ := h.cancellations.load_of_row h.executions hp hrow
  rw [hrec] at hl
  cases hl
  have hnone := recordTold_state.mp hreq
  rw [Settled, hnone] at hset
  obtain ⟨_, _, ha⟩ := hset
  obtain ⟨rfl, rfl⟩ := h.executions.unique_envelope hp ha.told ht (ha.envelopeHash.trans hmem.2)
  rw [recordTold_intent]
  exact ⟨⟨hmem.1, hc, hs, hnone⟩, ha⟩

theorem Sound.finalizeRequestedCancellation (h : Sound p auth j) (hp : p.Lawful)
    (hsign : auth.Signs)
    (hrec : loadAuditCancellationTx p auth j "" intent.envelopeHash = .ok (some record))
    (hreq : record.state = .requested)
    (hload : loadAuditExecutionTx p auth j intent.envelopeHash "" = .ok (intent, evs))
    (hr : auth.resolveIntent intent = .ok entry) (hstart : Startable p intent entry)
    (hx : Called p intent entry evs x)
    (hresp : ∀ outcome failureClass, ∃ bytes, resp outcome failureClass = .ok bytes ∧
      0 < p.size bytes ∧ p.size bytes ≤ maxFrameBytes)
    (hf : Finishable p j intent entry evs record.intent x) :
    ∃ j', finalizeRequestedCancellation p auth j intent entry x resp = .ok (j', true) ∧
      record.intent.intentHash ∈ j'.cancellationOutcomes.map OutcomeRow.intentHash := by
  obtain ⟨ht, _⟩ := h.executions.told_of_load hp hload
  obtain ⟨hc, ha⟩ := h.asked_of_load hp hrec hreq ht
  have he := endable_of_cancellable ht.valid ha.cancellable hf.last
  obtain ⟨ev, failureClass, hbuild, hseal, hsealed, hstate, hauth, hhistory⟩ :=
    exists_closing hp hsign ht.valid hr hstart hx he
  obtain ⟨bytes, hbytes, hsize⟩ := hresp (outcomeOf failureClass) failureClass
  have hcompl := complete_accepted h hp hc ha hsealed hstate
    (authenticate_of_sealed hsealed hauth) hhistory hsize hf.unclaimed
    (hf.fresh ev failureClass hbuild)
  refine ⟨closedWith p j record.intent (auth.signed (sealedEvent p ev))
    (outcomeOf failureClass) (cancellationCommit p record.intent
      (auth.signed (sealedEvent p ev)) bytes), ?_, by simp [closedWith]⟩
  simp only [TrustedSupervisor.finalizeRequestedCancellation,
    require_of (envelope_of_sealed ht.sealed), ok_bind, h.validate hp, hrec,
    if_neg (not_not.mpr hreq), hload, hbuild, hseal, hbytes, hcompl]
  rfl

/-- In every run that is used with care, a cancellation that is requested and can be finished
is brought to its end by `finalizeRequestedCancellation`, whatever became of its process and its
artifacts. -/
theorem requested_cancellation_ends (hp : p.Lawful) (hsign : auth.Signs)
    {ops : List (JournalOp β)} (hm : Meets (exec p auth) (Careful p auth) {} ops) :
    let j := run (exec p auth) {} ops
    ∀ {intent entry evs record x resp},
      loadAuditCancellationTx p auth j "" intent.envelopeHash = .ok (some record) →
      record.state = .requested →
      loadAuditExecutionTx p auth j intent.envelopeHash "" = .ok (intent, evs) →
      auth.resolveIntent intent = .ok entry → Startable p intent entry →
      Called p intent entry evs x →
      (∀ outcome failureClass, ∃ bytes, resp outcome failureClass = .ok bytes ∧
        0 < p.size bytes ∧ p.size bytes ≤ maxFrameBytes) →
      Finishable p j intent entry evs record.intent x →
      ∃ j', finalizeRequestedCancellation p auth j intent entry x resp = .ok (j', true) ∧
        record.intent.intentHash ∈ j'.cancellationOutcomes.map OutcomeRow.intentHash := by
  intro j intent entry evs record x resp hrecord hreq hload hr hstart hx hresponse hf
  exact (sound_run hp hm).finalizeRequestedCancellation hp hsign hrecord hreq hload hr hstart hx
    hresponse hf

/-- After a timeout a requested cancellation cannot be ended: the closing event has no process,
but its place demands the one that timed out. -/
theorem not_finalize_of_timedOut (h : Sound p auth j) (hp : p.Lawful)
    (hrec : loadAuditCancellationTx p auth j "" intent.envelopeHash = .ok (some record))
    (hreq : record.state = .requested)
    (hload : loadAuditExecutionTx p auth j intent.envelopeHash "" = .ok (intent, evs))
    (hl : evs.getLast? = some last) (hs : last.state = .timedOut) {j' : Journal β} :
    finalizeRequestedCancellation p auth j intent entry x resp ≠ .ok (j', true) := by
  intro hfinal
  obtain ⟨ht, _⟩ := h.executions.told_of_load hp hload
  obtain ⟨⟨hmem, hx, _, hnone⟩, ha⟩ := h.asked_of_load hp hrec hreq ht
  rw [finalizeRequestedCancellation, seq_eq_ok, seq_eq_ok, hrec, ok_bind] at hfinal
  obtain ⟨_, _, hfinal⟩ := hfinal
  dsimp only at hfinal
  rw [if_neg (not_not.mpr hreq), hload, ok_bind] at hfinal
  simp only [ok_iff] at hfinal
  obtain ⟨⟨ev, _⟩, hbuild, _, hseal, ⟨_, _⟩, hcompl, _⟩ := hfinal
  obtain ⟨_, _, event', old, hauth, hexist, _, hcases⟩ :=
    complete_eq_ok hcompl
  -- the cancellation has no outcome yet, so one is being written
  have hopen : old.state = .requested := by
    obtain ⟨_, hrow, hc, _, _, hread⟩ := h.cancellations.load h.executions hp hmem
    obtain rfl := cancelRowOf_inj hp hx hc hrow
    rw [show (cancelRowOf p record.intent).requestHash = record.intent.requestHash from rfl,
      hexist] at hread
    cases hread
    exact recordTold_state.mpr hnone
  obtain ⟨hended, _⟩ | ⟨_, hend⟩ := hcases
  · exact hended hopen
  · obtain ⟨_, _, _, hload', _, hv, _⟩ := ending_eq_ok hend
    rw [← ha.envelopeHash, hload] at hload'
    cases hload'
    obtain ⟨hpid, hatt⟩ := pid_of_buildClosingEvent hbuild
    have hevent : event'.pid = ev.pid ∧ event'.attempt = ev.attempt := by
      obtain ⟨_, rfl⟩ := eq_sealedEvent hseal
      obtain rfl | ⟨_, rfl, _⟩ := authenticate_eq_ok hauth <;> exact ⟨rfl, rfl⟩
    have habsent : record.intent.expectedPID = 0 := by
      obtain ⟨_, hnil⟩ | ⟨_, hl', hcan⟩ := cancellable_cases ht.valid ha.cancellable
      · rw [hl] at hnil
        cases hnil
      · rw [hl] at hl'
        cases hl'
        simp only [hs, reduceCtorEq, and_false, and_true, false_or, or_false] at hcan
        exact hcan.1
    have hpos := pid_pos_of_timedOut hv hl hs (by
      rw [hevent.2, hatt, lastAttempt, hl]
      rfl)
    rw [hevent.1, hpid, habsent] at hpos
    exact absurd hpos (by decide)

end

section instances

open Instance

theorem signs : authority.Signs := by
  intro payload
  have hne : "ed25519:" ++ payload.eventHash ≠ "" := by simp
  simp [authority, hne]

theorem startable : Startable prims intent entry where
  descriptor := ⟨_, rfl, pattern_sha _⟩
  paths := by
    refine ⟨?_, ?_, ?_, ?_, ?_⟩
    all_goals decide

variable {attempt : Int}

theorem load_requested {j : Journal (List Token)} (h : Sound prims authority j)
    (hrows : j.cancellationIntents = [cancelRowOf prims (cancel attempt)])
    (hnone : j.cancellationOutcomes = []) (hx : (cancel attempt).Exact) :
    loadAuditCancellationTx prims authority j "" intent.envelopeHash =
      .ok (some ⟨cancel attempt, .requested, none, none⟩) := by
  have hne := hash_ne_empty (envelope_of_sealed sealed_intent)
  have hsel : select CancelIntentRow.envelopeHash intent.envelopeHash
      j.cancellationIntents = some (cancelRowOf prims (cancel attempt)) := by
    rw [hrows, select, List.find?_singleton, if_pos (by simp [cancelRowOf, cancel])]
  have hrow : j.cancelRow "" intent.envelopeHash = some (cancelRowOf prims (cancel attempt)) := by
    rwa [Journal.cancelRow, if_pos hne]
  obtain ⟨_, hc, hcx, _, _, hload⟩ := h.cancellations.load_of_row h.executions lawful hrow
  obtain rfl := cancelRowOf_inj lawful hx hcx hc
  rw [hload, recordTold, hnone]
  rfl

def firstInvocation : AuditInvocation :=
  ⟨sha (checksum (auditPromptSHA256 prims false ++ intent.runID)),
    auditPromptSHA256 prims false, intent.runID, {}⟩

theorem descriptor_first : Descriptor prims intent entry 1 firstInvocation :=
  ⟨rfl, rfl, rfl, pattern_sha _, .inl rfl, nofun,
    ⟨le_refl _, one_le_attemptCap sealed_intent⟩, startable.paths⟩

def attemptEvent (evs : List AuditExecutionEvent) (state : AuditState) : AuditExecutionEvent :=
  (newInvocationEvent prims intent evs state 1 firstInvocation
    (evs.length + 1)).withPaths (auditAttemptPaths prims intent entry 1)

def prepared : AuditExecutionEvent := attemptEvent [] .prepared

def story₁ : List AuditExecutionEvent := [authority.stored prims prepared]

def running : AuditExecutionEvent :=
  { attemptEvent story₁ .running with
    pid := 7
    pgid := 7
    processStartIdentity := "boot"
    processStartedAt := clockText 2 }

def story₂ : List AuditExecutionEvent := story₁ ++ [authority.stored prims running]

/-- What was observed of the timeout. -/
def observation : AuditTimeoutEvidence :=
  let bare : AuditTimeoutEvidence := {
    schemaVersion := auditTimeoutObservationSchemaVersion
    timeoutSource := auditTimeoutSourceSupervisorHardDeadline
    deadlineObservation := "supervisor_hard_deadline_timer_fired"
    internalDeadlineSeconds := 1
    supervisorHardDeadlineSeconds := 2
    runID := auditAttemptRunID intent 1
    sessionRunID := intent.runID
    commandDescriptorHash := firstInvocation.commandDescriptorHash
    promptSHA256 := firstInvocation.promptSHA256
    sandboxProfileSHA256 := sha 33
    sessionRoot := (auditAttemptPaths prims intent entry 1).sessionPath
    sessionUUID := "00000000-0000-4000-8000-000000000000"
    sessionPath := "session"
    synthesizeOnly := true
    pid := 7
    pgid := 7
    processStartIdentity := "boot"
    processStartedAt := clockText 2
    processFinishedAt := clockText 3
    exitCode := 1
    stdoutSHA256 := sha 31
    stderrSHA256 := sha 32
    processGroupExitConfirmed := true }
  { bare with observationHash := prims.hashJournalBytes (prims.encodeTimeout bare) }

def timedOut : AuditExecutionEvent :=
  { attemptEvent story₂ .timedOut with
    pid := 7
    pgid := 7
    processStartIdentity := "boot"
    processStartedAt := clockText 2
    processFinishedAt := clockText 3
    exitCode := 1
    stdoutSHA256 := sha 31
    stderrSHA256 := sha 32
    sessionUUID := "00000000-0000-4000-8000-000000000000"
    timeoutObservation := observation }

/-- The process has timed out. -/
def story₃ : List AuditExecutionEvent := story₂ ++ [authority.stored prims timedOut]

theorem framed_prepared : Framed prims intent entry [] 1 firstInvocation 1 prepared :=
  ⟨rfl, rfl, rfl, rfl, rfl, rfl, rfl, rfl, fun _ => rfl⟩

theorem framed_running : Framed prims intent entry story₁ 1 firstInvocation 2 running :=
  ⟨rfl, rfl, rfl, rfl, rfl, rfl, rfl, rfl, fun _ => rfl⟩

theorem framed_timedOut : Framed prims intent entry story₂ 1 firstInvocation 3 timedOut :=
  ⟨rfl, rfl, rfl, rfl, rfl, rfl, rfl, rfl, fun h => absurd rfl h⟩

theorem stateValid_prepared : StateValid prims prepared :=
  ⟨⟨rfl, rfl, rfl, rfl, rfl⟩, rfl, rfl, rfl, rfl⟩

theorem stateValid_running : StateValid prims running :=
  ⟨⟨by decide, rfl, by decide, valid_now lawful⟩, rfl, rfl, rfl, rfl⟩

theorem timeout_observation : validAuditTimeoutEvidence prims observation = true := by
  have hvalid : TimeoutValid prims { observation with observationHash := "" } := by
    refine ⟨rfl, .inr rfl, by decide, by decide, ?_, ?_, pattern_sha _,
      hash_journal _, pattern_sha _, ?_, ?_, ?_, rfl, .inl rfl,
      rfl, by decide, rfl, by decide, valid_now lawful,
      valid_now lawful, pattern_sha _,
      pattern_sha _, rfl, nofun, fun _ => rfl⟩
    all_goals decide
  have hsess : TimeoutSessionValid prims { observation with observationHash := "" } := by
    decide
  rw [validAuditTimeoutEvidence, sealAuditTimeoutEvidence, if_neg (not_not.mpr hvalid),
    if_neg (not_not.mpr hsess), Bool.and_eq_true, decide_eq_true_eq]
  exact ⟨rfl, hash_journal _⟩

theorem stateValid_timedOut : StateValid prims timedOut := by
  refine ⟨⟨by decide, rfl, by decide, valid_now lawful⟩,
    valid_now lawful, by decide, rfl, timeout_observation,
    by decide, rfl, rfl, rfl, rfl, rfl, rfl, rfl, rfl, rfl, rfl, rfl, rfl, rfl, rfl⟩

theorem hashesValid_prepared : HashesValid prepared := by
  simp [HashesValid, prepared, attemptEvent, newInvocationEvent, newEvent,
    bindAuditEventInvocation, AuditExecutionEvent.withPaths]

theorem hashesValid_running : HashesValid running := by
  simp [HashesValid, running, attemptEvent, newInvocationEvent, newEvent,
    bindAuditEventInvocation, AuditExecutionEvent.withPaths]

theorem hashesValid_timedOut : HashesValid timedOut := by
  intro hash hmem
  simp only [mem_cons, not_mem_nil, or_false] at hmem
  rcases hmem with rfl | rfl | rfl | rfl | rfl
  · exact .inl rfl
  · exact .inr (pattern_sha _)
  · exact .inr (pattern_sha _)
  · exact .inl rfl
  · exact .inl rfl

theorem timeOf_clockText {n : Nat} : timeOf prims (clockText n) = n :=
  timeOf_now lawful

theorem isSome_clockText (n : Nat) : (prims.parseTime (clockText n)).isSome = true := by
  rw [show clockText n = prims.formatTime n from rfl, lawful.time]
  rfl

theorem createdAt_le (now : Nat) : timeOf prims intent.createdAt ≤ now := by
  rw [show intent.createdAt = clockText 0 from rfl, timeOf_clockText]
  exact Int.natCast_nonneg now

theorem clock_le {m n : Nat} (h : m ≤ n) :
    timeOf prims (clockText m) ≤ timeOf prims (clockText n) := by
  rw [timeOf_clockText, timeOf_clockText]
  exact_mod_cast h

theorem valid_story₁ : Accepted prims authority intent story₁ :=
  framed_prepared.extends lawful signs (history_eq_ok.mpr ⟨sealed_intent, _, resolve_intent, rfl⟩)
    resolve_intent descriptor_first (createdAt_le 1) stateValid_prepared
    hashesValid_prepared
    (require_eq_ok.mpr ⟨rfl, rfl, rfl, .inl rfl⟩) (processTimes_of_none rfl rfl)
    (evidence_of_none ⟨nofun, nofun⟩ ⟨rfl, rfl, rfl, rfl, rfl⟩)

theorem valid_story₂ : Accepted prims authority intent story₂ := by
  refine framed_running.extends lawful signs valid_story₁ resolve_intent
    descriptor_first (createdAt_le 2) stateValid_running
    hashesValid_running
    (successor_of_same (clock_le (m := 1) (n := 2) (by decide)) rfl rfl
      ⟨rfl, rfl, rfl, rfl, rfl, rfl, rfl, rfl, rfl, rfl⟩ (fun h => absurd rfl h) nofun) ?_
    (evidence_of_none ⟨nofun, nofun⟩ ⟨rfl, rfl, rfl, rfl, rfl⟩)
  rw [checkProcessTimes, guard_eq_ok, require_eq_ok]
  exact ⟨.inr ⟨isSome_clockText 2, le_refl _⟩, .inl rfl⟩

theorem valid_story₃ : Accepted prims authority intent story₃ := by
  refine framed_timedOut.extends lawful signs valid_story₂ resolve_intent
    descriptor_first (createdAt_le 3) stateValid_timedOut hashesValid_timedOut
    (successor_of_same (clock_le (m := 2) (n := 3) (by decide)) rfl rfl
      ⟨rfl, rfl, rfl, rfl, rfl, rfl, rfl, rfl, rfl, rfl⟩ (fun _ => ⟨rfl, rfl, rfl, rfl⟩) nofun) ?_
    (evidence_of_none ⟨nofun, nofun⟩ ⟨rfl, rfl, rfl, rfl, rfl⟩)
  rw [checkProcessTimes, guard_eq_ok, require_eq_ok]
  exact ⟨.inr ⟨isSome_clockText 2, clock_le (m := 2) (n := 3) (by decide)⟩,
    .inr ⟨isSome_clockText 3, le_refl _, .inr (clock_le (m := 2) (n := 3) (by decide))⟩⟩

/-- The journal that tells the execution by the events. -/
def toldBy (evs : List AuditExecutionEvent) : Journal (List Token) :=
  { stored with auditEvents := evs.map (eventRowOf prims) }

variable {evs : List AuditExecutionEvent}

theorem not_fenced : ¬ Fenced (toldBy evs) intent.envelopeHash := by
  simp [Fenced, toldBy, stored]

/-- Appending a framed event to it. -/
theorem tell {ev : AuditExecutionEvent} {now : Nat}
    (hf : Framed prims intent entry evs 1 firstInvocation now ev)
    (h : Sound prims authority (toldBy evs))
    (ht : Told prims authority (toldBy evs) intent evs)
    (hstate : StateValid prims ev) (hhashes : HashesValid ev)
    (hauth : ev.authentication = {}) (hx : (authority.stored prims ev).Exact)
    (hv : Accepted prims authority intent (evs ++ [authority.stored prims ev])) :
    exec prims authority (toldBy evs) (.appendAuditEvent (sealedEvent prims ev)) =
      (toldBy (evs ++ [authority.stored prims ev]), .ok ()) ∧
      Sound prims authority (toldBy (evs ++ [authority.stored prims ev])) ∧
      Told prims authority (toldBy (evs ++ [authority.stored prims ev])) intent
        (evs ++ [authority.stored prims ev]) := by
  have heq : toldBy (evs ++ [authority.stored prims ev]) =
      { toldBy evs with auditEvents := (toldBy evs).auditEvents ++
        [eventRowOf prims (authority.stored prims ev)] } := by
    simp [toldBy]
  rw [heq]
  exact hf.exec_append h lawful ht not_fenced descriptor_first hstate hhashes hauth hx hv

theorem toldBy_nil : toldBy [] = stored := rfl

theorem tell_prepared : exec prims authority stored
        (.appendAuditEvent (sealedEvent prims prepared)) = (toldBy story₁, .ok ()) ∧
      Sound prims authority (toldBy story₁) ∧
      Told prims authority (toldBy story₁) intent story₁ :=
  toldBy_nil ▸ tell framed_prepared (toldBy_nil ▸ sound_stored) (toldBy_nil ▸ told_intent rfl rfl)
    stateValid_prepared hashesValid_prepared rfl (by decide) valid_story₁

theorem tell_running : exec prims authority (toldBy story₁)
        (.appendAuditEvent (sealedEvent prims running)) = (toldBy story₂, .ok ()) ∧
      Sound prims authority (toldBy story₂) ∧
      Told prims authority (toldBy story₂) intent story₂ :=
  tell framed_running tell_prepared.2.1 tell_prepared.2.2 stateValid_running hashesValid_running
    rfl (by decide) valid_story₂

theorem tell_timedOut : exec prims authority (toldBy story₂)
        (.appendAuditEvent (sealedEvent prims timedOut)) = (toldBy story₃, .ok ()) ∧
      Sound prims authority (toldBy story₃) ∧
      Told prims authority (toldBy story₃) intent story₃ :=
  tell framed_timedOut tell_running.2.1 tell_running.2.2 stateValid_timedOut hashesValid_timedOut
    rfl (by decide) valid_story₃

/-- The cancellation is requested after the events. -/
def requestedAfter (evs : List AuditExecutionEvent) (attempt : Int) : Journal (List Token) :=
  { toldBy evs with cancellationIntents := [cancelRowOf prims (cancel attempt)] }

theorem request_told (h1 : 1 ≤ attempt) (h2 : attempt ≤ 2)
    (h : Sound prims authority (toldBy evs)) (ht : Told prims authority (toldBy evs) intent evs)
    (hc : Cancellable evs (cancel attempt)) :
    exec prims authority (toldBy evs) (.requestAuditCancellation (cancel attempt)) =
        (requestedAfter evs attempt, .ok ()) ∧
      Sound prims authority (requestedAfter evs attempt) := by
  have hs := sealed_cancel h1 (by omega)
  have ha : Asked prims authority (toldBy evs) (cancel attempt) intent evs :=
    ⟨ht, rfl, rfl, rfl, h2, hc⟩
  have hreq := request_accepted h lawful hs ha (by simp [CancellationConflict, toldBy, stored])
    (by simp [toldBy, stored])
  refine ⟨exec_of_perform (map_eq_ok.mpr ⟨_, hreq, rfl⟩), ?_⟩
  exact h.asked (exact_cancel h1 h2) hs ha (by simp [toldBy, stored])

theorem cancellable_of_last {last : AuditExecutionEvent} (hl : evs.getLast? = some last)
    (hs : last.state = .prepared ∨ last.state = .timedOut) :
    Cancellable evs (cancel attempt) := by
  rcases hs with hs | hs <;> simp [Cancellable, hl, hs, cancel]

/-- The first attempt is prepared, and the cancellation is requested then. -/
def preparing (attempt : Int) : List (JournalOp (List Token)) :=
  [.storeAuditIntent intent, .appendAuditEvent (sealedEvent prims prepared),
    .requestAuditCancellation (cancel attempt)]

theorem run_preparing (h1 : 1 ≤ attempt) (h2 : attempt ≤ 2) :
    outcomes (exec prims authority) {} (preparing attempt) = [.ok (), .ok (), .ok ()] ∧
      run (exec prims authority) {} (preparing attempt) = requestedAfter story₁ attempt ∧
      Sound prims authority (requestedAfter story₁ attempt) := by
  obtain ⟨hreq, hsound⟩ := request_told h1 h2 tell_prepared.2.1 tell_prepared.2.2
    (cancellable_of_last List.getLast?_singleton (.inl rfl))
  simp [preparing, outcomes, exec_store, tell_prepared.1, hreq, hsound]

/-- A call before the process has begun, with nothing in the way. -/
def quietFinish : Finish where
  invocation := none
  result := {}
  effectErr := none
  termination := .ok ()
  terminatedAt := 2
  cleanup := some true
  now := 2

theorem called_quietFinish : Called prims intent entry story₁ quietFinish where
  started := nofun
  finished := .inl rfl
  stdout := .inl rfl
  stderr := .inl rfl
  exitCode := by decide
  prepared := nofun
  clock := by
    refine ⟨createdAt_le 2, fun last hlast => ?_⟩
    have hoccurred : last.occurredAt = clockText 1 := by
      rw [← Option.some.inj hlast]
      rfl
    rw [hoccurred, timeOf_clockText]
    decide

theorem finishable_prepared : Finishable prims (requestedAfter story₁ 1) intent entry story₁
      (cancel 1) quietFinish where
  last last hlast := by
    have hstate : last.state = .prepared := by
      rw [← Option.some.inj hlast]
      rfl
    rw [hstate]
    nofun
  unclaimed := ⟨by simp [requestedAfter, toldBy, stored], by simp [requestedAfter, toldBy, stored]⟩
  fresh := by simp [requestedAfter, toldBy, stored]

/-- It is ended. -/
theorem requested_cancellation_ends_prepared :
    outcomes (exec prims authority) {} (preparing 1) = [.ok (), .ok (), .ok ()] ∧
      ∃ j', finalizeRequestedCancellation prims authority
          (run (exec prims authority) {} (preparing 1)) intent entry quietFinish
          (fun _ _ => .ok [.text "cancelled"]) = .ok (j', true) ∧
        (cancel 1).intentHash ∈ j'.cancellationOutcomes.map OutcomeRow.intentHash := by
  obtain ⟨hout, hrun, hsound⟩ := run_preparing (le_refl 1) (by decide)
  have hrecord := load_requested hsound rfl rfl (exact_cancel (by decide) (by decide))
  have hload := hsound.executions.load lawful (tell_prepared.2.2.frame rfl rfl)
  have hf := finishable_prepared
  have hexact : (sealedEvent prims prepared).Exact := by decide
  have hm : Meets (exec prims authority) (Careful prims authority) {} (preparing 1) :=
    ⟨trivial, hexact, trivial, trivial⟩
  rw [← hrun] at hrecord hload hf
  refine ⟨hout, ?_⟩
  exact requested_cancellation_ends lawful signs hm hrecord rfl hload resolve_intent startable
    called_quietFinish (fun _ _ => ⟨_, rfl, by decide, by decide⟩) hf

/-- The execution times out, and its cancellation is requested then. -/
def timingOut (attempt : Int) : List (JournalOp (List Token)) :=
  [.storeAuditIntent intent, .appendAuditEvent (sealedEvent prims prepared),
    .appendAuditEvent (sealedEvent prims running),
    .appendAuditEvent (sealedEvent prims timedOut),
    .requestAuditCancellation (cancel attempt)]

theorem run_timingOut (h1 : 1 ≤ attempt) (h2 : attempt ≤ 2) :
    outcomes (exec prims authority) {} (timingOut attempt) =
        [.ok (), .ok (), .ok (), .ok (), .ok ()] ∧
      run (exec prims authority) {} (timingOut attempt) = requestedAfter story₃ attempt ∧
      Sound prims authority (requestedAfter story₃ attempt) := by
  obtain ⟨hreq, hsound⟩ := request_told h1 h2 tell_timedOut.2.1 tell_timedOut.2.2
    (cancellable_of_last List.getLast?_concat (.inr rfl))
  simp [timingOut, outcomes, exec_store, tell_prepared.1, tell_running.1, tell_timedOut.1, hreq,
    hsound]

/-- The history of an execution that times out has the shape of all. -/
theorem shaped_timingOut :
    let j := run (exec prims authority) {} (timingOut 1)
    j.auditEvents.length = 3 ∧
      ∀ row ∈ j.auditIntents, ∃ intent evs, row = intentRowOf prims intent ∧
        rowsOf AuditEventRow.intentHash row.intentHash j.auditEvents =
          evs.map (eventRowOf prims) ∧ Shaped prims intent evs := by
  have hrun := (run_timingOut (le_refl 1) (by decide)).2.1
  have hlength : (run (exec prims authority) {} (timingOut 1)).auditEvents.length = 3 := by
    rw [hrun]
    rfl
  refine ⟨hlength, (shaped_run (timingOut 1)).2.2 lawful ?_⟩
  simp only [timingOut, forall_mem_cons, not_mem_nil, false_implies, implies_true, and_true,
    JournalOp.event?, Option.mem_def, Option.some.injEq, forall_eq', reduceCtorEq, true_and]
  exact ⟨by decide, by decide, by decide⟩

/-- A cancellation that is accepted after a timeout stays requested: whatever becomes of the
process and the artifacts, and however the call is made, it is not ended. -/
theorem cancellation_stuck_after_timeout : outcomes (exec prims authority) {} (timingOut 1) =
        [.ok (), .ok (), .ok (), .ok (), .ok ()] ∧
      loadAuditCancellationTx prims authority (run (exec prims authority) {} (timingOut 1)) ""
        intent.envelopeHash = .ok (some ⟨cancel 1, .requested, none, none⟩) ∧
      ∀ x resp j', finalizeRequestedCancellation prims authority
        (run (exec prims authority) {} (timingOut 1)) intent entry
        x resp ≠ .ok (j', true) := by
  obtain ⟨hout, hrun, hsound⟩ := run_timingOut (le_refl 1) (by decide)
  have hrec := load_requested hsound rfl rfl (exact_cancel (by decide) (by decide))
  have htold : Told prims authority (requestedAfter story₃ 1) intent story₃ :=
    tell_timedOut.2.2.frame rfl rfl
  rw [hrun]
  refine ⟨hout, hrec, fun x resp j' => ?_⟩
  exact not_finalize_of_timedOut hsound lawful hrec rfl (hsound.executions.load lawful htold)
    List.getLast?_concat rfl

end instances

end Ananke.TrustedSupervisor
