import Ananke.Machine.Run

/-! One session of the read-only adapter runtime. Every step below is one critical section of
the runtime's lock, so a run is an interleaving of the monitor goroutine with the timer, the
cancel calls and the recover calls. -/
namespace Ananke.ReadOnlyAdapter

open Ananke.Machine

inductive AdapterState where
  | monitoring
  | cancelRequested
  | waitingForHuman
  | completed
  deriving DecidableEq

inductive AuditKind where
  | started
  | finding
  | completed
  deriving DecidableEq

def AuditKind.name : AuditKind → String
  | .started => "audit_started"
  | .finding => "audit_finding"
  | .completed => "audit_completed"

structure AuditEvent where
  sequence : Nat
  kind : AuditKind
  deriving DecidableEq

structure AuditResult where
  requestID : String
  (eventCount advisoryFindings blockingFindings : Nat)
  (state verificationState : String)
  deriving DecidableEq

structure PublicState where
  adapterState : AdapterState
  events : List AuditEvent
  result : Option AuditResult
  verificationState : String
  deriving DecidableEq

def failClosedState : PublicState where
  adapterState := .waitingForHuman
  events := []
  result := none
  verificationState := "not_run"

structure Session where
  requestID : String
  rejected : Bool
  state : PublicState
  /-- the channel `done` is closed -/
  done : Bool

/-- Where the monitor goroutine stands. -/
inductive Monitor where
  | scanning
  /-- a line was refused, and the session is about to be rejected for it -/
  | refused
  | waiting (scanErr : Bool)
  /-- between the two critical sections, with what was read under the first -/
  | decided (scanErr waitErr rejected knownComplete : Bool)
  | finished
  deriving DecidableEq

structure System where
  session : Session
  monitor : Monitor
  /-- the recover calls that have looked at the session and not acted yet: whether each of
  them saw a requested cancellation -/
  recovering : List Bool

/-- The session as `start` registers it, with its monitor just launched. -/
def start (requestID : String) : System where
  session :=
    { requestID, rejected := false, done := false
      state :=
        { adapterState := .monitoring, events := [], result := none
          verificationState := "not_run" } }
  monitor := .scanning
  recovering := []

def transcriptSource : String := "omp_readonly_wrapper_transcript_v1"

def transcriptDialect : String := "omp_audit_stream_v1"

variable {ρ : Type}

variable (decode : ρ → Option (List (String × String)))

/-- What a transcript line says. `decode` reads one object of distinct string members. -/
def normalizeTranscript (raw : ρ) : Option AuditKind :=
  match decode raw with
  | none => none
  | some ev =>
    if ev.length ≠ 3 ∨ (ev.lookup "source").getD "" ≠ transcriptSource ∨
        (ev.lookup "dialect").getD "" ≠ transcriptDialect then none
    else if ev.any (fun member => member.1 != "source" && member.1 != "dialect" &&
        member.1 != "event") then none
    else [AuditKind.started, .finding, .completed].find? fun kind =>
      kind.name == (ev.lookup "event").getD ""

variable (s : Session)

/-- The session with the event appended, or nothing where the line is refused. -/
def Session.acceptTranscriptEvent (line : Option AuditKind) : Option Session :=
  match line with
  | none => none
  | some kind =>
    if s.rejected ∨ s.state.adapterState ≠ .monitoring then none
    else
      let seq := s.state.events.length + 1
      if (seq = 1 ∧ kind ≠ .started) ∨ (seq = 2 ∧ kind ≠ .finding) ∨
          (seq = 3 ∧ kind ≠ .completed) ∨ seq > 3 then none
      else
        some { s with state := { s.state with events := s.state.events ++ [⟨seq, kind⟩] } }

def Session.rejectWithState (cancellationRequested : Bool) : Session :=
  if cancellationRequested ∧ s.state.adapterState ≠ .completed then
    { s with
      rejected := true
      state :=
        { adapterState := .cancelRequested, events := [], result := none
          verificationState := "not_run" } }
  else { s with rejected := true }

def Session.reject : Session := s.rejectWithState false

def Session.requestCancellation : Session := s.rejectWithState true

/-- The state the monitor publishes when all went well, with the events it finds by then. -/
def Session.completedState : PublicState where
  adapterState := .completed
  events := s.state.events
  result := some
    { requestID := s.requestID, eventCount := 3, advisoryFindings := 1, blockingFindings := 0
      state := "completed", verificationState := "not_run" }
  verificationState := "not_run"

/-- The monitor's second critical section. It decides by what the first one read. -/
def Session.publish (scanErr waitErr rejected knownComplete cleanupErr : Bool) : Session :=
  { s with
    done := true
    state :=
      if rejected || scanErr || waitErr || !knownComplete || cleanupErr then failClosedState
      else s.completedState }

inductive Operation (ρ : Type) where
  /-- the monitor reads a line -/
  | line (raw : ρ)
  /-- the monitor rejects the session for the line it refused, and leaves the loop -/
  | refuse (scanErr : Bool)
  | scanEnd (scanErr : Bool)
  /-- the process ended; the monitor's first critical section -/
  | sample (waitErr : Bool)
  /-- the materialization is cleaned up; the monitor's second critical section -/
  | publish (cleanupErr : Bool)
  /-- the session's timer fires: a call it started may reject after the timer is stopped -/
  | timeout
  | cancel
  /-- a recover call looks at the session -/
  | recoverRead
  /-- the recover call that looked first acts on what it saw -/
  | recoverAct

/-- The session after a recover call that saw `cancellationRequested` acts. -/
def Session.recover (s : Session) (cancellationRequested : Bool) : Session :=
  if cancellationRequested then s.requestCancellation
  else if s.done then s
  else s.reject

/-- What a step leads to; a step its goroutine is not at changes nothing. -/
def step (s : System) : Operation ρ → System
  | .line raw =>
    match s.monitor with
    | .scanning =>
      match s.session.acceptTranscriptEvent (normalizeTranscript decode raw) with
      | some session => { s with session }
      | none => { s with monitor := .refused }
    | _ => s
  | .refuse scanErr =>
    match s.monitor with
    | .refused => { s with session := s.session.reject, monitor := .waiting scanErr }
    | _ => s
  | .scanEnd scanErr =>
    match s.monitor with
    | .scanning => { s with monitor := .waiting scanErr }
    | _ => s
  | .sample waitErr =>
    match s.monitor with
    | .waiting scanErr =>
      { s with
        monitor := .decided scanErr waitErr s.session.rejected
          (s.session.state.events.length == 3 && !s.session.rejected) }
    | _ => s
  | .publish cleanupErr =>
    match s.monitor with
    | .decided scanErr waitErr rejected knownComplete =>
      { s with
        session := s.session.publish scanErr waitErr rejected knownComplete cleanupErr
        monitor := .finished }
    | _ => s
  | .timeout => { s with session := s.session.reject }
  | .cancel => { s with session := s.session.requestCancellation }
  | .recoverRead =>
    { s with
      recovering := s.recovering ++ [s.session.state.adapterState == .cancelRequested] }
  | .recoverAct =>
    match s.recovering with
    | [] => s
    | requested :: recovering =>
      { s with session := s.session.recover requested, recovering }

/-- One step, with what `status` shows after it. -/
def exec (s : System) (x : Operation ρ) : System × PublicState :=
  (step decode s x, (step decode s x).session.state)

/-! What a step can do to the session. -/

section Session

variable {s s' : Session} {line : Option AuditKind} {b : Bool}

def transcript : List AuditEvent := [⟨1, .started⟩, ⟨2, .finding⟩, ⟨3, .completed⟩]

theorem acceptEvent_some (h : s.acceptTranscriptEvent line = some s')
    (hs : s.state.events <+: transcript) :
    s.rejected = false ∧ s.state.adapterState = .monitoring ∧ s'.rejected = false ∧
      s'.done = s.done ∧ s'.state.adapterState = .monitoring ∧
      s'.state.events <+: transcript := by
  cases line with
  | none => simp [Session.acceptTranscriptEvent] at h
  | some kind =>
    simp only [Session.acceptTranscriptEvent, Option.ite_none_left_eq_some, not_or,
      Option.some.injEq] at h
    obtain ⟨⟨hrej, hstate⟩, ⟨hfirst, hsnd, hthird, _⟩, rfl⟩ := h
    simp only [Bool.not_eq_true, ne_eq, not_not] at hrej hstate
    refine ⟨hrej, hstate, hrej, rfl, hstate, ?_⟩
    -- the events so far are one of the transcript's three proper prefixes
    have hevents := List.prefix_iff_eq_take.mp hs
    have hlen : s.state.events.length ≤ 2 := by omega
    generalize s.state.events = events at *
    generalize events.length = n at *
    subst hevents
    match n, hlen with
    | 0, _ =>
      obtain rfl : kind = .started := by simpa using hfirst
      exact ⟨_, rfl⟩
    | 1, _ =>
      obtain rfl : kind = .finding := by simpa using hsnd
      exact ⟨_, rfl⟩
    | 2, _ =>
      obtain rfl : kind = .completed := by simpa using hthird
      exact ⟨_, rfl⟩

@[simp] theorem reject_rejected : (s.rejectWithState b).rejected = true := by
  unfold Session.rejectWithState
  split <;> rfl

@[simp] theorem rejectWithState_done : (s.rejectWithState b).done = s.done := by
  unfold Session.rejectWithState
  split <;> rfl

theorem rejectWithState_state : (s.rejectWithState b).state = s.state ∨
      (s.state.adapterState ≠ .completed ∧
        (s.rejectWithState b).state.adapterState = .cancelRequested) := by
  unfold Session.rejectWithState
  split
  next h => exact .inr ⟨h.2, rfl⟩
  · exact .inl rfl

theorem recover_cases :
    (s.recover b = s ∧ b = false ∧ s.done = true) ∨ s.recover b = s.rejectWithState b := by
  unfold Session.recover
  cases b with
  | true => exact .inr rfl
  | false =>
    cases hdone : s.done with
    | true => exact .inl ⟨by simp, rfl, rfl⟩
    | false => exact .inr (by simp [Session.reject])

end Session

/-- The monitor is between its critical sections and, unless the cleanup fails, will publish
a completed session. -/
def Monitor.Completing (m : Monitor) : Prop := m = .decided false false false true

instance (m : Monitor) : Decidable m.Completing :=
  inferInstanceAs (Decidable (m = .decided false false false true))

/-- The step rejects the session. -/
def Rejects (s : System) : Operation ρ → Prop
  | .timeout | .cancel => True
  | .recoverAct => ∃ requested ∈ s.recovering.head?, requested = true ∨ s.session.done = false
  | _ => False

/-- No timer, cancel call or recover call rejects the session once the monitor is resolved to
complete it. -/
def Undisturbed (s : System) (x : Operation ρ) : Prop :=
  s.monitor.Completing → ¬ Rejects s x

section Step

variable {decode : ρ → Option (List (String × String))} {s : System} {x : Operation ρ}

/-- All a step can do: it leaves the session alone, the monitor appends an event, decides or
publishes, or somebody rejects the session. -/
inductive Moves (s : System) (x : Operation ρ) (t : System) : Prop
  | idle (session : t.session = s.session)
      (monitor : t.monitor = s.monitor ∨ s.monitor = .scanning ∧ t.monitor = .refused ∨
        ∃ scanErr, s.monitor = .scanning ∧ t.monitor = .waiting scanErr)
  | append (line : Option AuditKind)
      (accepts : s.session.acceptTranscriptEvent line = some t.session)
      (reads : s.monitor = .scanning) (monitor : t.monitor = .scanning)
  | refuse (scanErr : Bool) (session : t.session = s.session.reject)
      (refused : s.monitor = .refused) (monitor : t.monitor = .waiting scanErr)
  | sample (scanErr waitErr : Bool) (session : t.session = s.session)
      (waited : s.monitor = .waiting scanErr)
      (monitor : t.monitor = .decided scanErr waitErr s.session.rejected
        (s.session.state.events.length == 3 && !s.session.rejected))
  | publish (scanErr waitErr rejected knownComplete cleanupErr : Bool)
      (decided : s.monitor = .decided scanErr waitErr rejected knownComplete)
      (session : t.session = s.session.publish scanErr waitErr rejected knownComplete cleanupErr)
      (monitor : t.monitor = .finished)
  | reject (cancellationRequested : Bool) (rejects : Rejects s x)
      (session : t.session = s.session.rejectWithState cancellationRequested)
      (monitor : t.monitor = s.monitor)

theorem step_moves : Moves s x (step decode s x) := by
  cases x with
  | line =>
    simp only [step]
    split
    next hmon =>
      split
      next session hacc => exact .append _ hacc hmon hmon
      · exact .idle rfl (.inr (.inl ⟨hmon, rfl⟩))
    · exact .idle rfl (.inl rfl)
  | refuse scanErr =>
    simp only [step]
    split
    next hmon => exact .refuse scanErr rfl hmon rfl
    · exact .idle rfl (.inl rfl)
  | scanEnd scanErr =>
    simp only [step]
    split
    next hmon => exact .idle rfl (.inr (.inr ⟨scanErr, hmon, rfl⟩))
    · exact .idle rfl (.inl rfl)
  | sample waitErr =>
    simp only [step]
    split
    next hmon => exact .sample _ waitErr rfl hmon rfl
    · exact .idle rfl (.inl rfl)
  | publish cleanupErr =>
    simp only [step]
    split
    next hmon => exact .publish _ _ _ _ cleanupErr hmon rfl rfl
    · exact .idle rfl (.inl rfl)
  | timeout => exact .reject false trivial rfl rfl
  | cancel => exact .reject true trivial rfl rfl
  | recoverRead => exact .idle rfl (.inl rfl)
  | recoverAct =>
    simp only [step]
    split
    · exact .idle rfl (.inl rfl)
    next requested recovering hrecovering =>
      obtain ⟨hsame, -, -⟩ | hrej := recover_cases (s := s.session) (b := requested)
      · exact .idle hsame (.inl rfl)
      · by_cases hdone : requested = true ∨ s.session.done = false
        · exact .reject requested ⟨requested, by simp [hrecovering], hdone⟩ hrej rfl
        · simp only [not_or, Bool.not_eq_true, Bool.not_eq_false] at hdone
          exact .idle (by simp [Session.recover, hdone]) (.inl rfl)

end Step

/-- What holds of every state while nobody disturbs the monitor's decision. -/
structure Sound (s : System) : Prop where
  events : s.session.state.adapterState = .monitoring → s.session.state.events <+: transcript
  state : s.session.rejected = false → s.session.done = false →
    s.session.state.adapterState = .monitoring
  running : s.session.done = false → s.session.state.adapterState ≠ .completed
  finished : s.session.done = true → s.monitor = .finished
  completing : s.monitor.Completing → s.session.rejected = false ∧
    s.session.state.adapterState = .monitoring ∧ s.session.state.events.length = 3
  completed : s.session.state.adapterState = .completed → s.session.state.events = transcript ∧
      ∃ result, s.session.state.result = some result ∧
        result.eventCount = s.session.state.events.length

attribute [local simp] Monitor.Completing

theorem sound_start (requestID : String) : Sound (start requestID) where
  events _ := List.nil_prefix
  state _ _ := rfl
  running _ := by simp [start]
  finished h := by simp [start] at h
  completing h := by simp [start] at h
  completed h := by simp [start] at h

section Preserved

variable {decode : ρ → Option (List (String × String))} {s t : System} {x : Operation ρ}

theorem Sound.idle (hs : Sound s) (hsess : t.session = s.session)
    (hfin : s.monitor = .finished → t.monitor = .finished)
    (hcompl : t.monitor.Completing → s.monitor.Completing) : Sound t where
  events := hsess ▸ hs.events
  state := hsess ▸ hs.state
  running := hsess ▸ hs.running
  finished h := hfin (hs.finished (hsess ▸ h))
  completing h := hsess ▸ hs.completing (hcompl h)
  completed := hsess ▸ hs.completed

theorem Sound.reject (hs : Sound s) {b : Bool} (hsess : t.session = s.session.rejectWithState b)
    (hfin : s.monitor = .finished → t.monitor = .finished)
    (hcompl : ¬ t.monitor.Completing) : Sound t := by
  have hrej : t.session.rejected = true := by rw [hsess, reject_rejected]
  have hdone : t.session.done = s.session.done := by rw [hsess, rejectWithState_done]
  have hstate : t.session.state = s.session.state ∨ (s.session.state.adapterState ≠ .completed ∧
        t.session.state.adapterState = .cancelRequested) := by
    rw [hsess]
    exact rejectWithState_state
  have hend : t.session.done = true → t.monitor = .finished := fun h =>
    hfin (hs.finished (hdone ▸ h))
  obtain hsame | ⟨-, hcancel⟩ := hstate
  · exact ⟨hsame ▸ hs.events, by simp [hrej], hsame ▸ hdone ▸ hs.running, hend,
      fun h => absurd h hcompl, hsame ▸ hs.completed⟩
  · exact ⟨by simp [hcancel], by simp [hrej], by simp [hcancel], hend,
      fun h => absurd h hcompl, by simp [hcancel]⟩

theorem eq_transcript {evs : List AuditEvent} (h : evs <+: transcript)
    (hlen : evs.length = 3) : evs = transcript :=
  h.eq_of_length hlen

theorem Sound.publish (hs : Sound s) {scanErr waitErr rejected knownComplete cleanupErr : Bool}
    (hdec : s.monitor = .decided scanErr waitErr rejected knownComplete) (hsess : t.session =
      s.session.publish scanErr waitErr rejected knownComplete cleanupErr)
    (hmon : t.monitor = .finished) : Sound t := by
  have hdone : t.session.done = true := by rw [hsess, Session.publish]
  have hstate : t.session.state = failClosedState ∨
      (s.monitor.Completing ∧ t.session.state = s.session.completedState) := by
    rw [hsess, Session.publish]
    by_cases h : (rejected || scanErr || waitErr || !knownComplete || cleanupErr) = true
    · exact .inl (if_pos h)
    · refine .inr ⟨?_, if_neg h⟩
      simp only [Bool.not_eq_true, Bool.or_eq_false_iff, Bool.not_eq_false'] at h
      rw [Monitor.Completing, hdec, h.1.1.1.1, h.1.1.1.2, h.1.1.2, h.1.2]
  refine ⟨?_, by simp [hdone], by simp [hdone], fun _ => hmon, by simp [hmon], ?_⟩
  all_goals obtain hclosed | ⟨hcompl, hcompleted⟩ := hstate
  · simp [hclosed, failClosedState]
  · simp [hcompleted, Session.completedState]
  · simp [hclosed, failClosedState]
  · obtain ⟨-, hmonitoring, hthree⟩ := hs.completing hcompl
    rw [hcompleted]
    exact fun _ => ⟨eq_transcript (hs.events hmonitoring) hthree, _, rfl, hthree.symm⟩

theorem Sound.step (hs : Sound s) (hx : Undisturbed s x) : Sound (step decode s x) := by
  generalize ht : ReadOnlyAdapter.step decode s x = t
  have hmoves : Moves s x t := ht ▸ step_moves
  cases hmoves with
  | idle hsess hmon =>
    refine hs.idle hsess ?_ ?_
    · intro hfin
      simpa [hfin] using hmon
    · intro hcompl
      rw [Monitor.Completing] at hcompl
      simpa [hcompl, eq_comm] using hmon
  | append line hacc hreads hmon =>
    -- a line is only accepted while the session is being monitored
    have hearl : s.session.state.events <+: transcript := by
      cases line with
      | none => simp [Session.acceptTranscriptEvent] at hacc
      | some kind =>
        by_cases h : s.session.rejected ∨ s.session.state.adapterState ≠ .monitoring
        · simp [Session.acceptTranscriptEvent, h] at hacc
        · exact hs.events (by simpa using (not_or.mp h).2)
    obtain ⟨-, -, hrej, hdone, hstate, hevents⟩ :=
      acceptEvent_some hacc hearl
    refine ⟨fun _ => hevents, fun _ _ => hstate, by simp [hstate], fun h => ?_,
      by simp [hmon], by simp [hstate]⟩
    simpa [hreads] using hs.finished (hdone ▸ h)
  | refuse scanErr hsess hrefused hmon =>
    exact hs.reject (b := false) hsess (by simp [hrefused]) (by simp [hmon])
  | sample scanErr waitErr hsess hwaited hmon =>
    have hopen : s.session.done = false := by
      cases hdone : s.session.done with
      | false => rfl
      | true => simpa [hwaited] using hs.finished hdone
    refine ⟨hsess ▸ hs.events, hsess ▸ hs.state, hsess ▸ hs.running,
      by simp [hsess, hopen], fun h => ?_, hsess ▸ hs.completed⟩
    simp only [Monitor.Completing, hmon, Monitor.decided.injEq] at h
    obtain ⟨-, -, hrej, hknown⟩ := h
    rw [hsess]
    simp only [hrej, Bool.not_false, Bool.and_true, beq_iff_eq] at hknown
    exact ⟨hrej, hs.state hrej hopen, hknown⟩
  | publish scanErr waitErr rejected knownComplete cleanupErr hdec hsess hmon =>
    exact hs.publish hdec hsess hmon
  | reject b hrejects hsess hmon =>
    refine hs.reject hsess (fun h => hmon.trans h) ?_
    rw [hmon]
    exact fun h => hx h hrejects

/-- A session rejected in time: nothing left in the monitor will complete it. -/
structure Closed (s : System) : Prop where
  rejected : s.session.rejected = true
  state : s.session.state.adapterState ≠ .completed
  monitor : ¬ s.monitor.Completing

theorem Closed.step (hs : Closed s) : Closed (step decode s x) := by
  generalize ht : ReadOnlyAdapter.step decode s x = t
  have hmoves : Moves s x t := ht ▸ step_moves
  have hreject {b : Bool} (h : t.session = s.session.rejectWithState b) :
      t.session.rejected = true ∧ t.session.state.adapterState ≠ .completed := by
    rw [h]
    refine ⟨reject_rejected, ?_⟩
    obtain hsame | ⟨-, hcancel⟩ := rejectWithState_state (s := s.session) (b := b)
    · rw [hsame]
      exact hs.state
    · simp [hcancel]
  cases hmoves with
  | idle hsess hmon =>
    refine ⟨hsess ▸ hs.rejected, hsess ▸ hs.state, ?_⟩
    obtain hsame | ⟨-, hrefused⟩ | ⟨scanErr, -, hwait⟩ := hmon
    · exact hsame ▸ hs.monitor
    · simp [hrefused]
    · simp [hwait]
  | append line hacc =>
    have hrefused : s.session.acceptTranscriptEvent line = none := by
      cases line <;> simp [Session.acceptTranscriptEvent, hs.rejected]
    simp [hrefused] at hacc
  | refuse scanErr hsess hrefused hmon =>
    obtain ⟨hrej, hstate⟩ := hreject (b := false) hsess
    exact ⟨hrej, hstate, by simp [hmon]⟩
  | sample scanErr waitErr hsess hwaited hmon =>
    exact ⟨hsess ▸ hs.rejected, hsess ▸ hs.state, by simp [hmon, hs.rejected]⟩
  | publish scanErr waitErr rejected knownComplete cleanupErr hdec hsess hmon =>
    have hclosed : t.session.state = failClosedState := by
      rw [hsess, Session.publish]
      refine if_pos ?_
      have hnot := hs.monitor
      rw [Monitor.Completing, hdec] at hnot
      cases rejected <;> cases scanErr <;> cases waitErr <;> cases knownComplete <;> simp_all
    refine ⟨?_, by simp [hclosed, failClosedState], by simp [hmon]⟩
    rw [hsess, Session.publish]
    exact hs.rejected
  | reject b hrejects hsess hmon =>
    obtain ⟨hrej, hstate⟩ := hreject hsess
    exact ⟨hrej, hstate, hmon ▸ hs.monitor⟩

end Preserved

/-- What the adapter promises of a session after the steps `ops`. -/
structure FailsClosed (decode : ρ → Option (List (String × String))) (requestID : String)
    (ops : List (Operation ρ)) : Prop where
  /-- rejected or cancelled before the final state is published, it is never completed -/
  rejected : ∀ early late, ops = early ++ late →
    (run (exec decode) (start requestID) early).session.rejected = true →
    (run (exec decode) (start requestID) early).session.done = false →
    (run (exec decode) (start requestID) ops).session.state.adapterState ≠ .completed
  /-- completed, it has the three events of the transcript and counts them -/
  completed : (run (exec decode) (start requestID) ops).session.state.adapterState = .completed →
    (run (exec decode) (start requestID) ops).session.state.events =
        [⟨1, .started⟩, ⟨2, .finding⟩, ⟨3, .completed⟩] ∧
      ∃ result, (run (exec decode) (start requestID) ops).session.state.result = some result ∧
        result.eventCount = (run (exec decode) (start requestID) ops).session.state.events.length

/-- In every interleaving in which nobody rejects the session between the monitor's two
critical sections, the session fails closed. -/
theorem session_fails_closed (decode : ρ → Option (List (String × String)))
    (requestID : String) (ops : List (Operation ρ))
    (hops : Meets (exec decode) Undisturbed (start requestID) ops) :
    FailsClosed decode requestID ops := by
  have hsound {ops : List (Operation ρ)}
      (h : Meets (exec decode) Undisturbed (start requestID) ops) :
      Sound (run (exec decode) (start requestID) ops) :=
    invariant_meets (fun s x hs hx => hs.step hx) h (sound_start requestID)
  refine ⟨?_, (hsound hops).completed⟩
  rintro early late rfl hrejected hopen
  rw [run_append]
  have hearly := hsound (meets_append.mp hops).1
  refine (invariant_run (I := Closed) (fun s x hs => hs.step) ⟨hrejected, ?_, ?_⟩).state
  · exact hearly.running hopen
  · intro h
    simp [(hearly.completing h).1] at hrejected

def plain (line : List (String × String)) : Option (List (String × String)) := some line

def lineOf (kind : AuditKind) : List (String × String) :=
  [("source", transcriptSource), ("dialect", transcriptDialect), ("event", kind.name)]

def decidedRun : List (Operation (List (String × String))) :=
  [.line (lineOf .started), .line (lineOf .finding), .line (lineOf .completed), .scanEnd false,
    .sample false]

theorem session_fails_closed_undisturbed :
    Meets (exec plain) Undisturbed (start "request") (decidedRun ++ [.publish false, .cancel]) ∧
      (run (exec plain) (start "request")
        (decidedRun ++ [.publish false, .cancel])).session.state.adapterState = .completed ∧
      FailsClosed plain "request" (decidedRun ++ [.publish false, .cancel]) := by
  have hops : Meets (exec plain) Undisturbed (start "request")
      (decidedRun ++ [.publish false, .cancel]) := by
    refine ⟨?_, ?_, ?_, ?_, ?_, ?_, ?_, trivial⟩
    · exact fun _ h => h
    · exact fun _ h => h
    · exact fun _ h => h
    · exact fun _ h => h
    · exact fun _ h => h
    · exact fun _ h => h
    · intro h
      exact absurd h (by decide)
  exact ⟨hops, by decide, session_fails_closed plain "request" _ hops⟩

/-- A cancel call between the monitor's critical sections: the session is rejected and its
events are cleared, and yet it is published as completed, with three events counted. -/
theorem cancelled_and_completed : ∃ early late : List (Operation (List (String × String))),
      (run (exec plain) (start "request") early).session.rejected = true ∧
      (run (exec plain) (start "request") early).session.done = false ∧
      (run (exec plain) (start "request") (early ++ late)).session.state =
        { adapterState := .completed, events := []
          result := some
            { requestID := "request", eventCount := 3, advisoryFindings := 1
              blockingFindings := 0, state := "completed", verificationState := "not_run" }
          verificationState := "not_run" } ∧
      ¬ FailsClosed plain "request" (early ++ late) := by
  refine ⟨decidedRun ++ [.cancel], [.publish false], by decide, by decide +kernel, by decide, ?_⟩
  intro h
  exact h.rejected (decidedRun ++ [.cancel]) [.publish false] rfl (by decide)
    (by decide) (by decide +kernel)

end Ananke.ReadOnlyAdapter
