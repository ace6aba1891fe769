import Ananke.Machine.Run
import Ananke.Store.Journal
import Ananke.Validation.Check

/-! What the operations can do to one run. Everything the later modules say about a run is
read off the steps of its view. -/
namespace Ananke.Store

open Relational Validation

/-- The rows of all tables that belong to one run. -/
structure RunView where
  run : Option Run
  history : List TransitionRecord
  events : List Event
  outbox : List OutboxRow

def DB.view (s : DB) (id : String) : RunView :=
  ⟨s.getRun id, s.transitionsOf id, s.eventsOf id, s.outboxOf id⟩

/-- The view after the run moved to `target`. -/
def RunView.move (v : RunView) (run run' : Run) (reason now : String) : RunView :=
  { v with
    run := some run'
    history := v.history ++ [nextTransition run.id v.history run.state run'.state reason now] }

/-- The handoff a process-backed terminal commit requires. -/
def HandoffComplete (run : Run) : Prop :=
  run.transcriptRequired = true → 0 ≤ run.transcriptFinalSize ∧
    run.transcriptConsumedOffset = run.transcriptFinalSize ∧
    run.transcriptIdentity.validate = .ok ()

/-- The effects of successful operations on the rows of run `id`. -/
inductive RunStep (id : String) : Op → RunView → RunView → Prop
  | createRun {v : RunView} {p w now : String} {spec : RunSpec} (hrun : v.run = none)
      (hseq : ∀ t ∈ v.history, t.seq ≠ 0) :
      RunStep id (.createRun id p w spec now) v
        { v with
          run := some (newRun id p w spec now)
          history := v.history ++ [⟨id, 0, .other "", .created, "created", now⟩] }
  | transition {v : RunView} {run : Run} {target : State} {reason now : String}
      (hrun : v.run = some run) (hid : run.id = id) (htarget : isTerminal target = false)
      (hedge : canTransition run.state target = true) :
      RunStep id (.transition id target reason now) v
        (v.move run (transitionRun target now {} run) reason now)
  | commitTerminal {v : RunView} {run : Run} {target : State} {reason now : String}
      {outbox : OutboxRow} (hrun : v.run = some run) (hid : run.id = id)
      (htarget : isTerminal target = true) (hedge : canTransition run.state target = true)
      (hcancel : target = .completed → run.cancelRequested = false)
      (hhandoff : HandoffComplete run) (houtbox : v.outbox = []) :
      RunStep id (.commitTerminal id target reason now outbox) v
        { v.move run (transitionRun target now { terminal := true, outbox := outbox } run)
            reason now with
          outbox := [terminalOutbox id target now { terminal := true, outbox := outbox }] }
  | commitNoProcessFailure {v : RunView} {run : Run} {reason now : String}
      (hrun : v.run = some run) (hid : run.id = id)
      (hstate : run.state = .created ∨ run.state = .running)
      (hpids : run.supervisorPID = 0 ∧ run.supervisorPGID = 0 ∧ run.workerPID = 0)
      (houtbox : v.outbox = []) :
      RunStep id (.commitNoProcessFailure id reason now) v
        { v.move run (transitionRun .failed now { terminal := true, noProcess := true } run)
            reason now with
          outbox := [terminalOutbox id .failed now { terminal := true, noProcess := true }] }
  | cancelRunning {v : RunView} {run : Run} {now : String} (hrun : v.run = some run)
      (hid : run.id = id) (hstate : run.state = .running) :
      RunStep id (.requestCancellation id now) v
        (v.move run { run with state := .cancelling, cancelRequested := true, updatedAt := now }
          "cancellation requested" now)
  | cancelFlag {v : RunView} {run : Run} {now : String} (hrun : v.run = some run)
      (hstate : isTerminal run.state = false) (hne : run.state ≠ .running)
      (hflag : run.cancelRequested = false) :
      RunStep id (.requestCancellation id now) v
        { v with run := some { run with cancelRequested := true, updatedAt := now } }
  | setRunSupervisor {v : RunView} {run : Run} {spid spgid wpid : Int} {now : String}
      (hrun : v.run = some run) :
      RunStep id (.setRunSupervisor id spid spgid wpid now) v
        { v with run := some { run with
          supervisorPID := spid, supervisorPGID := spgid, workerPID := wpid
          updatedAt := now } }
  | setTranscriptIdentity {v : RunView} {run : Run} {identity : TranscriptFileIdentity}
      {now : String} (hrun : v.run = some run) (hvalid : identity.validate = .ok ())
      (hunknown : run.transcriptIdentity = {}) :
      RunStep id (.setTranscriptIdentity id identity now) v
        { v with run := some { run with transcriptIdentity := identity, updatedAt := now } }
  | appendEvent {v : RunView} {run : Run} {type now : String} {payload : List UInt8}
      {offset : Int} (hrun : v.run = some run) (hseal : withinSeal run offset = true) :
      RunStep id (.appendEvent id type payload offset now) v
        { v with
          run := some { run with
            committedOffset := max run.committedOffset offset
            transcriptConsumedOffset := max run.transcriptConsumedOffset offset
            updatedAt := now }
          events := v.events ++ [⟨id, nextSeq (v.events.map (·.seq)), type, payload, offset, now⟩] }
  | sealTranscript {v : RunView} {run : Run} {finalSize : Int} {now : String}
      (hrun : v.run = some run) (hsize : 0 ≤ finalSize)
      (hopen : run.transcriptFinalSize < 0) :
      RunStep id (.sealTranscript id finalSize now) v
        { v with run := some { run with transcriptFinalSize := finalSize, updatedAt := now } }
  | advanceTranscriptConsumed {v : RunView} {run : Run} {offset : Int} {now : String}
      (hrun : v.run = some run) (hoffset : 0 ≤ offset)
      (hseal : withinSeal run offset = true) :
      RunStep id (.advanceTranscriptConsumed id offset now) v
        { v with run := some { run with
          transcriptConsumedOffset := max run.transcriptConsumedOffset offset
          updatedAt := now } }
  | resolveOutbox {v : RunView} {op : Op} {f : OutboxRow → OutboxRow}
      (hop : (∃ now, op = .acknowledgeOutbox id now) ∨
        ∃ reason now, op = .abandonOutbox id reason now)
      (hf : ∀ row, (f row).runID = row.runID ∧ (f row).terminalState = row.terminalState) :
      RunStep id op v { v with outbox := v.outbox.map f }

variable {s s' : DB} {id runID reason now : String} {target : State} {run : Run}
  {commit : TransitionCommit} {f : Run → Run}

@[simp] theorem getRun_insertTransition (t : TransitionRecord) :
    (s.insertTransition t).getRun id = s.getRun id := rfl

theorem getRun_updateRun (hf : ∀ r, (f r).id = r.id) :
    (s.updateRun id f).getRun id = (s.getRun id).map f := select_update hf

theorem transitionsOf_eq : s.transitionsOf id = (s.view id).history := rfl

theorem eventsOf_eq : s.eventsOf id = (s.view id).events := rfl

theorem id_of_getRun (h : s.getRun id = some run) : run.id = id := key_of_select h

section

attribute [local simp] DB.view DB.getRun DB.transitionsOf DB.eventsOf DB.outboxOf

theorem view_updateRun (hf : ∀ r, (f r).id = r.id) : (s.updateRun runID f).view id =
    if id = runID then { s.view id with run := (s.view id).run.map f } else s.view id := by
  split
  next h =>
    subst h
    have hsel : select Run.id id (update Run.id id f s.runs) = (select Run.id id s.runs).map f :=
      select_update hf
    simp [DB.updateRun, hsel]
  next h =>
    have hsel : select Run.id id (update Run.id runID f s.runs) = select Run.id id s.runs :=
      select_update_of_ne hf h
    simp [DB.updateRun, hsel]

theorem view_insertRun (hrun : s.getRun run.id = none) : (s.insertRun run).view id =
    if run.id = id then { s.view id with run := some run } else s.view id := by
  have hsel : select Run.id id (s.runs ++ [run]) =
      (select Run.id id s.runs).or (if run.id = id then some run else none) := select_append
  split
  next h =>
    subst h
    simp only [DB.getRun] at hrun
    simp [DB.insertRun, hsel, hrun]
  next h =>
    simp [DB.insertRun, hsel, h]

theorem view_insertTransition (t : TransitionRecord) : (s.insertTransition t).view id =
    if t.runID = id then { s.view id with history := (s.view id).history ++ [t] }
    else s.view id := by
  split <;> simp [DB.insertTransition, rowsOf, *]

theorem view_insertEvent (e : Event) : (s.insertEvent e).view id =
    if e.runID = id then { s.view id with events := (s.view id).events ++ [e] }
    else s.view id := by
  split <;> simp [DB.insertEvent, rowsOf, *]

theorem view_insertOutbox (row : OutboxRow) : (s.insertOutbox row).view id =
    if row.runID = id then { s.view id with outbox := (s.view id).outbox ++ [row] }
    else s.view id := by
  split <;> simp [DB.insertOutbox, rowsOf, *]

theorem view_updateOutbox {g : OutboxRow → OutboxRow} (hg : ∀ row, (g row).runID = row.runID) :
    (s.updateOutbox runID g).view id =
      if id = runID then { s.view id with outbox := (s.view id).outbox.map g }
      else s.view id := by
  split
  next h =>
    subst h
    simp [DB.updateOutbox, rowsOf_update hg]
  next h =>
    simp [DB.updateOutbox, rowsOf_update_of_ne hg h]

end

theorem commit_view (h : commitTransition s runID target reason now commit = .ok s') :
    ∃ run, s.getRun runID = some run ∧ checkTransition run target commit = .ok () ∧
      (commit.terminal = true → s.outboxOf runID = []) ∧
      s'.view runID =
        { (s.view runID).move run (transitionRun target now commit run) reason now with
          outbox := if commit.terminal then [terminalOutbox runID target now commit]
            else (s.view runID).outbox } ∧
      ∀ id, id ≠ runID → s'.view id = s.view id := by
  unfold commitTransition at h
  split at h
  · cases h
  next run hrun =>
    split at h
    · cases h
    next hcheck =>
      have hid := id_of_getRun hrun
      have hview : (s.view runID).run = some run := hrun
      have hmoved : ∀ id, ((s.updateRun runID (transitionRun target now commit)).insertTransition
          (nextTransition runID (s.transitionsOf runID) run.state target reason now)).view id =
            if id = runID then
              (s.view runID).move run (transitionRun target now commit run) reason now
            else s.view id := by
        intro id
        rw [view_insertTransition, view_updateRun
          (f := transitionRun target now commit) fun _ => rfl]
        by_cases hne : id = runID
        · subst hne
          simp only [nextTransition, RunView.move, hid, hview, if_true]
          rfl
        · simp [nextTransition, hne, Ne.symm hne]
      refine ⟨run, hrun, hcheck, ?_⟩
      by_cases hterm : commit.terminal = true
      · simp only [hterm, if_true] at h ⊢
        obtain ⟨hempty, ⟨⟩⟩ := unless_eq_ok h
        have hout : (s.view runID).outbox = [] := not_not.mp hempty
        refine ⟨fun _ => hout, ?_, ?_⟩
        · rw [view_insertOutbox, hmoved]
          simp [terminalOutbox, RunView.move, hout]
        · intro id hne
          rw [view_insertOutbox, hmoved]
          simp [terminalOutbox, hne, Ne.symm hne]
      · simp only [hterm] at h ⊢
        cases h
        refine ⟨by simp, ?_, ?_⟩
        · rw [hmoved]
          simp [RunView.move]
        · intro id hne
          rw [hmoved]
          simp [hne]

theorem commit_succeeds (hrun : s.getRun runID = some run)
    (hcheck : checkTransition run target commit = .ok ()) (hout : s.outboxOf runID = []) :
    ∃ s', commitTransition s runID target reason now commit = .ok s' := by
  simp only [commitTransition, hrun, hcheck, hout, ne_eq, not_true_eq_false, if_false]
  split <;> exact ⟨_, rfl⟩

theorem checkTransition_ok (h : checkTransition run target commit = .ok ())
    (hproc : commit.noProcess = false) :
    canTransition run.state target = true ∧
      (commit.terminal = true → (target = .completed → run.cancelRequested = false) ∧
        HandoffComplete run) := by
  obtain ⟨hcancel, h⟩ := unless_eq_ok h
  simp only [hproc, Bool.false_eq_true, if_false] at h
  obtain ⟨hedge, h⟩ := unless_eq_ok h
  refine ⟨not_not.mp hedge, fun hterm => ⟨fun htarget => ?_, fun hreq => ?_⟩⟩
  · simpa [hterm, htarget] using hcancel
  · simp only [hterm, hreq, and_self, if_true] at h
    obtain ⟨hsizes, h⟩ := unless_eq_ok h
    split at h
    · cases h
    next hvalid => exact ⟨by omega, by omega, hvalid⟩

theorem check_noProcess (h : checkTransition run target commit = .ok ())
    (hproc : commit.noProcess = true) :
    (run.state = .created ∨ run.state = .running) ∧
      run.supervisorPID = 0 ∧ run.supervisorPGID = 0 ∧ run.workerPID = 0 := by
  obtain ⟨-, h⟩ := unless_eq_ok h
  rw [if_pos hproc] at h
  obtain ⟨hstate, h⟩ := unless_eq_ok h
  obtain ⟨hpids, -⟩ := unless_eq_ok h
  have hfrom : run.state = .created ∨ run.state = .running := by
    by_contra hn
    exact hstate (.inr (not_or.mp hn))
  exact ⟨hfrom, by omega⟩

/-- A successful operation leaves the rows of a run alone or makes one step of them. -/
def Simulates (s s' : DB) (op : Op) : Prop :=
  ∀ id, s'.view id = s.view id ∨ RunStep id op (s.view id) (s'.view id)

/-- The operation makes a step of its run, and of no other. -/
structure StepsRun (s s' : DB) (runID : String) (op : Op) : Prop where
  own : RunStep runID op (s.view runID) (s'.view runID)
  other : ∀ id, id ≠ runID → s'.view id = s.view id

variable {op : Op}

theorem StepsRun.simulates (h : StepsRun s s' runID op) : Simulates s s' op := by
  intro id
  by_cases hid : id = runID
  · exact .inr (hid ▸ h.own)
  · exact .inl (h.other id hid)

theorem simulates_createRun {p w : String} {spec : RunSpec}
    (h : createRun s runID p w spec now = .ok s') :
    Simulates s s' (.createRun runID p w spec now) := by
  obtain ⟨-, h⟩ := unless_eq_ok h
  obtain ⟨-, h⟩ := unless_eq_ok h
  obtain ⟨habsent, h⟩ := unless_eq_ok h
  obtain ⟨hseq, ⟨⟩⟩ := unless_eq_ok h
  have hrun : s.getRun (newRun runID p w spec now).id = none :=
    select_eq_none.mpr (not_or.mp habsent).1
  intro id
  rw [view_insertTransition, view_insertRun hrun]
  by_cases hid : runID = id
  · subst hid
    right
    have hstep : RunStep runID (.createRun runID p w spec now) (s.view runID) _ :=
      .createRun hrun (by
        intro t ht
        have ht' := List.mem_filter.mp ht
        exact fun h0 => hseq ⟨t, ht'.1, by simpa using ht'.2, h0⟩)
    simpa [newRun] using hstep
  · left
    simp [hid, newRun]

theorem simulates_transition (h : transition s runID target reason now = .ok s') :
    Simulates s s' (.transition runID target reason now) := by
  obtain ⟨htarget, h⟩ := unless_eq_ok h
  obtain ⟨_, hrun, hcheck, -, hself, hother⟩ := commit_view h
  refine StepsRun.simulates ⟨hself ▸ ?_, hother⟩
  exact .transition hrun (id_of_getRun hrun) (by simpa using htarget)
    (checkTransition_ok hcheck rfl).1

variable {outbox : OutboxRow}

theorem simulates_terminal (h : commitTerminal s runID target reason now outbox = .ok s') :
    Simulates s s' (.commitTerminal runID target reason now outbox) := by
  obtain ⟨htarget, h⟩ := unless_eq_ok h
  obtain ⟨_, hrun, hcheck, hout, hself, hother⟩ := commit_view h
  obtain ⟨hedge, hterm⟩ := checkTransition_ok hcheck rfl
  refine StepsRun.simulates ⟨hself ▸ ?_, hother⟩
  exact .commitTerminal hrun (id_of_getRun hrun) (not_not.mp htarget) hedge (hterm rfl).1
    (hterm rfl).2 (hout rfl)

theorem simulates_noProcess (h : commitNoProcessFailure s runID reason now = .ok s') :
    Simulates s s' (.commitNoProcessFailure runID reason now) := by
  obtain ⟨_, hrun, hcheck, hout, hself, hother⟩ := commit_view h
  obtain ⟨hstate, hpids⟩ := check_noProcess hcheck rfl
  refine StepsRun.simulates ⟨hself ▸ ?_, hother⟩
  exact .commitNoProcessFailure hrun (id_of_getRun hrun) hstate hpids (hout rfl)

variable {reached : State}

theorem request_cases (h : requestCancellation s runID now = .ok (s', reached)) :
    ∃ run, s.getRun runID = some run ∧ isTerminal run.state = false ∧
      (run.state = .running ∧ s' = (s.updateRun runID fun r =>
          { r with
            state := .cancelling, cancelRequested := true, updatedAt := now }).insertTransition
            (nextTransition runID (s.transitionsOf runID) run.state .cancelling
              "cancellation requested" now) ∨
        run.state ≠ .running ∧ run.cancelRequested = false ∧ s' = s.updateRun runID (fun r =>
          { r with state := run.state, cancelRequested := true, updatedAt := now }) ∨
        run.state ≠ .running ∧ run.cancelRequested = true ∧ s' = s) := by
  unfold requestCancellation at h
  split at h
  · cases h
  next run hrun =>
    obtain ⟨hlive, h⟩ := unless_eq_ok h
    refine ⟨run, hrun, by simpa using hlive, ?_⟩
    by_cases hrunning : run.state = .running
    · simp only [hrunning, if_true, reduceCtorEq, and_false, if_false, ne_eq,
        not_false_eq_true, Except.ok.injEq, Prod.mk.injEq] at h
      exact .inl ⟨hrunning, by rw [← h.1, hrunning]⟩
    · simp only [hrunning, if_false, and_true, ne_eq, not_true_eq_false] at h
      split at h
      next hflag =>
        cases h
        exact .inr (.inr ⟨hrunning, hflag, rfl⟩)
      next hflag =>
        cases h
        exact .inr (.inl ⟨hrunning, by simpa using hflag, rfl⟩)

section

variable (hf : ∀ r, (f r).id = r.id) (hrun : s.getRun runID = some run)
  (hstep : RunStep runID op (s.view runID) { s.view runID with run := some (f run) })
include hf hrun hstep

theorem stepsRun_updateRun : StepsRun s (s.updateRun runID f) runID op := by
  have hview : (s.view runID).run = some run := hrun
  refine ⟨?_, fun id hid => ?_⟩
  · rw [view_updateRun hf]
    simpa [hview] using hstep
  · rw [view_updateRun hf]
    simp [hid]

theorem sim_updateRun : Simulates s (s.updateRun runID f) op :=
  (stepsRun_updateRun hf hrun hstep).simulates

end

theorem simulates_cancel (h : requestCancellation s runID now = .ok (s', reached)) :
    Simulates s s' (.requestCancellation runID now) := by
  obtain ⟨run, hrun, hlive, ⟨hrunning, rfl⟩ | ⟨hrunning, hflag, rfl⟩ | ⟨-, -, rfl⟩⟩ :=
    request_cases h
  · intro id
    have hview : (s.view runID).run = some run := hrun
    rw [view_insertTransition, view_updateRun (by simp)]
    by_cases hid : id = runID
    · subst hid
      right
      have hstep : RunStep id (.requestCancellation id now) (s.view id) _ :=
        .cancelRunning hview (id_of_getRun hrun) hrunning
      simpa [nextTransition, RunView.move, hview, id_of_getRun hrun, hrunning,
        transitionsOf_eq] using hstep
    · left
      simp [nextTransition, hid, Ne.symm hid]
  · exact sim_updateRun (fun _ => rfl) hrun (.cancelFlag hrun hlive hrunning hflag)
  · exact fun _ => .inl rfl

theorem sim_setSupervisor {spid spgid wpid : Int}
    (h : setRunSupervisor s runID spid spgid wpid now = .ok s') :
    Simulates s s' (.setRunSupervisor runID spid spgid wpid now) := by
  obtain ⟨hsome, ⟨⟩⟩ := unless_eq_ok h
  obtain ⟨_, hrun⟩ := Option.ne_none_iff_exists'.mp (by simpa using hsome)
  exact sim_updateRun (fun _ => rfl) hrun (.setRunSupervisor hrun)

theorem sim_setIdentity {ident : TranscriptFileIdentity}
    (h : setTranscriptIdentity s runID ident now = .ok s') :
    Simulates s s' (.setTranscriptIdentity runID ident now) := by
  unfold setTranscriptIdentity at h
  split at h
  · cases h
  next hvalid =>
    split at h
    · cases h
    next run hrun =>
      split at h
      · cases h
        exact fun _ => .inl rfl
      · obtain ⟨hunk, ⟨⟩⟩ := unless_eq_ok h
        exact sim_updateRun (fun _ => rfl) hrun
          (.setTranscriptIdentity hrun hvalid (not_not.mp hunk))

variable {type : String} {payload : List UInt8} {off : Int}

theorem stepsRun_appendEvent {e : Event}
    (h : appendEvent s runID type payload off now = .ok (s', e)) :
    StepsRun s s' runID (.appendEvent runID type payload off now) := by
  obtain ⟨-, h⟩ := unless_eq_ok h
  split at h
  · cases h
  next run hrun =>
    obtain ⟨hseal, ⟨⟩⟩ := unless_eq_ok h
    have hview : (s.view runID).run = some run := hrun
    refine ⟨?_, fun id hid => ?_⟩
    · rw [view_insertEvent, view_updateRun (by simp)]
      have hstep : RunStep runID (.appendEvent runID type payload off now) (s.view runID) _ :=
        .appendEvent hview (not_not.mp hseal)
      simpa [hview, eventsOf_eq] using hstep
    · rw [view_insertEvent, view_updateRun (by simp)]
      simp [hid, Ne.symm hid]

theorem sim_sealTranscript {finalSize : Int} (h : sealTranscript s runID finalSize now = .ok s') :
    Simulates s s' (.sealTranscript runID finalSize now) := by
  obtain ⟨hsize, h⟩ := unless_eq_ok h
  split at h
  · cases h
  next run hrun =>
    split at h
    · obtain ⟨-, ⟨⟩⟩ := unless_eq_ok h
      exact fun _ => .inl rfl
    next hopen =>
      cases h
      exact sim_updateRun (fun _ => rfl) hrun
        (.sealTranscript hrun (Int.not_lt.mp hsize) (Int.not_le.mp hopen))

theorem stepsRun_advance (h : advanceTranscriptConsumed s runID off now = .ok s') :
    StepsRun s s' runID (.advanceTranscriptConsumed runID off now) := by
  obtain ⟨hoffset, h⟩ := unless_eq_ok h
  split at h
  · cases h
  next run hrun =>
    obtain ⟨hseal, ⟨⟩⟩ := unless_eq_ok h
    exact stepsRun_updateRun (fun _ => rfl) hrun
      (.advanceTranscriptConsumed hrun (Int.not_lt.mp hoffset) (not_not.mp hseal))

theorem sim_resolveOutbox {f : OutboxRow → OutboxRow} (h : resolveOutbox s runID f = .ok s')
    (hop : (∃ now, op = .acknowledgeOutbox runID now) ∨
      ∃ reason now, op = .abandonOutbox runID reason now)
    (hf : ∀ row, (f row).runID = row.runID ∧ (f row).terminalState = row.terminalState) :
    Simulates s s' op := by
  intro id
  unfold resolveOutbox at h
  split at h
  next =>
    cases h
    have hg : ∀ row : OutboxRow, (if row.acknowledged = 0 then f row else row).runID = row.runID ∧
        (if row.acknowledged = 0 then f row else row).terminalState = row.terminalState := by
      intro row
      split
      · exact hf row
      · exact ⟨rfl, rfl⟩
    rw [view_updateOutbox fun row => (hg row).1]
    by_cases hid : id = runID
    · subst hid
      right
      simpa using RunStep.resolveOutbox hop hg
    · left
      simp [hid]
  · cases h

theorem perform_simulates (h : perform s op = .ok s') : Simulates s s' op := by
  cases op with
  | createProject | createWorkstream =>
    obtain ⟨-, ⟨⟩⟩ := unless_eq_ok h
    exact fun _ => .inl rfl
  | createRun => exact simulates_createRun h
  | transition => exact simulates_transition h
  | commitTerminal => exact simulates_terminal h
  | commitNoProcessFailure => exact simulates_noProcess h
  | requestCancellation =>
    obtain ⟨⟨s'', _⟩, hcall, rfl⟩ := map_eq_ok.mp h
    exact simulates_cancel hcall
  | setRunSupervisor => exact sim_setSupervisor h
  | setTranscriptIdentity => exact sim_setIdentity h
  | appendEvent =>
    obtain ⟨⟨_, _⟩, hcall, rfl⟩ := map_eq_ok.mp h
    exact (stepsRun_appendEvent hcall).simulates
  | sealTranscript => exact sim_sealTranscript h
  | advanceTranscriptConsumed =>
    exact (stepsRun_advance h).simulates
  | acknowledgeOutbox runID now =>
    exact sim_resolveOutbox h (.inl ⟨now, rfl⟩) fun _ => ⟨rfl, rfl⟩
  | abandonOutbox runID reason now =>
    obtain ⟨-, h⟩ := unless_eq_ok h
    exact sim_resolveOutbox h (.inr ⟨reason, now, rfl⟩) fun _ => ⟨rfl, rfl⟩

theorem perform_of_exec (h : (exec s op).2 = .ok ()) : perform s op = .ok (exec s op).1 := by
  unfold exec at h ⊢
  split at h
  next hop => simp [hop]
  next => cases h

theorem commit_state (h : commitTransition s id target reason now commit = .ok s') :
    ∃ run, s'.getRun id = some run ∧ run.state = target := by
  obtain ⟨_, -, -, -, hview, -⟩ := commit_view h
  exact ⟨_, congrArg RunView.run hview, rfl⟩

theorem exec_transition_state (h : (exec s (.transition id target reason now)).2 = .ok ()) :
    ∃ run, (exec s (.transition id target reason now)).1.getRun id = some run ∧
      run.state = target := by
  exact commit_state (unless_eq_ok (perform_of_exec h)).2

theorem exec_commitTerminal_state
    (h : (exec s (.commitTerminal id target reason now outbox)).2 = .ok ()) :
    isTerminal target = true ∧
      ∃ run, (exec s (.commitTerminal id target reason now outbox)).1.getRun id = some run ∧
        run.state = target := by
  obtain ⟨htarget, hcommit⟩ := unless_eq_ok (perform_of_exec h)
  exact ⟨by simpa using htarget, commit_state hcommit⟩

theorem exec_appendEvent_step (h : (exec s (.appendEvent id type payload off now)).2 = .ok ()) :
    RunStep id (.appendEvent id type payload off now) (s.view id)
      ((exec s (.appendEvent id type payload off now)).1.view id) := by
  obtain ⟨⟨_, _⟩, hcall, heq⟩ := map_eq_ok.mp (perform_of_exec h)
  exact heq ▸ (stepsRun_appendEvent hcall).own

theorem exec_advance_step (h : (exec s (.advanceTranscriptConsumed id off now)).2 = .ok ()) :
    RunStep id (.advanceTranscriptConsumed id off now) (s.view id)
      ((exec s (.advanceTranscriptConsumed id off now)).1.view id) :=
  (stepsRun_advance (perform_of_exec h)).own

theorem exec_view (s : DB) (op : Op) (id : String) : (exec s op).1.view id = s.view id ∨
      (exec s op).2 = .ok () ∧ RunStep id op (s.view id) ((exec s op).1.view id) := by
  unfold exec
  split
  next s' h =>
    rcases perform_simulates h id with hsame | hstep
    · exact .inl hsame
    · exact .inr ⟨rfl, hstep⟩
  next => exact .inl rfl

variable {P : RunView → Prop}

/-- The rule for facts about one run: enough that the run's own steps keep them. -/
theorem exec_preserves (hstep : ∀ v v', RunStep id op v v' → P v → P v') (h : P (s.view id)) :
    P ((exec s op).1.view id) := by
  rcases exec_view s op id with hsame | ⟨-, hrow⟩
  · rwa [hsame]
  · exact hstep _ _ hrow h

theorem run_preserves (hstep : ∀ op v v', RunStep id op v v' → P v → P v')
    (h : P (s.view id)) (ops : List Op) : P ((Machine.run exec s ops).view id) := by
  have hone : ∀ (s : DB) (op : Op), P (s.view id) → P ((exec s op).1.view id) :=
    fun _ op hs => exec_preserves (hstep op) hs
  exact Machine.invariant_run (I := fun s : DB => P (s.view id)) hone h

/-- The shortest way to a running run `r`. -/
def started (spec : RunSpec) : List Op :=
  [.createProject "p", .createWorkstream "w" "p", .createRun "r" "p" "w" spec "t0",
    .transition "r" .running "started" "t1"]

end Ananke.Store
