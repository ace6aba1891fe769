import Mathlib.Logic.Relation
import Ananke.Interaction.Triple
import Ananke.Lifecycle.Engine
import Ananke.Store.Query
import Ananke.Supervise.Questions

/-! The world the daemon runs in: the store it shares with the supervisors and the API, the
transcripts the workers append to, and the supervisors that finish their runs. -/
namespace Ananke.Lifecycle

open Store Interaction Text Supervise

/-- A supervisor that has begun to finish its run, at some point of `finishOwnedWorker`. -/
structure Finishing where
  prog : Sup (State × Option String)
  keeps : Asks KeepsObligation prog

structure World where
  db : DB
  /-- The bytes of each run's transcript. -/
  transcript : String → List UInt8
  finishing : String → Option Finishing
  /-- The runs for which a malformed line has been accounted. No process can see this. -/
  corrupted : List String

def World.empty : World := ⟨{}, fun _ => [], fun _ => none, []⟩

/-- The world after a write on the run went through. -/
def World.wrote (w : World) (id : String) (cmd : Write) (db : DB) : World :=
  match cmd with
  | .accountMalformed _ => { w with db := db, corrupted := id :: w.corrupted }
  | _ => { w with db := db }

/-- What a question about a run may be answered, and what it does. A call may always fail
and then changes nothing; reads that succeed tell the truth. -/
def runSem (id : String) (w : World) : (c : RunCall) → RunAnswer c → World → Prop
  | .write cmd, none, w' => ∃ now, (exec w.db (cmd.op id now)).2 = .ok () ∧
      w' = w.wrote id cmd (exec w.db (cmd.op id now)).1
  | .getRun, .ok r, w' => w.db.getRun id = some r ∧ w' = w
  | .getTranscriptProgress, .ok progress, w' =>
      Store.getTranscriptProgress w.db id = .ok progress ∧ w' = w
  | .getOutbox, .ok row, w' => row ∈ w.db.outboxOf id ∧ w' = w
  | .seek offset, none, w' => 0 ≤ offset ∧ w' = w
  | .rewind offset, none, w' => 0 ≤ offset ∧ w' = w
  | .readLine pos, (line, status), w' =>
      IsRead newline ((w.transcript id).drop pos) line status ∧ w' = w
  | _, _, w' => w' = w

/-- The listings come in the order of a column that is not modelled as one. -/
def daemonSem (w : World) : (q : Question) → QuestionAnswer q → World → Prop
  | .about id c, a, w' => runSem id w c a w'
  | .listActiveRuns, .ok runs, w' => runs.Perm w.db.listActiveRuns ∧ w' = w
  | .listPendingOutbox, .ok rows, w' => rows.Perm w.db.listPendingOutbox ∧ w' = w
  | _, _, w' => w' = w

/-- Likewise for a supervisor's question about its run. -/
def supervisorSem (id : String) (db : DB) : (q : Call) → Answer q → DB → Prop
  | .getRun, .ok r, db' => db.getRun id = some r ∧ db' = db
  | .getTranscriptProgress, .ok progress, db' =>
      Store.getTranscriptProgress db id = .ok progress ∧ db' = db
  | .getOutbox, .ok row, db' => row ∈ db.outboxOf id ∧ db' = db
  | .transition target reason, none, db' =>
      ∃ now, exec db (.transition id target reason now) = (db', .ok ())
  | .sealTranscript finalSize, none, db' =>
      ∃ now, exec db (.sealTranscript id finalSize now) = (db', .ok ())
  | .setRunSupervisor spid spgid wpid, none, db' =>
      ∃ now, exec db (.setRunSupervisor id spid spgid wpid now) = (db', .ok ())
  | .commitTerminal target reason outbox, none, db' =>
      ∃ now, exec db (.commitTerminal id target reason now outbox) = (db', .ok ())
  | .acknowledgeOutbox, none, db' => ∃ now, exec db (.acknowledgeOutbox id now) = (db', .ok ())
  | _, _, db' => db' = db

/-- Operations of others than the daemon's recovery work: only its tailer journals, only it
makes a run ambiguous, and a run fails for want of a process only while no worker has
written anything. -/
def Foreign (w : World) : Op → Prop
  | .appendEvent _ _ _ _ _ => False
  | .advanceTranscriptConsumed _ _ _ => False
  | .transition _ target _ _ => target ≠ .recoveryUnknown
  | .commitNoProcessFailure id _ _ => w.transcript id = []
  | _ => True

/-- What happens beside the daemon's recovery work. -/
inductive EnvStep : World → World → Prop
  | operation {w : World} {op : Op} (h : Foreign w op) : EnvStep w { w with db := (exec w.db op).1 }
  | grow {w : World} (id : String) (bytes : List UInt8) : EnvStep w { w with
        transcript := Function.update w.transcript id (w.transcript id ++ bytes) }
  /-- The run's worker has exited, and its supervisor turns to finishing the run. -/
  | finish {w : World} (s : Supervisor) (fuel : Nat) (workerPID : Int) (failure : Option String) :
      EnvStep w { w with
        finishing := Function.update w.finishing s.cfg.runID
          (some ⟨finishOwnedWorker s fuel workerPID failure, asks_finishOwnedWorker ..⟩) }
  | supervise {w : World} {id : String} {q : Call} {k : Answer q → Sup (State × Option String)}
      {hk : Asks KeepsObligation (.ask q k)} {a : Answer q} {db : DB}
      (hprog : w.finishing id = some ⟨.ask q k, hk⟩) (hs : supervisorSem id w.db q a db) :
      EnvStep w { w with
        db := db, finishing := Function.update w.finishing id (some ⟨k a, hk.rest a⟩) }

/-- The daemon's environment. -/
def environment : Environment Question QuestionAnswer World where
  sem := daemonSem
  rely := Relation.ReflTransGen EnvStep
  rely_refl _ := .refl
  rely_trans := .trans

/-- The states of the whole system in which the daemon only gets answers that `C` admits:
it may be stopped and started again at any point, and all others act in between. -/
def Reachable (unmarshal : Unmarshal) (fuel : Nat)
    (C : World → (q : Question) → QuestionAnswer q → Prop) (w : World) : Prop :=
  ∃ p, Reach (environment.restrict C) (engine unmarshal fuel) World.empty w p

variable {w w' : World} {id id' : String} {q : Question} {a : QuestionAnswer q}

/-- A question changes the world only through a write that succeeds. -/
theorem daemonSem_cases (h : daemonSem w q a w') : w' = w ∨
    ∃ id cmd now, q = .about id (.write cmd) ∧ (exec w.db (cmd.op id now)).2 = .ok () ∧
      w' = w.wrote id cmd (exec w.db (cmd.op id now)).1 := by
  match q with
  | .listActiveRuns => cases a with
    | error e => exact .inl h
    | ok runs => exact .inl h.2
  | .listPendingOutbox => cases a with
    | error e => exact .inl h
    | ok rows => exact .inl h.2
  | .exitedSupervisors => exact .inl h
  | .nextTick => exact .inl h
  | .about id c =>
    cases c with
    | write cmd => cases a with
      | some e => exact .inl h
      | none =>
        obtain ⟨now, hok, rfl⟩ := h
        exact .inr ⟨id, cmd, now, rfl, hok, rfl⟩
    | getRun | getTranscriptProgress | getOutbox => cases a with
      | error e => exact .inl h
      | ok x => exact .inl h.2
    | seek off | rewind off => cases a with
      | some e => exact .inl h
      | none => exact .inl h.2
    | readLine => exact .inl h.2
    | _ => exact .inl h

theorem supervisorSem_cases {q : Call} {a : Answer q} {db db' : DB}
    (hq : KeepsObligation q) (h : supervisorSem id db q a db') : db' = db ∨
      ∃ op, (∀ w, Foreign w op) ∧ db' = (exec db op).1 := by
  cases q with
  | getRun | getTranscriptProgress | getOutbox => cases a with
    | error e => exact .inl h
    | ok x => exact .inl h.2
  | transition target => cases a with
    | some e => exact .inl h
    | none =>
      obtain ⟨now, hexec⟩ := h
      refine .inr ⟨_, fun w => ?_, by rw [hexec]⟩
      have htarget : target = .cleanupRequired := hq
      simp [Foreign, htarget]
  | sealTranscript | setRunSupervisor | commitTerminal | acknowledgeOutbox => cases a with
    | some e => exact .inl h
    | none =>
      obtain ⟨_, hexec⟩ := h
      refine .inr ⟨_, fun w => ?_, by rw [hexec]⟩
      trivial
  | _ => exact .inl h

theorem envStep_cases (h : EnvStep w w') : w'.corrupted = w.corrupted ∧
    ((w'.transcript = w.transcript ∧
        (w'.db = w.db ∨ ∃ op, Foreign w op ∧ w'.db = (exec w.db op).1)) ∨
      w'.db = w.db ∧ ∀ id, w.transcript id <+: w'.transcript id) := by
  cases h with
  | operation h => exact ⟨rfl, .inl ⟨rfl, .inr ⟨_, h, rfl⟩⟩⟩
  | grow id =>
    refine ⟨rfl, .inr ⟨rfl, fun id' => ?_⟩⟩
    by_cases hid : id' = id
    · subst hid
      simp
    · simp [hid]
  | finish => exact ⟨rfl, .inl ⟨rfl, .inl rfl⟩⟩
  | @supervise _ _ _ hk _ _ hprog hs =>
    refine ⟨rfl, .inl ⟨rfl, ?_⟩⟩
    rcases supervisorSem_cases hk.question hs with h | ⟨op, hop, h⟩
    · exact .inl h
    · exact .inr ⟨op, hop w, h⟩

theorem wrote_db (w : World) (id : String) (cmd : Write) (db : DB) :
    (w.wrote id cmd db).db = db := by
  cases cmd <;> rfl

theorem wrote_transcript (w : World) (id : String) (cmd : Write) (db : DB) :
    (w.wrote id cmd db).transcript = w.transcript := by
  cases cmd <;> rfl

section

variable {P : DB → Prop} (hP : ∀ db op, P db → P (exec db op).1)
include hP

/-- What every operation of the store keeps is kept by all that happens beside the daemon. -/
theorem db_envStep (hs : EnvStep w w') (h : P w.db) : P w'.db := by
  obtain ⟨-, ⟨-, hdb | ⟨_, -, hdb⟩⟩ | ⟨hdb, -⟩⟩ := envStep_cases hs
  · rwa [hdb]
  · rw [hdb]
    exact hP _ _ h
  · rwa [hdb]

theorem db_rely (hr : environment.rely w w') (h : P w.db) : P w'.db := by
  induction hr with
  | refl => exact h
  | tail _ hs ih => exact db_envStep hP hs ih

theorem db_sem (hs : daemonSem w q a w') (h : P w.db) : P w'.db := by
  rcases daemonSem_cases hs with rfl | ⟨id', cmd, now, -, -, rfl⟩
  · exact h
  · rw [wrote_db]
    exact hP _ _ h

end

theorem keys_envStep (hs : EnvStep w w') (h : w.db.KeysDistinct) : w'.db.KeysDistinct :=
  db_envStep (fun _ _ => exec_keysDistinct) hs h

theorem keys_sem (hs : daemonSem w q a w') (h : w.db.KeysDistinct) : w'.db.KeysDistinct :=
  db_sem (fun _ _ => exec_keysDistinct) hs h

theorem listed_rows {runs : List Run} (hs : daemonSem w .listActiveRuns (.ok runs) w')
    (h : w.db.KeysDistinct) : w' = w ∧ (runs.map Run.id).Nodup ∧
      ∀ r ∈ runs, w.db.getRun r.id = some r := by
  obtain ⟨hperm, rfl⟩ := hs
  have hsub : w'.db.listActiveRuns.Sublist w'.db.runs := List.filter_sublist
  refine ⟨rfl, ?_, fun r hr => ?_⟩
  · exact (hperm.map Run.id).nodup_iff.mpr ((hsub.map Run.id).nodup h)
  · exact getRun_of_mem h (hsub.subset (hperm.mem_iff.mp hr))

/-- The run has reached a terminal state. -/
def Ended (id : String) (w : World) : Prop :=
  ∃ run, w.db.getRun id = some run ∧ isTerminal run.state = true

theorem runStep_ended {op : Op} {v v' : RunView} (h : RunStep id op v v')
    (hended : ∃ run, v.run = some run ∧ isTerminal run.state = true) :
    ∃ run, v'.run = some run ∧ isTerminal run.state = true := by
  obtain ⟨run, hrun, hterm⟩ := hended
  have hno : ∀ target, canTransition run.state target = false :=
    fun target => terminal_stays hterm
  cases h with
  | createRun hnone => simp [hrun] at hnone
  | transition hrun' hid htarget hedge | commitTerminal hrun' hid htarget hedge =>
    cases hrun.symm.trans hrun'
    simp [hno] at hedge
  | commitNoProcessFailure hrun' hid hstate =>
    cases hrun.symm.trans hrun'
    rcases hstate with hstate | hstate <;> simp [hstate, isTerminal] at hterm
  | cancelRunning hrun' hid hstate =>
    cases hrun.symm.trans hrun'
    simp [hstate, isTerminal] at hterm
  | resolveOutbox => exact ⟨run, hrun, hterm⟩
  | cancelFlag hrun' | setRunSupervisor hrun' | setTranscriptIdentity hrun' | appendEvent hrun'
  | sealTranscript hrun' | advanceTranscriptConsumed hrun' =>
    cases hrun.symm.trans hrun'
    exact ⟨_, rfl, hterm⟩

theorem exec_ended (db : DB) (op : Op)
    (h : ∃ run, db.getRun id = some run ∧ isTerminal run.state = true) :
    ∃ run, (exec db op).1.getRun id = some run ∧ isTerminal run.state = true :=
  exec_preserves (P := fun v => ∃ run, v.run = some run ∧ isTerminal run.state = true)
    (fun _ _ => runStep_ended) h

theorem ended_rely (hr : environment.rely w w') (h : Ended id w) : Ended id w' :=
  db_rely exec_ended hr h

theorem ended_sem (hs : daemonSem w q a w') (h : Ended id w) : Ended id w' :=
  db_sem exec_ended hs h

theorem ended_of_commit {target : State} {reason : String} {outbox : OutboxRow}
    (hs : daemonSem w (.about id (.write (.commitTerminal target reason outbox))) none w') :
    Ended id w' := by
  obtain ⟨_, hok, rfl⟩ := hs
  obtain ⟨htarget, run, hrun, hstate⟩ := exec_commitTerminal_state hok
  exact ⟨run, hrun, hstate ▸ htarget⟩

end Ananke.Lifecycle
