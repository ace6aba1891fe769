import Ananke.Lifecycle.World

/-! Driving the system: the store and the transcripts answer as they do, and an oracle says
what the files, the processes and the supervisors answer. Every driven run is a run. -/
namespace Ananke.Lifecycle

open Store Interaction Text Supervise List

/-- The answers from outside the store and the transcripts. -/
abbrev Oracle := (c : RunCall) → RunAnswer c

/-- What `ReadBytes` returns from the rest of a file. -/
def readLine : List UInt8 → List UInt8 × ReadEnd
  | [] => ([], .eof)
  | b :: rest =>
    if b = newline then ([b], .complete)
    else (b :: (readLine rest).1, (readLine rest).2)

def answerRun (oracle : Oracle) (id : String) (w : World) : (c : RunCall) → RunAnswer c × World
  | .write cmd =>
    match (exec w.db (cmd.op id "now")).2 with
    | .ok () => (none, w.wrote id cmd (exec w.db (cmd.op id "now")).1)
    | .error e => (some (.store e), w)
  | .getRun =>
    match w.db.getRun id with
    | some r => (.ok r, w)
    | none => (.error (.store .runNotFound), w)
  | .getTranscriptProgress =>
    match Store.getTranscriptProgress w.db id with
    | .ok progress => (.ok progress, w)
    | .error e => (.error (.store e), w)
  | .getOutbox =>
    match w.db.outboxOf id with
    | row :: _ => (.ok row, w)
    | [] => (.error (.store .outboxNotFound), w)
  | .seek offset => (if 0 ≤ offset then oracle (.seek offset) else some (.other "EINVAL"), w)
  | .rewind offset => (if 0 ≤ offset then oracle (.rewind offset) else some (.other "EINVAL"), w)
  | .readLine pos => (readLine ((w.transcript id).drop pos), w)
  | c => (oracle c, w)

def answer (oracle : Oracle) (w : World) : (q : Question) → QuestionAnswer q × World
  | .about id c => answerRun oracle id w c
  | .listActiveRuns => (.ok w.db.listActiveRuns, w)
  | .listPendingOutbox => (.ok w.db.listPendingOutbox, w)
  | .exitedSupervisors => ([], w)
  | .nextTick => (true, w)

def drive (oracle : Oracle) : Nat → World × Daemon Unit → World × Daemon Unit
  | n + 1, (w, .ask q k) =>
    drive oracle n ((answer oracle w q).2, k (answer oracle w q).1)
  | _, s => s

def answerSupervisor (oracle : (q : Call) → Answer q) (id : String) (db : DB) :
    (q : Call) → Answer q × DB
  | .getRun =>
    match db.getRun id with
    | some r => (.ok r, db)
    | none => (.error (.store .runNotFound), db)
  | .getTranscriptProgress =>
    match Store.getTranscriptProgress db id with
    | .ok progress => (.ok progress, db)
    | .error e => (.error (.store e), db)
  | .getOutbox =>
    match db.outboxOf id with
    | row :: _ => (.ok row, db)
    | [] => (.error (.store .outboxNotFound), db)
  | .transition target reason => commit (.transition id target reason "now")
  | .sealTranscript finalSize => commit (.sealTranscript id finalSize "now")
  | .setRunSupervisor spid spgid wpid => commit (.setRunSupervisor id spid spgid wpid "now")
  | .commitTerminal target reason outbox =>
    commit (.commitTerminal id target reason "now" outbox)
  | .acknowledgeOutbox => commit (.acknowledgeOutbox id "now")
  | q => (oracle q, db)
where
  /-- A write's answer and effect. -/
  commit (op : Op) : Option Err × DB :=
    match exec db op with
    | (db', .ok ()) => (none, db')
    | (_, .error e) => (some (.store e), db)

def superviseOnce (oracle : (q : Call) → Answer q) (id : String) (w : World) : World :=
  match w.finishing id with
  | some ⟨.ask q k, hk⟩ =>
    { w with
      db := (answerSupervisor oracle id w.db q).2
      finishing := Function.update w.finishing id
        (some ⟨k (answerSupervisor oracle id w.db q).1, hk.rest _⟩) }
  | _ => w

variable {oracle : Oracle} {id : String} {w : World}

theorem isRead_readLine (a : List UInt8) : IsRead newline a (readLine a).1 (readLine a).2 := by
  induction a with
  | nil => exact ⟨rfl, by simp [readLine]⟩
  | cons b rest ih =>
    unfold readLine
    split
    next h => simp [IsRead, h]
    next h =>
      generalize readLine rest = r at ih ⊢
      obtain ⟨line, status⟩ := r
      cases status with
      | complete =>
        obtain ⟨hlast, hnl, hpre⟩ := ih
        cases line with
        | nil => simp at hlast
        | cons c line =>
          refine ⟨by simpa using hlast, ?_, by simpa using hpre⟩
          simpa [Ne.symm h] using hnl
      | eof =>
        obtain ⟨hline, hnl⟩ := ih
        exact ⟨by simpa using hline, by simpa [Ne.symm h] using hnl⟩
      | failed =>
        obtain ⟨hnl, hpre⟩ := ih
        exact ⟨by simpa [Ne.symm h] using hnl, by simpa using hpre⟩

theorem answerRun_sem (c : RunCall) :
    runSem id w c (answerRun oracle id w c).1 (answerRun oracle id w c).2 := by
  cases c with
  | write =>
    simp only [answerRun]
    split
    next h => exact ⟨"now", h, rfl⟩
    next => rfl
  | getRun | getTranscriptProgress =>
    simp only [answerRun]
    split
    next h => exact ⟨h, rfl⟩
    next => rfl
  | getOutbox =>
    simp only [answerRun]
    split
    next h =>
      refine ⟨?_, rfl⟩
      rw [h]
      exact mem_cons_self
    next => rfl
  | seek off =>
    simp only [answerRun]
    split
    next h =>
      cases oracle (.seek off) with
      | none => exact ⟨h, rfl⟩
      | some e => rfl
    next => rfl
  | rewind off =>
    simp only [answerRun]
    split
    next h =>
      cases oracle (.rewind off) with
      | none => exact ⟨h, rfl⟩
      | some e => rfl
    next => rfl
  | readLine => exact ⟨isRead_readLine _, rfl⟩
  | _ => rfl

theorem answer_sem (q : Question) : daemonSem w q (answer oracle w q).1 (answer oracle w q).2 := by
  cases q with
  | about id c => exact answerRun_sem c
  | listActiveRuns | listPendingOutbox => exact ⟨.refl _, rfl⟩
  | exitedSupervisors | nextTick => rfl

theorem answerSupervisor_sem {oracle : (q : Call) → Answer q} {db : DB} (q : Call) :
    supervisorSem id db q (answerSupervisor oracle id db q).1
      (answerSupervisor oracle id db q).2 := by
  cases q with
  | getRun | getTranscriptProgress =>
    simp only [answerSupervisor]
    split
    next h => exact ⟨h, rfl⟩
    next => rfl
  | getOutbox =>
    simp only [answerSupervisor]
    split
    next h =>
      refine ⟨?_, rfl⟩
      rw [h]
      exact mem_cons_self
    next => rfl
  | transition | sealTranscript | setRunSupervisor | commitTerminal | acknowledgeOutbox =>
    simp only [answerSupervisor, answerSupervisor.commit]
    split
    next h => exact ⟨"now", h⟩
    next => rfl
  | _ => rfl

def supervise (oracle : (q : Call) → Answer q) (id : String) : Nat → World → World
  | 0, w => w
  | n + 1, w => supervise oracle id n (superviseOnce oracle id w)

theorem rely_supervise {oracle : (q : Call) → Answer q} (n : Nat) :
    Relation.ReflTransGen EnvStep w (supervise oracle id n w) := by
  induction n generalizing w with
  | zero => exact .refl
  | succ n ih =>
    refine .trans ?_ ih
    unfold superviseOnce
    split
    next h => exact .single (.supervise h (answerSupervisor_sem _))
    next => exact .refl

def perform (w : World) (ops : List Op) : World := { w with db := Machine.run exec w.db ops }

theorem rely_perform {ops : List Op} (h : ∀ op ∈ ops, ∀ w, Foreign w op) :
    Relation.ReflTransGen EnvStep w (perform w ops) := by
  induction ops generalizing w with
  | nil => exact .refl
  | cons op ops ih =>
    refine .head (.operation (h op mem_cons_self w)) ?_
    exact ih fun op hop => h op (mem_cons_of_mem _ hop)

/-- The daemon does not make a run ambiguous that owes a cleanup for a malformed line. -/
def KeepsMark (w : World) : (q : Question) → QuestionAnswer q → Prop
  | .about id (.write (.transition .recoveryUnknown _)), _ =>
    id ∈ w.corrupted → (w.db.getRun id).map Run.state ≠ some .cleanupRequired
  | _, _ => True

/-- The daemon places a tail at the start of the file only where nothing was consumed. -/
def SeeksUnread (w : World) : (q : Question) → QuestionAnswer q → Prop
  | .about id (.seek offset), none =>
    offset = 0 → (w.db.getRun id).map Run.transcriptConsumedOffset = some 0
  | _, _ => True

/-- The daemon can put back every line it wants to read again. -/
def Rewinds (_ : World) : (q : Question) → QuestionAnswer q → Prop
  | .about _ (.rewind _), a => a = none
  | _, _ => True

section

variable (w : World) (q : Question) (a : QuestionAnswer q)

def Careful : Prop := SeeksUnread w q a ∧ Rewinds w q a

instance KeepsMark.decide : Decidable (KeepsMark w q a) := by
  unfold KeepsMark
  split <;> infer_instance

instance SeeksUnread.decide : Decidable (SeeksUnread w q a) := by
  unfold SeeksUnread
  split <;> infer_instance

instance Rewinds.decide : Decidable (Rewinds w q a) := by
  unfold Rewinds
  split <;> infer_instance

instance Careful.decide : Decidable (Careful w q a) := inferInstanceAs (Decidable (_ ∧ _))

end

/-- The answers of the next `n` questions are all admitted by `C`. -/
def Admits (C : World → (q : Question) → QuestionAnswer q → Prop) (oracle : Oracle) :
    Nat → World × Daemon Unit → Prop
  | n + 1, (w, .ask q k) => C w q (answer oracle w q).1 ∧
      Admits C oracle n ((answer oracle w q).2, k (answer oracle w q).1)
  | _, _ => True

variable {C : World → (q : Question) → QuestionAnswer q → Prop}

theorem admits_of_forall
    (hC : ∀ w q a, C w q a) (n : Nat) (s : World × Daemon Unit) : Admits C oracle n s := by
  induction n generalizing s with
  | zero => trivial
  | succ n ih =>
    obtain ⟨_, p⟩ := s
    cases p with
    | ask => exact ⟨hC .., ih _⟩
    | _ => trivial

instance Admits.decide {C : World → (q : Question) → QuestionAnswer q → Prop}
    [∀ w q a, Decidable (C w q a)] : (n : Nat) → (s : World × Daemon Unit) →
      Decidable (Admits C oracle n s)
  | 0, _ => .isTrue trivial
  | _ + 1, (_, .ret _) => .isTrue trivial
  | _ + 1, (_, .stop) => .isTrue trivial
  | n + 1, (_, .ask _ _) =>
    have := Admits.decide (C := C) n
    inferInstanceAs (Decidable (_ ∧ _))

theorem reach_drive {boot p : Daemon Unit} {n : Nat} {init w : World}
    (hC : Admits C oracle n (w, p)) (h : Reach (environment.restrict C) boot init w p) :
    Reach (environment.restrict C) boot init
      (drive oracle n (w, p)).1 (drive oracle n (w, p)).2 := by
  induction n generalizing w p with
  | zero => exact h
  | succ n ih =>
    cases p with
    | ret a | stop => exact h
    | ask q => exact ih hC.2 (.answer h ⟨hC.1, answer_sem q⟩)

/-! A run to drive: worker 11 of supervisor 10, with its transcript at `/t`. -/

def demoSpec : RunSpec where
  workerPath := "/w"
  transcriptPath := "/t"
  socketPath := "/s"
  token := "k"
  identityPath := "/i"
  transcriptRequired := true

def demoIdentity : Identity := ⟨"r", 10, 11, 11, "/s", "k", "/t", ⟨1, 1⟩⟩

/-- What the API and the supervisor write until the run is running. -/
def demoLaunch : List Op :=
  [.createProject "p", .createWorkstream "w" "p", .createRun "r" "p" "w" demoSpec "t0",
    .setTranscriptIdentity "r" ⟨1, 1⟩ "t1", .setRunSupervisor "r" 10 11 11 "t2",
    .transition "r" .running "worker authority published" "t3"]

/-- The run is running, and its worker has written `bytes`. -/
def demoStart (bytes : List UInt8) : World :=
  { perform World.empty demoLaunch with
    transcript := Function.update (fun _ => []) "r" ([] ++ bytes) }

theorem rely_demoStart (bytes : List UInt8) : environment.rely World.empty (demoStart bytes) :=
  .tail (rely_perform (by simp [demoLaunch, Foreign])) (.grow "r" bytes)

def demoInfo (size : Int) : FileInfo := ⟨"-rw-------", true, 1, 1, size⟩

def demoReply : SupCmdResponse where
  ok := true
  state := .running
  runID := "r"
  supervisorPID := 10
  workerPID := 11
  pgid := 11
  transcriptDevice := 1
  transcriptInode := 1

/-- All processes live and answer, and the transcript has the given size. -/
def demoOracle (size : Int) : Oracle
  | .readIdentity _ => .ok demoIdentity
  | .localSupervisorStatus _ => (false, false)
  | .localSupervisorRunning => false
  | .processAlive _ => true
  | .groupMembers _ => .ok [11]
  | .signalGroup _ _ => none
  | .sendSupervisorCmd _ _ _ => .ok demoReply
  | .cleanupRequested => false
  | .deliverCancel _ _ => ()
  | .closing => false
  | .openTranscript _ => none
  | .statOpened => .ok (demoInfo size)
  | .statTail => .ok (demoInfo size)
  | .statPath _ => .ok (demoInfo size)
  | .seek _ => none
  | .rewind _ => none
  -- the store and the transcripts answer these themselves
  | .write _ => none
  | .getRun => .error .notExist
  | .getTranscriptProgress => .error .notExist
  | .getOutbox => .error .notExist
  | .readLine _ => ([], .eof)

end Ananke.Lifecycle
