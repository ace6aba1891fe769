import Ananke.Lifecycle.Quiet
import Ananke.Lifecycle.World

/-! What the daemon has seen of a run before it decides about it: before it commits the run
as failed, and before it resolves the run's outbox row. -/
namespace Ananke.Lifecycle

open Store Interaction Text List

/-- A question of the daemon with its answer. -/
abbrev Told := Interaction.Event QuestionAnswer

/-- A call about the run, answered. -/
def saw (id : String) (c : RunCall) (a : RunAnswer c) : Told := ⟨.about id c, a⟩

/-- The supervisor is an exited child, or a process that does not exist. -/
inductive SupervisorDead (id : String) (r : Run) : List Told → Prop
  | exited : SupervisorDead id r [saw id (.localSupervisorStatus r.supervisorPID) (true, true)]
  | absent (exited : Bool) : SupervisorDead id r
      [saw id (.localSupervisorStatus r.supervisorPID) (false, exited),
        saw id (.processAlive r.supervisorPID) false]

/-- The supervisor is a child that has not exited, or some live process has its number. -/
inductive SupervisorAlive (id : String) (r : Run) : List Told → Prop
  | child : SupervisorAlive id r [saw id (.localSupervisorStatus r.supervisorPID) (true, false)]
  | process (exited : Bool) : SupervisorAlive id r
      [saw id (.localSupervisorStatus r.supervisorPID) (false, exited),
        saw id (.processAlive r.supervisorPID) true]

/-- The worker is absent, and its group is empty or left to the exited supervisor. -/
inductive GroupQuiet (id : String) (r : Run) : List Told → Prop
  | empty : GroupQuiet id r
      [saw id (.processAlive r.workerPID) false, saw id (.groupMembers r.supervisorPGID) (.ok [])]
  | supervisorOnly {members : List Int} (h : ∀ pid ∈ members, pid = r.supervisorPID) :
      GroupQuiet id r [saw id (.processAlive r.workerPID) false,
          saw id (.groupMembers r.supervisorPGID) (.ok members),
          saw id (.localSupervisorStatus r.supervisorPID) (true, true)]

/-- First the supervisor was seen dead, then its worker and group gone. -/
inductive AllGone (id : String) (r : Run) : List Told → Prop
  | intro {dead gone : List Told} (hdead : SupervisorDead id r dead)
      (hgone : GroupQuiet id r gone) : AllGone id r (dead ++ gone)

/-- A required transcript was sealed at the size the file was seen to have, and later wholly
consumed. -/
inductive HandedOff (id : String) (r : Run) : List Told → Prop
  | notRequired (h : r.transcriptRequired = false) : HandedOff id r []
  | consumed {info : FileInfo} {progress : TranscriptProgress} (hregular : info.regular = true)
      (hidentity : validateTranscriptIdentity info r.transcriptIdentity = none)
      (hfinal : progress.finalSize = info.size) (hconsumed : progress.consumedOffset = info.size) :
      HandedOff id r [saw id (.statPath r.transcriptPath) (.ok info),
          saw id (.write (.sealTranscript info.size)) none,
          saw id .getTranscriptProgress (.ok progress)]

/-- What must have been seen of a run that is committed as failed. -/
inductive FailureEvidence (id : String) (r : Run) : List Told → Prop
  | intro {seen handed : List Told} (hgone : AllGone id r seen) (hhanded : HandedOff id r handed) :
      FailureEvidence id r (seen ++ handed)

/-- The outbox row is about the run, and the run has ended as the row says. -/
structure RowMatches (row : OutboxRow) (r : Run) : Prop where
  runID : row.runID = r.id
  terminal : isTerminal row.terminalState = true
  state : row.terminalState = r.state
  supervisorPID : row.supervisorPID = r.supervisorPID
  supervisorPGID : row.supervisorPGID = r.supervisorPGID
  socketPath : row.socketPath = r.socketPath
  token : row.token = r.token

/-- The reply tells of the row and of the run. -/
structure ReplyMatches (row : OutboxRow) (r : Run) (resp : SupCmdResponse) : Prop where
  ok : resp.ok = true
  runID : resp.runID = row.runID ∧ resp.runID = r.id
  state : resp.state = row.terminalState ∧ resp.state = r.state
  supervisorPID : resp.supervisorPID = row.supervisorPID ∧ resp.supervisorPID = r.supervisorPID
  workerPID : resp.workerPID = r.workerPID
  pgid : resp.pgid = row.supervisorPGID ∧ resp.pgid = r.supervisorPGID
  transcript : r.transcriptRequired = true → resp.transcriptDevice = r.transcriptIdentity.device ∧
      resp.transcriptInode = r.transcriptIdentity.inode

/-- What must have been seen of a row that is abandoned. -/
inductive AbandonEvidence (row : OutboxRow) : List Told → Prop
  | intro {r : Run} {identity : Identity} {seen : List Told} (hrow : RowMatches row r)
      (hgone : AllGone row.runID r seen) :
      AbandonEvidence row ([saw row.runID .getRun (.ok r),
          saw row.runID (.readIdentity r.identityPath) (.ok identity)] ++ seen)

/-- What must have been seen of a row that is acknowledged. -/
inductive FinalizeEvidence (row : OutboxRow) : List Told → Prop
  | intro {r : Run} {identity : Identity} {alive : List Told} {resp : SupCmdResponse}
      (hrow : RowMatches row r) (halive : SupervisorAlive row.runID r alive)
      (hreply : ReplyMatches row r resp) :
      FinalizeEvidence row ([saw row.runID .getRun (.ok r),
          saw row.runID (.readIdentity r.identityPath) (.ok identity)] ++ alive ++
          [saw row.runID (.sendSupervisorCmd r.socketPath r.token "finalize") (.ok resp)])

/-- `seen` was seen, in this order, since `runs` were listed, which was the last time. -/
def SinceListing (runs : List Run) (seen t : List Told) : Prop :=
  ∃ earlier later, t = earlier ++ ⟨.listActiveRuns, .ok runs⟩ :: later ∧
    (∀ e ∈ later, e.1 ≠ .listActiveRuns) ∧ seen.Sublist later

/-- `seen` is the last that was seen, since `rows` were listed, which was the last time. -/
def SincePending (rows : List OutboxRow) (seen t : List Told) : Prop :=
  ∃ earlier later, t = earlier ++ ⟨.listPendingOutbox, .ok rows⟩ :: (later ++ seen) ∧
    ∀ e ∈ later ++ seen, e.1 ≠ .listPendingOutbox

/-- What the daemon does is justified by what it saw before: it decides about a run or a row
only on the evidence for it, and it signals no group. -/
def Justified (t : List Told) : Told → Prop
  | ⟨.about id (.write (.commitTerminal target _ outbox)), _⟩ => target = .failed ∧
      ∃ runs r seen, r ∈ runs ∧ r.id = id ∧ SinceListing runs seen t ∧ FailureEvidence id r seen ∧
        outbox = failedOutbox r r.supervisorPID r.supervisorPGID r.socketPath r.token
  | ⟨.about id (.write .acknowledgeOutbox), _⟩ =>
      ∃ rows row seen, row ∈ rows ∧ row.runID = id ∧ SincePending rows seen t ∧
        FinalizeEvidence row seen
  | ⟨.about id (.write (.abandonOutbox _)), _⟩ =>
      ∃ rows row seen, row ∈ rows ∧ row.runID = id ∧ SincePending rows seen t ∧
        AbandonEvidence row seen
  | ⟨.about _ (.signalGroup _ _), _⟩ => False
  | _ => True

/-- The histories of the daemon: any answers, and restarts at any point. -/
def History (unmarshal : Unmarshal) (fuel : Nat) (t : List Told) : Prop :=
  ∃ p, Reach (traces fun _ => True).toEnvironment (engine unmarshal fuel) [] t p

/-! ### Calls that decide nothing -/

def Undecided : RunCall → Prop
  | .write (.commitTerminal _ _ _) | .write .acknowledgeOutbox | .write (.abandonOutbox _)
  | .signalGroup _ _ => False
  | _ => True

variable {id : String} {c : RunCall} {t seen : List Told} {r : Run} {α : Type}
  {unmarshal : Unmarshal} {fuel : Nat} {tail : Option Tail} {path : String} {off : Int}

theorem MildCall.undecided (h : MildCall c) : Undecided c := by
  cases c with
  | write cmd => cases cmd <;> trivial
  | signalGroup => cases h
  | _ => trivial

variable {a : RunAnswer c}

theorem justified_undecided (h : Undecided c) : Justified t (saw id c a) := by
  cases c with
  | write cmd => cases cmd <;> trivial
  | signalGroup => cases h
  | _ => trivial

variable {p : RunProg α}

theorem undecided_mild (hp : Asks MildCall p) : Asks Undecided p :=
  asks_mono (fun _ => MildCall.undecided) hp

theorem undecided_refuseTail (reason : String) : Asks Undecided (refuseTail r reason tail) :=
  asks_bind (undecided_mild (mild_markFailure r reason)) fun _ => asks_pure

theorem undecided_placeTail : Asks Undecided (placeTail tail off) := by
  unfold placeTail
  repeat' first
    | split
    | exact asks_pure
    | refine asks_then trivial fun _ => ?_

theorem undecided_start : Asks Undecided (startTailing tail path off) := by
  unfold startTailing openTail
  repeat' first
    | split
    | exact asks_pure
    | exact undecided_refuseTail _
    | exact undecided_placeTail
    | refine asks_then trivial fun _ => ?_

theorem undecided_retryLater (tl : Tail) : Asks Undecided (retryLater tl) := by
  unfold retryLater retryTranscriptLine
  refine asks_bind (asks_then trivial fun rewound => ?_) fun _ => asks_pure
  cases rewound <;> exact asks_pure

theorem undecided_requireCleanup : Asks Undecided (requireCleanup r) := by
  unfold requireCleanup
  repeat' first
    | split
    | exact asks_pure
    | exact asks_call trivial

theorem undecided_accountLine (tl : Tail) (line : List UInt8) (status : ReadEnd)
    (lineOffset : Int) : Asks Undecided (accountLine unmarshal tl line status lineOffset) := by
  unfold accountLine accountCorruption write
  repeat' first
    | split
    | exact asks_pure
    | exact undecided_retryLater _
    | refine asks_bind undecided_requireCleanup fun _ => ?_
    | refine asks_then trivial fun _ => ?_

theorem undecided_tailRound (tl : Tail) : Asks Undecided (tailRound unmarshal tl) := by
  refine asks_then trivial fun read => ?_
  obtain ⟨_, _⟩ := read
  dsimp only [handleLine]
  split
  · split <;> exact asks_pure
  · refine asks_bind (undecided_mild (mild_lineComplete ..)) fun complete => ?_
    split
    · exact undecided_accountLine ..
    · exact undecided_retryLater _

theorem undecided_followTail (tl : Tail) : Asks Undecided (followTail unmarshal fuel path tl) := by
  refine asks_then trivial fun found => ?_
  split
  · exact asks_pure
  · split
    · exact asks_pure
    · refine asks_then trivial fun pathInfo => ?_
      refine asks_then trivial fun tailInfo => ?_
      refine asks_then trivial fun prog => ?_
      split
      · exact undecided_refuseTail _
      · exact asks_bind (asks_loop undecided_tailRound fuel tl) fun _ => asks_pure

theorem undecided_tail : Asks Undecided (tailTranscript unmarshal fuel path tail) := by
  unfold tailTranscript
  split
  · exact undecided_followTail _
  · refine asks_bind undecided_start fun tail' => ?_
    split
    · exact asks_pure
    · exact undecided_followTail _

theorem undecided_bindTail {runID : String} {want : FileInfo} :
    Asks Undecided (bindTranscriptTail runID tail path off want) := by
  unfold bindTranscriptTail moveBoundTail openBoundTail
  repeat' first
    | split
    | exact asks_pure
    | refine asks_then trivial fun _ => ?_

theorem undecided_adoptRun {target : State} {reason : String} :
    Asks Undecided (adoptRun r tail target reason) := by
  unfold adoptRun write
  repeat' first
    | split
    | exact asks_pure
    | refine asks_bind undecided_start fun _ => ?_
    | refine asks_then trivial fun _ => ?_

/-! ### Gathering evidence -/

/-- The setting in which every question must be justified. -/
abbrev judged : Setting Question QuestionAnswer (List Told) := traces (Always Justified)

abbrev judgedRun (id : String) : Setting RunCall RunAnswer (List Told) :=
  judged.at (Question.about id)

variable {P : List Told → Prop}

theorem stable_run : Stable (judgedRun id).toEnvironment P := by
  rintro t _ rfl h
  exact h

theorem stable_judged : Stable judged.toEnvironment P := by
  rintro t _ rfl h
  exact h

theorem triple_done {a : α} {R : α → List Told → Prop}
    (h : ∀ t, P t → R a t) : Triple (judgedRun id) P (pure a) R :=
  triple_pure stable_run h

theorem triple_kept {a : α} : Preserves (judgedRun id) P (pure a) :=
  triple_done fun _ h => h

theorem always_undecided (h : Always Justified t) (hc : Undecided c) :
    Always Justified (t ++ [saw id c a]) :=
  always_snoc.mpr ⟨h, justified_undecided hc⟩

/-- A program that decides nothing keeps what every such call keeps. -/
theorem triple_overlook (hjudged : ∀ t, P t → Always Justified t)
    (hskip : ∀ t c (a : RunAnswer c), Undecided c → P t → P (t ++ [saw id c a]))
    (hp : Asks Undecided p) : Preserves (judgedRun id) P p := by
  refine triple_asks (S := judgedRun id) stable_run ?_ hp
  rintro t c a _ hc hP rfl
  have hnext := hskip t c a hc hP
  exact ⟨hjudged _ hnext, hnext⟩

/-- Records of what was seen of a run since some listing. -/
structure Trail (id : String) (P : List Told → List Told → Prop) : Prop where
  judged {seen t : List Told} : P seen t → Always Justified t
  ask {seen t : List Told} {c : RunCall} {a : RunAnswer c} : P seen t → Undecided c →
    P (seen ++ [saw id c a]) (t ++ [saw id c a])
  drop {seen t : List Told} : P seen t → P [] t

section Trail

variable {P : List Told → List Told → Prop}

/-- One call that decides nothing goes on record. -/
theorem Trail.observe (hP : Trail id P) (hc : Undecided c) :
    Triple (judgedRun id) (P seen) (call c) fun a => P (seen ++ [saw id c a]) := by
  refine triple_call (S := judgedRun id) stable_run (fun _ => stable_run) ?_
  rintro t a _ h rfl
  have hnext : P (seen ++ [saw id c a]) (t ++ [saw id c a]) := hP.ask h hc
  exact ⟨hP.judged hnext, hnext⟩

/-- A program that decides nothing may go unrecorded, and the record starts afresh. -/
theorem Trail.pass {p : RunProg α} (hP : Trail id P) (hp : Asks Undecided p) :
    Triple (judgedRun id) (P seen) p fun _ => P [] := by
  refine triple_pre (triple_overlook (fun _ => hP.judged) ?_ hp) (fun _ => hP.drop)
  intro t c a hc h
  exact hP.drop (hP.ask h hc)

theorem Trail.done {a : α} (hP : Trail id P) :
    Triple (judgedRun id) (P seen) (pure a) fun _ => P [] :=
  triple_done fun _ => hP.drop

end Trail

/-- A judged history, and what was seen since the runs were listed. -/
def Gathered (runs : List Run) (seen t : List Told) : Prop :=
  Always Justified t ∧ SinceListing runs seen t

/-- A judged history that ends with what was seen of a row. -/
def Pending (rows : List OutboxRow) (seen t : List Told) : Prop :=
  Always Justified t ∧ SincePending rows seen t

variable {runs : List Run} {rows : List OutboxRow}

theorem SinceListing.ask (h : SinceListing runs seen t) :
    SinceListing runs (seen ++ [saw id c a]) (t ++ [saw id c a]) := by
  obtain ⟨earlier, later, rfl, hlater, hseen⟩ := h
  exact ⟨earlier, later ++ [saw id c a], by simp,
    forall_mem_append.mpr ⟨hlater, forall_mem_singleton.mpr fun h => nomatch h⟩,
    hseen.append (.refl _)⟩

theorem SinceListing.sublist {seen' : List Told} (h : SinceListing runs seen t)
    (hsub : seen'.Sublist seen) : SinceListing runs seen' t := by
  obtain ⟨earlier, later, ht, hlater, hseen⟩ := h
  exact ⟨earlier, later, ht, hlater, hsub.trans hseen⟩

theorem Gathered.drop (h : Gathered runs seen t) : Gathered runs [] t :=
  ⟨h.1, h.2.sublist (nil_sublist _)⟩

theorem trail_gathered : Trail id (Gathered runs) where
  judged h := h.1
  ask h hc := ⟨always_undecided h.1 hc, h.2.ask⟩
  drop := Gathered.drop

theorem SincePending.ask (h : SincePending rows seen t) :
    SincePending rows (seen ++ [saw id c a]) (t ++ [saw id c a]) := by
  obtain ⟨earlier, later, rfl, hlater⟩ := h
  refine ⟨earlier, later, by simp, ?_⟩
  rw [← append_assoc]
  exact forall_mem_append.mpr ⟨hlater, forall_mem_singleton.mpr fun h => nomatch h⟩

theorem Pending.drop (h : Pending rows seen t) : Pending rows [] t := by
  obtain ⟨hjudged, earlier, later, ht, hlater⟩ := h
  exact ⟨hjudged, earlier, later ++ seen, by simpa using ht, by simpa using hlater⟩

theorem trail_pending : Trail id (Pending rows) where
  judged h := h.1
  ask h hc := ⟨always_undecided h.1 hc, h.2.ask⟩
  drop := Pending.drop

theorem Gathered.skip (h : Gathered runs seen t) (hc : Undecided c) :
    Gathered runs seen (t ++ [saw id c a]) :=
  ⟨always_undecided h.1 hc, h.2.ask.sublist (sublist_append_left _ _)⟩

theorem Gathered.before {more : List Told} (h : Gathered runs (seen ++ more) t) :
    Gathered runs seen t :=
  ⟨h.1, h.2.sublist (sublist_append_left _ _)⟩

theorem triple_gather (hp : Asks Undecided p) : Preserves (judgedRun id) (Gathered runs seen) p :=
  triple_overlook (fun _ h => h.1) (fun _ _ _ hc h => h.skip hc) hp

end Ananke.Lifecycle
