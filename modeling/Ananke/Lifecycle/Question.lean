import Ananke.Interaction.Prog
import Ananke.Lifecycle.Identity
import Ananke.Text.Lines

/-! What the daemon asks of its store, of the file system, of the processes and of the
supervisors. Its locks order its own work, so between two questions only others act. -/
namespace Ananke.Lifecycle

open Store Interaction Text

def newline : UInt8 := 10

/-- A supervisor's reply to a command. -/
structure SupCmdResponse where
  ok : Bool
  error : String := ""
  state : State := .other ""
  runID : String := ""
  supervisorPID : Int := 0
  workerPID : Int := 0
  pgid : Int := 0
  transcriptDevice : Int := 0
  transcriptInode : Int := 0

/-- The store operations the daemon's recovery work performs on a run. -/
inductive Write
  | transition (target : State) (reason : String)
  | commitTerminal (target : State) (reason : String) (outbox : OutboxRow)
  | sealTranscript (finalSize : Int)
  | appendEvent (type : String) (payload : List UInt8) (transcriptOffset : Int)
  | advanceTranscriptConsumed (offset : Int)
  /-- `AdvanceTranscriptConsumed` past a malformed line. -/
  | accountMalformed (offset : Int)
  | acknowledgeOutbox
  | abandonOutbox (diagnostic : String)

/-- The operation behind a write, on the given run. -/
def Write.op (id now : String) : Write → Op
  | .transition target reason => .transition id target reason now
  | .commitTerminal target reason outbox => .commitTerminal id target reason now outbox
  | .sealTranscript finalSize => .sealTranscript id finalSize now
  | .appendEvent type payload offset => .appendEvent id type payload offset now
  | .advanceTranscriptConsumed offset => .advanceTranscriptConsumed id offset now
  | .accountMalformed offset => .advanceTranscriptConsumed id offset now
  | .acknowledgeOutbox => .acknowledgeOutbox id now
  | .abandonOutbox diagnostic => .abandonOutbox id diagnostic now

/-- The questions about one run. -/
inductive RunCall
  | write (cmd : Write)
  | getRun
  | getTranscriptProgress
  | getOutbox
  | readIdentity (path : String)
  | localSupervisorStatus (pid : Int)
  | localSupervisorRunning
  | processAlive (pid : Int)
  | groupMembers (pgid : Int)
  /-- `SignalGroup`, which comes with the rest of the backend. -/
  | signalGroup (pgid signal : Int)
  | sendSupervisorCmd (socketPath token cmd : String)
  /-- Whether `cleanupRequested` holds the run already. -/
  | cleanupRequested
  /-- Starts the delivery of a cancel command in the background. -/
  | deliverCancel (socketPath token : String)
  | closing
  | openTranscript (path : String)
  /-- `Stat` of the file just opened. -/
  | statOpened
  /-- `Stat` of the tail's file. -/
  | statTail
  | statPath (path : String)
  /-- `Seek` that places a tail. -/
  | seek (offset : Int)
  /-- `Seek` back to the start of a line that could not be accounted. -/
  | rewind (offset : Int)
  /-- `ReadBytes` of the tail's reader, which stands at `pos`. -/
  | readLine (pos : Nat)

/-- What each call returns; an `Option Err` is a Go error, `none` being nil, and the local
status is whether the supervisor is tracked and whether it has exited. -/
@[reducible] def RunAnswer : RunCall → Type
  | .write _ => Option Err
  | .getRun => Except Err Run
  | .getTranscriptProgress => Except Err TranscriptProgress
  | .getOutbox => Except Err OutboxRow
  | .readIdentity _ => Except Err Identity
  | .localSupervisorStatus _ => Bool × Bool
  | .localSupervisorRunning => Bool
  | .processAlive _ => Bool
  | .groupMembers _ => Except Err (List Int)
  | .signalGroup _ _ => Option Err
  | .sendSupervisorCmd _ _ _ => Except Err SupCmdResponse
  | .cleanupRequested => Bool
  | .deliverCancel _ _ => Unit
  | .closing => Bool
  | .openTranscript _ => Option Err
  | .statOpened => Except Err FileInfo
  | .statTail => Except Err FileInfo
  | .statPath _ => Except Err FileInfo
  | .seek _ => Option Err
  | .rewind _ => Option Err
  | .readLine _ => List UInt8 × ReadEnd

/-- The daemon's work on one run. -/
abbrev RunProg := Prog RunCall RunAnswer

def call (q : RunCall) : RunProg (RunAnswer q) := Prog.call q

def write (cmd : Write) : RunProg (Option Err) := call (.write cmd)

/-- All questions of the daemon. -/
inductive Question
  | about (id : String) (c : RunCall)
  | listActiveRuns
  | listPendingOutbox
  /-- The runs whose locally launched supervisor was seen to exit. -/
  | exitedSupervisors
  /-- Waits for the ticker; false once the context is done. -/
  | nextTick

@[reducible] def QuestionAnswer : Question → Type
  | .about _ c => RunAnswer c
  | .listActiveRuns => Except Err (List Run)
  | .listPendingOutbox => Except Err (List OutboxRow)
  | .exitedSupervisors => List String
  | .nextTick => Bool

abbrev Daemon := Prog Question QuestionAnswer

def ask (q : Question) : Daemon (QuestionAnswer q) := Prog.call q

def onRun {α : Type} (id : String) (p : RunProg α) : Daemon α :=
  Prog.lift (Question.about id) p

/-- The in-memory tail of a transcript: the lines before `offset` are handled, and the
buffered reader goes on at `pos`. -/
structure Tail where
  offset : Int
  pos : Nat

def Tail.at (off : Int) : Tail := ⟨off, off.toNat⟩

end Ananke.Lifecycle
