import Mathlib.Data.List.Basic

/-! The cleanup state machine of a run. -/
namespace Ananke.Store

/-- A run's lifecycle state. The source's type is a string, so a caller may pass a text
that is none of the eight constants; `other` stands for those. -/
inductive State
  | created
  | running
  | cancelling
  | cleanupRequired
  | recoveryUnknown
  | completed
  | failed
  | cancelled
  | other (text : String)
deriving DecidableEq

/-- The text stored in the state column. -/
def State.text : State → String
  | .created => "created"
  | .running => "running"
  | .cancelling => "cancelling"
  | .cleanupRequired => "cleanup_required"
  | .recoveryUnknown => "recovery_unknown"
  | .completed => "completed"
  | .failed => "failed"
  | .cancelled => "cancelled"
  | .other text => text

def isTerminal : State → Bool
  | .completed | .failed | .cancelled => true
  | _ => false

/-- The adjacency table. Terminal states and unknown texts have no outgoing edge. -/
def allowedTransitions : State → List State
  | .created => [.running, .cleanupRequired, .recoveryUnknown]
  | .running =>
    [.cancelling, .cleanupRequired, .recoveryUnknown, .completed, .failed, .cancelled]
  | .cancelling => [.cancelled, .recoveryUnknown, .cleanupRequired, .running]
  | .cleanupRequired => [.failed, .cancelled, .recoveryUnknown]
  | .recoveryUnknown =>
    [.running, .cleanupRequired, .cancelling, .completed, .failed, .cancelled]
  | .completed | .failed | .cancelled | .other _ => []

def canTransition (source target : State) : Bool :=
  source ≠ target && (allowedTransitions source).contains target

variable {source target : State}

theorem canTransition_iff : canTransition source target = true ↔
    source ≠ target ∧ target ∈ allowedTransitions source := by
  simp [canTransition]

theorem terminal_stays (h : isTerminal source = true) : canTransition source target = false := by
  cases source <;> simp_all [isTerminal, canTransition, allowedTransitions]

end Ananke.Store
