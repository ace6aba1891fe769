import Ananke.Launch.Record
import Mathlib.Data.List.Sort

/-! The rules of the grill: which questions a declaration raises, and which of them are shown
in one evaluation. -/
namespace Ananke.Grill

open Text Validation

/-- The declarations only; no clock is read. -/
structure GrillAutonomy where
  deadline : Option String
  attemptCap : Option Int

structure GrillDeclarations where
  (observableOutcome scopeCompatibility acceptanceEvidence destructiveExternal localAuthorization
    adapterMode worktreeIsolation : String)
  autonomy : GrillAutonomy

structure GrillRevisionIdentity where
  proposalID : String
  revision : Int
  revisionHash : String
deriving DecidableEq

structure GrillInput where
  (schemaVersion proposalID : String)
  revision : Int
  revisionHash : String
  declarations : GrillDeclarations

def GrillInput.identity (input : GrillInput) : GrillRevisionIdentity :=
  ⟨input.proposalID, input.revision, input.revisionHash⟩

inductive GrillError
  | invalidInput (msg : String)
  | revisionMismatch | inputHashMismatch | ruleVersion | questionNotFound
  | overrideNotPermitted (ruleClass : Option String)
  | canonicalInput | insertQuestion | insertReviewRecord | commit

/-- What the grill rests on. -/
structure Encoding where
  /-- The canonical JSON of an input, if its texts can be encoded. -/
  canonicalInput : GrillInput → Option String
  sha256Digest : String → String
  /-- `time.Parse(time.RFC3339Nano, s)` succeeds. -/
  parsesTime : String → Bool

def grillInputSchemaVersion : String := "ananke.grill.input.v1"

def grillRuleVersion : String := "ananke.grill.rules.v1"

/-- Of this shape, where each zero stands for a digit. -/
def shaped (template cs : List Char) : Bool :=
  template.length = cs.length &&
    (template.zip cs).all fun (t, c) => if t = '0' then isDigit c else c = t

/-- `^\d{4}-\d{2}-\d{2}T\d{2}:\d{2}:\d{2}(?:\.\d{1,9})?Z$` -/
def grillTimestampPattern (s : String) : Bool :=
  shaped "0000-00-00T00:00:00".toList (s.toList.take 19) &&
    match s.toList.drop 19 with
    | ['Z'] => true
    | '.' :: rest =>
      rest.getLast? = some 'Z' && 1 ≤ rest.dropLast.length && rest.dropLast.length ≤ 9 &&
        rest.dropLast.all isDigit
    | _ => false

/-- A declaration is one of the values that are allowed for it. -/
def oneOf (v : String) (allowed : List String) (msg : String) : Except GrillError Unit :=
  require (.invalidInput msg) (v ∈ allowed)

variable (p : Encoding)

variable (input : GrillInput)

def validateGrillInput : Except GrillError Unit := do
  let d := input.declarations
  require (.invalidInput "schema_version must be \"ananke.grill.input.v1\"")
    (input.schemaVersion = grillInputSchemaVersion)
  (Launch.validateIdentifier input.proposalID "proposal id").mapError .invalidInput
  require (.invalidInput "revision must be positive") (0 < input.revision)
  require (.invalidInput "revision_hash must be a SHA-256 hash")
    (protocolHashPattern input.revisionHash = true)
  oneOf d.observableOutcome ["absent", "declared"] "observable_outcome must be absent or declared"
  oneOf d.scopeCompatibility ["absent", "declared"] "scope_compatibility must be absent or declared"
  oneOf d.acceptanceEvidence ["absent", "declared"] "acceptance_evidence must be absent or declared"
  oneOf d.destructiveExternal ["none", "declared"] "destructive_external must be none or declared"
  oneOf d.localAuthorization ["not_required", "recorded", "unrecorded"]
    "local_authorization must be not_required, recorded, or unrecorded"
  oneOf d.adapterMode ["none", "read_only"] "adapter_mode must be none or read_only"
  oneOf d.worktreeIsolation ["not_applicable", "isolated", "not_isolated"]
    "worktree_isolation must be not_applicable, isolated, or not_isolated"
  require (.invalidInput "worktree_isolation must be not_applicable without an adapter")
    (d.adapterMode = "none" → d.worktreeIsolation = "not_applicable")
  require (.invalidInput
      "local_authorization must be not_required without destructive or external work")
    (d.destructiveExternal = "none" → d.localAuthorization = "not_required")
  require (.invalidInput "deadline must be a semantic UTC RFC 3339 timestamp")
    (∀ deadline ∈ d.autonomy.deadline,
      grillTimestampPattern deadline = true ∧ p.parsesTime deadline = true)
  require (.invalidInput "attempt_cap must be 1 through 100")
    (∀ cap ∈ d.autonomy.attemptCap, 1 ≤ cap ∧ cap ≤ 100)

/-- `HashGrillInput` -/
def hashGrillInput : Except GrillError String := do
  validateGrillInput p input
  let canonical ← expect .canonicalInput (p.canonicalInput input)
  pure (p.sha256Digest canonical)

structure GrillRule where
  priority : Nat
  (ruleClass risk : String)
  (blocking waivable : Bool)
  (default remedialStep : String)
deriving DecidableEq

def grillRules : List GrillRule :=
  [⟨10, "observable_outcome", "high", true, false, "needs_rewrite", "declare_observable_outcome"⟩,
    ⟨20, "scope_compatibility", "medium", true, true, "needs_rewrite",
      "declare_scope_compatibility"⟩,
    ⟨30, "acceptance_evidence", "high", true, false, "needs_rewrite",
      "declare_acceptance_evidence"⟩,
    ⟨40, "destructive_external_authorization", "critical", true, false, "deny",
      "record_local_authorization"⟩,
    ⟨50, "adapter_worktree_isolation", "high", true, false, "needs_rewrite",
      "require_isolated_worktree"⟩,
    ⟨60, "autonomy_budget", "high", true, false, "needs_rewrite", "set_deadline_attempt_cap"⟩]

variable (ruleClass : String)

def grillQuestionID : String := "grill_question_" ++ ruleClass

def grillRuleByClass : Option GrillRule :=
  grillRules.find? (·.ruleClass = ruleClass)

/-- The class of a rule, by its name or by the name of its question. -/
def grillRuleClass (v : String) : Option String :=
  (grillRules.find? fun rule => v = rule.ruleClass || v = grillQuestionID rule.ruleClass).map
    GrillRule.ruleClass

def grillRuleTriggered : Bool :=
  let d := input.declarations
  if ruleClass = "observable_outcome" then d.observableOutcome ≠ "declared"
  else if ruleClass = "scope_compatibility" then d.scopeCompatibility ≠ "declared"
  else if ruleClass = "acceptance_evidence" then d.acceptanceEvidence ≠ "declared"
  else if ruleClass = "destructive_external_authorization" then
    d.destructiveExternal = "declared" && d.localAuthorization ≠ "recorded"
  else if ruleClass = "adapter_worktree_isolation" then
    d.adapterMode ≠ "none" && d.worktreeIsolation ≠ "isolated"
  else if ruleClass = "autonomy_budget" then
    d.autonomy.deadline.isNone || d.autonomy.attemptCap.isNone
  else false

inductive GrillStatus
  | clear | blocked | needsRewrite

structure GrillEvaluation where
  identity : GrillRevisionIdentity
  (ruleVersion inputHash : String)
  (newQuestionIDs shownQuestionIDs deferredRuleClasses : List String)
  status : GrillStatus
  newRecords : Nat

def minGrill (first : Int) (rest : List Int) : Int :=
  let minimum := rest.foldl (fun minimum v => if v < minimum then v else minimum) first
  if minimum < 0 then 0 else minimum

/-- The rules that the input triggers and that are not waived. -/
def activeRules (input : GrillInput) (waived : List String) : List GrillRule :=
  grillRules.filter fun rule =>
    grillRuleTriggered input rule.ruleClass && !waived.contains rule.ruleClass

section Selection

variable (active : List GrillRule) (old : List String) (priorQuestionCount : Int)

def alreadyShown : List GrillRule := active.filter fun rule => old.contains rule.ruleClass

def available : List GrillRule := active.filter fun rule => !old.contains rule.ruleClass

def newLimit : Int :=
  minGrill 5 [10 - priorQuestionCount, 5 - (alreadyShown active old).length,
    (available active old).length]

def newRules : List GrillRule :=
  (available active old).take (newLimit active old priorQuestionCount).toNat

def shownRules : List GrillRule :=
  (alreadyShown active old ++ newRules active old priorQuestionCount).insertionSort
    fun left right => left.priority ≤ right.priority

def deferredRules : List GrillRule :=
  active.filter fun rule => !((shownRules active old priorQuestionCount).map
    GrillRule.ruleClass).contains rule.ruleClass

end Selection

/-- The part of the evaluation that follows the checks, for a revision with less than ten
questions. -/
def boundedEvaluation (input : GrillInput) (old : List String) (priorQuestionCount : Int)
    (waived : List String) : GrillEvaluation :=
  let active := activeRules input waived
  { identity := input.identity
    ruleVersion := grillRuleVersion
    inputHash := ""
    newQuestionIDs :=
      (newRules active old priorQuestionCount).map (grillQuestionID ·.ruleClass)
    shownQuestionIDs :=
      (shownRules active old priorQuestionCount).map (grillQuestionID ·.ruleClass)
    deferredRuleClasses := (deferredRules active old priorQuestionCount).map GrillRule.ruleClass
    status := if active.isEmpty then .clear else .blocked
    newRecords := 0 }

def evaluateGrillPure (input : GrillInput) (existingQuestionIDs : List String)
    (priorQuestionCount : Int) (waivedRuleClasses : List String) :
    Except GrillError GrillEvaluation := do
  validateGrillInput p input
  require (.invalidInput "prior question count must be nonnegative") (0 ≤ priorQuestionCount)
  let old ← collect (fun v => expect (.invalidInput
    ("unknown existing Grill rule \"" ++ v ++ "\"")) (grillRuleClass v)) existingQuestionIDs
  each (fun ruleClass => require (.overrideNotPermitted (some ruleClass))
    ((grillRuleByClass ruleClass).any GrillRule.waivable = true)) waivedRuleClasses
  pure (if 10 ≤ priorQuestionCount then
      ⟨input.identity, grillRuleVersion, "", [], [], [], .needsRewrite, 0⟩
    else boundedEvaluation input old priorQuestionCount waivedRuleClasses)

end Ananke.Grill
