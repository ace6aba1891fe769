import Ananke.Grill.Selection
import Ananke.Machine.Run
import Ananke.Relational.Statement

/-! The append-only records of the grill, and the operations on them. Each operation is one
immediate transaction. -/
namespace Ananke.Grill

open Machine Relational Validation

structure GrillEvaluationRequest where
  input : GrillInput
  (inputHash ruleVersion : String)

/-- The columns that only a question fills. -/
structure QuestionColumns where
  questionSequence : Int
  (ruleClass risk : String)
  (blocking waivable : Bool)
  (default remedialStep : String)

inductive RecordSchema
  | question | default | answer | override
deriving DecidableEq

/-- The columns of a record, by its schema version. -/
inductive RecordBody
  | question (columns : QuestionColumns)
  | default (value : String)
  | answer (value : String)
  | override (value : String)

def RecordBody.schema : RecordBody → RecordSchema
  | .question _ => .question
  | .default _ => .default
  | .answer _ => .answer
  | .override _ => .override

structure GrillRecord where
  identity : GrillRevisionIdentity
  ruleVersion : String
  recordSequence : Int
  questionID : String
  body : RecordBody
  writtenBy : String

structure EvaluationRow where
  identity : GrillRevisionIdentity
  (ruleVersion inputHash inputJSON : String)

/-- The revisions of the proposals, and the tables of the grill. -/
structure DB where
  revisions : List GrillRevisionIdentity
  evaluations : List EvaluationRow
  records : List GrillRecord

def deterministicGrillWriter : String := "deterministic_grill"

def GrillRecord.question? (r : GrillRecord) : Option QuestionColumns :=
  match r.body with
  | .question columns => some columns
  | _ => none

def questionsOf (rows : List GrillRecord) : List QuestionColumns :=
  rows.filterMap GrillRecord.question?

def DB.rows (db : DB) (ident : GrillRevisionIdentity) : List GrillRecord :=
  rowsOf GrillRecord.identity ident db.records

/-- The number of the questions, the classes that were asked, and the classes of the questions
that an override names. -/
def loadGrillHistory (db : DB) (ident : GrillRevisionIdentity) : Int × List String × List String :=
  let rows := db.rows ident
  let cur := rows.filter (·.ruleVersion = grillRuleVersion)
  let asked := (questionsOf cur).insertionSort fun q q' => q.questionSequence ≤ q'.questionSequence
  let overrides := (cur.filter (·.body.schema = .override)).insertionSort
    fun r r' => r.recordSequence ≤ r'.recordSequence
  ((questionsOf rows).length, asked.map QuestionColumns.ruleClass, overrides.flatMap fun r =>
      (questionsOf (cur.filter (·.questionID = r.questionID))).map QuestionColumns.ruleClass)

/-- The constraints of `grill_records`. -/
def RecordFits (records : List GrillRecord) (r : GrillRecord) : Prop :=
  0 < r.identity.revision ∧ 0 < r.recordSequence ∧ (∀ q ∈ r.question?, 0 < q.questionSequence) ∧
    ∀ r' ∈ records, r'.identity = r.identity → r'.recordSequence ≠ r.recordSequence ∧
      (∀ q ∈ r.question?, ∀ q' ∈ r'.question?, q'.questionSequence ≠ q.questionSequence) ∧
      ¬ (r'.ruleVersion = r.ruleVersion ∧ r'.body.schema = r.body.schema ∧
        r'.questionID = r.questionID)

instance (records : List GrillRecord) (r : GrillRecord) : Decidable (RecordFits records r) := by
  unfold RecordFits
  infer_instance

def insertRecord (e : GrillError) (db : DB) (r : GrillRecord) : Except GrillError DB := do
  require e (RecordFits db.records r)
  pure { db with records := db.records ++ [r] }

/-- `MAX(record_sequence)`, and one more. -/
def nextRecordSequence (rows : List GrillRecord) : Int :=
  ((rows.map GrillRecord.recordSequence).max?).getD 0 + 1

/-- `INSERT OR IGNORE`, and whether a row was inserted. -/
def insertGrillEvaluation (db : DB) (row : EvaluationRow) : DB × Bool :=
  if row.identity.revision ≤ 0 ∨ ∃ r ∈ db.evaluations, r.identity = row.identity ∧
      r.ruleVersion = row.ruleVersion ∧ r.inputHash = row.inputHash then (db, false)
  else ({ db with evaluations := db.evaluations ++ [row] }, true)

def questionRecord (ident : GrillRevisionIdentity) (ruleVersion : String)
    (recordSequence questionSequence : Int) (rule : GrillRule) : GrillRecord where
  identity := ident
  ruleVersion := ruleVersion
  recordSequence := recordSequence
  questionID := grillQuestionID rule.ruleClass
  body := .question ⟨questionSequence, rule.ruleClass, rule.risk, rule.blocking, rule.waivable,
    rule.default, rule.remedialStep⟩
  writtenBy := deterministicGrillWriter

def insertGrillQuestion (db : DB) (ident : GrillRevisionIdentity) (ruleVersion : String)
    (priorQuestionCount : Int) (rule : GrillRule) : Except GrillError DB :=
  insertRecord .insertQuestion db (questionRecord ident ruleVersion
    (nextRecordSequence (db.rows ident)) (priorQuestionCount + 1) rule)

/-- The rule of a question, found again by the name of the question. -/
def ruleOfQuestion (questionID : String) : GrillRule :=
  (grillRuleByClass ((grillRuleClass questionID).getD "")).getD ⟨0, "", "", false, false, "", ""⟩

def insertQuestions (ident : GrillRevisionIdentity) (ruleVersion : String) :
    List String → Int → DB → Except GrillError DB
  | [], _, db => .ok db
  | questionID :: questionIDs, priorQuestionCount, db => do
    let db ← insertGrillQuestion db ident ruleVersion priorQuestionCount (ruleOfQuestion questionID)
    insertQuestions ident ruleVersion questionIDs (priorQuestionCount + 1) db

variable (p : Encoding)

variable (db : DB)

/-- All that an evaluation does before it commits. -/
def stageEvaluation (req : GrillEvaluationRequest) : Except GrillError (DB × GrillEvaluation) := do
  validateGrillInput p req.input
  require .ruleVersion (req.ruleVersion = grillRuleVersion)
  let computedHash ← hashGrillInput p req.input
  let ident := req.input.identity
  require .revisionMismatch (ident ∈ db.revisions)
  require .inputHashMismatch (req.inputHash = computedHash)
  let history := loadGrillHistory db ident
  let res ← evaluateGrillPure p req.input history.2.1 history.1 history.2.2
  let canonicalInput ← expect .canonicalInput (p.canonicalInput req.input)
  let inserted := insertGrillEvaluation db ⟨ident, req.ruleVersion, computedHash, canonicalInput⟩
  let db' ← insertQuestions ident req.ruleVersion res.newQuestionIDs history.1 inserted.1
  pure (db', { res with
    inputHash := computedHash
    newRecords := (if inserted.2 then 1 else 0) + res.newQuestionIDs.length })

/-- A transaction takes effect if it is staged and committed. -/
def commitStaged {α : Type} (db : DB) (staged : Except GrillError (DB × α)) (commits : Bool) :
    DB × Except GrillError α :=
  match staged with
  | .error e => (db, .error e)
  | .ok (db', res) => if commits then (db', .ok res) else (db, .error .commit)

def evaluateGrill (req : GrillEvaluationRequest) (commits : Bool) :
    DB × Except GrillError GrillEvaluation :=
  commitStaged db (stageEvaluation p db req) commits

/-- What an operator records about a question; the default is that of the rule. -/
inductive OperatorAction
  | default | answer | override
deriving DecidableEq

def OperatorAction.body (defaultValue : String) : OperatorAction → RecordBody
  | .default => .default defaultValue
  | .answer => .answer "acknowledged"
  | .override => .override "waived"

def OperatorAction.writer : OperatorAction → String
  | .default => deterministicGrillWriter
  | _ => Launch.localGUIOperator

def stageAction (ident : GrillRevisionIdentity) (questionID : String)
    (action : OperatorAction) : Except GrillError (DB × Bool) := do
  require .revisionMismatch (ident ∈ db.revisions)
  let record ← expect .questionNotFound ((db.rows ident).find? fun r =>
    r.body.schema = .question && r.questionID = questionID)
  let question ← expect .questionNotFound record.question?
  require (.overrideNotPermitted none) (action = .override → question.waivable = true)
  let body := action.body question.default
  if (db.rows ident).any fun r => r.ruleVersion = record.ruleVersion &&
      r.body.schema = body.schema && r.questionID = questionID then pure (db, false)
  else do
    let db' ← insertRecord .insertReviewRecord db ⟨ident, record.ruleVersion,
      nextRecordSequence (db.rows ident), questionID, body, action.writer⟩
    pure (db', true)

def recordGrillOperatorAction (ident : GrillRevisionIdentity) (questionID : String)
    (action : OperatorAction) (commits : Bool) : DB × Except GrillError Bool :=
  commitStaged db (stageAction db ident questionID action) commits

/-- The operations of the grill, and a new revision of some proposal. -/
inductive Operation
  | revise (identity : GrillRevisionIdentity)
  | evaluate (request : GrillEvaluationRequest) (commits : Bool)
  | record (identity : GrillRevisionIdentity) (questionID : String) (action : OperatorAction)
      (commits : Bool)

inductive Reply
  | revised
  | evaluated (result : Except GrillError GrillEvaluation)
  | recorded (result : Except GrillError Bool)

def exec : Operation → DB × Reply
  | .revise ident => ({ db with revisions := db.revisions ++ [ident] }, .revised)
  | .evaluate req commits => (evaluateGrill p db req commits).map id .evaluated
  | .record ident questionID action commits =>
    (recordGrillOperatorAction db ident questionID action commits).map id .recorded

def DB.empty : DB := ⟨[], [], []⟩

end Ananke.Grill
