import Ananke.Grill.History

/-! Every history of evaluations, answers and overrides. -/
namespace Ananke.Grill

open Machine Relational Validation List

variable {p : Encoding} {db db' : DB} {ident : GrillRevisionIdentity}

theorem active_sublist (input : GrillInput) (waived : List String) :
    (activeRules input waived).Sublist grillRules := filter_sublist

/-- The classes that the input triggers and that no override waives. -/
def ActiveClass (rows : List GrillRecord) (input : GrillInput) (rule : GrillRule) : Prop :=
  grillRuleTriggered input rule.ruleClass = true ∧ ¬ Overridden rows rule.ruleClass

/-- The active rules of an input, as the history has it. -/
def DB.active (db : DB) (input : GrillInput) : List GrillRule :=
  activeRules input (loadGrillHistory db input.identity).2.2

theorem mem_active {input : GrillInput} (h : Orderly (db.rows input.identity)) {rule : GrillRule} :
    rule ∈ db.active input ↔
      rule ∈ grillRules ∧ ActiveClass (db.rows input.identity) input rule := by
  simp [DB.active, activeRules, mem_waived h, ActiveClass]

/-- The questions that the evaluation of an input would add. -/
def DB.fresh (db : DB) (input : GrillInput) : List GrillRule :=
  newRules (db.active input) (loadGrillHistory db input.identity).2.1
    (loadGrillHistory db input.identity).1

theorem rows_evaluation (db : DB) (ident : GrillRevisionIdentity)
    (row : EvaluationRow) : (insertGrillEvaluation db row).1.rows ident = db.rows ident := by
  unfold insertGrillEvaluation
  split <;> rfl

theorem insertGrill_again {row : EvaluationRow}
    (h : db'.evaluations = (insertGrillEvaluation db row).1.evaluations) :
    insertGrillEvaluation db' row = (db', false) := by
  refine if_pos ?_
  rw [h]
  unfold insertGrillEvaluation
  split
  · assumption
  · exact .inr ⟨row, by simp⟩

/-- What is known of an evaluation that is staged. -/
structure Staged (p : Encoding) (db : DB) (request : GrillEvaluationRequest) (db' : DB)
    (result : GrillEvaluation) : Prop where
  valid : validateGrillInput p request.input = .ok ()
  version : request.ruleVersion = grillRuleVersion
  revision : request.input.identity ∈ db.revisions
  hash : hashGrillInput p request.input = .ok request.inputHash
  grown : ∃ canonical, p.canonicalInput request.input = some canonical ∧
    Grown request.input.identity ((db.fresh request.input).map GrillRule.ruleClass)
      (insertGrillEvaluation db ⟨request.input.identity, request.ruleVersion, request.inputHash,
        canonical⟩).1 db'
  result : ∃ newRecords, result =
    { boundedEvaluation request.input (loadGrillHistory db request.input.identity).2.1
        (loadGrillHistory db request.input.identity).1
        (loadGrillHistory db request.input.identity).2.2 with
      inputHash := request.inputHash, newRecords := newRecords }

theorem fresh_spec {input : GrillInput} (h : Orderly (db.rows input.identity)) :
    db.fresh input ⊆ grillRules ∧ (db.fresh input).Nodup ∧
      ∀ rule ∈ db.fresh input, rule.ruleClass ∉ askedClasses (db.rows input.identity) := by
  have hact := active_sublist input (loadGrillHistory db input.identity).2.2
  refine ⟨fun rule hrule => ?_, ?_, fun rule hrule => ?_⟩
  · exact hact.subset (mem_available.mp (newRules_subset hrule)).1
  · exact (nodup_append.mp (nodup_selected hact)).2.1
  · rw [← mem_existing h]
    exact (mem_available.mp (newRules_subset hrule)).2

/-- There are never so many questions that an active class has no room. -/
theorem room {input : GrillInput} (h : Orderly (db.rows input.identity)) :
    (loadGrillHistory db input.identity).1 +
      (available (db.active input) (loadGrillHistory db input.identity).2.1).length ≤ 10 := by
  have hact := active_sublist input (loadGrillHistory db input.identity).2.2
  have hcount : (loadGrillHistory db input.identity).1 =
      (questionsOf (db.rows input.identity)).length := rfl
  have hnodup : (db.active input).Nodup := hact.nodup (by decide)
  have hlen := h.length_le (hnodup.filter _)
    (fun rule hrule => hact.subset (mem_available.mp hrule).1)
    (fun rule hrule => mt (mem_existing h).mpr (mem_available.mp hrule).2)
  rw [← available] at hlen
  omega

variable {res : GrillEvaluation}

theorem staged_of_ok {req : GrillEvaluationRequest} (h : Orderly (db.rows req.input.identity))
    (hok : stageEvaluation p db req = .ok (db', res)) : Staged p db req db' res := by
  simp only [stageEvaluation, ok_iff, exists_const, evaluatePure_eq_ok h, Prod.mk.injEq] at hok
  obtain ⟨⟨⟩, hvalid, hversion, _, hhash, hrev, rfl, _, ⟨-, rfl⟩, canonical, hcanon,
    _, hquestions, rfl, rfl⟩ := hok
  obtain ⟨hrules, hnodup, _⟩ := fresh_spec h
  refine ⟨hvalid, hversion, hrev, hhash, ⟨canonical, hcanon, ?_⟩, _, rfl⟩
  have hrows := rows_evaluation db req.input.identity
    ⟨req.input.identity, req.ruleVersion, req.inputHash, canonical⟩
  refine grown_questions (by rwa [hrows]) hrules hnodup (by rwa [hrows]) ?_
  rw [hrows, ← hversion]
  exact hquestions

/-- A staged evaluation that is staged again changes nothing, and finds the same. -/
theorem stageEvaluation_again {req : GrillEvaluationRequest}
    (h : Orderly (db.rows req.input.identity)) (hstaged : Staged p db req db' res) :
    stageEvaluation p db' req = .ok (db', { res with newQuestionIDs := [], newRecords := 0 }) := by
  obtain ⟨hvalid, hversion, hrev, hhash, ⟨canonical, hcanon, hgrown⟩, _, rfl⟩ :=
    hstaged
  have hrows := rows_evaluation db req.input.identity
    ⟨req.input.identity, req.ruleVersion, req.inputHash, canonical⟩
  have hord := hgrown.orderly
  have hact : db'.active req.input = db.active req.input := by
    unfold DB.active activeRules
    refine filter_congr fun rule _ => ?_
    have hiff := hgrown.overridden rule.ruleClass
    rw [hrows, ← mem_waived hord, ← mem_waived h] at hiff
    simp [hiff]
  have hexist : ∀ rule ∈ db.active req.input,
      rule.ruleClass ∈ (loadGrillHistory db' req.input.identity).2.1 ↔
        rule.ruleClass ∈ (loadGrillHistory db req.input.identity).2.1 ∨
          rule ∈ db.fresh req.input := by
    intro rule hrule
    rw [mem_existing hord, mem_existing h, hgrown.asked, hrows, mem_append]
    refine or_congr Iff.rfl ⟨fun hclass => ?_, fun hfresh => mem_map_of_mem hfresh⟩
    obtain ⟨rule', hrule', heq⟩ := mem_map.mp hclass
    have hsame := ruleClass_injOn rule' ((fresh_spec h).1 hrule') rule
      ((active_sublist _ _).subset hrule) heq
    rwa [← hsame]
  have hagain : newRules _ _ (loadGrillHistory db' req.input.identity).1 = [] ∧ _ :=
    newRules_again (active_sublist _ _) hexist (room h)
  have hshown := shownRules_again hagain
  have hbounded : boundedEvaluation req.input (loadGrillHistory db' req.input.identity).2.1
      (loadGrillHistory db' req.input.identity).1
      (loadGrillHistory db' req.input.identity).2.2 =
      { boundedEvaluation req.input (loadGrillHistory db req.input.identity).2.1
          (loadGrillHistory db req.input.identity).1
          (loadGrillHistory db req.input.identity).2.2 with newQuestionIDs := [] } := by
    unfold DB.active at hact hagain hshown
    simp [boundedEvaluation, deferredRules, hact, hagain.1, hshown]
  have hrevs : req.input.identity ∈ db'.revisions := by
    rw [hgrown.revisions]
    unfold insertGrillEvaluation
    split <;> exact hrev
  have hignored := insertGrill_again hgrown.evaluations
  simp only [stageEvaluation, ok_iff, exists_const, evaluatePure_eq_ok hord, Prod.mk.injEq]
  refine ⟨(), hvalid, hversion, _, hhash, hrevs, rfl, _, ⟨hvalid, rfl⟩, canonical, hcanon,
    db', ?_, rfl, ?_⟩
  · rw [hbounded, hignored, insertQuestions]
  · rw [hbounded, hignored]
    rfl

variable {commits : Bool}

theorem commitStaged_ok {α : Type} {staged : Except GrillError (DB × α)} {a : α}
    (h : commitStaged db staged commits = (db', .ok a)) : staged = .ok (db', a) := by
  unfold commitStaged at h
  split at h
  · cases h
  · split at h
    · cases h
      rfl
    · cases h

theorem commitStaged_preserves {α : Type} {staged : Except GrillError (DB × α)} {I : DB → Prop}
    (h : I db) (hs : ∀ db' a, staged = .ok (db', a) → I db') :
    I (commitStaged db staged commits).1 := by
  unfold commitStaged
  split
  · exact h
  next a =>
    split
    · exact hs _ a rfl
    · exact h

theorem orderly_evaluation {req : GrillEvaluationRequest}
    (h : ∀ i, Orderly (db.rows i)) (hok : stageEvaluation p db req = .ok (db', res))
    (i : GrillRevisionIdentity) : Orderly (db'.rows i) := by
  obtain ⟨_, -, hgrown⟩ := (staged_of_ok (h _) hok).grown
  by_cases hi : i = req.input.identity
  · rw [hi]
    exact hgrown.orderly
  · rw [hgrown.others i hi, rows_evaluation]
    exact h i

theorem orderly_action {questionID : String} {action : OperatorAction} {recorded : Bool}
    (h : ∀ i, Orderly (db.rows i))
    (hok : stageAction db ident questionID action = .ok (db', recorded))
    (i : GrillRevisionIdentity) : Orderly (db'.rows i) := by
  simp only [stageAction, ok_iff, exists_const] at hok
  obtain ⟨-, record, hrec, question, hquest, hwaivable, hok⟩ := hok
  split at hok
  · obtain ⟨rfl, -⟩ := Prod.mk.inj (pure_eq_ok.mp hok)
    exact h i
  simp only [ok_iff, insertRecord_eq_ok, Prod.mk.injEq] at hok
  obtain ⟨_, ⟨-, rfl⟩, rfl, -⟩ := hok
  have hmem := mem_of_find?_eq_some hrec
  have hfound := List.find?_some hrec
  simp only [Bool.and_eq_true, decide_eq_true_eq] at hfound
  obtain ⟨rule, hrule, hclass, hwaivable', hid⟩ := (h ident).asked record hmem question hquest
  by_cases hi : i = ident
  · subst hi
    rw [rows_insert_self db rfl]
    refine (h i).append (nextRecordSequence_eq (h i).records) ((h i).versions record hmem) ?_ ?_
    · intro q hq
      cases action <;> cases hq
    · intro hschema
      have hact : action = .override := by cases action <;> first | rfl | cases hschema
      refine ⟨rule, hrule, hwaivable' ▸ hwaivable hact, by rw [← hid, hfound.2], ?_⟩
      exact mem_askedClasses.mpr ⟨record, hmem, question, hquest, hclass⟩
  · rw [rows_insert_other db (Ne.symm hi)]
    exact h i

theorem orderly_step {x : Operation} (h : ∀ i, Orderly (db.rows i)) (i : GrillRevisionIdentity) :
    Orderly ((exec p db x).1.rows i) := by
  cases x with
  | revise => exact h i
  | evaluate =>
    exact commitStaged_preserves (I := fun db => Orderly (db.rows i)) (h i)
      fun _ _ hok => orderly_evaluation h hok i
  | record =>
    exact commitStaged_preserves (I := fun db => Orderly (db.rows i)) (h i)
      fun _ _ hok => orderly_action h hok i

theorem orderly_run (ops : List Operation) (i : GrillRevisionIdentity) :
    Orderly ((run (exec p) DB.empty ops).rows i) := by
  refine invariant_run (I := fun db : DB => ∀ i, Orderly (db.rows i)) ?_ ?_ i
  · intro db x h i
    exact orderly_step h i
  · intro i
    exact orderly_nil

theorem validateInput_failsWith (input : GrillInput) :
    FailsWith (fun e => ∃ msg, e = .invalidInput msg) (validateGrillInput p input) := by
  have hrequire (msg : String) (c : Prop) [Decidable c] :
      FailsWith (fun e => ∃ msg, e = GrillError.invalidInput msg)
        (require (GrillError.invalidInput msg) c) := failsWith_require ⟨msg, rfl⟩
  unfold validateGrillInput oneOf
  refine (hrequire _ _).bind fun _ _ => ?_
  refine (failsWith_mapError fun msg => ⟨msg, rfl⟩).bind fun _ _ => ?_
  repeat refine (hrequire _ _).bind fun _ _ => ?_
  exact hrequire _ _

theorem questions_failsWith {ident : GrillRevisionIdentity} {ruleVersion : String}
    {questionIDs : List String} {prior : Int} :
    FailsWith (· = .insertQuestion) (insertQuestions ident ruleVersion questionIDs prior db) := by
  induction questionIDs generalizing prior db with
  | nil => exact failsWith_ok db
  | cons questionID questionIDs ih =>
    refine FailsWith.bind ?_ fun _ _ => ih
    unfold insertGrillQuestion insertRecord
    exact FailsWith.bind (failsWith_require rfl) fun _ _ => failsWith_ok _

theorem stageEvaluation_failsWith {req : GrillEvaluationRequest}
    (h : Orderly (db.rows req.input.identity)) :
    FailsWith (fun e => ∀ c, e ≠ .overrideNotPermitted c) (stageEvaluation p db req) := by
  have hinput : FailsWith (fun e => ∀ c, e ≠ GrillError.overrideNotPermitted c)
      (validateGrillInput p req.input) := by
    intro e he c hc
    obtain ⟨_, rfl⟩ := validateInput_failsWith req.input e he
    cases hc
  have hother {e : GrillError} (he : ∀ c, e ≠ GrillError.overrideNotPermitted c) (c : Prop)
      [Decidable c] : FailsWith (fun e => ∀ c, e ≠ GrillError.overrideNotPermitted c)
      (require e c) := failsWith_require he
  unfold stageEvaluation
  refine hinput.bind fun _ hvalid => (hother (by simp) _).bind fun _ _ => FailsWith.bind ?_
    fun _ _ => (hother (by simp) _).bind fun _ _ => (hother (by simp) _).bind fun _ _ => ?_
  · exact hinput.bind fun _ _ => (failsWith_expect (by simp)).bind fun _ _ => failsWith_ok _
  have hpure := (evaluatePure_eq_ok h).mpr ⟨hvalid, rfl⟩
  dsimp only
  rw [hpure, ok_bind]
  refine (failsWith_expect (by simp)).bind fun _ _ => FailsWith.bind ?_ fun _ _ => failsWith_ok _
  intro e he c hc
  cases (questions_failsWith e he).symm.trans hc

namespace Instance

def encoding : Encoding where
  canonicalInput input := some (input.declarations.observableOutcome ++
    if input.declarations.autonomy.deadline.isNone then " unbounded" else " bounded")
  sha256Digest text := text
  parsesTime _ := true

/-- An input that leaves all but the budget undeclared, or nothing but it, or both. -/
def input (vague unbounded : Bool) : GrillInput where
  schemaVersion := grillInputSchemaVersion
  proposalID := "proposal"
  revision := 1
  revisionHash := "sha256:0000000000000000000000000000000000000000000000000000000000000000"
  declarations :=
    { observableOutcome := if vague then "absent" else "declared"
      scopeCompatibility := if vague then "absent" else "declared"
      acceptanceEvidence := if vague then "absent" else "declared"
      destructiveExternal := if vague then "declared" else "none"
      localAuthorization := if vague then "unrecorded" else "not_required"
      adapterMode := if vague then "read_only" else "none"
      worktreeIsolation := if vague then "not_isolated" else "not_applicable"
      autonomy := if unbounded then ⟨none, none⟩ else ⟨some "2026-01-01T00:00:00Z", some 3⟩ }

def req (vague unbounded : Bool) : GrillEvaluationRequest :=
  ⟨input vague unbounded, ((encoding.canonicalInput (input vague unbounded)).getD ""),
    grillRuleVersion⟩

/-- The revision, and the evaluations of an input that is vague and of one that is unbounded. -/
def twice : List Operation :=
  [.revise (input true true).identity, .evaluate (req true false) true,
    .evaluate (req false true) true]

theorem shown_of_toOption {req : GrillEvaluationRequest} {n : Nat}
    (h : ((evaluateGrill p db req commits).2.toOption.map (·.shownQuestionIDs.length)) = some n) :
    ∃ res db', evaluateGrill p db req commits = (db', .ok res) ∧
      res.shownQuestionIDs.length = n := by
  generalize evaluateGrill p db req commits = reply at h ⊢
  obtain ⟨db', outcome⟩ := reply
  cases outcome with
  | error e => cases h
  | ok res => exact ⟨res, db', rfl, Option.some.inj h⟩

end Instance

/-- An evaluation shows at most five questions exactly if not all six were asked before and are
active. -/
theorem shown_le_five_iff {ops : List Operation} {req : GrillEvaluationRequest}
    {commits : Bool} {res : GrillEvaluation}
    (h : evaluateGrill p (run (exec p) DB.empty ops) req commits = (db', .ok res)) :
    res.shownQuestionIDs.length ≤ 5 ↔ ¬ ∀ rule ∈ grillRules,
        ActiveClass ((run (exec p) DB.empty ops).rows req.input.identity) req.input rule ∧
        rule.ruleClass ∈ askedClasses ((run (exec p) DB.empty ops).rows req.input.identity) := by
  have horderly : Orderly ((run (exec p) DB.empty ops).rows req.input.identity) :=
    orderly_run ops _
  obtain ⟨_, rfl⟩ := (staged_of_ok horderly (commitStaged_ok h)).result
  simp only [boundedEvaluation, length_map]
  rw [length_shownRules_le_iff (active_sublist _ _)]
  refine not_congr (forall₂_congr fun rule hrule => ?_)
  rw [mem_existing horderly]
  refine and_congr_left fun _ => ?_
  exact (mem_active horderly).trans ⟨fun h => h.2, fun h => ⟨hrule, h⟩⟩

open Instance in
/-- Five questions were asked of a vague input, and then a sixth is open. -/
theorem shown_le_five_iff_asked : ∃ res db', evaluateGrill encoding
      (run (exec encoding) DB.empty (twice.take 2)) (req true true) true = (db', .ok res) ∧
    askedClasses ((run (exec encoding) DB.empty (twice.take 2)).rows
      (input true true).identity) ≠ [] ∧ res.shownQuestionIDs.length ≤ 5 := by
  have hfive : ((evaluateGrill encoding (run (exec encoding) DB.empty (twice.take 2))
      (req true true) true).2.toOption.map (·.shownQuestionIDs.length)) = some 5 := by decide
  obtain ⟨res, db', hok, -⟩ := shown_of_toOption hfive
  refine ⟨res, db', hok, by decide, (shown_le_five_iff hok).mpr ?_⟩
  intro hall
  obtain ⟨rule, hrule, hnew⟩ : ∃ rule ∈ grillRules, rule.ruleClass ∉ askedClasses
      ((run (exec encoding) DB.empty (twice.take 2)).rows (input true true).identity) := by decide
  exact hnew (hall rule hrule).2

open Instance in
/-- All six questions were asked in two evaluations, and are shown in the third. -/
theorem six_shown : ∃ res db',
    evaluateGrill encoding (run (exec encoding) DB.empty twice) (req true true) true =
      (db', .ok res) ∧ res.shownQuestionIDs.length = 6 := by
  refine shown_of_toOption ?_
  decide

/-- What holds after every history of evaluations, answers and overrides. -/
structure Faithful (p : Encoding) (db : DB) : Prop where
  /-- Each active class is shown or deferred, and no class is both. -/
  partition : ∀ request commits db' result, evaluateGrill p db request commits = (db', .ok result) →
    ∃ shown, result.shownQuestionIDs = shown.map grillQuestionID ∧
      (shown ++ result.deferredRuleClasses).Nodup ∧
      ∀ c, c ∈ shown ++ result.deferredRuleClasses ↔ ∃ rule ∈ grillRules, rule.ruleClass = c ∧
        ActiveClass (db.rows request.input.identity) request.input rule
  once : ∀ identity, (askedClasses (db.rows identity)).Nodup
  numbered : ∀ identity, Numbered ((db.rows identity).map GrillRecord.recordSequence) ∧
    Numbered ((questionsOf (db.rows identity)).map QuestionColumns.questionSequence)
  /-- An evaluation that is made again writes nothing and answers the same. -/
  repeated : ∀ request commits commits' db' result,
    evaluateGrill p db request commits = (db', .ok result) →
    (evaluateGrill p db' request commits').1 = db' ∧ (evaluateGrill p db' request true).2 =
        .ok { result with newQuestionIDs := [], newRecords := 0 }
  waivable : ∀ identity, ∀ r ∈ db.rows identity, r.body.schema = .override →
    ∃ rule ∈ grillRules, rule.waivable = true ∧ r.questionID = grillQuestionID rule.ruleClass ∧
      rule.ruleClass ∈ askedClasses (db.rows identity)
  admitted : ∀ request commits c,
    (evaluateGrill p db request commits).2 ≠ .error (.overrideNotPermitted c)

theorem partition_of_staged {req : GrillEvaluationRequest}
    (h : Orderly (db.rows req.input.identity)) (hstaged : Staged p db req db' res) :
    ∃ shown, res.shownQuestionIDs = shown.map grillQuestionID ∧
      (shown ++ res.deferredRuleClasses).Nodup ∧
      ∀ c, c ∈ shown ++ res.deferredRuleClasses ↔ ∃ rule ∈ grillRules, rule.ruleClass = c ∧
        ActiveClass (db.rows req.input.identity) req.input rule := by
  obtain ⟨_, rfl⟩ := hstaged.result
  have hact := active_sublist req.input (loadGrillHistory db req.input.identity).2.2
  have hnodup := Nodup.sublist (hact.map GrillRule.ruleClass) (by decide)
  refine ⟨_, (map_map ..).symm, (shown_deferred_perm hact).nodup_iff.mpr hnodup, fun c => ?_⟩
  refine (shown_deferred_perm hact).mem_iff.trans (mem_map.trans ?_)
  constructor
  · rintro ⟨rule, hrule, rfl⟩
    obtain ⟨hmem, hclass⟩ := (mem_active h).mp hrule
    exact ⟨rule, hmem, rfl, hclass⟩
  · rintro ⟨rule, hmem, rfl, hclass⟩
    exact ⟨rule, (mem_active h).mpr ⟨hmem, hclass⟩, rfl⟩

/-- After every history, the evaluations of every revision are faithful. -/
theorem grill_faithful (ops : List Operation) : Faithful p (run (exec p) DB.empty ops) where
  partition req commits db' res hok :=
    partition_of_staged (orderly_run ops _) (staged_of_ok (orderly_run ops _) (commitStaged_ok hok))
  once ident := (orderly_run ops ident).once
  numbered ident := ⟨(orderly_run ops ident).records, (orderly_run ops ident).questions⟩
  repeated req commits commits' db' res hok := by
    have hstaged := staged_of_ok (orderly_run ops _) (commitStaged_ok hok)
    have hagain := stageEvaluation_again (orderly_run ops _) hstaged
    rw [evaluateGrill, evaluateGrill, hagain]
    cases commits' <;> exact ⟨rfl, rfl⟩
  waivable ident := (orderly_run ops ident).overrides
  admitted req commits c := by
    have horderly : Orderly ((run (exec p) DB.empty ops).rows req.input.identity) :=
      orderly_run ops _
    have hfails : FailsWith _ (stageEvaluation p _ req) := stageEvaluation_failsWith horderly
    unfold evaluateGrill commitStaged
    split
    next e he =>
      intro heq
      exact hfails e he c (Except.error.inj heq)
    · split <;> simp

end Ananke.Grill
