import Ananke.Grill.Journal

/-! The records of a revision: numbered without a gap, one question for each class at most, and
overrides of waivable questions only. -/
namespace Ananke.Grill

open Machine Relational Validation List

def askedClasses (rows : List GrillRecord) : List String :=
  (questionsOf rows).map QuestionColumns.ruleClass

structure Orderly (rows : List GrillRecord) : Prop where
  records : Numbered (rows.map GrillRecord.recordSequence)
  questions : Numbered ((questionsOf rows).map QuestionColumns.questionSequence)
  once : (askedClasses rows).Nodup
  versions : ∀ r ∈ rows, r.ruleVersion = grillRuleVersion
  asked : ∀ r ∈ rows, ∀ q ∈ r.question?, ∃ rule ∈ grillRules, q.ruleClass = rule.ruleClass ∧
    q.waivable = rule.waivable ∧ r.questionID = grillQuestionID rule.ruleClass
  overrides : ∀ r ∈ rows, r.body.schema = .override → ∃ rule ∈ grillRules, rule.waivable = true ∧
    r.questionID = grillQuestionID rule.ruleClass ∧ rule.ruleClass ∈ askedClasses rows

variable {rows : List GrillRecord}

theorem questionsOf_append (r : GrillRecord) :
    questionsOf (rows ++ [r]) = questionsOf rows ++ r.question?.toList := by
  cases h : r.question? <;> simp [questionsOf, h]

theorem orderly_nil : Orderly [] :=
  ⟨rfl, rfl, nodup_nil, by simp, by simp, by simp⟩

theorem nextRecordSequence_eq (h : Numbered (rows.map GrillRecord.recordSequence)) :
    nextRecordSequence rows = rows.length + 1 := by
  have hmem (n : Int) := h.mem (n := n)
  rw [length_map] at hmem
  unfold nextRecordSequence
  cases rows with
  | nil => rfl
  | cons r rows =>
    have hmax : ((r :: rows).map GrillRecord.recordSequence).max? =
        some ((r :: rows).length : Int) := by
      refine List.max?_eq_some_iff.mpr ⟨(hmem _).mpr ?_, fun n hn => ((hmem n).mp hn).2⟩
      simp only [length_cons]
      omega
    rw [hmax]
    rfl

variable {r : GrillRecord}

theorem Orderly.append (h : Orderly rows)
    (hseq : r.recordSequence = rows.length + 1) (hversion : r.ruleVersion = grillRuleVersion)
    (hquest : ∀ q ∈ r.question?, q.questionSequence = (questionsOf rows).length + 1 ∧
      q.ruleClass ∉ askedClasses rows ∧ ∃ rule ∈ grillRules, q.ruleClass = rule.ruleClass ∧
        q.waivable = rule.waivable ∧ r.questionID = grillQuestionID rule.ruleClass)
    (hoverride : r.body.schema = .override → ∃ rule ∈ grillRules, rule.waivable = true ∧
      r.questionID = grillQuestionID rule.ruleClass ∧ rule.ruleClass ∈ askedClasses rows) :
    Orderly (rows ++ [r]) where
  records := by
    rw [map_append, map_singleton, numbered_snoc, length_map]
    exact ⟨h.records, hseq⟩
  questions := by
    rw [questionsOf_append]
    cases hq : r.question? with
    | none => simpa using h.questions
    | some q =>
      rw [Option.toList_some, map_append, map_singleton, numbered_snoc, length_map]
      exact ⟨h.questions, (hquest q hq).1⟩
  once := by
    rw [askedClasses, questionsOf_append]
    cases hq : r.question? with
    | none => simpa [askedClasses] using h.once
    | some q => exact nodup_snoc h.once (hquest q hq).2.1
  versions := forall_snoc.mpr ⟨h.versions, hversion⟩
  asked := forall_snoc.mpr ⟨h.asked, fun q hq => (hquest q hq).2.2⟩
  overrides := by
    intro r' hr' hschema
    have hkept (c : String) (hc : c ∈ askedClasses rows) : c ∈ askedClasses (rows ++ [r]) := by
      rw [askedClasses, questionsOf_append, map_append]
      exact mem_append_left _ hc
    rcases mem_append.mp hr' with hr' | hr'
    · obtain ⟨rule, hrule, hwaivable, hid, hasked⟩ := h.overrides r' hr' hschema
      exact ⟨rule, hrule, hwaivable, hid, hkept _ hasked⟩
    · obtain rfl := mem_singleton.mp hr'
      obtain ⟨rule, hrule, hwaivable, hid, hasked⟩ := hoverride hschema
      exact ⟨rule, hrule, hwaivable, hid, hkept _ hasked⟩

variable {c : String}

theorem questionID_inj {c' : String} (h : grillQuestionID c = grillQuestionID c') : c = c' := by
  have hlist := congrArg String.toList h
  simp only [grillQuestionID, String.toList_append, append_cancel_left_eq] at hlist
  exact String.toList_inj.mp hlist

theorem mem_askedClasses :
    c ∈ askedClasses rows ↔ ∃ r ∈ rows, ∃ q ∈ r.question?, q.ruleClass = c := by
  simp only [askedClasses, questionsOf, mem_map, mem_filterMap, Option.mem_def]
  constructor
  · rintro ⟨q, ⟨r, hr, hq⟩, rfl⟩
    exact ⟨r, hr, q, hq, rfl⟩
  · rintro ⟨r, hr, q, hq, rfl⟩
    exact ⟨q, ⟨r, hr, hq⟩, rfl⟩

theorem Orderly.rule_of_asked (h : Orderly rows) (hc : c ∈ askedClasses rows) :
    ∃ rule ∈ grillRules, rule.ruleClass = c := by
  obtain ⟨r, hr, q, hq, rfl⟩ := mem_askedClasses.mp hc
  obtain ⟨rule, hrule, hclass, -⟩ := h.asked r hr q hq
  exact ⟨rule, hrule, hclass.symm⟩

variable {rules : List GrillRule}

theorem Orderly.length_le (h : Orderly rows) (hnodup : rules.Nodup)
    (hrules : rules ⊆ grillRules) (hfresh : ∀ rule ∈ rules, rule.ruleClass ∉ askedClasses rows) :
    (questionsOf rows).length + rules.length ≤ 6 := by
  have hmap := hnodup.map_on fun a ha b hb => ruleClass_injOn a (hrules ha) b (hrules hb)
  have hall : (askedClasses rows ++ rules.map GrillRule.ruleClass).Nodup := by
    refine nodup_append.mpr ⟨h.once, hmap, ?_⟩
    rintro c hc _ hc' rfl
    obtain ⟨rule, hrule, rfl⟩ := mem_map.mp hc'
    exact hfresh rule hrule hc
  have hsubset : askedClasses rows ++ rules.map GrillRule.ruleClass ⊆
      grillRules.map GrillRule.ruleClass := by
    intro c hc
    rcases mem_append.mp hc with hc | hc
    · obtain ⟨rule, hrule, rfl⟩ := h.rule_of_asked hc
      exact mem_map_of_mem hrule
    · obtain ⟨_, hrule, rfl⟩ := mem_map.mp hc
      exact mem_map_of_mem (hrules hrule)
  have hlen := (subperm_of_subset hall hsubset).length_le
  simpa [askedClasses, grillRules] using hlen

/-! What is loaded of the history. -/

/-- An override names the question of this class. -/
def Overridden (rows : List GrillRecord) (ruleClass : String) : Prop :=
  ∃ r ∈ rows, r.body.schema = .override ∧ r.questionID = grillQuestionID ruleClass

variable {db : DB} {ident : GrillRevisionIdentity}

theorem current_rows (h : Orderly rows) : rows.filter (·.ruleVersion = grillRuleVersion) =
    rows := by
  refine filter_eq_self.mpr fun r hr => ?_
  simp [h.versions r hr]

theorem mem_existing (h : Orderly (db.rows ident)) :
    c ∈ (loadGrillHistory db ident).2.1 ↔ c ∈ askedClasses (db.rows ident) := by
  simp [loadGrillHistory, current_rows h, askedClasses]

theorem mem_waived (h : Orderly (db.rows ident)) :
    c ∈ (loadGrillHistory db ident).2.2 ↔ Overridden (db.rows ident) c := by
  have hload : c ∈ (loadGrillHistory db ident).2.2 ↔ ∃ r ∈ db.rows ident,
      r.body.schema = .override ∧
        c ∈ askedClasses ((db.rows ident).filter (·.questionID = r.questionID)) := by
    simp [loadGrillHistory, current_rows h, askedClasses, and_assoc]
  simp only [hload, mem_askedClasses, mem_filter, decide_eq_true_eq]
  constructor
  · rintro ⟨r, hr, hschema, r', ⟨hr', hsame⟩, q, hq, rfl⟩
    obtain ⟨rule, -, hclass, -, hid⟩ := h.asked r' hr' q hq
    exact ⟨r, hr, hschema, by rw [← hsame, hid, hclass]⟩
  · rintro ⟨r, hr, hschema, hid⟩
    obtain ⟨_, -, -, hid', hasked⟩ := h.overrides r hr hschema
    obtain rfl := questionID_inj (hid.symm.trans hid')
    obtain ⟨r', hr', q, hq, hclass⟩ := mem_askedClasses.mp hasked
    obtain ⟨_, -, hclass', -, hid''⟩ := h.asked r' hr' q hq
    exact ⟨r, hr, hschema, r', ⟨hr', by rw [hid'', ← hclass', hclass, hid]⟩, q, hq, hclass⟩

theorem length_questions_lt (h : Orderly rows) : (questionsOf rows).length < 10 := by
  have hlen := h.length_le nodup_nil (nil_subset _) (by simp)
  simp only [length_nil] at hlen
  omega

theorem grillRuleClass_rule : ∀ rule ∈ grillRules, grillRuleClass rule.ruleClass =
    some rule.ruleClass := by decide

theorem grillRuleByClass_rule : ∀ rule ∈ grillRules, grillRuleByClass rule.ruleClass =
    some rule := by decide

theorem ruleOfQuestion_rule : ∀ rule ∈ grillRules,
    ruleOfQuestion (grillQuestionID rule.ruleClass) = rule := by decide

variable {p : Encoding}

theorem evaluatePure_eq_ok (h : Orderly (db.rows ident)) {input : GrillInput}
    {res : GrillEvaluation} :
    evaluateGrillPure p input (loadGrillHistory db ident).2.1 (loadGrillHistory db ident).1
        (loadGrillHistory db ident).2.2 = .ok res ↔
      validateGrillInput p input = .ok () ∧ boundedEvaluation input
        (loadGrillHistory db ident).2.1 (loadGrillHistory db ident).1
        (loadGrillHistory db ident).2.2 = res := by
  have hcount : (loadGrillHistory db ident).1 = (questionsOf (db.rows ident)).length := rfl
  have hlt := length_questions_lt h
  have hexist : collect (fun v => expect (GrillError.invalidInput
      ("unknown existing Grill rule \"" ++ v ++ "\"")) (grillRuleClass v))
      (loadGrillHistory db ident).2.1 = .ok (loadGrillHistory db ident).2.1 := by
    conv_lhs => rw [← map_id (loadGrillHistory db ident).2.1]
    refine collect_map fun v hvalue => ?_
    obtain ⟨rule, hrule, rfl⟩ := h.rule_of_asked ((mem_existing h).mp hvalue)
    rw [id, grillRuleClass_rule rule hrule]
    rfl
  have hwaived : each (fun ruleClass => require (GrillError.overrideNotPermitted (some ruleClass))
      ((grillRuleByClass ruleClass).any GrillRule.waivable = true))
      (loadGrillHistory db ident).2.2 = .ok () := by
    refine each_eq_ok.mpr fun c hc => require_eq_ok.mpr ?_
    obtain ⟨r, hr, hschema, hid⟩ := (mem_waived h).mp hc
    obtain ⟨rule, hrule, hwaivable, hid', -⟩ := h.overrides r hr hschema
    obtain rfl := questionID_inj (hid.symm.trans hid')
    rw [grillRuleByClass_rule rule hrule]
    simpa using hwaivable
  rw [evaluateGrillPure, seq_eq_ok, seq_eq_ok, hexist, ok_bind, hwaived, ok_bind, require_eq_ok,
    pure_eq_ok, if_neg (by omega), hcount]
  simp

/-! What the operations do to the rows of a revision. -/

variable {db' : DB}

@[simp] theorem insertRecord_eq_ok {e : GrillError} : insertRecord e db r = .ok db' ↔
      RecordFits db.records r ∧ { db with records := db.records ++ [r] } = db' := by
  rw [insertRecord, guard_eq_ok, pure_eq_ok]

theorem rows_insert_self (db : DB) (h : r.identity = ident) :
    DB.rows { db with records := db.records ++ [r] } ident = db.rows ident ++ [r] :=
  rowsOf_snoc h

theorem rows_insert_other (db : DB) (h : r.identity ≠ ident) :
    DB.rows { db with records := db.records ++ [r] } ident = db.rows ident :=
  rowsOf_snoc_ne h

/-- The rows of a revision after these classes were asked. -/
structure Grown (identity : GrillRevisionIdentity) (classes : List String) (db db' : DB) :
    Prop where
  orderly : Orderly (db'.rows identity)
  asked : askedClasses (db'.rows identity) = askedClasses (db.rows identity) ++ classes
  overridden : ∀ c, Overridden (db'.rows identity) c ↔ Overridden (db.rows identity) c
  others : ∀ other, other ≠ identity → db'.rows other = db.rows other
  revisions : db'.revisions = db.revisions
  evaluations : db'.evaluations = db.evaluations

theorem overridden_append (hr : r.body.schema ≠ .override) :
    Overridden (rows ++ [r]) c ↔ Overridden rows c := by
  simp only [Overridden, mem_snoc]
  constructor
  · rintro ⟨r', hr' | rfl, hschema, hid⟩
    · exact ⟨r', hr', hschema, hid⟩
    · exact absurd hschema hr
  · rintro ⟨r', hr', hschema, hid⟩
    exact ⟨r', .inl hr', hschema, hid⟩

theorem grown_question {rule : GrillRule} (h : Orderly (db.rows ident))
    (hrule : rule ∈ grillRules) (hfresh : rule.ruleClass ∉ askedClasses (db.rows ident))
    (hok : insertGrillQuestion db ident grillRuleVersion (questionsOf (db.rows ident)).length
      rule = .ok db') :
    Grown ident [rule.ruleClass] db db' ∧
      (questionsOf (db'.rows ident)).length = (questionsOf (db.rows ident)).length + 1 := by
  rw [insertGrillQuestion, insertRecord_eq_ok, nextRecordSequence_eq h.records] at hok
  obtain ⟨-, rfl⟩ := hok
  generalize hr : questionRecord ident grillRuleVersion ((db.rows ident).length + 1)
    ((questionsOf (db.rows ident)).length + 1) rule = r
  have hid : r.identity = ident := by rw [← hr, questionRecord]
  have hquest : r.question? = some ⟨(questionsOf (db.rows ident)).length + 1, rule.ruleClass,
      rule.risk, rule.blocking, rule.waivable, rule.default, rule.remedialStep⟩ := by
    rw [← hr]
    rfl
  have hschema : r.body.schema ≠ .override := by
    rw [← hr]
    intro heq
    cases heq
  have hrows := rows_insert_self db hid
  refine ⟨⟨?_, ?_, ?_, ?_, rfl, rfl⟩, ?_⟩
  · rw [hrows]
    refine h.append (by rw [← hr, questionRecord]) (by rw [← hr, questionRecord]) ?_
      (fun heq => absurd heq hschema)
    intro q hq
    obtain rfl := Option.some.inj (hquest.symm.trans hq)
    exact ⟨rfl, hfresh, rule, hrule, rfl, rfl, by rw [← hr, questionRecord]⟩
  · rw [hrows, askedClasses, questionsOf_append, hquest]
    simp [askedClasses]
  · intro c
    rw [hrows]
    exact overridden_append hschema
  · intro other hother
    exact rows_insert_other db (hid ▸ Ne.symm hother)
  · rw [hrows, questionsOf_append, hquest]
    simp

theorem Grown.trans {db₁ db₂ db₃ : DB} {cs cs' : List String} (h : Grown ident cs db₁ db₂)
    (h' : Grown ident cs' db₂ db₃) : Grown ident (cs ++ cs') db₁ db₃ where
  orderly := h'.orderly
  asked := by rw [h'.asked, h.asked, append_assoc]
  overridden c := (h'.overridden c).trans (h.overridden c)
  others other hother := (h'.others other hother).trans (h.others other hother)
  revisions := h'.revisions.trans h.revisions
  evaluations := h'.evaluations.trans h.evaluations

theorem grown_questions (h : Orderly (db.rows ident))
    (hrules : rules ⊆ grillRules) (hnodup : rules.Nodup)
    (hfresh : ∀ rule ∈ rules, rule.ruleClass ∉ askedClasses (db.rows ident))
    (hok : insertQuestions ident grillRuleVersion (rules.map (grillQuestionID ·.ruleClass))
      (questionsOf (db.rows ident)).length db = .ok db') :
    Grown ident (rules.map GrillRule.ruleClass) db db' := by
  induction rules generalizing db with
  | nil =>
    obtain rfl := Except.ok.inj hok
    exact ⟨h, by simp, fun _ => Iff.rfl, fun _ _ => rfl, rfl, rfl⟩
  | cons rule rules ih =>
    obtain ⟨hrule, hrest⟩ := cons_subset.mp hrules
    obtain ⟨hnew, hnodup⟩ := nodup_cons.mp hnodup
    rw [map_cons, insertQuestions, bind_eq_ok] at hok
    obtain ⟨db₁, hone, hok⟩ := hok
    rw [ruleOfQuestion_rule rule hrule] at hone
    obtain ⟨hgrown, _⟩ := grown_question h hrule (hfresh rule mem_cons_self) hone
    have hcount : ((questionsOf (db.rows ident)).length : Int) + 1 =
        (questionsOf (db₁.rows ident)).length := by omega
    rw [hcount] at hok
    refine hgrown.trans (ih hgrown.orderly hrest hnodup ?_ hok)
    intro rule' hrule'
    rw [hgrown.asked, mem_snoc, not_or]
    refine ⟨hfresh rule' (mem_cons_of_mem _ hrule'), fun heq => hnew ?_⟩
    rwa [← ruleClass_injOn rule' (hrest hrule') rule hrule heq]

end Ananke.Grill
