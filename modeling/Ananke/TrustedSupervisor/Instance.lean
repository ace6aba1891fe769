
import Ananke.TrustedSupervisor.Journal

/-! Primitives that meet the assumptions. Bytes are lists of the records they encode, and
the hash is a checksum. -/
namespace Ananke.TrustedSupervisor.Instance

open Text Validation List

inductive Token
  | text (s : String)
  | intent (i : AuditExecutionIntent)
  | event (e : AuditExecutionEvent)
  | timeout (o : AuditTimeoutEvidence)
  | cancellation (c : AuditCancellationIntent Unit)
deriving DecidableEq

/-- The last `k` decimal digits. -/
def digits : Nat → Nat → List Char
  | 0, _ => []
  | k + 1, n => digits k (n / 10) ++ [Nat.digitChar (n % 10)]

theorem length_digits (k n : Nat) : (digits k n).length = k := by
  induction k generalizing n with
  | zero => rfl
  | succ k ih => simp [digits, ih]

theorem isDigit_digits {k n : Nat} {c : Char} (h : c ∈ digits k n) : isDigit c = true := by
  induction k generalizing n with
  | zero => simp [digits] at h
  | succ k ih =>
    rcases mem_append.mp h with h | h
    · exact ih h
    · have hdigit : ∀ d < 10, isDigit (Nat.digitChar d) = true := by decide
      rw [mem_singleton.mp h]
      exact hdigit _ (Nat.mod_lt _ (by decide))

theorem isHex_digits {k n : Nat} {c : Char} (h : c ∈ digits k n) : isHex c = true := by
  simp [isHex, isDigit_digits h]

/-- The hash with these digits. -/
def sha (n : Nat) : String :=
  String.ofList ('s' :: 'h' :: 'a' :: '2' :: '5' :: '6' :: ':' :: digits 64 n)

@[simp] theorem pattern_sha (n : Nat) : protocolHashPattern (sha n) = true := by
  have hlen := length_digits 64 n
  have hall : (digits 64 n).all isHex = true := all_eq_true.mpr fun c hc => isHex_digits hc
  rw [protocolHashPattern, sha, String.toList_ofList]
  generalize digits 64 n = ds at hlen hall
  simp [hlen, hall]

theorem mod_of_digits_eq {k m n : Nat} (h : digits k m = digits k n) : m % 10 ^ k = n % 10 ^ k := by
  induction k generalizing m n with
  | zero => simp [Nat.mod_one]
  | succ k ih =>
    have hdigit : ∀ a < 10, ∀ b < 10, Nat.digitChar a = Nat.digitChar b → a = b := by decide
    obtain ⟨hinit, hlast⟩ := append_inj' h rfl
    have hlow := hdigit _ (Nat.mod_lt m (by decide)) _ (Nat.mod_lt n (by decide))
      (singleton_inj.mp hlast)
    rw [Nat.pow_succ', Nat.mod_mul, Nat.mod_mul, ih hinit, hlow]

theorem sha_ne {m n : Nat} (h : m % 10 ^ 64 ≠ n % 10 ^ 64) : sha m ≠ sha n := by
  intro heq
  have hlist := String.ofList_injective heq
  simp only [List.cons.injEq, true_and] at hlist
  exact h (mod_of_digits_eq hlist)

def checksum (s : String) : Nat := s.toList.foldl (fun n c => 31 * n + c.toNat) 1

def Token.checksum : Token → Nat
  | .text s => Instance.checksum s
  | .intent i => 2 + Instance.checksum i.intentID
  | .event e => 3 + Instance.checksum e.eventID
  | .timeout o => 5 + Instance.checksum o.runID
  | .cancellation c => 7 + Instance.checksum c.intentID

/-- A clock text: as many strokes as have passed. -/
def clockText (now : Nat) : String := String.ofList ('Z' :: List.replicate now 'I')

def readClock (s : String) : Option (Int × Bool) :=
  match s.toList with
  | 'Z' :: strokes => some ((strokes.length : Int), true)
  | _ => none

def prims : Primitives (List Token) where
  size := List.length
  textBytes s := [.text s]
  hashJournalBytes bytes := sha (bytes.foldl (fun n t => 37 * n + t.checksum) 0)
  encodeIntent i := [.intent i]
  decodeIntent
    | [.intent i] => some i
    | _ => none
  encodeEvent e := [.event e]
  decodeEvent
    | [.event e] => some e
    | _ => none
  encodeCancel c := .cancellation { c with requestBytes := () } :: c.requestBytes
  decodeCancel
    | .cancellation c :: bytes => some { c with requestBytes := bytes }
    | _ => none
  encodeTimeout o := [.timeout o]
  parseTime := readClock
  formatTime := clockText
  clean path := path
  join parts := "/".intercalate parts
  parentName path := String.ofList ((path.toList.splitOn '/').reverse.getD 1 [])
  validFreshAuditTimeoutSessionPathStructure path _ := path ≠ ""
  auditPrompt synthesizeOnly := if synthesizeOnly then "audit synthesize" else "audit"
  auditCommandDescriptorHash _ prompt run _ := .ok (sha (checksum (prompt ++ run)))
  validCanonicalAuditEvidence evidence hash := evidence ≠ "" && protocolHashPattern hash
  auditEvidence _ _ _ := .ok ()

theorem lawful : prims.Lawful where
  hash _ := pattern_sha _
  intent _ := rfl
  event _ := rfl
  cancellation _ := rfl
  time now := by simp [prims, readClock, clockText]

def entry : ExecutionPolicyEntry where
  launchSpecHash := sha 1
  taskID := "task"
  repositoryIdentityHash := sha 2
  gitCommit := String.ofList (digits 40 3)
  gitTree := String.ofList (digits 40 4)
  sourceArchiveSHA256 := sha 5
  routeMappingHash := sha 6
  wrapperSHA256 := sha 7
  attemptCap := 2
  promptRoot := "/prompt"
  outputRoot := "/output"
  sessionRoot := "/session"
  workRoot := "/work"
  temporaryRoot := "/tmp"
  policyHash := sha 8

/-- A policy with one entry, and signatures that repeat the hash. -/
def authority : AuditJournalAuthority where
  entries hash := if hash = entry.launchSpecHash then some entry else none
  signerSPKI := sha 9
  signerRootID := "root"
  current := ⟨pattern_sha 9, by decide⟩
  sign payload := "ed25519:" ++ payload.eventHash
  signatureForm signature := signature ≠ ""
  verify payload signature := signature = "ed25519:" ++ payload.eventHash

def intent : AuditExecutionIntent :=
  let bare : AuditExecutionIntent := {
    schemaVersion := auditExecutionIntentSchemaVersion
    intentID := "intent"
    envelopeHash := sha 10
    launchSpecHash := entry.launchSpecHash
    handoffID := "handoff"
    receiptHash := sha 11
    taskID := entry.taskID
    attemptCap := entry.attemptCap
    policyHash := entry.policyHash
    routeMappingHash := entry.routeMappingHash
    repositoryIdentityHash := entry.repositoryIdentityHash
    gitCommit := entry.gitCommit
    gitTree := entry.gitTree
    sourceArchiveSHA256 := entry.sourceArchiveSHA256
    wrapperSHA256 := entry.wrapperSHA256
    runID := "run"
    createdAt := clockText 0 }
  { bare with intentHash := prims.hashJournalBytes (prims.encodeIntent bare) }

theorem resolve_intent : authority.resolveIntent intent = .ok entry := by
  simp [AuditJournalAuthority.resolveIntent, authority, intent]

theorem sealed_intent : sealAuditExecutionIntent prims intent = .ok intent := by
  refine intent_eq_ok.mpr ⟨⟨rfl, ?_, ?_, ?_, ?_, ?_, ?_, ?_, ?_, ?_, ?_⟩, rfl⟩
  case refine_10 => simp [intent, entry]
  all_goals decide

def delivery : ServerJournalRequest (List Token) where
  requestHash := sha 12
  operation := .deliver
  operationKey := "deliver:" ++ intent.envelopeHash
  requestNonceHash := sha 13
  responseNonceHash := sha 14
  additionalNonceHash := ""
  requestBytes := [.text "deliver"]

theorem journalRequest_delivery : validServerJournalRequest prims delivery := by
  refine ⟨pattern_sha _, pattern_sha _, pattern_sha _,
    .inl rfl, ?_, ?_, .inl rfl, .inl rfl, ?_, ?_, ?_⟩
  all_goals decide

def sealEvent (ev : AuditExecutionEvent) : AuditExecutionEvent :=
  let bare := { ev with eventHash := "", authentication := {} }
  { ev with eventHash := prims.hashJournalBytes (prims.encodeEvent bare) }

def eventOf (seq : Nat) (attempt : Int) : AuditExecutionEvent :=
  let paths := auditAttemptPaths prims intent entry attempt
  { schemaVersion := auditExecutionEventSchemaVersion
    eventID := auditExecutionEventID intent seq
    intentHash := intent.intentHash
    sequence := seq
    attempt := attempt
    commandDescriptorHash :=
      sha (checksum (auditPromptSHA256 prims false ++ intent.runID))
    promptSHA256 := auditPromptSHA256 prims false
    sessionRunID := intent.runID
    occurredAt := clockText seq
    workPath := paths.workPath
    outputPath := paths.outputPath
    sessionPath := paths.sessionPath
    promptPath := paths.promptPath
    temporaryPath := paths.temporaryPath }

/-- The event that ends the execution before a process was started. -/
def cancelled : AuditExecutionEvent :=
  sealEvent { eventOf 1 1 with
    state := .cancelled, failureClass := "operator_cancelled_before_start" }

def signed (ev : AuditExecutionEvent) : AuditExecutionEvent :=
  let unsigned := authority.unsigned ev
  { ev with authentication := { unsigned with
      signature := authority.sign (authenticationPayload unsigned) } }

theorem hash_journal (bytes : List Token) :
    protocolHashPattern (prims.hashJournalBytes bytes) = true :=
  lawful.hash bytes

theorem sealed_cancelled : sealAuditExecutionEvent prims cancelled = .ok cancelled := by
  refine event_eq_ok.mpr ⟨⟨⟨rfl, ?_, hash_journal _,
    ?_, ?_, ?_, pattern_sha _, hash_journal _, ?_, .inl rfl,
    nofun, ?_, ?_, ?_, ?_, ?_, ?_, fun _ => rfl⟩, ?_, ?_⟩, rfl⟩
  all_goals decide

theorem authenticate_cancelled :
    authority.authenticateEvent prims cancelled = .ok (signed cancelled) := by
  rw [AuditJournalAuthority.authenticateEvent, guard_eq_ok]
  exact ⟨sealed_cancelled, rfl⟩

theorem history_cancelled :
    validateAuditExecutionHistory prims authority intent [signed cancelled] = .ok () := by
  have hseal : sealAuditExecutionEvent prims (signed cancelled) = .ok (signed cancelled) :=
    sealEvent_authentication _ sealed_cancelled
  have hver : authority.verifyEvent (signed cancelled) = .ok () := by
    rw [AuditJournalAuthority.verifyEvent, seq_eq_ok, guard_eq_ok, require_eq_ok, require_eq_ok]
    exact ⟨⟨rfl, rfl, rfl, rfl, rfl, rfl, rfl⟩, by decide, by decide +kernel⟩
  rw [validateAuditExecutionHistory, guard_eq_ok, resolve_intent, ok_bind,
    checkEvents, seq_eq_ok, checkEvent, seq_eq_ok, guard_eq_ok, seq_eq_ok, seq_eq_ok]
  refine ⟨sealed_intent, ⟨hver, ⟨hseal, rfl, rfl, rfl, ?_, ?_, ?_, ?_, rfl, ?_, ?_, ?_⟩,
    ?_, ?_, ?_⟩, rfl⟩
  all_goals decide +kernel

/-- A cancellation of the execution in the given attempt. -/
def cancel (attempt : Int) : AuditCancellationIntent (List Token) :=
  let bare : AuditCancellationIntent (List Token) := {
    schemaVersion := auditCancellationIntentSchemaVersion
    intentID := "cancellation"
    intentHash := ""
    requestHash := sha 21
    requestBytes := [.text "cancel"]
    requestBytesHash := prims.hashJournalBytes [.text "cancel"]
    operationKey := "cancel:" ++ intent.receiptHash
    requestNonceHash := sha 22
    responseNonceHash := sha 23
    exclusivityNonceHash := sha 24
    envelopeHash := intent.envelopeHash
    handoffID := intent.handoffID
    receiptHash := intent.receiptHash
    cancellationHash := sha 25
    attempt := attempt
    expectedPID := 0
    expectedPGID := 0
    expectedStartIdentity := ""
    state := .requested
    requestedAt := clockText 0 }
  { bare with intentHash := prims.hashJournalBytes (prims.encodeCancel bare) }

theorem sealed_cancel {attempt : Int} (h1 : 1 ≤ attempt) (h10 : attempt ≤ 10) :
    sealAuditCancellationIntent prims (cancel attempt) = .ok (cancel attempt) := by
  refine sealing_eq_ok.mpr ⟨⟨rfl, ?_, ?_, rfl, h1, h10, rfl, ?_, ?_, ?_,
    .inl ⟨rfl, rfl, rfl⟩, ?_, ?_, ?_, ?_⟩, rfl, rfl⟩
  case refine_6 => simp [cancel, intent, hash_journal]
  all_goals
    simp only [cancel]
    decide

end Ananke.TrustedSupervisor.Instance
