import Ananke.Lifecycle.Drive
import Ananke.Lifecycle.Evidence

/-! The walk through the engine that shows each of its decisions justified, over all histories
of the daemon. -/
namespace Ananke.Lifecycle

open Store Interaction Text List

variable {id : String} {c : RunCall} {t seen : List Told} {r : Run} {α : Type}
  {unmarshal : Unmarshal} {fuel : Nat} {tail : Option Tail} {runs : List Run}
  {rows : List OutboxRow} {row : OutboxRow} {ident : Identity}
  {P : List Told → List Told → Prop}

theorem firstFailure_eq_none {checks : List (Bool × String)} :
    firstFailure checks = none ↔ ∀ check ∈ checks, check.1 = false := by
  induction checks with
  | nil => simp [firstFailure]
  | cons check rest ih =>
    obtain ⟨failed, _⟩ := check
    cases failed <;> simp [firstFailure, ih]

/-- The identity file tells of the run. -/
structure IdentityMatches (r : Run) (identity : Identity) : Prop where
  supervisorPID : identity.supervisorPID = r.supervisorPID
  supervisorPGID : identity.supervisorPGID = r.supervisorPGID
  workerPID : identity.workerPID = r.workerPID
  socketPath : identity.socketPath = r.socketPath
  token : identity.token = r.token

theorem identityMatches_of_valid (h : validateRecoveryIdentity r ident = none) :
    IdentityMatches r ident := by
  simp only [validateRecoveryIdentity, firstFailure_eq_none, forall_mem_append, matchingText,
    matchingPID, forall_mem_cons, decide_eq_false_iff_not, not_not] at h
  obtain ⟨⟨⟨⟨⟨⟨⟨-, hspid⟩, hpgid⟩, hwpid⟩, hsocket⟩, htoken⟩, -⟩, -⟩ := h
  exact ⟨hspid.2.2.1, hpgid.2.2.1, hwpid.2.2.1, hsocket.2.2.1, htoken.2.2.1⟩

theorem rowMatches_of_authority (h : validatePendingOutboxAuthority row r ident = none) :
    RowMatches row r := by
  simp only [validatePendingOutboxAuthority, firstFailure_eq_none, forall_mem_cons,
    decide_eq_false_iff_not, not_or, not_not, Bool.not_eq_false'] at h
  obtain ⟨hid, -, hterm, hstate, hspid, hpgid, hsocket, htoken, -⟩ := h
  exact ⟨hid.2.1, hterm, hstate, hspid.2.1, hpgid.2.1, hsocket.2.1, htoken.2.1⟩

theorem replyMatches_of_valid {resp : SupCmdResponse}
    (h : validateFinalizationResponse row r resp = none) : ReplyMatches row r resp := by
  simp only [validateFinalizationResponse, firstFailure_eq_none, forall_mem_cons,
    decide_eq_false_iff_not, not_or, not_not, Bool.not_eq_false', not_and] at h
  obtain ⟨-, hok, -, hstate, hid, hspid, hwpid, hpgid, -, htranscript, -⟩ := h
  exact ⟨hok, hid.2, hstate, hspid.2, hwpid.2, hpgid.2, fun hreq => htranscript hreq⟩

/-! ### The supervisor and its group -/

/-- The record after a check: with its evidence where it succeeded, afresh where not. -/
def Checked (P : List Told → List Told → Prop) (seen : List Told) (E : List Told → Prop)
    (found : Bool) (t : List Told) : Prop :=
  if found then ∃ more, E more ∧ P (seen ++ more) t else P [] t

variable {E : List Told → Prop}

theorem checked_yes {more : List Told} (hmore : E more)
    (h : P (seen ++ more) t) : Checked P seen E true t := ⟨more, hmore, h⟩

theorem triple_checked {p : RunProg α} {R : α → List Told → Prop}
    (h : ∀ more, E more → Triple (judgedRun id) (P (seen ++ more)) p R) :
    Triple (judgedRun id) (Checked P seen E true) p R := by
  refine ⟨fun t ht => ?_⟩
  obtain ⟨more, hmore, ht⟩ := ht
  exact (h more hmore).run t ht

theorem triple_groupQuiescent (hP : Trail id P) (hidentity : IdentityMatches r ident) :
    Triple (judgedRun id) (P seen) (groupQuiescent ident)
      fun found => Checked P seen (GroupQuiet id r) found := by
  unfold groupQuiescent
  rw [hidentity.workerPID, hidentity.supervisorPGID, hidentity.supervisorPID]
  refine triple_bind (hP.observe trivial) fun alive => ?_
  cases alive with
  | true => exact triple_done fun _ h => hP.drop h
  | false =>
    refine triple_bind (hP.observe trivial) fun found => ?_
    match found with
    | .error e => exact triple_done fun _ h => hP.drop h
    | .ok [] => exact triple_done fun _ h => checked_yes .empty (by simpa using h)
    | .ok (member :: members) =>
      refine triple_bind (hP.observe trivial) fun status => ?_
      match status with
      | (false, _) | (true, false) => exact triple_done fun _ h => hP.drop h
      | (true, true) =>
        refine triple_done fun t h => ?_
        cases hall : (member :: members).all (· = r.supervisorPID) with
        | false => exact hP.drop h
        | true =>
          have honly : ∀ pid ∈ member :: members, pid = r.supervisorPID := by
            simpa only [all_eq_true, decide_eq_true_eq] using hall
          exact checked_yes (.supervisorOnly honly) (by simpa using h)

theorem triple_supervisorAlive (hP : Trail id P) :
    Triple (judgedRun id) (P seen) (supervisorAlive r.supervisorPID)
      fun alive => Checked P seen (SupervisorDead id r) (!alive) := by
  refine triple_bind (hP.observe trivial) fun status => ?_
  match status with
  | (true, false) => exact triple_done fun _ h => hP.drop h
  | (true, true) => exact triple_done fun _ h => checked_yes .exited h
  | (false, exited) =>
    refine triple_weaken (hP.observe trivial) (fun _ h => h) fun alive t h => ?_
    cases alive with
    | true => exact hP.drop h
    | false => exact checked_yes (.absent exited) (by simpa using h)

theorem triple_cleanupQuiescent (hP : Trail id P) :
    Triple (judgedRun id) (P seen) (cleanupQuiescent r)
      fun found => Checked P seen (GroupQuiet id r) found := by
  unfold cleanupQuiescent
  split
  · exact triple_done fun _ h => hP.drop h
  · refine triple_bind (hP.observe trivial) fun alive => ?_
    cases alive with
    | true => exact triple_done fun _ h => hP.drop h
    | false =>
      refine triple_bind (hP.observe trivial) fun found => ?_
      match found with
      | .error e => exact triple_done fun _ h => hP.drop h
      | .ok [] => exact triple_done fun _ h => checked_yes .empty (by simpa using h)
      | .ok (member :: members) => exact triple_done fun _ h => hP.drop h

/-- What an inspection leaves on record: a supervisor reported dead was seen dead. -/
def Found (runs : List Run) (r : Run) (res : RecoveryResult) (t : List Told) : Prop :=
  Gathered runs [] t ∧ ∀ ident text, res = .supervisorDead ident text →
    IdentityMatches r ident ∧ ∃ dead, SupervisorDead r.id r dead ∧ Gathered runs dead t

variable {dead : List Told} {text : String}

theorem found_dead (hidentity : IdentityMatches r ident)
    (hdead : SupervisorDead r.id r dead) (h : Gathered runs dead t) :
    Found runs r (.supervisorDead ident text) t := by
  refine ⟨h.drop, ?_⟩
  rintro _ _ ⟨⟩
  exact ⟨hidentity, dead, hdead, h⟩

variable {res : RecoveryResult}

theorem found_other (hres : ∀ ident text,
    res ≠ .supervisorDead ident text) (h : Gathered runs [] t) : Found runs r res t :=
  ⟨h, fun ident text hdead => absurd hdead (hres ident text)⟩

variable {a : RunAnswer c}

theorem Found.skip (hc : Undecided c)
    (h : Found runs r res t) : Found runs r res (t ++ [saw id c a]) := by
  refine ⟨h.1.skip hc, fun ident text hres => ?_⟩
  obtain ⟨hidentity, dead, hdead, hgathered⟩ := h.2 ident text hres
  exact ⟨hidentity, dead, hdead, hgathered.skip hc⟩

theorem triple_readIdentity (hP : Trail id P) :
    Triple (judgedRun id) (P seen) (readRecoveryIdentity r) fun res t =>
      match res with
      | .ok ident => IdentityMatches r ident ∧
          P (seen ++ [saw id (.readIdentity r.identityPath) (.ok ident)]) t
      | .error _ => P [] t := by
  refine triple_bind (hP.observe trivial) fun found => ?_
  cases found with
  | error e => exact triple_done fun _ h => hP.drop h
  | ok ident =>
    dsimp only
    split
    · exact triple_done fun _ h => hP.drop h
    next hvalid =>
      exact triple_done fun _ h => ⟨identityMatches_of_valid hvalid, h⟩

theorem triple_byReply (hidentity : IdentityMatches r ident) :
    Triple (judgedRun r.id) (Gathered runs seen) (inspectByCommand r ident)
      fun res => Found runs r res := by
  refine triple_bind (trail_gathered.pass (undecided_mild (mild_authenticate r))) fun state => ?_
  cases state with
  | ok state => exact triple_done fun _ h => found_other (by simp) h
  | error text =>
    refine triple_bind (trail_gathered.observe trivial) fun status => ?_
    match status with
    | (true, true) => exact triple_done fun _ h => found_dead hidentity .exited h
    | (true, false) | (false, _) =>
      exact triple_done fun _ h =>
        found_other (by simp) h.drop

theorem triple_inspect : Triple (judgedRun r.id) (Gathered runs seen) (inspectRecoverySupervisor r)
      fun res => Found runs r res := by
  refine triple_bind (triple_readIdentity trail_gathered) fun res => ?_
  cases res with
  | error text => exact triple_done fun _ h => found_other (by simp) h
  | ok ident =>
    refine triple_extract (fun _ h => h.1) fun hidentity => ?_
    refine triple_pre (P := Gathered runs []) ?_ (fun _ h => h.2.drop)
    refine triple_bind (trail_gathered.observe trivial) fun status => ?_
    match status with
    | (true, true) => exact triple_done fun _ h => found_dead hidentity .exited h
    | (true, false) => exact triple_byReply hidentity
    | (false, exited) =>
      refine triple_bind (trail_gathered.observe trivial) fun alive => ?_
      cases alive with
      | true => exact triple_byReply hidentity
      | false => exact triple_done fun _ h => found_dead hidentity (.absent exited) h

/-! ### The commit -/

variable {prog : TranscriptProgress}

theorem namedFailure_eq_none {info : FileInfo}
    (h : namedFailure r prog info = none) : info.regular = true ∧
      validateTranscriptIdentity info r.transcriptIdentity = none := by
  unfold namedFailure at h
  split at h
  · cases h
  next hregular =>
    split at h
    · cases h
    next hidentity => exact ⟨by simpa using hregular, hidentity⟩

variable {sealed : FileInfo}

theorem handoffResult_eq_true {post : FileInfo} {tailInfo : Option FileInfo}
    (h : handoffResult r sealed post tailInfo prog = .ok true) :
    prog.finalSize = sealed.size ∧ prog.consumedOffset = sealed.size := by
  unfold handoffResult at h
  split at h
  · cases h
  · cases h
  · split at h
    · cases h
    · split at h
      · cases h
      · simpa using h

/-- The record of a seal: the file was seen with the size at which it was sealed. -/
def SealedAt (id : String) (r : Run) (runs : List Run) (seen : List Told)
    (res : Except String (FileInfo × TranscriptProgress)) (t : List Told) : Prop :=
  Gathered runs seen t ∧ ∀ info prog, res = .ok (info, prog) →
    info.regular = true ∧ validateTranscriptIdentity info r.transcriptIdentity = none ∧
    Gathered runs (seen ++ [saw id (.statPath r.transcriptPath) (.ok info),
      saw id (.write (.sealTranscript info.size)) none]) t

theorem sealedAt_error (h : Gathered runs seen t) : SealedAt id r runs seen (.error text) t :=
  ⟨h, fun _ _ hres => nomatch hres⟩

theorem triple_sealNamed : Triple (judgedRun id) (Gathered runs seen) (sealNamedTranscript r)
      fun res => SealedAt id r runs seen res := by
  refine triple_bind (triple_gather (asks_call trivial)) fun loaded => ?_
  cases loaded with
  | error e => exact triple_done fun _ h => sealedAt_error h
  | ok loaded =>
    refine triple_bind (trail_gathered.observe trivial) fun named => ?_
    cases named with
    | error e => exact triple_done fun _ h => sealedAt_error h.before
    | ok info =>
      dsimp only
      split
      · exact triple_done fun _ h => sealedAt_error h.before
      next hnamed =>
        obtain ⟨hregular, hidentity⟩ := namedFailure_eq_none hnamed
        refine triple_bind (trail_gathered.observe trivial) fun refused => ?_
        cases refused with
        | some e => exact triple_done fun _ h => sealedAt_error h.before.before
        | none =>
          refine triple_bind (triple_gather (asks_call trivial)) fun reloaded => ?_
          cases reloaded with
          | error e => exact triple_done fun _ h => sealedAt_error h.before.before
          | ok prog =>
            dsimp only
            split
            · exact triple_done fun _ h => sealedAt_error h.before.before
            · refine triple_done fun _ h => ⟨h.before.before, ?_⟩
              rintro _ _ ⟨⟩
              exact ⟨hregular, hidentity, by simpa using h⟩

/-- The record of a handoff that is complete. -/
def Handed (id : String) (r : Run) (runs : List Run) (seen : List Told)
    (res : Except String Bool) (t : List Told) : Prop :=
  Gathered runs seen t ∧ (res = .ok true →
    ∃ handed, HandedOff id r handed ∧ Gathered runs (seen ++ handed) t)

theorem handed_not {res : Except String Bool} (hres : res ≠ .ok true)
    (h : Gathered runs seen t) : Handed id r runs seen res t :=
  ⟨h, fun htrue => absurd htrue hres⟩

section

variable (hregular : sealed.regular = true)
  (hidentity : validateTranscriptIdentity sealed r.transcriptIdentity = none)
include hregular hidentity

theorem triple_recheckHandoff : Triple (judgedRun id)
      (Gathered runs (seen ++ [saw id (.statPath r.transcriptPath) (.ok sealed),
        saw id (.write (.sealTranscript sealed.size)) none]))
      (recheckHandoff r sealed tail) fun res => Handed id r runs seen res := by
  refine triple_bind (trail_gathered.observe trivial) fun loaded => ?_
  cases loaded with
  | error e =>
    exact triple_done fun _ h => handed_not (by simp) h.before.before
  | ok prog =>
    refine triple_bind (triple_gather (asks_call trivial)) fun named => ?_
    cases named with
    | error e => exact triple_done fun _ h => handed_not (by simp) h.before.before
    | ok postInfo =>
      refine triple_bind (triple_gather (undecided_mild (mild_statBoundTail tail)))
        fun tailInfo => ?_
      refine triple_done fun _ h => ⟨h.before.before, fun htrue => ?_⟩
      obtain ⟨hfinal, hcons⟩ := handoffResult_eq_true htrue
      exact ⟨_, .consumed hregular hidentity hfinal hcons, by simpa using h⟩

theorem triple_handOffSealed : Triple (judgedRun id)
      (Gathered runs (seen ++ [saw id (.statPath r.transcriptPath) (.ok sealed),
        saw id (.write (.sealTranscript sealed.size)) none]))
      (handOffSealed unmarshal fuel r tail sealed prog)
      fun res => Handed id r runs seen res.1 := by
  refine triple_bind (triple_gather undecided_bindTail) fun bound => ?_
  cases bound with
  | error text => exact triple_done fun _ h => handed_not (by simp) h.before
  | ok bound =>
    have hdrain : Asks Undecided (drainTranscript unmarshal fuel r sealed prog bound) := by
      unfold drainTranscript
      split
      · exact undecided_tail
      · exact asks_pure
    refine triple_bind (triple_gather hdrain) fun drained => ?_
    refine triple_bind (triple_recheckHandoff hregular hidentity) fun res => ?_
    exact triple_done fun _ h => h

end

theorem triple_handoff : Triple (judgedRun id) (Gathered runs seen)
      (progressQuiescentTranscriptHandoff unmarshal fuel r tail)
      fun res => Handed id r runs seen res.1 := by
  unfold progressQuiescentTranscriptHandoff
  split
  next hreq =>
    refine triple_done fun _ h => ⟨h, fun _ => ⟨[], ?_, by simpa using h⟩⟩
    exact .notRequired (by simpa using hreq)
  · split
    · exact triple_done fun _ h => handed_not (by simp) h
    · split
      · exact triple_done fun _ h => handed_not (by simp) h
      · refine triple_bind triple_sealNamed fun res => ?_
        match res with
        | .error text => exact triple_done fun _ h => handed_not (by simp) h.1
        | .ok (info, prog) =>
          refine triple_extract (fun _ h => h.2 info prog rfl |>.imp_right And.left)
            fun hinfo => ?_
          exact triple_pre (triple_handOffSealed hinfo.1 hinfo.2)
            (fun _ h => (h.2 info prog rfl).2.2)

section

variable (hr : r ∈ runs)
include hr

/-- The commit of a run whose processes were all seen gone. -/
theorem triple_quiescent {label reason : String} (hgone : AllGone r.id r seen) :
    Triple (judgedRun r.id) (Gathered runs seen)
      (commitQuiescentFailure unmarshal fuel r tail label reason
        (failedOutbox r r.supervisorPID r.supervisorPGID r.socketPath r.token))
      fun _ => Gathered runs [] := by
  refine triple_bind triple_handoff fun res => ?_
  match res with
  | (.error _, _) | (.ok false, _) => exact triple_done fun _ h => h.1.drop
  | (.ok true, tail) =>
    refine triple_bind (M := fun _ => Gathered runs []) ?_ fun refused => ?_
    · refine triple_call (S := judgedRun r.id) stable_run (fun _ => stable_run) ?_
      rintro t a _ ⟨_, hhanded⟩ rfl
      obtain ⟨_, hhanded, hall⟩ := hhanded rfl
      have hnext : Always Justified (t ++ [saw r.id (.write (.commitTerminal .failed reason
          (failedOutbox r r.supervisorPID r.supervisorPGID r.socketPath r.token))) a]) :=
        always_snoc.mpr ⟨hall.1, rfl, runs, r, _, hr, rfl, hall.2, .intro hgone hhanded, rfl⟩
      exact ⟨hnext, hnext, hall.2.ask.sublist (nil_sublist _)⟩
    · cases refused <;> exact triple_kept

theorem triple_cleanup :
    Preserves (judgedRun r.id) (Gathered runs [])
      (progressCleanupRequired unmarshal fuel r tail) := by
  unfold progressCleanupRequired
  split
  · exact triple_kept
  · refine triple_bind (triple_supervisorAlive trail_gathered) fun alive => ?_
    cases alive with
    | true =>
      exact triple_bind (triple_gather (undecided_mild (mild_cleanup r)))
        fun _ => triple_kept
    | false =>
      refine triple_checked fun dead hdead => ?_
      refine triple_bind (triple_cleanupQuiescent trail_gathered) fun quiescent => ?_
      cases quiescent with
      | false => exact triple_kept
      | true =>
        refine triple_checked fun gone hgone => ?_
        exact triple_bind (triple_quiescent hr (.intro hdead hgone))
          fun _ => triple_kept

theorem triple_unknown (res : RecoveryResult) : Triple (judgedRun r.id) (Found runs r res)
      (progressRecoveryUnknown unmarshal fuel r tail res) fun _ => Gathered runs [] := by
  cases res with
  | ambiguous => exact triple_done fun _ h => h.1
  | authenticated =>
    exact triple_pre (triple_gather undecided_adoptRun) (fun _ h => h.1)
  | supervisorDead ident text =>
    refine triple_extract (fun _ h => (h.2 ident text rfl).1) fun hidentity => ?_
    dsimp only [progressRecoveryUnknown]
    split
    · exact triple_done fun _ h => h.1
    · refine triple_pre (P := Checked (Gathered runs) [] (SupervisorDead r.id r) true)
        (triple_checked fun dead hdead => ?_) (fun _ h => (h.2 ident text rfl).2)
      refine triple_bind (triple_groupQuiescent trail_gathered hidentity) fun quiescent => ?_
      cases quiescent with
      | false => exact triple_kept
      | true =>
        refine triple_checked fun gone hgone => ?_
        rw [hidentity.supervisorPID, hidentity.supervisorPGID, hidentity.socketPath,
          hidentity.token]
        exact triple_quiescent hr (.intro hdead hgone)

/-! ### Recovery and ticks -/

theorem triple_resumeRun :
    Preserves (judgedRun r.id) (Gathered runs []) (resumeRun unmarshal fuel r tail) := by
  have hresume : Preserves (judgedRun r.id) (Gathered runs [])
      (resumeCleanup unmarshal fuel r tail) := by
    unfold resumeCleanup
    split
    · exact triple_cleanup hr
    · exact triple_kept
  refine triple_bind (triple_gather (undecided_mild (mild_cleanupIf ..))) fun _ => ?_
  refine triple_bind hresume fun tail' => ?_
  split
  · exact triple_gather undecided_start
  · exact triple_kept

theorem triple_recoverInspected (res : RecoveryResult) : Triple (judgedRun r.id) (Found runs r res)
      (recoverInspected unmarshal fuel r tail res) fun _ => Gathered runs [] := by
  unfold recoverInspected
  split
  · refine triple_pre (P := Gathered runs []) ?_ (fun _ h => h.1)
    refine triple_bind (triple_gather (asks_call trivial)) fun running => ?_
    exact triple_bind (triple_gather (undecided_mild (mild_cleanupIf ..)))
      fun _ => triple_kept
  · split
    · refine triple_bind (triple_unknown hr res) fun progressed => ?_
      match progressed with
      | (some text, tail) => exact triple_kept
      | (none, tail) =>
        exact triple_bind (triple_gather (undecided_mild (mild_cleanupIf ..)))
          fun _ => triple_kept
    · refine triple_pre (P := Gathered runs []) ?_ (fun _ h => h.1)
      split
      · exact triple_bind (triple_gather (undecided_mild (mild_rejectRecovery ..)))
          fun _ => triple_kept
      · exact triple_bind (triple_resumeRun hr) fun _ => triple_kept

theorem triple_recoverRun :
    Preserves (judgedRun r.id) (Gathered runs []) (recoverRun unmarshal fuel r tail) := by
  unfold recoverRun
  split
  · exact triple_kept
  · exact triple_bind triple_inspect fun res =>
      triple_recoverInspected hr res

end

/-- What the cancel request of a tick leaves on record: the inspection, if it made one. -/
def Inspected (runs : List Run) (r : Run) (inspected : Option RecoveryResult) (t : List Told) :
    Prop :=
  Gathered runs [] t ∧ ∀ res ∈ inspected, Found runs r res t

theorem Inspected.skip {inspected : Option RecoveryResult} (hc : Undecided c)
    (h : Inspected runs r inspected t) : Inspected runs r inspected (t ++ [saw id c a]) :=
  ⟨h.1.skip hc, fun res hres => (h.2 res hres).skip hc⟩

theorem triple_tickCancel : Triple (judgedRun r.id) (Gathered runs []) (tickCancel r)
    fun inspected => Inspected runs r inspected := by
  have hnone : Triple (judgedRun r.id) (Gathered runs []) (pure none)
      fun inspected => Inspected runs r inspected :=
    triple_done fun _ h => ⟨h, fun _ hres => nomatch hres⟩
  unfold tickCancel
  split
  · refine triple_bind (triple_gather (asks_call trivial)) fun running => ?_
    split
    · exact triple_bind (triple_gather (undecided_mild (mild_cleanup r))) fun _ => hnone
    · refine triple_bind triple_inspect fun res => ?_
      refine triple_bind (triple_overlook (fun _ h => h.1.1) (fun _ _ _ hc h => Found.skip hc h)
        (undecided_mild (mild_cleanupIf ..))) fun _ => ?_
      refine triple_done fun _ h => ⟨h.1, ?_⟩
      rintro _ ⟨⟩
      exact h
  · exact hnone

theorem triple_inspectAgain (inspected : Option RecoveryResult) :
    Triple (judgedRun r.id) (Inspected runs r inspected) (inspectRecoverySupervisor r)
      fun res => Found runs r (inspected.getD res) := by
  cases inspected with
  | none =>
    exact triple_pre triple_inspect (fun _ h => h.1)
  | some first =>
    refine triple_weaken (triple_overlook (fun _ h => h.1.1) (fun _ _ _ hc h => Inspected.skip hc h)
      (undecided_mild (mild_inspect r))) (fun _ h => h) fun _ _ h => ?_
    exact h.2 first rfl

theorem triple_tickRun (hr : r ∈ runs) :
    Preserves (judgedRun r.id) (Gathered runs []) (tickRun unmarshal fuel r tail) := by
  refine triple_bind triple_tickCancel fun inspected => ?_
  split
  · refine triple_bind (triple_inspectAgain inspected) fun res => ?_
    exact triple_bind (triple_unknown hr _) fun _ => triple_kept
  · have htail : Asks Undecided (tickTail unmarshal fuel r tail) := by
      unfold tickTail
      split
      · exact undecided_tail
      · exact asks_pure
    refine triple_pre (P := Gathered runs []) ?_ (fun _ h => h.1)
    refine triple_bind (triple_gather htail) fun tail' => ?_
    split
    · exact triple_bind (triple_cleanup hr) fun _ => triple_kept
    · exact triple_bind (triple_gather (undecided_mild (mild_tickUnreachable r)))
        fun _ => triple_kept

/-! ### The outbox -/

variable {cmd : Write}

/-- The first write is justified; all that follows decides nothing. -/
theorem triple_resolve (hcmd : ∀ t (a : RunAnswer (.write cmd)),
    Pending rows seen t → Justified t (saw id (.write cmd) a)) :
    Triple (judgedRun id) (Pending rows seen) (resolvePendingOutbox tail cmd)
      fun _ => Pending rows [] := by
  refine triple_bind (M := fun _ => Pending rows []) ?_ fun refused => ?_
  · refine triple_call (S := judgedRun id) stable_run (fun _ => stable_run) ?_
    rintro t a _ h rfl
    have hnext := always_snoc.mpr ⟨h.1, hcmd t a h⟩
    have hpend : Pending rows (seen ++ [saw id (.write cmd) a])
        (t ++ [saw id (.write cmd) a]) := ⟨hnext, h.2.ask⟩
    exact ⟨hnext, hpend.drop⟩
  · cases refused with
    | none => exact triple_kept
    | some e =>
      dsimp only
      split
      · exact triple_kept
      · refine triple_bind (trail_pending.pass (asks_call trivial)) fun found => ?_
        split <;> exact triple_kept

/-- The record of a row's authority. -/
def authorityOf (row : OutboxRow) (r : Run) (ident : Identity) : List Told :=
  [saw row.runID .getRun (.ok r), saw row.runID (.readIdentity r.identityPath) (.ok ident)]

theorem triple_deadOutbox (hrow : row ∈ rows) (hmatches : RowMatches row r)
    (hidentity : IdentityMatches r ident) (hdead : SupervisorDead row.runID r dead) :
    Triple (judgedRun row.runID) (Pending rows (authorityOf row r ident ++ dead))
      (reconcileConfirmedDeadOutbox row tail ident) fun _ => Pending rows [] := by
  refine triple_bind (triple_groupQuiescent trail_pending hidentity) fun quiescent => ?_
  cases quiescent with
  | false => exact triple_kept
  | true =>
    refine triple_checked fun gone hgone => ?_
    refine triple_bind (triple_resolve fun t a h => ?_) fun _ => triple_kept
    rw [append_assoc] at h
    exact ⟨rows, row, _, hrow, rfl, h.2, .intro hmatches (.intro hdead hgone)⟩

theorem triple_sendSupervisorCmd (hP : Trail id P) {socketPath token cmd : String} :
    Triple (judgedRun id) (P seen) (sendSupervisorCmd socketPath token cmd) fun res t =>
      match res with
      | .ok resp => P (seen ++ [saw id (.sendSupervisorCmd socketPath token cmd) (.ok resp)]) t
      | .error _ => P [] t := by
  unfold sendSupervisorCmd
  repeat' split
  · exact triple_done fun _ h => hP.drop h
  · exact triple_done fun _ h => hP.drop h
  · exact triple_done fun _ h => hP.drop h
  · refine triple_weaken (hP.observe trivial) (fun _ h => h) fun res t h => ?_
    cases res with
    | error e => exact hP.drop h
    | ok resp => exact h

section

variable (hrow : row ∈ rows) (hmatches : RowMatches row r) (hidentity : IdentityMatches r ident)
include hrow hmatches hidentity

theorem triple_byCommand {alive : List Told} (halive : SupervisorAlive row.runID r alive) :
    Triple (judgedRun row.runID) (Pending rows (authorityOf row r ident ++ alive))
      (finalizeByCommand row r ident tail) fun _ => Pending rows [] := by
  unfold finalizeByCommand
  rw [hidentity.socketPath, hidentity.token]
  refine triple_bind (triple_sendSupervisorCmd trail_pending) fun res => ?_
  cases res with
  | error e => exact triple_kept
  | ok resp =>
    dsimp only
    split
    · exact trail_pending.done
    next hvalid =>
      have hreply : ReplyMatches row r resp :=
        replyMatches_of_valid (Option.not_isSome_iff_eq_none.mp hvalid)
      refine triple_bind (triple_resolve fun t a h => ?_) fun _ => triple_kept
      exact ⟨rows, row, _, hrow, rfl, h.2, .intro hmatches halive hreply⟩

theorem triple_reconcileAuthorized :
    Triple (judgedRun row.runID) (Pending rows (authorityOf row r ident))
      (reconcileAuthorized row r ident tail) fun _ => Pending rows [] := by
  unfold reconcileAuthorized
  rw [hidentity.supervisorPID]
  refine triple_bind (trail_pending.observe trivial) fun status => ?_
  match status with
  | (true, true) => exact triple_deadOutbox hrow hmatches hidentity .exited
  | (true, false) => exact triple_byCommand hrow hmatches hidentity .child
  | (false, exited) =>
    refine triple_bind (trail_pending.observe trivial) fun alive => ?_
    rw [append_assoc]
    cases alive with
    | true => exact triple_byCommand hrow hmatches hidentity (.process exited)
    | false => exact triple_deadOutbox hrow hmatches hidentity (.absent exited)

end

theorem triple_reconcileRow (hrow : row ∈ rows) :
    Preserves (judgedRun row.runID) (Pending rows []) (reconcileRow row tail) := by
  refine triple_bind (trail_pending.observe trivial) fun found => ?_
  cases found with
  | error e => exact trail_pending.done
  | ok r =>
    refine triple_bind (triple_readIdentity trail_pending) fun res => ?_
    cases res with
    | error text => exact triple_kept
    | ok ident =>
      refine triple_extract (fun _ h => h.1) fun hidentity => ?_
      dsimp only
      split
      · exact triple_done fun _ h => h.2.drop
      next hvalid =>
        have hmatches : RowMatches row r :=
          rowMatches_of_authority (Option.not_isSome_iff_eq_none.mp hvalid)
        exact triple_pre (triple_reconcileAuthorized hrow hmatches hidentity) (fun _ h => h.2)

/-! ### The whole daemon -/

theorem triple_same {Q : List Told → Prop} {a : α} : Preserves judged Q (pure a) :=
  triple_pure stable_judged fun _ h => h

theorem triple_forEach_same {β : Type} {key : β → String} {Q : List Told → Prop}
    {body : β → Option Tail → RunProg (Option String × Option Tail)} {items : List β}
    (hbody : ∀ x ∈ items, ∀ tail, Preserves (judgedRun (key x)) Q (body x tail))
    (tails : Tails) : Preserves judged Q (forEach key body items tails) := by
  induction items generalizing tails with
  | nil => exact triple_same
  | cons x items ih =>
    refine triple_bind (triple_lift (hbody x mem_cons_self _)) fun res => ?_
    match res with
    | (some text, tail) => exact triple_same
    | (none, tail) => exact ih (fun y hy => hbody y (mem_cons_of_mem x hy)) _

variable {q : Question}

theorem triple_list {M : QuestionAnswer q → List Told → Prop} (hq : ∀ t a, Justified t ⟨q, a⟩)
    (hM : ∀ t a, Always Justified (t ++ [⟨q, a⟩]) → M a (t ++ [⟨q, a⟩])) :
    Triple judged (Always Justified) (ask q) M := by
  refine triple_call stable_judged (fun _ => stable_judged) ?_
  rintro t a _ h rfl
  have hnext := always_snoc.mpr ⟨h, hq t a⟩
  exact ⟨hnext, hM t a hnext⟩

variable (tails : Tails)

theorem triple_pending : Preserves judged (Always Justified) (reconcilePendingOutbox tails) := by
  refine triple_bind (M := fun listed t => Always Justified t ∧ ∀ rows, listed = .ok rows →
    Pending rows [] t) (triple_list (fun _ _ => trivial) ?_) fun listed => ?_
  · intro t a h
    refine ⟨h, ?_⟩
    rintro rows rfl
    exact ⟨h, t, [], by simp, by simp⟩
  · cases listed with
    | error e => exact triple_pure stable_judged fun _ h => h.1
    | ok rows =>
      exact triple_weaken (triple_forEach_same (fun _ hrow _ => triple_reconcileRow hrow) tails)
        (fun _ h => h.2 rows rfl) fun _ _ h => h.1

theorem triple_listed {body : Run → Option Tail → RunProg (Option String × Option Tail)}
    (hbody : ∀ r ∈ runs, ∀ tail, Preserves (judgedRun r.id) (Gathered runs []) (body r tail))
    (tails : Tails) :
    Triple judged (Gathered runs []) (forEach Run.id body runs tails) fun _ => Always Justified :=
  triple_weaken (triple_forEach_same hbody tails) (fun _ h => h) fun _ _ h => h.1

theorem triple_activeRuns : Triple judged (Always Justified) (ask .listActiveRuns)
    fun listed t => Always Justified t ∧ ∀ runs, listed = .ok runs → Gathered runs [] t := by
  refine triple_list (fun _ _ => trivial) fun t a h => ⟨h, ?_⟩
  rintro runs rfl
  exact ⟨h, t, [], rfl, by simp, nil_sublist _⟩

theorem triple_recover : Preserves judged (Always Justified) (recover unmarshal fuel tails) := by
  refine triple_bind (triple_pending tails) fun reconciled => ?_
  match reconciled with
  | (some text, tails) => exact triple_same
  | (none, tails) =>
    refine triple_bind triple_activeRuns fun listed => ?_
    cases listed with
    | error e => exact triple_pure stable_judged fun _ h => h.1
    | ok runs =>
      exact triple_pre (triple_listed (fun _ hr _ => triple_recoverRun hr) tails)
        (fun _ h => h.2 runs rfl)

theorem triple_locals : Preserves judged (Always Justified) (finalizeLocalSupervisors tails) := by
  have hbody : ∀ (id : String) (tail : Option Tail), Preserves (judgedRun id) (Always Justified)
      (finalizeLocalSupervisor tail) := by
    intro id tail
    refine triple_overlook (fun _ h => h) (fun _ _ _ hc h => always_undecided h hc) ?_
    unfold finalizeLocalSupervisor
    repeat' first
      | split
      | exact asks_pure
      | refine asks_then trivial fun _ => ?_
  refine triple_bind (triple_list (fun _ _ => trivial) fun _ _ h => h) fun exited => ?_
  refine triple_bind (triple_forEach_same (fun id _ tail => hbody id tail) tails) fun res => ?_
  exact triple_same

theorem triple_tick : Preserves judged (Always Justified) (tick unmarshal fuel tails) := by
  refine triple_bind triple_activeRuns fun listed => ?_
  cases listed with
  | error e => exact triple_pure stable_judged fun _ h => h.1
  | ok runs =>
    refine triple_bind (triple_pre (triple_listed (fun _ hr _ => triple_tickRun hr) _)
      (fun _ h => h.2 runs rfl)) fun ticked => ?_
    refine triple_bind (triple_pending _) fun reconciled => ?_
    match reconciled with
    | (some text, tails) => exact triple_same
    | (none, tails) => exact triple_locals tails

theorem triple_engine : Preserves judged (Always Justified) (engine unmarshal fuel) := by
  refine triple_bind (triple_recover _) fun recovered => ?_
  match recovered with
  | (some text, tails) => exact triple_same
  | (none, tails) =>
    refine triple_loop (fun _ : Tails => Always Justified) (fun tails => ?_) fuel tails
    refine triple_bind (triple_list (fun _ _ => trivial) fun _ _ h => h) fun ticked => ?_
    cases ticked with
    | false => exact triple_pure stable_judged fun _ h => h
    | true =>
      exact triple_bind (triple_tick tails) fun tails' => triple_pure stable_judged fun _ h => h

/-! ### What the decisions do -/

/-- A question that decides about the run or its outbox row. -/
def Decides (id : String) (q : Question) : Prop :=
  (∃ target reason outbox, q = .about id (.write (.commitTerminal target reason outbox))) ∨
    q = .about id (.write .acknowledgeOutbox) ∨
    ∃ diagnostic, q = .about id (.write (.abandonOutbox diagnostic))

theorem runStep_undecided {id' now : String} {v v' : RunView}
    (h : RunStep id (cmd.op id' now) v v') :
    (((∃ run, v'.run = some run ∧ isTerminal run.state = true) →
        ∃ run, v.run = some run ∧ isTerminal run.state = true) ∧ v'.outbox = v.outbox) ∨
      Decides id (.about id' (.write cmd)) := by
  cases cmd with
  | transition =>
    cases h with
    | transition hrun hid htarget =>
      refine .inl ⟨?_, rfl⟩
      rintro ⟨run, ⟨⟩, hterm⟩
      exact absurd hterm (by simp [transitionRun, htarget])
    | resolveOutbox hop => simp [Write.op] at hop
  | sealTranscript | appendEvent | advanceTranscriptConsumed off | accountMalformed off =>
    cases h
    case resolveOutbox hop => simp [Write.op] at hop
    all_goals
      refine .inl ⟨?_, rfl⟩
      rintro ⟨run, ⟨⟩, hterm⟩
      rename_i hrun
      exact ⟨_, hrun, hterm⟩
  | commitTerminal =>
    cases h with
    | commitTerminal => exact .inr (.inl ⟨_, _, _, rfl⟩)
    | resolveOutbox hop => simp [Write.op] at hop
  | acknowledgeOutbox =>
    cases h with
    | resolveOutbox hop =>
      obtain ⟨rfl, -⟩ : id' = id ∧ True := by simpa [Write.op] using hop
      exact .inr (.inr (.inl rfl))
  | abandonOutbox diagnostic =>
    cases h with
    | resolveOutbox hop =>
      obtain ⟨rfl, -⟩ : id' = id ∧ True := by simpa [Write.op] using hop
      exact .inr (.inr (.inr ⟨diagnostic, rfl⟩))

/-- Everything else the daemon does leaves the run's end and its outbox row as they are. -/
theorem unchanged_or_decides {w w' : World} {a : QuestionAnswer q}
    (hs : daemonSem w q a w') (id : String) :
    ((Ended id w' → Ended id w) ∧ w'.db.outboxOf id = w.db.outboxOf id) ∨ Decides id q := by
  rcases daemonSem_cases hs with rfl | ⟨id', cmd, now, rfl, -, rfl⟩
  · exact .inl ⟨fun h => h, rfl⟩
  · simp only [Ended, wrote_db]
    rcases exec_view w.db (cmd.op id' now) id with hsame | ⟨-, hstep⟩
    · have hrun : (exec w.db (cmd.op id' now)).1.getRun id = w.db.getRun id :=
        congrArg RunView.run hsame
      exact .inl ⟨fun h => hrun ▸ h, congrArg RunView.outbox hsame⟩
    · exact runStep_undecided hstep

/-- Over all histories of the daemon, whatever it is told and wherever it is restarted, what
it does is justified by what it saw; and a run ends, or its outbox row changes, through the
decisions only. -/
theorem decisions_justified (h : History unmarshal fuel t) : Always Justified t ∧
    ∀ (w w' : World) (q : Question) (a : QuestionAnswer q), daemonSem w q a w' → ∀ id,
      ((Ended id w' → Ended id w) ∧ w'.db.outboxOf id = w.db.outboxOf id) ∨ Decides id q := by
  obtain ⟨_, hreach⟩ := h
  have hboot : Triple judged judged.inv (engine unmarshal fuel) fun _ => Always Justified :=
    triple_engine
  exact ⟨inv_of_reach hboot stable_judged always_nil hreach,
    fun w w' q a hs id => unchanged_or_decides hs id⟩

theorem history_follow (answer : (q : Question) → QuestionAnswer q) (n : Nat) :
    History unmarshal fuel (follow answer n (engine unmarshal fuel)).1 :=
  ⟨_, reach_runs .start (runs_follow answer n _)⟩

/-- The ambiguous run whose supervisor, worker and group are gone. -/
def lostRun : Run :=
  { newRun "r" "p" "w" demoSpec "t0" with
    state := .recoveryUnknown
    supervisorPID := 10
    supervisorPGID := 11
    workerPID := 11
    transcriptIdentity := ⟨1, 1⟩ }

def lostAnswer : (q : Question) → QuestionAnswer q
  | .about _ (.processAlive _) => false
  | .about _ (.groupMembers _) => .ok []
  | .about _ .getTranscriptProgress => .ok { consumedOffset := 5, finalSize := 5 }
  | .about _ c => demoOracle 5 c
  | .listActiveRuns => .ok [lostRun]
  | .listPendingOutbox => .ok []
  | .exitedSupervisors => []
  | .nextTick => false

/-- The daemon boots, finds the run lost and commits it as failed. -/
theorem decisions_justified_lost : ∃ t : List Told,
    t.getLast? = some (saw "r" (.write (.commitTerminal .failed recoveryQuiescentFailureReason
      (failedOutbox lostRun 10 11 "/s" "k"))) none) ∧ Always Justified t :=
  ⟨(follow lostAnswer 19 (engine (fun _ => none) 1)).1, rfl,
    (decisions_justified (history_follow lostAnswer 19)).1⟩

/-- A run that needs no transcript is published, and its supervisor commits it as failed. -/
def bareStore : DB :=
  Machine.run exec {} [.createProject "p", .createWorkstream "w" "p",
      .createRun "r" "p" "w" { demoSpec with transcriptRequired := false } "t0",
      .setRunSupervisor "r" 10 11 11 "t1",
      .transition "r" .running "worker authority published" "t2",
      .commitTerminal "r" .failed "worker exited with code 1" "t3"
        { runID := "r", terminalState := .failed, supervisorPID := 10, supervisorPGID := 11
          socketPath := "/s", token := "k" }]

/-- The supervisor's reply to the finalize command, with a transcript of its own. -/
def bareReply : SupCmdResponse := { demoReply with state := .failed, transcriptInode := 9 }

def bareAnswer : (q : Question) → QuestionAnswer q
  | .about id .getRun => match bareStore.getRun id with
    | some r => .ok r
    | none => .error (.store .runNotFound)
  | .about _ (.readIdentity _) => .ok { demoIdentity with transcriptIdentity := {} }
  | .about _ (.sendSupervisorCmd _ _ _) => .ok bareReply
  | .about _ c => demoOracle 0 c
  | .listActiveRuns => .ok bareStore.listActiveRuns
  | .listPendingOutbox => .ok bareStore.listPendingOutbox
  | .exitedSupervisors => []
  | .nextTick => false

/-- The row of a run that needs no transcript is acknowledged on a reply about another one. -/
theorem acknowledged_other_transcript : ∃ t r row, History (fun _ => none) 1 t ∧
    bareStore.getRun "r" = some r ∧ bareStore.outboxOf "r" = [row] ∧
    t = [⟨.listPendingOutbox, .ok [row]⟩, saw "r" .getRun (.ok r),
      saw "r" (.readIdentity "/i") (.ok { demoIdentity with transcriptIdentity := {} }),
      saw "r" (.localSupervisorStatus 10) (false, false), saw "r" (.processAlive 10) true,
      saw "r" (.sendSupervisorCmd "/s" "k" "finalize") (.ok bareReply),
      saw "r" (.write .acknowledgeOutbox) none] ∧
    bareReply.transcriptInode ≠ r.transcriptIdentity.inode :=
  ⟨_, _, _, history_follow bareAnswer 7, rfl, rfl, rfl, by decide⟩

end Ananke.Lifecycle
