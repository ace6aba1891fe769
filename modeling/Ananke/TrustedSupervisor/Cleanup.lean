import Ananke.TrustedSupervisor.Finalization

/-! Recovery removes the directories that an interrupted execution left. -/
namespace Ananke.TrustedSupervisor

open Validation Text List

/-- The components of a cleaned absolute path. -/
def components (path : String) : List (List Char) := path.toList.splitOn '/'

/-- `filepath.Dir` -/
def dirOf (path : String) : String :=
  let above := String.ofList (['/'].intercalate (components path).dropLast)
  if above = "" then "/" else above

/-- `filepath.Base` -/
def baseOf (path : String) : String := String.ofList ((components path).getLastD [])

/-- A directory of an execution: three are made for each attempt, the others are shared. -/
inductive Directory
  | prompt (attempt : Int)
  | output (attempt : Int)
  | temporary (attempt : Int)
  | session
  | run
  | work

/-- Which directories exist. -/
abbrev Tree := Directory → Bool

section

variable {β : Type} (p : Primitives β) (intent : AuditExecutionIntent)
  (entry : ExecutionPolicyEntry)

/-- Where it is in the invocations that recovery derives. -/
def Directory.path : Directory → String
  | .prompt attempt => dirOf (auditAttemptPaths p intent entry attempt).promptPath
  | .output attempt => dirOf (auditAttemptPaths p intent entry attempt).outputPath
  | .temporary attempt => (auditAttemptPaths p intent entry attempt).temporaryPath
  | .session => (auditAttemptPaths p intent entry 1).sessionPath
  | .run => dirOf (auditAttemptPaths p intent entry 1).workPath
  | .work => (auditAttemptPaths p intent entry 1).workPath

/-- Removes what is at the path of the root or below. -/
def scrubAndRemoveAuditTree (root : Directory) (tree : Tree) : Tree := fun directory =>
  tree directory &&
    !(components (root.path p intent entry)).isPrefixOf (components (directory.path p intent entry))

def scrubAuditTrees (roots : List Directory) (tree : Tree) : Tree :=
  roots.foldl (fun tree root => scrubAndRemoveAuditTree p intent entry root tree) tree

/-- All of the roots exist, or none. -/
def auditCleanupRootSetPresent (tree : Tree) (roots : List Directory) : Except Err Bool := do
  require (.authentication "duplicate audit cleanup root")
    (roots.map (Directory.path p intent entry)).Nodup
  require (.authentication "partial audit cleanup roots")
    (roots.countP tree = 0 ∨ roots.countP tree = roots.length)
  pure (roots.countP tree = roots.length)

def validateAuditCleanupInvocation (attempt : Int) : Except Err Unit :=
  let runID := auditAttemptRunID intent attempt
  let place := Directory.path p intent entry
  require (.authentication "audit cleanup descriptor")
    (executionTaskIDPattern runID = true ∧ executionTaskIDPattern intent.runID = true ∧
      dirOf (place (.prompt attempt)) = entry.promptRoot ∧
      baseOf (place (.prompt attempt)) = runID ∧
      dirOf (place (.output attempt)) = entry.outputRoot ∧
      baseOf (place (.output attempt)) = runID ∧
      dirOf (place .session) = entry.sessionRoot ∧ baseOf (place .session) = intent.runID ∧
      dirOf (place (.temporary attempt)) = entry.temporaryRoot ∧
      baseOf (place (.temporary attempt)) = runID ∧ baseOf (place .work) = "source" ∧
      dirOf (place .run) = entry.workRoot)

/-- What is to be scrubbed, after all checks. -/
def cleanupRoots (attempt : Int) (tree : Tree) : Except Err (List Directory) := do
  validateAuditCleanupInvocation p intent entry attempt
  let transientPresent ← auditCleanupRootSetPresent p intent entry tree
    [.prompt attempt, .output attempt, .temporary attempt]
  if transientPresent then do
    require (.authentication "partial audit cleanup roots")
      (tree .session = true ∧ tree .run = true)
    pure [.prompt attempt, .output attempt, .session, .temporary attempt, .run]
  else pure [.session, .run]

variable (addon : Except Err Unit)

/-- `addon` is what `validateOMPNativeAddonIdentity` answers for the addon of the policy. -/
def cleanupAuditInvocationAll (attempt : Int) (tree : Tree) : Except Err Unit × Tree :=
  match cleanupRoots p intent entry attempt tree with
  | .error e => (.error e, tree)
  | .ok roots => (addon, scrubAuditTrees p intent entry roots tree)

/-- The loop over the attempts goes on after an error and returns the first. -/
def cleanupAttempts : List Int → Tree → Except Err Unit × Tree
  | [], tree => (.ok (), tree)
  | attempt :: attempts, tree =>
    let first := cleanupAuditInvocationAll p intent entry addon attempt tree
    let later := cleanupAttempts attempts first.2
    (first.1 >>= fun _ => later.1, later.2)

def cleanupRecoveredAuditExecution (evs : List AuditExecutionEvent) (tree : Tree) :
    Except Err Unit × Tree :=
  if ∃ last ∈ evs.getLast?, last.state = .finalizing ∨ last.state = .completed then
    (.error (.authentication "path-only recovery cannot authorize completion"), tree)
  else
    match deriveRecoveredAuditInvocations p intent evs entry with
    | .error e => (.error e, tree)
    | .ok invocations => cleanupAttempts p intent entry addon
      ((List.range invocations.length).map fun (i : Nat) => (i : Int) + 1) tree

def ExecutionPolicyEntry.roots : List String :=
  [entry.promptRoot, entry.outputRoot, entry.temporaryRoot, entry.sessionRoot, entry.workRoot]

/-- The roots of the policy are apart, and `filepath.Join` appends to them. -/
structure Placed : Prop where
  nonempty : ∀ root ∈ entry.roots, root ≠ ""
  join : ∀ root ∈ entry.roots, ∀ name, p.join [root, name] = root ++ "/" ++ name ∧
    ∀ file, p.join [root, name, file] = root ++ "/" ++ name ++ "/" ++ file
  apart : entry.roots.Pairwise fun a b =>
    ¬ components a <+: components b ∧ ¬ components b <+: components a

end

/-- What is left of an execution when its attempt `n` is prepared or running: the attempts before
have timed out and removed their own directories. -/
def left (n : Int) : Tree
  | .prompt attempt | .output attempt | .temporary attempt => attempt = n
  | .session | .run | .work => true

section

variable {root name a b x y : String}

theorem not_separator (h : executionTaskIDPattern name = true) : '/' ∉ name.toList := by
  unfold executionTaskIDPattern namePattern at h
  split at h
  · cases h
  next c rest hname =>
    simp only [Bool.and_eq_true, all_eq_true] at h
    rw [hname]
    intro hmem
    rcases mem_cons.mp hmem with rfl | hmem
    · exact absurd h.1.1.1 (by decide)
    · exact absurd (h.2 _ hmem) (by decide)

theorem components_child (h : '/' ∉ name.toList) :
    components (root ++ "/" ++ name) = components root ++ [name.toList] := by
  simp [components, splitOn_append_cons_self, splitOn_eq_singleton h]

theorem dirOf_child (h : '/' ∉ name.toList) (hroot : root ≠ "") :
    dirOf (root ++ "/" ++ name) = root := by
  rw [dirOf, components_child h, dropLast_concat, components, intercalate_splitOn]
  simp [hroot]

theorem baseOf_child (h : '/' ∉ name.toList) : baseOf (root ++ "/" ++ name) = name := by
  simp [baseOf, components_child h]

/-- Nothing under one of two roots that are apart lies under what is under the other. -/
theorem not_below (h : ¬ components a <+: components b ∧ ¬ components b <+: components a) :
    (components (a ++ "/" ++ x)).isPrefixOf (components (b ++ "/" ++ y)) = false := by
  have happend (root name : String) :
      components (root ++ "/" ++ name) = components root ++ components name := by
    simp [components, splitOn_append_cons_self]
  rw [Bool.eq_false_iff, Ne, isPrefixOf_iff_prefix, happend, happend]
  intro hbelow
  rcases prefix_or_prefix_of_prefix ((prefix_append _ _).trans hbelow) (prefix_append _ _) with
    hab | hba
  · exact h.1 hab
  · exact h.2 hba

end

section

variable {β : Type} {p : Primitives β} {intent : AuditExecutionIntent}
  {entry : ExecutionPolicyEntry} {addon : Except Err Unit} {k n : Int} {tree : Tree}
  {roots : List Directory}

theorem scrubAll_le (roots : List Directory) {directory : Directory} (h : tree directory = false) :
    scrubAuditTrees p intent entry roots tree directory = false := by
  induction roots generalizing tree with
  | nil => exact h
  | cons root roots ih => exact ih (by simp [scrubAndRemoveAuditTree, h])

theorem scrubAll_gone (root : Directory) {directory : Directory} (hroot : root ∈ roots)
    (hbelow :
      components (root.path p intent entry) <+: components (directory.path p intent entry)) :
    scrubAuditTrees p intent entry roots tree directory = false := by
  induction roots generalizing tree with
  | nil => cases hroot
  | cons root' roots ih =>
    rcases mem_cons.mp hroot with rfl | hroot
    · exact scrubAll_le roots (by simp [scrubAndRemoveAuditTree, hbelow])
    · exact ih hroot

theorem cleanupAll_eq_ok (h : (cleanupAuditInvocationAll p intent entry addon k tree).1 = .ok ()) :
    addon = .ok () ∧ ∃ roots, cleanupRoots p intent entry k tree = .ok roots ∧
      (cleanupAuditInvocationAll p intent entry addon k tree).2 =
        scrubAuditTrees p intent entry roots tree := by
  cases hroots : cleanupRoots p intent entry k tree with
  | error e => simp [cleanupAuditInvocationAll, hroots] at h
  | ok roots =>
    simp only [cleanupAuditInvocationAll, hroots] at h ⊢
    exact ⟨h, roots, rfl, rfl⟩

theorem cleanupRoots_eq_ok (h : cleanupRoots p intent entry k tree = .ok roots) :
    executionTaskIDPattern (auditAttemptRunID intent k) = true ∧
      (tree (.prompt k) = false ∧ roots = [.session, .run] ∨
        tree (.prompt k) = true ∧ tree .session = true) := by
  simp only [cleanupRoots, validateAuditCleanupInvocation, auditCleanupRootSetPresent, ok_iff] at h
  obtain ⟨-, ⟨hname, -⟩, _, ⟨-, -, -, hall, rfl⟩, h⟩ := h
  refine ⟨hname, ?_⟩
  split at h
  next hpresent =>
    simp only [decide_eq_true_eq, countP_eq_length, forall_mem_cons] at hpresent
    exact .inr ⟨hpresent.1, (guard_eq_ok.mp h).1.1⟩
  next hpresent =>
    cases h
    have hzero := hall.resolve_right (by simpa using hpresent)
    simp only [countP_eq_zero, forall_mem_cons, Bool.not_eq_true] at hzero
    exact .inl ⟨hzero.1, rfl⟩

section

variable {name : String} (hp : Placed p entry)
  (hrun : executionTaskIDPattern intent.runID = true)
include hp

theorem path_eq : Directory.path p intent entry = fun
    | .prompt k => entry.promptRoot ++ "/" ++ auditAttemptRunID intent k
    | .output k => entry.outputRoot ++ "/" ++ auditAttemptRunID intent k
    | .temporary k => entry.temporaryRoot ++ "/" ++ auditAttemptRunID intent k
    | .session => entry.sessionRoot ++ "/" ++ intent.runID
    | .run => entry.workRoot ++ "/" ++ intent.runID
    | .work => entry.workRoot ++ "/" ++ intent.runID ++ "/" ++ "source" := by
  have hjoin : ∀ root ∈ entry.roots, _ := hp.join
  simp only [ExecutionPolicyEntry.roots, forall_mem_cons] at hjoin
  obtain ⟨hprompt, houtput, htemporary, hsession, hwork, -⟩ := hjoin
  have hdir (root name file : String) (hfile : '/' ∉ file.toList) :
      dirOf (root ++ "/" ++ name ++ "/" ++ file) = root ++ "/" ++ name :=
    dirOf_child hfile fun h => by simpa using congrArg String.toList h
  funext directory
  cases directory <;> simp only [Directory.path, auditAttemptPaths, (hprompt _).2, (houtput _).2,
    (htemporary _).1, (hsession _).1, (hwork _).2]
  all_goals exact hdir _ _ _ (by decide)

theorem nodup_children (h : '/' ∉ name.toList) :
    (entry.roots.map (· ++ "/" ++ name)).Nodup := by
  have hdir (root : String) (hroot : root ∈ entry.roots) :=
    dirOf_child h (hp.nonempty root hroot)
  refine Nodup.map_on ?_ ?_
  · intro a ha b hb he
    rw [← hdir a ha, he, hdir b hb]
  · exact hp.apart.imp fun {a b} hab (he : a = b) => hab.1 (he ▸ prefix_rfl)

/-- Once the shared directories are gone, the attempt whose own are there cannot be cleaned up. -/
theorem cleanupAttempts_fails (attempts : List Int) (h : ∀ k ∈ attempts, tree (.prompt k) = false)
    (hprompt : tree (.prompt n) = true) (hfirst : attempts = [] → tree .session = false) :
    (cleanupAttempts p intent entry addon (attempts ++ [n]) tree).1 ≠ .ok () := by
  induction attempts generalizing tree with
  | nil =>
    intro hok
    obtain ⟨_, hlast, -⟩ := bind_eq_ok.mp hok
    obtain ⟨-, _, hroots, -⟩ := cleanupAll_eq_ok hlast
    obtain ⟨-, ⟨hnone, -⟩ | ⟨-, hsession⟩⟩ := cleanupRoots_eq_ok hroots
    · simp [hprompt] at hnone
    · simp [hfirst rfl] at hsession
  | cons k attempts ih =>
    intro hok
    obtain ⟨_, hstep, hlater⟩ := bind_eq_ok.mp hok
    obtain ⟨-, _, hroots, htree⟩ := cleanupAll_eq_ok hstep
    obtain ⟨hk, hrest⟩ := forall_mem_cons.mp h
    obtain ⟨-, ⟨-, rfl⟩ | ⟨hsome, -⟩⟩ := cleanupRoots_eq_ok hroots
    · rw [htree] at hlater
      refine ih (fun k' hk' => scrubAll_le _ (hrest k' hk')) ?_ (fun _ => ?_) hlater
      · -- the prompt lies under another root of the policy than the two that are scrubbed
        have hapart : entry.roots.Pairwise _ := hp.apart
        simp only [ExecutionPolicyEntry.roots, pairwise_cons, forall_mem_cons] at hapart
        obtain ⟨⟨-, -, hsession, hwork, -⟩, -⟩ := hapart
        simp [scrubAuditTrees, scrubAndRemoveAuditTree, path_eq hp, hprompt,
          not_below hsession.symm, not_below hwork.symm]
      · exact scrubAll_gone .session mem_cons_self prefix_rfl
    · simp [hk] at hsome

include hrun

theorem validateCleanup_ok (hname : executionTaskIDPattern (auditAttemptRunID intent k) = true) :
    validateAuditCleanupInvocation p intent entry k = .ok () := by
  have hne : ∀ root ∈ entry.roots, root ≠ "" := hp.nonempty
  simp only [ExecutionPolicyEntry.roots, forall_mem_cons] at hne
  obtain ⟨hprompt, houtput, htemporary, hsession, hwork, -⟩ := hne
  have hchild := not_separator hname
  have hchild' := not_separator hrun
  rw [validateAuditCleanupInvocation, path_eq hp]
  exact require_of ⟨hname, hrun, dirOf_child hchild hprompt, baseOf_child hchild,
    dirOf_child hchild houtput, baseOf_child hchild, dirOf_child hchild' hsession,
    baseOf_child hchild', dirOf_child hchild htemporary, baseOf_child hchild,
    baseOf_child (by decide), dirOf_child hchild' hwork⟩

theorem cleanup_first (hname : executionTaskIDPattern (auditAttemptRunID intent 1) = true) :
    cleanupAuditInvocationAll p intent entry (.ok ()) 1 (left 1) = (.ok (), fun _ => false) := by
  have hpresent : auditCleanupRootSetPresent p intent entry (left 1)
      [.prompt 1, .output 1, .temporary 1] = .ok true := by
    have hne := nodup_children hp (not_separator hname)
    simp only [auditCleanupRootSetPresent, ok_iff, path_eq hp]
    refine ⟨(), hne.sublist ?_, (), .inr rfl, rfl⟩
    simp [ExecutionPolicyEntry.roots]
  have hroots : cleanupRoots p intent entry 1 (left 1) =
      .ok [.prompt 1, .output 1, .session, .temporary 1, .run] := by
    rw [cleanupRoots, validateCleanup_ok hp hrun hname, ok_bind, hpresent]
    rfl
  have hwork : components (Directory.path p intent entry .run) <+:
      components (Directory.path p intent entry .work) := by
    simp only [path_eq hp]
    rw [components_child (show '/' ∉ "source".toList by decide)]
    exact prefix_append _ _
  simp only [cleanupAuditInvocationAll, hroots, Prod.mk.injEq, true_and]
  funext directory
  cases directory with
  | work => exact scrubAll_gone .run (by simp) hwork
  | session => exact scrubAll_gone .session (by simp) prefix_rfl
  | run => exact scrubAll_gone .run (by simp) prefix_rfl
  | prompt k | output k | temporary k =>
    by_cases hk : k = 1
    · subst hk
      exact scrubAll_gone _ (by simp) prefix_rfl
    · exact scrubAll_le _ (by simp [left, hk])

end

section

variable {auth : AuditJournalAuthority} {evs : List AuditExecutionEvent}
  {last : AuditExecutionEvent}

theorem cleanupRecovered_eq (hv : Accepted p auth intent evs)
    (hr : auth.resolveIntent intent = .ok entry) (hl : evs.getLast? = some last)
    (hs : last.state = .prepared ∨ last.state = .running) : ∃ m : Nat, last.attempt = m + 1 ∧
    cleanupRecoveredAuditExecution p intent entry addon evs tree = cleanupAttempts p intent entry
      addon ((List.range m).map (fun (i : Nat) => (i : Int) + 1) ++ [last.attempt]) tree := by
  obtain ⟨_, _, _, _, _, _, _⟩ := policyBound_of_mem hv hr (mem_of_getLast? hl)
  have hpaths : ∀ ev ∈ evs, validAuditExecutionEventPaths p intent entry ev := by
    intro ev hevent
    obtain ⟨_, _, _, _, _, _, _, _, _, _, _, _, hpath⟩ := policyBound_of_mem hv hr hevent
    exact hpath
  obtain ⟨m, hm⟩ : ∃ m : Nat, last.attempt = m + 1 := ⟨(last.attempt - 1).toNat, by omega⟩
  have hopen : ¬ ∃ e ∈ evs.getLast?, e.state = .finalizing ∨ e.state = .completed := by
    rcases hs with hs | hs <;> simp [hl, hs]
  have hlast : (lastAttempt evs).toNat = m + 1 := by
    simp [lastAttempt, hl, hm]
  refine ⟨m, hm, ?_⟩
  rw [cleanupRecoveredAuditExecution, if_neg hopen, deriveRecoveredAuditInvocations,
    require_of hpaths, hm]
  simp [hlast, range_succ]

end

end

section instances

open Instance

theorem placed_entry : Placed prims entry where
  nonempty := by decide
  join _ _ _ := ⟨rfl, fun _ => rfl⟩
  apart := by decide

/-- The invocation that resumes the session after the timeout. -/
def secondInvocation : AuditInvocation :=
  ⟨sha (checksum (auditPromptSHA256 prims true ++ intent.runID)),
    auditPromptSHA256 prims true, intent.runID, ⟨observation.sessionUUID, true⟩⟩

def preparedAgain : AuditExecutionEvent :=
  (newInvocationEvent prims intent story₃ .prepared 2 secondInvocation 4).withPaths
    (auditAttemptPaths prims intent entry 2)

/-- The second attempt has been prepared. -/
def story₄ : List AuditExecutionEvent :=
  story₃ ++ [authority.stored prims preparedAgain]

theorem valid_story₄ : validateAuditExecutionHistory prims authority intent story₄ = .ok () := by
  have hframed : Framed prims intent entry story₃ 2 secondInvocation 4
      preparedAgain := ⟨rfl, rfl, rfl, rfl, rfl, rfl, rfl, rfl, fun _ => rfl⟩
  have hdesc : Descriptor prims intent entry 2 secondInvocation := by
    refine ⟨rfl, rfl, rfl, pattern_sha _, .inr ?_, fun _ => ?_, ⟨by decide, le_refl _⟩, ?_⟩
    all_goals decide
  refine hframed.extends lawful signs valid_story₃ resolve_intent hdesc (createdAt_le 4)
    ⟨⟨rfl, rfl, rfl, rfl, rfl⟩, rfl, rfl, rfl, rfl⟩ ?_ ?_ (processTimes_of_none rfl rfl)
    (evidence_of_none ⟨nofun, nofun⟩ ⟨rfl, rfl, rfl, rfl, rfl⟩)
  · simp [HashesValid, preparedAgain, newInvocationEvent, newEvent, bindAuditEventInvocation,
      AuditExecutionEvent.withPaths]
  · have hretry : checkSuccessor prims (authority.stored prims timedOut) preparedAgain = .ok () :=
      successor_of_retry (clock_le (m := 3) (n := 4) (by decide)) rfl (by decide) rfl rfl
    exact hretry

end instances

end Ananke.TrustedSupervisor
