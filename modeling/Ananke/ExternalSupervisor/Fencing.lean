import Ananke.ExternalSupervisor.Instance

/-! Fencing of the handoffs: what is bound to a fence that was replaced is refused with it. -/
namespace Ananke.ExternalSupervisor

open Launch Validation Relational Machine

theorem perform_refused_or_ok {β κ α : Type} (s : Store β) (commits : Bool)
    (before : Except Err (Stage κ α)) (after : κ → Except Err (α × Option (Store β))) :
    (∃ e, perform s commits before after = ⟨s, .error e, none⟩) ∨ ∃ stage, before = .ok stage := by
  cases before with
  | error e => exact .inl ⟨e, rfl⟩
  | ok stage => exact .inr ⟨stage, rfl⟩

variable {β : Type} [DecidableEq β] {p : Primitives β} {s s' : Store β} {op : Op}
  {handoffID : String} {now : Int} {handoff : Handoff} {fence : LaunchFence}

theorem moves_of_writes (h : Writes p s op s') : Moves s.launch s'.launch := by
  cases h with
  | launch op commits => exact exec_moves p.toPrimitives s.launch (op, commits)
  | _ => exact .stay rfl rfl

theorem fenced_run (p : Primitives β) (ops : List (Op × Bool)) :
    Fenced (run (exec p) {} ops).launch :=
  invariant_run (I := fun s : Store β => Fenced s.launch)
    (fun s op h => h.moves (moves_of_writes (exec_writes p s op))) fenced_empty

theorem retired_run (ops : List (Op × Bool)) (hfenced : Fenced s.launch)
    (h : Retired s.launch fence) :
    Fenced (run (exec p) s ops).launch ∧ Retired (run (exec p) s ops).launch fence := by
  refine invariant_run (I := fun s : Store β => Fenced s.launch ∧ Retired s.launch fence) ?_
    ⟨hfenced, h⟩
  rintro s op ⟨hfenced, h⟩
  have hmoves := moves_of_writes (exec_writes p s op)
  exact ⟨hfenced.moves hmoves, h.moves hfenced hmoves⟩

/-- The handoff that an operation is about. -/
def Op.about : Op → Option String
  | .launch _ | .stage _ _ _ => none
  | .deliver handoffID _ _ _ => some handoffID
  | .reconcile handoffID _ _ _ => some handoffID
  | .cancel cancellation _ _ _ _ => some cancellation.handoffID
  | .accept authenticated _ _ _ => some authenticated.cancellation.handoffID

/-- The operation failed, left everything as it was and called nothing. -/
def Refused (p : Primitives β) (s : Store β) (op : Op × Bool) : Prop :=
  ∃ e, exec p s op = (s, ⟨.error e, none⟩)

variable {commits : Bool}

/-- An operation on a handoff is refused unless the handoff is admitted. -/
theorem refused_or_admitted {op : Op} (h : op.about = some handoffID) : Refused p s (op, commits) ∨
      ∃ now handoff, loadAuthenticatedHandoffAdmission p s handoffID now = .ok handoff := by
  cases op with
  | launch => cases h
  | stage => cases h
  | deliver id authn call now | reconcile id authn call now =>
    cases h
    simp only [Refused, exec, deliverAndPersistExternalSupervisorReceipt,
      reconcileAndPersistExternalSupervisorCallback]
    split
    next authn call =>
      rcases perform_refused_or_ok s commits _ _ with ⟨e, he⟩ | ⟨stage, hstage⟩
      · exact .inl ⟨e, by rw [he]; rfl⟩
      · simp only [bind_eq_ok] at hstage
        obtain ⟨handoff, hadm, -⟩ := hstage
        exact .inr ⟨now, handoff, hadm⟩
    · exact .inl ⟨_, rfl⟩
  | cancel req fence authn cancel now =>
    cases h
    simp only [Refused, exec]
    unfold cancelAndPersistExternalSupervisorCancellation
    split
    next authn cancel =>
      rcases perform_refused_or_ok s commits _ _ with ⟨e, he⟩ | ⟨stage, hstage⟩
      · exact .inl ⟨e, by rw [he]; rfl⟩
      · simp only [bind_eq_ok] at hstage
        obtain ⟨-, -, handoff, hadm, -⟩ := hstage
        exact .inr ⟨now, handoff, (loadFenced_eq_ok hadm).1⟩
    · exact .inl ⟨_, rfl⟩
  | accept authenticated fence authn now =>
    cases h
    cases haccept : acceptExternalSupervisorCancellation p s authenticated fence authn now with
    | error e => exact .inl ⟨e, by simp only [exec, haccept]; rfl⟩
    | ok r =>
      simp only [acceptExternalSupervisorCancellation, bind_eq_ok] at haccept
      obtain ⟨_, -, handoff, hadm, -⟩ := haccept
      exact .inr ⟨now, handoff, (loadFenced_eq_ok hadm).1⟩

/-- No fence that was ever claimed shares the binding of this one. -/
def BindsAlone (p : Primitives β) (s : Store β) (fence : LaunchFence) : Prop :=
  ∀ claim ∈ s.launch.claims, p.fenceBindingDigest claim.fence = p.fenceBindingDigest fence →
    claim.fence = fence

/-- A handoff that is bound to a retired fence is not admitted. -/
theorem not_admitted_of_retired (h : Retired s.launch fence) (hfenced : Fenced s.launch)
    (hbinds : BindsAlone p s fence)
    (hload : loadExternalSupervisorHandoff p s handoffID = .ok (some handoff))
    (hbound : handoff.envelope.fenceBindingHash = p.fenceBindingDigest fence) {h' : Handoff} :
    loadAuthenticatedHandoffAdmission p s handoffID now ≠ .ok h' := by
  intro hadm
  obtain ⟨hload', fence', _, _, _, hboundary, -, hfence, hdigest, -⟩ :=
    loadAdmission_eq_ok.mp hadm
  rw [hload] at hload'
  cases hload'
  have hact := loadActive_of_boundary hboundary
  obtain ⟨-, _, row, -, hrow, -, hrowFence, hsame, -⟩ := claim_eq_some hact
  have hrow' : row.fence = fence' := by rw [hrowFence, ← hsame, hfence]
  have heq : row.fence = fence := hbinds row hrow (by rw [hrow', hdigest, hbound])
  exact h.ne_active hfenced hact (by rw [hfence, ← hrow', heq])

theorem stage_unchanged (h : Retired s.launch fence) (hfenced : Fenced s.launch)
    (env : Envelope) (now : Int) (commits : Bool) :
    (exec p s (.stage env fence now, commits)).1 = s := by
  simp only [exec]
  rcases settle_fst with hs | ⟨a, ha⟩
  · exact hs
  · simp only [stageExternalSupervisorHandoff, bind_eq_ok] at ha
    obtain ⟨-, -, found, -, ha⟩ := ha
    cases found with
    | some old =>
      simp at ha
    | none =>
      simp only [bind_eq_ok, admission_eq_ok] at ha
      obtain ⟨-, ⟨_, _, _, hbound, -, hfence, -⟩, -⟩ := ha
      exact absurd hfence (h.ne_active hfenced (loadActive_of_boundary hbound))

theorem refused_of_launch {op : Launch.Op}
    (h : Launch.Refused p.toPrimitives s.launch (op, commits)) :
    Refused p s (.launch op, commits) := by
  obtain ⟨e, he⟩ := h
  refine ⟨.launch e, ?_⟩
  simp only [exec, he]
  rfl

theorem accepted_fence_unique {op op' : Launch.Op} {fence' : LaunchFence} {commits' : Bool}
    (hop : op.presents = some fence) (hop' : op'.presents = some fence')
    (htarget : op.target s.launch = op'.target s.launch)
    (h : ¬ Refused p s (.launch op, commits)) (h' : ¬ Refused p s (.launch op', commits')) :
    fence = fence' := by
  have hcases : Launch.Refused p.toPrimitives s.launch (op, commits) ∨ _ := refused_or_active hop
  have hcases' : Launch.Refused p.toPrimitives s.launch (op', commits') ∨ _ :=
    refused_or_active hop'
  obtain ⟨_, hspec, hact⟩ := hcases.resolve_left fun hr => h (refused_of_launch hr)
  obtain ⟨_, hspec', hact'⟩ := hcases'.resolve_left fun hr => h' (refused_of_launch hr)
  rw [hspec, hspec'] at htarget
  cases htarget
  exact hact.unique hact'

theorem retired_of_reclaim_ok {req : LaunchClaimReclaimRequest} {outboxID : String}
    {answer : Answer} (hfenced : Fenced s.launch)
    (h : (exec p s (.launch (.reclaimLaunchClaim req outboxID now), commits)).2.answer =
      .ok answer) :
    Retired (exec p s (.launch (.reclaimLaunchClaim req outboxID now), commits)).1.launch
      req.expectedFence := by
  simp only [exec, mapError_eq_ok, map_eq_ok] at h ⊢
  obtain ⟨_, ha, -⟩ := h
  exact retired_of_reclaim hfenced ha

/-- At any time the fences that are accepted for one specification are one. Once a reclaim
has replaced a fence, whatever presents it is refused, nothing is staged under it, and
whatever concerns a handoff that is bound to it is refused. -/
theorem replaced_fence_refused (p : Primitives β) (ops : List (Op × Bool)) :
    let s := run (exec p) {} ops
    (∀ op op' fence fence' commits commits', op.presents = some fence → op'.presents = some fence' →
      op.target s.launch = op'.target s.launch →
      ¬ Refused p s (.launch op, commits) → ¬ Refused p s (.launch op', commits') →
      fence = fence') ∧
    ∀ req outboxID now commits answer,
      (exec p s (.launch (.reclaimLaunchClaim req outboxID now), commits)).2.answer = .ok answer →
      ∀ later,
        let s' := run (exec p) s
          ((.launch (.reclaimLaunchClaim req outboxID now), commits) :: later)
        (∀ op commits, op.presents = some req.expectedFence → Refused p s' (.launch op, commits)) ∧
        (∀ env now commits, (exec p s' (.stage env req.expectedFence now, commits)).1 = s') ∧
        (BindsAlone p s' req.expectedFence → ∀ handoffID handoff,
          loadExternalSupervisorHandoff p s' handoffID = .ok (some handoff) →
          handoff.envelope.fenceBindingHash = p.fenceBindingDigest req.expectedFence →
          ∀ op commits, op.about = some handoffID → Refused p s' (op, commits)) := by
  intro s
  refine ⟨fun op op' fence fence' commits commits' => accepted_fence_unique, ?_⟩
  intro req outboxID now commits answer h later s'
  have hfenced : Fenced s.launch := fenced_run p ops
  obtain ⟨hfenced', hretired⟩ := retired_run later
    (hfenced.moves (moves_of_writes (exec_writes p s _))) (retired_of_reclaim_ok hfenced h)
  refine ⟨?_, ?_, ?_⟩
  · intro op commits hop
    exact refused_of_launch (hretired.refused hfenced' hop)
  · intro env now commits
    exact stage_unchanged hretired hfenced' env now commits
  · intro hbinds handoffID handoff hload hbound op commits hop
    have hcases : Refused p s' (op, commits) ∨ _ := refused_or_admitted hop
    rcases hcases with hrefused | ⟨now, h', hadmission⟩
    · exact hrefused
    · exact absurd hadmission (not_admitted_of_retired hretired hfenced' hbinds hload hbound)

open Instance in
/-- The handoff was delivered under the first claim, and the claim is then replaced. -/
theorem replaced_fence_refused_delivered :
    let s := run (exec prims) {} (delivering ++ [reclaiming])
    Refused prims s (.launch (.createLaunchRunIntent ⟨Instance.fence, name, name, 1⟩ "e" 10),
        true) ∧
    Refused prims s (.deliver name (some trusting) (some fun _ => .ok receipt) 10, true) := by
  have hreclaim := reclaim_ok
  rw [reclaiming] at hreclaim ⊢
  have h := (replaced_fence_refused prims delivering).2
  rw [run_delivering] at h
  have hrefused := h _ _ _ _ _ (congrArg (fun r => r.2.answer) hreclaim) []
  rw [run_snoc, run_delivering, hreclaim]
  rw [run_cons_of hreclaim, run_nil] at hrefused
  refine ⟨hrefused.1 _ _ rfl, hrefused.2.2 ?_ name Instance.handoff ?_ rfl _ _ rfl⟩
  · -- the second claim is bound to another hash
    intro claim hclaim hsame
    simp only [db₅, List.mem_cons, List.not_mem_nil, or_false] at hclaim
    rcases hclaim with rfl | rfl
    · rfl
    · exact absurd hsame (TrustedSupervisor.Instance.sha_ne (by decide))
  · exact loadHandoff_ok rfl

end Ananke.ExternalSupervisor
