import Ananke.ExternalSupervisor.Fencing
import Ananke.Launch.Recovery

/-! The attempts of a specification and its cap. A claim takes its attempt from the request,
and the cap is first looked at when a handoff of the claim is staged. -/
namespace Ananke.ExternalSupervisor

open Launch Validation Relational Machine List

variable {β : Type} [DecidableEq β] {p : Primitives β} {s : Store β}

/-- The request stays within the cap of the stored specification that it names. -/
def RequestWithinCap (p : Launch.Primitives β) (db : DB β) (req : LaunchClaimRequest) : Prop :=
  ∀ stored, loadLaunchSpec p db req.launchSpecHash = .ok (some stored) →
    req.attempt ≤ stored.spec.attemptCap

/-- The claim that an operation asks for. -/
def claimRequest : Launch.Op → Option LaunchClaimRequest
  | .acquireLaunchClaim req _ _ => some req
  | .reclaimLaunchClaim req _ _ => some req.claim
  | _ => none

/-- The operation does not claim an attempt above the cap. -/
def ClaimsWithinCap (p : Primitives β) (s : Store β) (op : Op × Bool) : Prop :=
  match op.1 with
  | .launch launchOp => ∀ req ∈ claimRequest launchOp, RequestWithinCap p.toPrimitives s.launch req
  | _ => True

/-- No claim is above the cap of its specification. -/
def Capped (p : Launch.Primitives β) (db : DB β) : Prop :=
  ∀ claim ∈ db.claims, ∀ stored, loadLaunchSpec p db claim.launchSpecHash = .ok (some stored) →
    claim.attempt ≤ stored.spec.attemptCap

section

variable {q : Launch.Primitives β} {db db' : DB β}

theorem Capped.writes {op : Launch.Op} (h : Capped q db) (hformed : WellFormed q db)
    (hwrit : Launch.Writes q db op db')
    (hop : ∀ req ∈ claimRequest op, RequestWithinCap q db req) : Capped q db' := by
  cases hwrit with
  | store =>
    -- what could be loaded before is loaded still
    intro claim hclaim stored hload
    obtain ⟨_, hload', -⟩ := hformed.staged claim hclaim
    rw [loadSpec_append hload'] at hload
    cases hload
    exact h claim hclaim stored hload'
  | acquire row stored hstored hnew hfirst hhead hreq
  | reclaim row head hnew hhead hgen hreq =>
    refine forall_snoc.mpr ⟨h, fun stored hload => ?_⟩
    rw [hreq.1] at hload
    rw [hreq.2]
    exact hop _ rfl stored hload
  | materialize | intend | terminal | evidence => exact h

theorem attempt_of_runIntent {run : RunIntentRow} (h : WellFormed q db)
    (hrun : run ∈ db.runIntents) :
    ∃ claim ∈ db.claims, claim.launchSpecHash = run.launchSpecHash ∧
      claim.attempt = run.attempt := by
  obtain ⟨claim, hclaim, he⟩ := mem_map.mp (h.owned.runIntents run hrun)
  obtain ⟨_, -, hstaged⟩ := h.staged claim hclaim
  have hmem : run ∈ (db.generation claim.generation).runIntents :=
    mem_filter.mpr ⟨hrun, decide_eq_true he.symm⟩
  refine ⟨claim, hclaim, congrArg Prod.fst he, ?_⟩
  generalize db.generation claim.generation = g at hstaged hmem
  cases hstaged with
  | claimed | materialized => cases hmem
  | intended o₁ o₂ o₃ m r h₁ h₂ h₃ hm hr =>
    rw [mem_singleton] at hmem
    rw [hmem, hr.attempt]

end

/-- The envelope is one for the claim that stands at the boundary. -/
structure EnvelopeFor (p : Primitives β) (boundary : LaunchRecoveryBoundary)
    (stored : StoredLaunchSpec) (envelope : Envelope) : Prop where
  spec : envelope.launchSpecHash = boundary.launchSpecHash
  fence : envelope.fenceBindingHash = p.fenceBindingDigest boundary.claim.fence
  deadline : envelope.deadline = stored.spec.deadline
  attempt : envelope.attemptNumber = boundary.claim.attempt
  cap : envelope.attemptCap = stored.spec.attemptCap

/-- Claims and runs stay within the caps of their specifications, and at the boundary of
process admission nothing keeps the envelope of a claim from being admitted before the
deadline. -/
structure AttemptsWithinCap (p : Primitives β) (s : Store β) : Prop where
  claims : ∀ claim ∈ s.launch.claims, ∃ stored,
    loadLaunchSpec p.toPrimitives s.launch claim.launchSpecHash = .ok (some stored) ∧
      1 ≤ claim.attempt ∧ claim.attempt ≤ stored.spec.attemptCap
  runIntents : ∀ run ∈ s.launch.runIntents, ∃ stored,
    loadLaunchSpec p.toPrimitives s.launch run.launchSpecHash = .ok (some stored) ∧
      1 ≤ run.attempt ∧ run.attempt ≤ stored.spec.attemptCap
  stageable : ∀ launchSpecHash boundary stored envelope deadline now,
    loadLaunchRecoveryBoundary p.toPrimitives s.launch launchSpecHash = .ok boundary →
    boundary.action = .retryProcessAdmission →
    loadLaunchSpec p.toPrimitives s.launch launchSpecHash = .ok (some stored) →
    EnvelopeFor p boundary stored envelope → p.timeOf stored.spec.deadline = some deadline →
    now < deadline → 1 ≤ envelope.attemptNumber ∧ envelope.attemptNumber ≤ envelope.attemptCap ∧
      validateExternalSupervisorAdmission p s.launch envelope boundary.claim.fence now = .ok ()

theorem attempts_of_capped (hformed : WellFormed p.toPrimitives s.launch)
    (h : Capped p.toPrimitives s.launch) : AttemptsWithinCap p s := by
  have hclaims : ∀ claim ∈ s.launch.claims, ∃ stored,
      loadLaunchSpec p.toPrimitives s.launch claim.launchSpecHash = .ok (some stored) ∧
        1 ≤ claim.attempt ∧ claim.attempt ≤ stored.spec.attemptCap := by
    intro claim hclaim
    obtain ⟨stored, hload, -⟩ := hformed.staged claim hclaim
    exact ⟨stored, hload, (hformed.claims claim hclaim).2.1, h claim hclaim stored hload⟩
  refine ⟨hclaims, ?_, ?_⟩
  · intro run hrun
    obtain ⟨claim, hclaim, hspec, hatt⟩ := attempt_of_runIntent hformed hrun
    rw [← hspec, ← hatt]
    exact hclaims claim hclaim
  · intro launchSpecHash boundary stored env deadline now hbound hact hload henv hdl hnow
    obtain ⟨-, hsame, hactive, -⟩ := boundary_eq_ok.mp hbound
    obtain ⟨_, -, row, -, hrow, hrowSpec, -, -, hatt, -⟩ :=
      claim_eq_some hactive
    obtain ⟨_, hload', hpos, hle⟩ := hclaims row hrow
    rw [hrowSpec, hload] at hload'
    cases hload'
    rw [← hatt, ← henv.attempt] at hpos hle
    rw [← henv.cap] at hle
    refine ⟨hpos, hle, admission_eq_ok.mpr ⟨boundary, stored,
      deadline, ?_, hact, rfl, henv.fence.symm, ?_, henv.deadline.symm, ?_, hnow,
      henv.cap.symm, henv.attempt.symm, hle⟩⟩
    · rw [henv.spec, hsame]
      exact hbound
    · rw [henv.spec, hsame]
      exact hload
    · rw [henv.deadline]
      exact hdl

theorem capped_exec {op : Op × Bool}
    (h : WellFormed p.toPrimitives s.launch ∧ Capped p.toPrimitives s.launch)
    (hop : ClaimsWithinCap p s op) : WellFormed p.toPrimitives (exec p s op).1.launch ∧
      Capped p.toPrimitives (exec p s op).1.launch := by
  obtain ⟨op, commits⟩ := op
  have hwrit := exec_writes p s (op, commits)
  generalize (exec p s (op, commits)).1 = s' at hwrit
  cases hwrit with
  | launch launchOp commits' =>
    refine ⟨wellFormed_exec h.1, ?_⟩
    rcases Launch.exec_writes p.toPrimitives s.launch (launchOp, commits') with hsame | hlaunch
    · rw [hsame]
      exact h.2
    · exact h.2.writes h.1 hlaunch hop
  | _ => exact h

theorem attempts_within_cap (p : Primitives β) (ops : List (Op × Bool))
    (hops : Meets (exec p) (ClaimsWithinCap p) {} ops) :
    AttemptsWithinCap p (run (exec p) {} ops) := by
  have h := invariant_meets (I := fun s : Store β => WellFormed p.toPrimitives s.launch ∧
    Capped p.toPrimitives s.launch) (fun s op => capped_exec) hops ⟨wellFormed_empty, by nofun⟩
  exact attempts_of_capped h.1 h.2

section

open Instance TrustedSupervisor.Instance

theorem attempts_within_cap_launching : Meets (exec prims) (ClaimsWithinCap prims) {} launching ∧
      AttemptsWithinCap prims (run (exec prims) {} launching) := by
  have hmeets : Meets (exec prims) (ClaimsWithinCap prims) {} launching := by
    refine meets_cons_of (exec_launch (exec_storeLaunchSpec storeSpec_ok)) (by nofun) ?_
    refine meets_cons_of (exec_launch (exec_acquireLaunchClaim acquire_ok)) ?_ ?_
    · rintro _ ⟨⟩ _ hload
      rw [loadSpec_ok rfl] at hload
      cases hload
      decide
    · refine meets_cons_of (exec_launch (exec_recordLaunchMaterializationReady
        recordReady_ok)) (by nofun) ?_
      refine meets_cons_of (exec_launch (exec_createLaunchRunIntent createIntent_ok)) (by nofun) ?_
      exact ⟨trivial, trivial⟩
  exact ⟨hmeets, attempts_within_cap prims launching hmeets⟩

/-- The third attempt is claimed on a specification whose cap is two. -/
def overclaiming : List (Op × Bool) :=
  [(.launch (.storeLaunchSpec ⟨spec, sha 1, name⟩ proposals 1), true),
    (.launch (.acquireLaunchClaim ⟨sha 1, name, sha 0, name, 3⟩ "a" 2), true)]

theorem attempt_above_cap : ∃ claim ∈ (run (exec prims) {} overclaiming).launch.claims, ∃ stored,
      loadLaunchSpec prims.toPrimitives (run (exec prims) {} overclaiming).launch
        claim.launchSpecHash = .ok (some stored) ∧ stored.spec.attemptCap < claim.attempt := by
  have hstore := exec_launch (s := {}) (exec_storeLaunchSpec storeSpec_ok)
  have hacquire := exec_launch (s := { launch := db₁ })
    (exec_acquireLaunchClaim (acquire_attempt (show (1 : Int) ≤ 3 by decide)))
  rw [overclaiming, run_cons_of hstore, run_cons_of hacquire, run_nil]
  exact ⟨_, mem_singleton_self _, stored, loadSpec_ok rfl, by decide⟩

end

end Ananke.ExternalSupervisor
