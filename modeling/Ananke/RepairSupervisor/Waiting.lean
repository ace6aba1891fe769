import Ananke.RepairSupervisor.Phases

/-! An attempt that waits for a human. The journal itself does not stop it: a claim is admitted
without a look at the terminal events, so it is for the callers to look at them. -/
namespace Ananke.RepairSupervisor

open Machine Relational Repair List

/-- Some claim of the attempt has been given over to a human. -/
def Journal.Waiting (s : Journal) (attemptHash : String) : Prop :=
  ∃ e ∈ s.claims, e.attemptHash = attemptHash ∧
    ∃ ev ∈ s.terminalEvents, ev.claimHash = e.claimHash ∧ ev.terminalStatus = waitingForHuman

instance (s : Journal) (attemptHash : String) : Decidable (s.Waiting attemptHash) := by
  unfold Journal.Waiting
  infer_instance

section

-- The journal leaves it to its callers which of the terminal statuses are those of a success.
variable (successful : String → Prop)

/-- The phase of this claim has ended in success. -/
def Journal.Succeeded (s : Journal) (e : ClaimEntry) : Prop :=
  ∃ ev ∈ s.terminalEvents, ev.claimHash = e.claimHash ∧ successful ev.terminalStatus

/-- A claim of a phase that has not been claimed is made only for an attempt that does not
wait, and after the phase before it has ended in success. -/
def Cleared (s : Journal) : Operation → Prop
  | .claimPhase claim _ _ _ =>
    s.loadClaimByAttemptPhase claim.attemptHash claim.phase.name = none →
      ¬ s.Waiting claim.attemptHash ∧
      (1 < claim.sequence → ∀ pred, s.loadClaimByAttemptPhase claim.attemptHash
        (phaseBySequence (claim.sequence - 1)).name = some pred → s.Succeeded successful pred)
  | _ => True

/-- Before every later phase that is claimed, there is a claim of the phase before it that has
ended in success. -/
def Journal.Earned (s : Journal) : Prop :=
  ∀ e ∈ s.claims, 1 < e.sequence → ∃ e' ∈ s.claims, e'.attemptHash = e.attemptHash ∧
    e'.phase = (phaseBySequence (e.sequence - 1)).name ∧ s.Succeeded successful e'

end

variable {p : Encoding} {successful : String → Prop} {s : Journal} {x : Operation}

theorem mem_exec_claims {e : ClaimEntry} (h : e ∈ s.claims) : e ∈ (exec p s x).1.claims := by
  rcases exec_claims s x (p := p) with hsame | ⟨_, _, _, _, e', -, -, hadded⟩
  · rwa [hsame]
  · rw [hadded]
    exact mem_append_left _ h

theorem mem_exec_events {ev : TerminalEvent} (h : ev ∈ s.terminalEvents) :
    ev ∈ (exec p s x).1.terminalEvents :=
  (exec_events s x).isPrefix.subset h

theorem waiting_step {a : String} (h : s.Waiting a) : (exec p s x).1.Waiting a := by
  obtain ⟨e, he, ha, ev, hevent, hclaim, hstat⟩ := h
  exact ⟨e, mem_exec_claims he, ha, ev, mem_exec_events hevent, hclaim, hstat⟩

theorem succeeded_step {e : ClaimEntry} (h : s.Succeeded successful e) :
    (exec p s x).1.Succeeded successful e := by
  obtain ⟨ev, hevent, hclaim, hstat⟩ := h
  exact ⟨ev, mem_exec_events hevent, hclaim, hstat⟩

theorem rows_step {a : String} (hwait : s.Waiting a) (hcleared : Cleared successful s x) :
    (exec p s x).1.rows a = s.rows a := by
  rcases exec_claims s x (p := p) with h | ⟨claim, _, _, _, e, rfl, hadm, h⟩
  · rw [Journal.rows, h]
    rfl
  · have hne : e.attemptHash ≠ a := by
      obtain ⟨hfresh, ⟨-, -, -, -, -, -, rfl⟩, -⟩ := hadm
      rintro rfl
      exact (hcleared hfresh).1 hwait
    rw [Journal.rows, h, rowsOf_snoc_ne hne]
    rfl

theorem earned_step (hearned : s.Earned successful) (hcleared : Cleared successful s x) :
    (exec p s x).1.Earned successful := by
  have hold : ∀ e ∈ s.claims, 1 < e.sequence → ∃ e' ∈ (exec p s x).1.claims,
      e'.attemptHash = e.attemptHash ∧ e'.phase = (phaseBySequence (e.sequence - 1)).name ∧
      (exec p s x).1.Succeeded successful e' := by
    intro e he hlater
    obtain ⟨e', he', hatt, hphase, hsucceeded⟩ := hearned e he hlater
    exact ⟨e', mem_exec_claims he', hatt, hphase, succeeded_step hsucceeded⟩
  rcases exec_claims s x (p := p) with h | ⟨claim, _, _, _, e, rfl, hadm, h⟩
  · intro e he
    exact hold e (h ▸ he)
  · intro e₁ he₁ hlater
    rw [h] at he₁
    rcases mem_append.mp he₁ with he₁ | he₁
    · exact hold e₁ he₁ hlater
    obtain rfl := mem_singleton.mp he₁
    obtain ⟨hfresh, ⟨_, _, _, _, hpredecessor, -, rfl⟩, -⟩ := hadm
    replace hlater : 1 < claim.sequence := hlater
    rw [Journal.journalPredecessor, if_pos hlater] at hpredecessor
    split at hpredecessor
    · cases hpredecessor
    next pred hpred =>
      have hfound := List.find?_some hpred
      simp only [Bool.and_eq_true, decide_eq_true_eq] at hfound
      exact ⟨pred, mem_exec_claims (mem_of_find?_eq_some hpred), hfound.1, hfound.2,
        succeeded_step ((hcleared hfresh).2 hlater pred hpred)⟩

namespace Instance

def ended (status : String) : Operation :=
  .markLaunched "m" "e" status (claim "m" .materializationClaim 1 "") "epoch" "epoch" true

def restarted : Operation := .markPriorEpochNonterminal "next" true

end Instance

/-- In every run whose new claims are all cleared, the claims of an attempt stay as they are
once it waits for a human, and every claim comes after a success of the phase before it. -/
theorem waiting_stops {ops later : List Operation}
    (h : Meets (exec p) (Cleared successful) Journal.empty (ops ++ later)) :
    (∀ a, (run (exec p) Journal.empty ops).Waiting a →
      (run (exec p) Journal.empty (ops ++ later)).rows a =
        (run (exec p) Journal.empty ops).rows a) ∧
    (run (exec p) Journal.empty (ops ++ later)).Earned successful := by
  constructor
  · intro a hwaiting
    have hkept : (run (exec p) Journal.empty (ops ++ later)).Waiting a ∧
        (run (exec p) Journal.empty (ops ++ later)).rows a =
          (run (exec p) Journal.empty ops).rows a := by
      rw [run_append]
      refine invariant_meets (I := fun s => s.Waiting a ∧
        s.rows a = (run (exec p) Journal.empty ops).rows a) ?_ (meets_append.mp h).2
        ⟨hwaiting, rfl⟩
      rintro s x ⟨hw, hrows⟩ hcleared
      exact ⟨waiting_step hw, (rows_step hw hcleared).trans hrows⟩
    exact hkept.2
  · refine invariant_meets (I := fun s => s.Earned successful) ?_ h ?_
    · intro s x hearned hcleared
      exact earned_step hearned hcleared
    · intro e he
      cases he

open Instance in
/-- The adapter is claimed after the materialization has succeeded, and left behind by a
restart; then the claim is made once more. -/
theorem waiting_stops_restarted : (run (exec encoding) Journal.empty
        [materialization, ended "succeeded", adapter, restarted]).Waiting "attempt" ∧
      (run (exec encoding) Journal.empty
        ([materialization, ended "succeeded", adapter, restarted] ++ [adapter])).rows "attempt" =
      (run (exec encoding) Journal.empty
        [materialization, ended "succeeded", adapter, restarted]).rows "attempt" := by
  have hwaiting : (run (exec encoding) Journal.empty
      [materialization, ended "succeeded", adapter, restarted]).Waiting "attempt" := by decide
  have hmeets : Meets (exec encoding) (Cleared (· = "succeeded")) Journal.empty
      ([materialization, ended "succeeded", adapter, restarted] ++ [adapter]) := by
    refine ⟨?_, trivial, ?_, trivial, ?_, trivial⟩
    · intro hfresh
      refine ⟨by decide, ?_⟩
      intro hlater
      cases hlater
    · intro hfresh
      refine ⟨by decide, ?_⟩
      rintro - pred hpred
      cases hpred
      exact ⟨_, mem_singleton.mpr rfl, rfl, rfl⟩
    · intro hfresh
      cases hfresh
  exact ⟨hwaiting, (waiting_stops hmeets).1 "attempt" hwaiting⟩

open Instance in
/-- The materialization is left behind by a restart, and then the adapter is claimed. -/
theorem claimed_while_waiting :
    (run (exec encoding) Journal.empty [materialization, restarted]).Waiting "attempt" ∧
      (run (exec encoding) Journal.empty ([materialization, restarted] ++ [adapter])).rows
        "attempt" ≠ (run (exec encoding) Journal.empty
          [materialization, restarted]).rows "attempt" ∧
      ∀ ev ∈ (run (exec encoding) Journal.empty
        ([materialization, restarted] ++ [adapter])).terminalEvents,
        ev.terminalStatus = waitingForHuman := by
  refine ⟨by decide, ?_, by decide⟩
  intro hrows
  have hlength := congrArg List.length hrows
  revert hlength
  decide

end Ananke.RepairSupervisor
