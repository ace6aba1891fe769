import Ananke.RepairSupervisor.Journal
import Ananke.Repair.Instance

/-! The claims of an attempt: its phases one after the other, each chained to the one before
it, as long as the callers number their phases rightly and name the claim before. -/
namespace Ananke.RepairSupervisor

open Machine Relational Repair List

/-- The phases of an attempt with their sequence numbers. -/
def phaseSteps : List (Int × String) :=
  [(1, "materialization_claim"), (2, "adapter_claim"), (3, "test_claim")]

def ClaimEntry.step (e : ClaimEntry) : Int × String := (e.sequence, e.phase)

/-- The claims of an attempt, in the order in which they were made. -/
def Journal.rows (s : Journal) (attemptHash : String) : List ClaimEntry :=
  rowsOf ClaimEntry.attemptHash attemptHash s.claims

/-- The head of an entry is chained to that of the entry before it, and the claim that it was
made from names that entry. -/
structure Follows (p : Encoding) (prev : Option ClaimEntry) (e : ClaimEntry) : Prop where
  predecessor : e.journalPredecessorHash = (prev.map ClaimEntry.journalHeadHash).getD ""
  head : e.journalHeadHash = computeJournalHeadHash p e.journalPredecessorHash e.claimHash
  names : ∃ claim : SupervisorIntentClaim, p.marshalCanonical claim.toValue = some e.claimJSON ∧
    claim.claimHash = e.claimHash ∧ ∀ e' ∈ prev, claim.predecessorClaimHash = e'.claimHash

def Linked (p : Encoding) : Option ClaimEntry → List ClaimEntry → Prop
  | _, [] => True
  | prev, e :: es => Follows p prev e ∧ Linked p (some e) es

/-- The claims are a beginning of the phases, and linked. -/
structure InOrder (p : Encoding) (es : List ClaimEntry) : Prop where
  steps : es.map ClaimEntry.step <+: phaseSteps
  linked : Linked p none es

variable {p : Encoding} {es : List ClaimEntry} {e : ClaimEntry}

theorem linked_snoc {prev : Option ClaimEntry} :
    Linked p prev (es ++ [e]) ↔ Linked p prev es ∧ Follows p (es.getLast?.or prev) e := by
  induction es generalizing prev with
  | nil => simp [Linked]
  | cons e' es ih =>
    have hlast : (e' :: es).getLast?.or prev = es.getLast?.or (some e') := by
      cases es with
      | nil => rfl
      | cons e'' es => simp [List.getLast?_cons]
    rw [cons_append, Linked, Linked, ih, hlast, and_assoc]

theorem load_eq (s : Journal) (attemptHash phase : String) :
    s.loadClaimByAttemptPhase attemptHash phase = (s.rows attemptHash).find? (·.phase = phase) := by
  simp [Journal.loadClaimByAttemptPhase, Journal.rows, rowsOf]

/-- A new phase whose predecessor is there is the next one, and its predecessor the last. -/
theorem next_phase (hsteps : es.map ClaimEntry.step <+: phaseSteps) {n : Int} (hn : 1 ≤ n ∧ n ≤ 3)
    (hfresh : es.find? (·.phase = (phaseBySequence n).name) = none)
    (hpred : 1 < n → es.find? (·.phase = (phaseBySequence (n - 1)).name) ≠ none) :
    es.map ClaimEntry.step ++ [(n, (phaseBySequence n).name)] <+: phaseSteps ∧ es.getLast? =
        if 1 < n then es.find? (·.phase = (phaseBySequence (n - 1)).name) else none := by
  obtain rfl | rfl | rfl : n = 1 ∨ n = 2 ∨ n = 3 := by omega
  all_goals
    rcases es with _ | ⟨e₁, _ | ⟨e₂, _ | ⟨e₃, es⟩⟩⟩ <;>
    simp_all [phaseSteps, ClaimEntry.step, phaseBySequence, SupervisorIntentPhase.name]

/-- The phase of a claim is that of its sequence number, and the claim names the one of the
phase before. -/
def Presented (s : Journal) : Operation → Prop
  | .claimPhase claim _ _ _ =>
    claim.phase.name = (phaseBySequence claim.sequence).name ∧
      (1 < claim.sequence → ∀ pred, s.loadClaimByAttemptPhase claim.attemptHash
        (phaseBySequence (claim.sequence - 1)).name = some pred →
        claim.predecessorClaimHash = pred.claimHash)
  | _ => True

variable {s : Journal}

theorem inOrder_admitted {claim : SupervisorIntentClaim}
    {epochID epochHash : String} {commits : Bool} (h : Admitted p s claim e)
    (hpres : Presented s (.claimPhase claim epochID epochHash commits))
    (horder : InOrder p (s.rows claim.attemptHash)) :
    InOrder p (s.rows claim.attemptHash ++ [e]) := by
  obtain ⟨hphase, hnames⟩ := hpres
  obtain ⟨hfresh, ⟨_, _, _, _, hpredecessor, hjson, rfl⟩, hfits⟩ := h
  have hn : 1 ≤ claim.sequence ∧ claim.sequence ≤ 3 := ⟨hfits.2.1, hfits.2.2.1⟩
  rw [load_eq, hphase] at hfresh
  have hpred : 1 < claim.sequence → (s.rows claim.attemptHash).find?
      (·.phase = (phaseBySequence (claim.sequence - 1)).name) ≠ none := by
    intro hlater hnone
    rw [Journal.journalPredecessor, if_pos hlater, load_eq, hnone] at hpredecessor
    cases hpredecessor
  obtain ⟨hsteps, hlast⟩ := next_phase horder.steps hn hfresh hpred
  refine ⟨?_, linked_snoc.mpr ⟨horder.linked, ?_, rfl, claim, hjson, rfl, ?_⟩⟩
  · rw [map_append]
    simpa [ClaimEntry.step, claimEntry, hphase] using hsteps
  · rw [Option.or_none, hlast, ← load_eq]
    simp only [claimEntry]
    rw [Journal.journalPredecessor] at hpredecessor
    split at hpredecessor
    next hlater =>
      rw [if_pos hlater]
      split at hpredecessor
      · cases hpredecessor
      next pred hfound =>
        rw [hfound]
        exact (Except.ok.inj hpredecessor).symm
    next hfirst =>
      rw [if_neg hfirst]
      exact (Except.ok.inj hpredecessor).symm
  · intro pred hmem
    rw [Option.or_none, hlast, ← load_eq] at hmem
    split at hmem
    next hlater => exact hnames hlater pred hmem
    · cases hmem

theorem inOrder_step {x : Operation} (horder : ∀ a, InOrder p (s.rows a))
    (hpres : Presented s x) (a : String) : InOrder p ((exec p s x).1.rows a) := by
  rcases exec_claims s x with h | ⟨claim, epochID, epochHash, commits, e, rfl, hadm, h⟩
  · rw [Journal.rows, h]
    exact horder a
  · have hatt : e.attemptHash = claim.attemptHash := by
      obtain ⟨-, ⟨-, -, -, -, -, -, rfl⟩, -⟩ := hadm
      rfl
    rw [Journal.rows, h]
    by_cases ha : e.attemptHash = a
    · rw [rowsOf_snoc ha, ← ha, hatt]
      exact inOrder_admitted hadm hpres (horder _)
    · rw [rowsOf_snoc_ne ha]
      exact horder a

theorem claims_of_inOrder {a : String} (h : InOrder p (s.rows a)) :
    s.getClaimsForAttempt a = s.rows a := by
  have hsorted : phaseSteps.Pairwise fun x y => x.1 ≤ y.1 := by decide
  have hrows := hsorted.sublist h.steps.sublist
  rw [pairwise_map] at hrows
  exact hrows.insertionSort_eq

/-- What ties an entry to those stored before it. -/
structure Tied (p : Encoding) (before : List ClaimEntry) (e : ClaimEntry) : Prop where
  head : e.journalHeadHash = computeJournalHeadHash p e.journalPredecessorHash e.claimHash
  first : e.sequence = 1 → e.journalPredecessorHash = ""
  later : 1 < e.sequence → ∃ e' ∈ before, e'.attemptHash = e.attemptHash ∧
    e'.phase = (phaseBySequence (e.sequence - 1)).name ∧
    e.journalPredecessorHash = e'.journalHeadHash
  fits : ClaimFits before e

def Journal.Chained (p : Encoding) (s : Journal) : Prop :=
  ∀ before e, before ++ [e] <+: s.claims → Tied p before e

theorem Admitted.tied {claim : SupervisorIntentClaim} (h : Admitted p s claim e) :
    Tied p s.claims e := by
  obtain ⟨_, _, _, _, hpred, -, rfl⟩ := h.made
  rw [Journal.journalPredecessor] at hpred
  refine ⟨rfl, fun (hfirst : claim.sequence = 1) => ?_, fun (hlater : 1 < claim.sequence) => ?_,
    h.fits⟩
  · rw [hfirst] at hpred
    exact (Except.ok.inj hpred).symm
  · rw [if_pos hlater] at hpred
    split at hpred
    · cases hpred
    next e' hload =>
      obtain ⟨hatt, hphase⟩ : e'.attemptHash = claim.attemptHash ∧ _ := by
        simpa using find?_some hload
      exact ⟨e', mem_of_find?_eq_some hload, hatt, hphase, (Except.ok.inj hpred).symm⟩

/-- Whatever is claimed and in whatever order, every entry of a journal has a fresh hash, a fresh
id and a fresh phase and sequence number in its attempt, and its head commits to the head of an
earlier entry of the attempt, that of the phase before its sequence number. -/
theorem journal_chained (ops : List Operation) : (run (exec p) Journal.empty ops).Chained p := by
  refine invariant_run (fun s x hs before e h => ?_) fun _ _ h => by simp [Journal.empty] at h
  rcases exec_claims s x (p := p) with hsame | ⟨_, _, _, _, _, -, hadmitted, hadded⟩
  · exact hs before e (hsame ▸ h)
  · rw [hadded, prefix_concat_iff] at h
    obtain h | h := h
    · obtain ⟨rfl, ⟨⟩⟩ := append_inj' h rfl
      exact hadmitted.tied
    · exact hs before e h

namespace Instance

def encoding : Encoding where
  marshalCanonical
    | .object (("claim_hash", .text hash) :: _) => some hash
    | _ => some ""
  sha256Digest text := text

def claim (hash : String) (phase : SupervisorIntentPhase) (seq : Int) (pred : String) :
    SupervisorIntentClaim :=
  { Repair.Instance.materializationClaim with
    claimHash := hash
    claimID := hash
    phase := phase
    sequence := seq
    attemptHash := "attempt"
    attemptNumber := 1
    predecessorClaimHash := pred }

def materialization : Operation :=
  .claimPhase (claim "m" .materializationClaim 1 "") "epoch" "epoch" true

def adapter : Operation := .claimPhase (claim "a" .adapterClaim 2 "m") "epoch" "epoch" true

def test : Operation := .claimPhase (claim "t" .testClaim 3 "a") "epoch" "epoch" true

end Instance

/-- In every run whose claims have the phase of their sequence number and name the claim before
them, the claims of every attempt are a beginning of its phases, each chained to the one before
it. -/
theorem claims_in_order {ops : List Operation}
    (h : Meets (exec p) Presented Journal.empty ops) (attemptHash : String) :
    InOrder p ((run (exec p) Journal.empty ops).getClaimsForAttempt attemptHash) := by
  have hrows : ∀ a, InOrder p ((run (exec p) Journal.empty ops).rows a) := by
    refine invariant_meets (I := fun s => ∀ a, InOrder p (s.rows a)) ?_ h ?_
    · intro s x horder hpresented
      exact inOrder_step horder hpresented
    · intro a
      exact ⟨prefix_append [] _, trivial⟩
  rw [claims_of_inOrder (hrows attemptHash)]
  exact hrows attemptHash

open Instance in
/-- All three phases. -/
theorem claims_in_order_tested :
    ((run (exec encoding) Journal.empty [materialization, adapter, test]).getClaimsForAttempt
        "attempt").map ClaimEntry.step = phaseSteps ∧
      InOrder encoding ((run (exec encoding) Journal.empty
        [materialization, adapter, test]).getClaimsForAttempt "attempt") := by
  have hmeets : Meets (exec encoding) Presented Journal.empty [materialization, adapter, test] := by
    refine ⟨⟨rfl, ?_⟩, ⟨rfl, ?_⟩, ⟨rfl, ?_⟩, trivial⟩
    · intro hlater
      cases hlater
    · rintro - pred hpred
      cases hpred
      rfl
    · rintro - pred hpred
      cases hpred
      rfl
  exact ⟨by decide, claims_in_order hmeets "attempt"⟩

open Instance in
/-- A claim of the last phase with the first sequence number is stored. -/
theorem claim_out_of_phase : ¬ InOrder encoding ((run (exec encoding) Journal.empty
      [.claimPhase (claim "t" .testClaim 1 "") "epoch" "epoch" true]).getClaimsForAttempt
      "attempt") := by
  intro h
  have hsteps := h.steps
  revert hsteps
  decide

end Ananke.RepairSupervisor
