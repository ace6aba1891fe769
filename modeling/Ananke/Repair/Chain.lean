import Ananke.Repair.Intent
import Ananke.Machine.Run
import Mathlib.Data.List.Chain
import Ananke.Validation.Check

/-! Chains of phase claims. The evidence of a claim is given out by calls of the evaluation
alone, and a call can only pass on what an earlier one gave out. -/
namespace Ananke.Repair

open Machine Validation List

theorem authority_of_claimMatches {β : Type} {want : SupervisorIntentAuthority}
    {verified : VerifiedAuthorization β} {claim : SupervisorIntentClaim}
    (h : claimMatchesAuthority want verified claim = true) :
    claim.phase = want.phase ∧ claim.sequence = want.sequence ∧
      claim.predecessorClaimHash = want.predecessorClaimHash ∧
      claim.createdAt = want.createdAt ∧ claim.notAfter = want.notAfter := by
  simp only [claimMatchesAuthority, checks_iff, and_assoc] at h
  obtain ⟨-, -, hphase, hseq, -, -, -, -, -, -, -, -, -, -, -, -, -, -, -, -, -, hpred,
    -, -, -, -, -, -, -, -, -, -, -, -, -, -, -, hcreated, hnotAfter⟩ := h
  exact ⟨hphase, hseq, hpred, hcreated, hnotAfter⟩

variable {β : Type} [DecidableEq β] (p : Primitives β)

/-- What a call gave out, and what for. -/
structure Minted (β : Type) where
  request : ClaimRequest β
  capability : VerifiedSupervisorIntentClaim β

def Minted.claim (m : Minted β) : SupervisorIntentClaim := m.capability.claim

/-- A call of the evaluation. The predecessor is opaque: it is one of the capabilities that
were given out so far, named by its number. -/
structure Call (β : Type) where
  expected : SupervisorIntentAuthority
  authorization : VerifiedAuthorization β
  journalCommit : Option (VerifiedSupervisorClaimSlotCommit β)
  predecessor : Option Nat
  predecessorTerminal : Option VerifiedSupervisorTerminalEvent
  raw : β
  now : Int

def Call.request (call : Call β) (minted : List (Minted β)) : ClaimRequest β where
  expected := call.expected
  authorization := call.authorization
  journalCommit := call.journalCommit
  predecessor := call.predecessor.bind fun i => minted[i]?.map (·.capability)
  predecessorTerminal := call.predecessorTerminal
  raw := call.raw
  now := call.now

/-- The state is all that was given out, oldest first. -/
def execCall (minted : List (Minted β)) (call : Call β) : List (Minted β) ×
    Except SupervisorIntentError
      (SupervisorClaimDisposition × Option (VerifiedSupervisorIntentClaim β)) :=
  let outcome := evaluateSupervisorIntentClaim p (call.request minted)
  match outcome with
  | .ok (_, some capability) => (minted ++ [⟨call.request minted, capability⟩], outcome)
  | _ => (minted, outcome)

/-- What a claim says of the attempt it belongs to. Its boot epoch is named by its hash. -/
structure AttemptIdentity where
  attemptHash : String
  (attemptNumber attemptCap : Int)
  (authorizationHash approvalHash bootEpochHash : String)

def SupervisorIntentClaim.attempt (claim : SupervisorIntentClaim) : AttemptIdentity :=
  ⟨claim.attemptHash, claim.attemptNumber, claim.attemptCap, claim.authorizationHash,
    claim.approvalHash, claim.supervisorBootEpochHash⟩

/-- The phase of the claim with this number in its attempt, from zero. -/
def phaseAt : Nat → SupervisorIntentPhase
  | 0 => .materializationClaim
  | 1 => .adapterClaim
  | 2 => .testClaim
  | _ => .other ""

/-- The second claim was made after the phase of the first had ended well: it names the first
by its hash and starts from the journal head of that terminal event. -/
structure Follows (first second : Minted β) : Prop where
  attempt : first.claim.attempt = second.claim.attempt
  predecessor : second.claim.predecessorClaimHash = first.claim.claimHash
  terminal : ∃ event, second.request.predecessorTerminal = some event ∧
    verifiedSupervisorTerminalEventIntact p event = true ∧ event.terminalStatus = "succeeded" ∧
    event.claimHash = first.claim.claimHash ∧ event.phase = first.claim.phase ∧
    event.attemptHash = first.claim.attemptHash ∧
    event.terminalEventHash = second.claim.predecessorTerminalEventHash ∧
    event.claimJournalHeadHash = first.claim.journalHeadHash ∧
    event.terminalJournalHeadHash = second.claim.journalHeadHash

/-- The instant of the call is in the interval of the claim. -/
def Minted.Fresh (m : Minted β) : Prop :=
  within p m.claim.createdAt m.claim.notAfter m.request.now = true

/-- The claims of one attempt up to some phase, each following the one before. -/
structure IsLine (claims : List (Minted β)) : Prop where
  sequence : ∀ (k : Nat) (m : Minted β), claims[k]? = some m →
    m.claim.sequence = (k : Int) + 1 ∧ m.claim.phase = phaseAt k
  attempt : ∀ first ∈ claims, ∀ second ∈ claims, first.claim.attempt = second.claim.attempt
  follows : claims.IsChain (Follows p)
  fresh : ∀ m ∈ claims, m.Fresh p

/-- Whatever was given out ends a line of capabilities that were given out before it, one for
each phase up to its own. -/
def PhaseChained (minted : List (Minted β)) : Prop :=
  ∀ i m, minted[i]? = some m →
    ∃ before, (before ++ [m]).Sublist (minted.take (i + 1)) ∧ IsLine p (before ++ [m])

/-- What a call that gives out a capability has checked. -/
structure Grants (r : ClaimRequest β) (capability : VerifiedSupervisorIntentClaim β) : Prop where
  authority : validateSupervisorIntentAuthority p r.expected r.authorization = true
  claim : validateSupervisorIntentClaim p r.expected r.authorization r.predecessor
    r.predecessorTerminal capability.claim = true
  fresh : validateSupervisorIntentFreshness p r.expected r.authorization r.now = true
  commit : ∃ commit, r.journalCommit = some commit ∧
    verifiedSupervisorClaimSlotCommitIntact p commit = true ∧
    commit.committedCanonical = r.raw ∧ capability = ⟨true, capability.claim, r.raw, commit⟩ ∧
    p.decodeClaim r.raw = some capability.claim

variable {p} {r : ClaimRequest β} {capability : VerifiedSupervisorIntentClaim β}

theorem grants_of_evaluate {disposition : SupervisorClaimDisposition}
    (h : evaluateSupervisorIntentClaim p r = .ok (disposition, some capability)) :
    Grants p r capability := by
  obtain ⟨hauth, h⟩ := unless_eq_ok h
  cases hcommit : r.journalCommit with
  | none =>
    simp only [hcommit] at h
    split at h
    · cases h
    · split at h <;> simp at h
  | some commit =>
    simp only [hcommit] at h
    obtain ⟨hint, h⟩ := unless_eq_ok h
    obtain ⟨hraw, h⟩ := unless_eq_ok h
    split at h
    · cases h
    next claim hdec =>
      obtain ⟨hclaim, h⟩ := unless_eq_ok h
      split at h
      · simp at h
      next hfresh =>
        simp only [Except.ok.injEq, Prod.mk.injEq, Option.some.injEq] at h
        obtain ⟨-, rfl⟩ := h
        simp only [Bool.not_eq_true', Bool.not_eq_false, Bool.and_eq_true, ne_eq,
          Decidable.not_not] at hauth hint hraw hclaim hfresh
        exact ⟨hauth, hclaim, hfresh, commit, hcommit, hint.1, hraw, by rw [hraw],
          by rw [← hraw]; exact hdec⟩

section Claim

variable {r : ClaimRequest β} {capability : VerifiedSupervisorIntentClaim β}
  {want : SupervisorIntentAuthority} {verified : VerifiedAuthorization β}
  {claim : SupervisorIntentClaim}

section

variable (h : Grants p r capability)
include h

theorem Grants.repeats :
    capability.claim.phase = r.expected.phase ∧ capability.claim.sequence = r.expected.sequence ∧
      capability.claim.predecessorClaimHash = r.expected.predecessorClaimHash ∧
      capability.claim.createdAt = r.expected.createdAt ∧
      capability.claim.notAfter = r.expected.notAfter := by
  have hclaim := h.claim
  unfold validateSupervisorIntentClaim at hclaim
  simp only [Bool.and_eq_true, and_assoc] at hclaim
  exact authority_of_claimMatches hclaim.1

theorem Grants.phaseSequence :
    phaseSequence capability.claim.phase = capability.claim.sequence := by
  obtain ⟨hphase, hseq, -⟩ := h.repeats
  have hauth := h.authority
  simp only [validateSupervisorIntentAuthority, authorityMatchesAuthorization, checks_iff,
    and_assoc] at hauth
  obtain ⟨-, -, -, -, -, -, -, -, -, -, -, -, -, -, -, hexp, -⟩ := hauth
  rw [hphase, hseq, hexp]

theorem Grants.minted_fresh : Minted.Fresh p ⟨r, capability⟩ := by
  obtain ⟨-, -, -, hcreated, hnotAfter⟩ := h.repeats
  have hfresh := h.fresh
  simp only [validateSupervisorIntentFreshness, Bool.and_eq_true] at hfresh
  rw [Minted.Fresh, Minted.claim, hcreated, hnotAfter]
  exact hfresh.1

theorem Grants.later (hseq : capability.claim.sequence ≠ 1) :
    ∃ prev term, r.predecessor = some prev ∧ r.predecessorTerminal = some term ∧
      claimFollows p r.expected prev term capability.claim = true := by
  have hclaim := h.claim
  rw [h.repeats.2.1] at hseq
  unfold validateSupervisorIntentClaim at hclaim
  simp only [hseq, if_false, Bool.and_eq_true] at hclaim
  obtain ⟨-, hfol⟩ := hclaim
  split at hfol
  next prev term hprev hterm =>
    exact ⟨prev, term, hprev, hterm, hfol⟩
  · cases hfol

theorem follows_of_claimFollows {m : Minted β} {term : VerifiedSupervisorTerminalEvent}
    (hterm : r.predecessorTerminal = some term)
    (hfol : claimFollows p r.expected m.capability term capability.claim = true) :
    Follows p m ⟨r, capability⟩ ∧ m.claim.sequence = capability.claim.sequence - 1 := by
  obtain ⟨-, hseq, hpred, -⟩ := h.repeats
  simp only [claimFollows, checks_iff, and_assoc] at hfol
  obtain ⟨-, hint, hprev, -, hhash, hatt, hnumber, hcap, hauth, happr,
    hepoch, hatt', hphase, -, hclaimHash, hevent, -, -, hhead, hhead'⟩ := hfol
  have hsucceeded : term.terminalStatus = "succeeded" := by
    have hint' := hint
    simp only [verifiedSupervisorTerminalEventIntact, checks_iff, and_assoc] at hint'
    exact hint'.2.2.1
  refine ⟨⟨?_, ?_, term, hterm, hint, hsucceeded, hclaimHash, hphase, ?_, hevent, hhead,
    hhead'⟩, ?_⟩
  · simp only [Minted.claim, SupervisorIntentClaim.attempt, hatt, hnumber, hcap,
      hauth, happr, hepoch]
  · exact hpred.trans hhash.symm
  · exact hatt'.trans hatt.symm
  · exact hprev.trans (by rw [hseq])

end

end Claim

theorem phase_of_phaseSequence {phase : SupervisorIntentPhase} {k : Nat}
    (h : phaseSequence phase = (k : Int) + 1) : phase = phaseAt k := by
  match k with
  | 0 | 1 | 2 => cases phase <;> first | rfl | simp [phaseSequence] at h
  | k + 3 =>
    cases phase
    all_goals
      simp only [phaseSequence] at h
      omega

theorem getElem?_snoc {α : Type} {as : List α} {a b : α} {i : Nat} (h : (as ++ [a])[i]? = some b) :
    as[i]? = some b ∨ (i = as.length ∧ b = a) := by
  rcases Nat.lt_or_ge i as.length with hi | hi
  · exact .inl (by rwa [List.getElem?_append_left hi] at h)
  · rw [List.getElem?_append_right hi, List.getElem?_singleton] at h
    split at h
    next hzero => exact .inr ⟨by omega, (Option.some.inj h).symm⟩
    · cases h

variable {minted : List (Minted β)} {m : Minted β} {line : List (Minted β)}

theorem isLine_first (h : Grants p r capability) (hseq : capability.claim.sequence = 1) :
    IsLine p [⟨r, capability⟩] where
  sequence k m hm := by
    have hm : (([] : List (Minted β)) ++ [⟨r, capability⟩])[k]? = some m := hm
    obtain hnone | ⟨rfl, rfl⟩ := getElem?_snoc hm
    · simp at hnone
    refine ⟨by simpa [Minted.claim] using hseq, phase_of_phaseSequence ?_⟩
    rw [Minted.claim, h.phaseSequence, hseq]
    rfl
  attempt first hfirst second hsnd := by
    rw [mem_singleton.mp hfirst, mem_singleton.mp hsnd]
  follows := .singleton _
  fresh m hm := mem_singleton.mp hm ▸ h.minted_fresh

omit [DecidableEq β] in
theorem IsLine.snoc {before : List (Minted β)} {last next : Minted β}
    (h : IsLine p (before ++ [last])) (hfol : Follows p last next)
    (hseq : last.claim.sequence = next.claim.sequence - 1)
    (hphase : phaseSequence next.claim.phase = next.claim.sequence) (hfresh : next.Fresh p) :
    IsLine p ((before ++ [last]) ++ [next]) where
  sequence k m hm := by
    obtain ⟨_, -⟩ := h.sequence before.length last (by simp)
    obtain hm | ⟨rfl, rfl⟩ := getElem?_snoc hm
    · exact h.sequence k m hm
    · have hnext : m.claim.sequence = ((before ++ [last]).length : Int) + 1 := by
        rw [length_append, length_singleton]
        push_cast
        omega
      exact ⟨hnext, phase_of_phaseSequence (hphase.trans hnext)⟩
  attempt := by
    have hnext : ∀ m ∈ before ++ [last], m.claim.attempt = next.claim.attempt := fun m hm =>
      (h.attempt m hm last (by simp)).trans hfol.attempt
    intro first hfirst second hsnd
    rw [mem_append, mem_singleton] at hfirst hsnd
    rcases hfirst with hfirst | rfl <;> rcases hsnd with hsnd | rfl
    · exact h.attempt first hfirst second hsnd
    · exact hnext first hfirst
    · exact (hnext second hsnd).symm
    · rfl
  follows := by
    rw [isChain_append]
    refine ⟨h.follows, .singleton _, ?_⟩
    intro x hx y hy
    simp only [List.getLast?_append, List.getLast?_singleton, Option.some_or, Option.mem_def,
      Option.some.injEq, List.head?_cons] at hx hy
    rw [← hx, ← hy]
    exact hfol
  fresh := forall_mem_append.mpr ⟨h.fresh, forall_mem_singleton.mpr hfresh⟩

theorem exists_line (hchain : PhaseChained p minted) (h : Grants p r capability)
    (hobtained : ∀ prev, r.predecessor = some prev →
      ∃ (i : Nat) (m : Minted β), minted[i]? = some m ∧ m.capability = prev) :
    ∃ before, before.Sublist minted ∧ IsLine p (before ++ [⟨r, capability⟩]) := by
  by_cases hseq : capability.claim.sequence = 1
  · exact ⟨[], nil_sublist _, isLine_first h hseq⟩
  · obtain ⟨prev, _, hprev, hterm, hfol⟩ := h.later hseq
    obtain ⟨i, last, hlast, rfl⟩ := hobtained prev hprev
    obtain ⟨before, hsublist, hline⟩ := hchain i last hlast
    obtain ⟨hfol', hpred⟩ := follows_of_claimFollows h hterm hfol
    exact ⟨before ++ [last], hsublist.trans (take_sublist _ _),
      hline.snoc hfol' hpred h.phaseSequence h.minted_fresh⟩

omit [DecidableEq β] in
theorem phaseChained_snoc (hchain : PhaseChained p minted)
    (hline : ∃ before, before.Sublist minted ∧ IsLine p (before ++ [m])) :
    PhaseChained p (minted ++ [m]) := by
  intro i m' hm'
  obtain hm' | ⟨rfl, rfl⟩ := getElem?_snoc hm'
  · obtain ⟨hi, -⟩ := List.getElem?_eq_some_iff.mp hm'
    rw [take_append_of_le_length hi]
    exact hchain i m' hm'
  · obtain ⟨before, hsublist, hline⟩ := hline
    refine ⟨before, ?_, hline⟩
    rw [take_of_length_le (by simp)]
    exact hsublist.append (List.Sublist.refl _)

theorem phaseChained_execCall (call : Call β) (hchain : PhaseChained p minted) :
    PhaseChained p (execCall p minted call).1 := by
  simp only [execCall]
  split
  next disposition capability houtcome =>
    refine phaseChained_snoc hchain (exists_line hchain (grants_of_evaluate houtcome) ?_)
    intro prev hprev
    simp only [Call.request, Option.bind_eq_some_iff, Option.map_eq_some_iff] at hprev
    obtain ⟨i, -, m, hm, hcapability⟩ := hprev
    exact ⟨i, m, hm, hcapability⟩
  · exact hchain

variable (p)

/-- In every sequence of calls, whatever is given out ends a line of capabilities that were
given out before it, one for each phase of the same attempt, each made when the phase before
had ended well and each while its claim was fresh. -/
theorem phase_chained (calls : List (Call β)) : PhaseChained p (run (execCall p) [] calls) := by
  refine invariant_run (fun minted call h => phaseChained_execCall call h) ?_
  intro i m hm
  simp at hm

end Ananke.Repair
