import Ananke.Repair.Claim
import Ananke.Machine.Run
import Ananke.Relational.Table
import Mathlib.Data.List.Sort

/-! The journal of the repair supervisor: boot epochs, phase claims and terminal events. Rows
are only ever inserted. Foreign keys are declared by the schema and not enforced. -/
namespace Ananke.RepairSupervisor

open Machine Relational Repair List

/-- What the journal rests on. -/
structure Encoding where
  /-- `transportprimitives.MarshalCanonical` -/
  marshalCanonical : Value → Option String
  /-- `sha256:` and the digest of a text in hexadecimal. -/
  sha256Digest : String → String

structure BootEpoch where
  (bootEpochID bootEpochHash startedAt : String)

structure ClaimEntry where
  (claimHash claimID phase : String)
  sequence : Int
  attemptHash : String
  (attemptNumber attemptCap : Int)
  (bootEpochID bootEpochHash journalHeadHash journalPredecessorHash claimJSON : String)

structure TerminalEvent where
  (terminalEventHash claimHash phase : String)
  sequence : Int
  (attemptHash bootEpochID bootEpochHash terminalStatus terminalEventJSON : String)

structure Journal where
  bootEpochs : List BootEpoch
  claims : List ClaimEntry
  terminalEvents : List TerminalEvent

inductive JournalError
  | recordBootEpoch
  | emptyRequiredField
  | invalidSequence (sequence : Int)
  | conflict (attemptHash phase : String)
  | predecessorMissing (sequence : Int) (phase : String)
  | marshalClaim | insertClaim | marshalTerminalEvent | insertTerminalEvent | insertWaitingForHuman
  | commit
deriving DecidableEq

def Journal.empty : Journal := ⟨[], [], []⟩

def waitingForHuman : String := "waiting_for_human"

def phaseBySequence (seq : Int) : SupervisorIntentPhase :=
  if seq = 1 then .materializationClaim
  else if seq = 2 then .adapterClaim
  else if seq = 3 then .testClaim
  else .other ""

def Journal.loadClaimByAttemptPhase (s : Journal) (attemptHash phase : String) :
    Option ClaimEntry :=
  s.claims.find? fun e => e.attemptHash = attemptHash && e.phase = phase

/-- `ORDER BY sequence` -/
def Journal.getClaimsForAttempt (s : Journal) (attemptHash : String) : List ClaimEntry :=
  (rowsOf ClaimEntry.attemptHash attemptHash s.claims).insertionSort
    fun e e' => e.sequence ≤ e'.sequence

def Journal.recordBootEpoch (s : Journal) (epoch : BootEpoch) :
    Journal × Except JournalError Unit :=
  if s.bootEpochs.any fun e =>
      e.bootEpochID = epoch.bootEpochID || e.bootEpochHash = epoch.bootEpochHash then
    (s, .error .recordBootEpoch)
  else ({ s with bootEpochs := s.bootEpochs ++ [epoch] }, .ok ())

variable (p : Encoding)

def computeJournalHeadHash (predecessorHash claimHash : String) : String :=
  p.sha256Digest (predecessorHash ++ ":" ++ claimHash)

/-- The head that a claim is chained to; the first claim is chained to none. -/
def Journal.journalPredecessor (s : Journal) (claim : SupervisorIntentClaim) :
    Except JournalError String :=
  if 1 < claim.sequence then
    match s.loadClaimByAttemptPhase claim.attemptHash
        (phaseBySequence (claim.sequence - 1)).name with
    | none =>
      .error (.predecessorMissing claim.sequence (phaseBySequence (claim.sequence - 1)).name)
    | some pred => .ok pred.journalHeadHash
  else .ok ""

def claimEntry (claim : SupervisorIntentClaim) (bootEpochID bootEpochHash predecessorHash json :
    String) : ClaimEntry where
  claimHash := claim.claimHash
  claimID := claim.claimID
  phase := claim.phase.name
  sequence := claim.sequence
  attemptHash := claim.attemptHash
  attemptNumber := claim.attemptNumber
  attemptCap := claim.attemptCap
  bootEpochID := bootEpochID
  bootEpochHash := bootEpochHash
  journalHeadHash := computeJournalHeadHash p predecessorHash claim.claimHash
  journalPredecessorHash := predecessorHash
  claimJSON := json

/-- The constraints of `supervisor_claims`. -/
def ClaimFits (claims : List ClaimEntry) (e : ClaimEntry) : Prop :=
  e.phase ∈ ["materialization_claim", "adapter_claim", "test_claim"] ∧
    1 ≤ e.sequence ∧ e.sequence ≤ 3 ∧ 1 ≤ e.attemptNumber ∧
    ∀ e' ∈ claims, e'.claimHash ≠ e.claimHash ∧ e'.claimID ≠ e.claimID ∧
      ¬ (e'.attemptHash = e.attemptHash ∧ e'.phase = e.phase) ∧
      ¬ (e'.attemptHash = e.attemptHash ∧ e'.sequence = e.sequence)

instance (claims : List ClaimEntry) (e : ClaimEntry) : Decidable (ClaimFits claims e) := by
  unfold ClaimFits
  infer_instance

/-- The phase is compared with what is stored, and the sequence with the phase before it; the
two are not compared with each other. -/
def Journal.claimPhase (s : Journal) (claim : SupervisorIntentClaim)
    (bootEpochID bootEpochHash : String) (commits : Bool) :
    Journal × Except JournalError ClaimEntry :=
  if claim.claimHash = "" ∨ claim.claimID = "" ∨ claim.attemptHash = "" then
    (s, .error .emptyRequiredField)
  else if claim.sequence < 1 ∨ 3 < claim.sequence then
    (s, .error (.invalidSequence claim.sequence))
  else
    match s.loadClaimByAttemptPhase claim.attemptHash claim.phase.name with
    | some old =>
      if old.claimJSON ≠ (p.marshalCanonical claim.toValue).getD "" then
        (s, .error (.conflict claim.attemptHash claim.phase.name))
      else (s, .ok old)
    | none =>
      match s.journalPredecessor claim with
      | .error e => (s, .error e)
      | .ok predecessorHash =>
        match p.marshalCanonical claim.toValue with
        | none => (s, .error .marshalClaim)
        | some json =>
          let entry := claimEntry p claim bootEpochID bootEpochHash predecessorHash json
          if ¬ ClaimFits s.claims entry then (s, .error .insertClaim)
          else if !commits then (s, .error .commit)
          else ({ s with claims := s.claims ++ [entry] }, .ok entry)

/-- The constraints of `supervisor_terminal_events`. -/
def EventFits (evs : List TerminalEvent) (e : TerminalEvent) : Prop :=
  ∀ e' ∈ evs, e'.terminalEventHash ≠ e.terminalEventHash ∧ e'.claimHash ≠ e.claimHash

instance (evs : List TerminalEvent) (e : TerminalEvent) : Decidable (EventFits evs e) := by
  unfold EventFits
  infer_instance

def terminalEventValue (terminalEventHash claimHash phase : String) (seq : Int)
    (attemptHash bootEpochID terminalStatus : String) : Value :=
  .object [("terminal_event_hash", .text terminalEventHash), ("claim_hash", .text claimHash),
    ("phase", .text phase), ("sequence", .number seq), ("attempt_hash", .text attemptHash),
    ("boot_epoch_id", .text bootEpochID), ("terminal_status", .text terminalStatus)]

/-- What is recorded of the claim is taken from the caller; the claim itself is not loaded. -/
def Journal.markLaunched (s : Journal) (claimHash terminalEventHash terminalStatus : String)
    (claim : SupervisorIntentClaim) (bootEpochID bootEpochHash : String) (commits : Bool) :
    Journal × Except JournalError Unit :=
  if s.terminalEvents.any (·.claimHash = claimHash) then (s, .ok ())
  else
    match p.marshalCanonical (terminalEventValue terminalEventHash claimHash claim.phase.name
        claim.sequence claim.attemptHash bootEpochID terminalStatus) with
    | none => (s, .error .marshalTerminalEvent)
    | some json =>
      let ev : TerminalEvent := ⟨terminalEventHash, claimHash, claim.phase.name, claim.sequence,
        claim.attemptHash, bootEpochID, bootEpochHash, terminalStatus, json⟩
      if ¬ EventFits s.terminalEvents ev then (s, .error .insertTerminalEvent)
      else if !commits then (s, .error .commit)
      else ({ s with terminalEvents := s.terminalEvents ++ [ev] }, .ok ())

/-- The event of a claim that an earlier epoch left without one. -/
def waitingEvent (e : ClaimEntry) : TerminalEvent :=
  let terminalHash := computeJournalHeadHash p e.journalHeadHash waitingForHuman
  { terminalEventHash := terminalHash
    claimHash := e.claimHash
    phase := e.phase
    sequence := e.sequence
    attemptHash := e.attemptHash
    bootEpochID := e.bootEpochID
    bootEpochHash := e.bootEpochHash
    terminalStatus := waitingForHuman
    terminalEventJSON := (p.marshalCanonical (terminalEventValue terminalHash e.claimHash e.phase
      e.sequence e.attemptHash e.bootEpochID waitingForHuman)).getD "" }

/-- The claims of other epochs that have no terminal event. -/
def Journal.pending (s : Journal) (currentBootEpochID : String) : List ClaimEntry :=
  s.claims.filter fun e => e.bootEpochID ≠ currentBootEpochID &&
    !s.terminalEvents.any (·.claimHash = e.claimHash)

/-- The loop over what is pending; the first insertion that fails ends it. -/
def insertWaiting : List ClaimEntry → List TerminalEvent → Option (List TerminalEvent)
  | [], evs => some evs
  | e :: es, evs =>
    if EventFits evs (waitingEvent p e) then insertWaiting es (evs ++ [waitingEvent p e])
    else none

def Journal.markPriorEpochNonterminal (s : Journal) (currentBootEpochID : String)
    (commits : Bool) : Journal × Except JournalError Unit :=
  match insertWaiting p (s.pending currentBootEpochID) s.terminalEvents with
  | none => (s, .error .insertWaitingForHuman)
  | some evs =>
    if !commits then (s, .error .commit) else ({ s with terminalEvents := evs }, .ok ())

/-- The calls of a supervisor, each with the answer to its commit. -/
inductive Operation
  | recordBootEpoch (epoch : BootEpoch)
  | claimPhase (claim : SupervisorIntentClaim) (bootEpochID bootEpochHash : String) (commits : Bool)
  | markLaunched (claimHash terminalEventHash terminalStatus : String)
      (claim : SupervisorIntentClaim) (bootEpochID bootEpochHash : String) (commits : Bool)
  | markPriorEpochNonterminal (currentBootEpochID : String) (commits : Bool)

inductive Reply
  | claim (result : Except JournalError ClaimEntry)
  | done (result : Except JournalError Unit)

def exec (s : Journal) : Operation → Journal × Reply
  | .recordBootEpoch epoch => (s.recordBootEpoch epoch).map id .done
  | .claimPhase claim epochID epochHash commits =>
    (s.claimPhase p claim epochID epochHash commits).map id .claim
  | .markLaunched claimHash eventHash status claim epochID epochHash commits =>
    (s.markLaunched p claimHash eventHash status claim epochID epochHash commits).map id .done
  | .markPriorEpochNonterminal current commits =>
    (s.markPriorEpochNonterminal p current commits).map id .done

/-! What a call can do to the claims and to the events. -/

/-- What a claim met when it was inserted. -/
structure Admitted (s : Journal) (claim : SupervisorIntentClaim) (e : ClaimEntry) : Prop where
  fresh : s.loadClaimByAttemptPhase claim.attemptHash claim.phase.name = none
  made : ∃ epochID epochHash predecessorHash json,
    s.journalPredecessor claim = .ok predecessorHash ∧
    p.marshalCanonical claim.toValue = some json ∧
    e = claimEntry p claim epochID epochHash predecessorHash json
  fits : ClaimFits s.claims e

variable {p} (s : Journal) (claim : SupervisorIntentClaim)

theorem claimPhase_cases (epochID epochHash : String) (commits : Bool) :
    (s.claimPhase p claim epochID epochHash commits).1 = s ∨ ∃ e, Admitted p s claim e ∧
        (s.claimPhase p claim epochID epochHash commits).1 =
          { s with claims := s.claims ++ [e] } := by
  unfold Journal.claimPhase
  split
  · exact .inl rfl
  split
  · exact .inl rfl
  split
  · exact .inl (by split <;> rfl)
  next hfresh =>
  split
  · exact .inl rfl
  next predecessorHash hpred =>
  split
  · exact .inl rfl
  next json hjson =>
  dsimp only
  split
  · exact .inl rfl
  next hfits =>
  split
  · exact .inl rfl
  · exact .inr ⟨_, ⟨hfresh, ⟨_, _, _, _, hpred, hjson, rfl⟩, not_not.mp hfits⟩, rfl⟩

/-- Events are only appended, and only to claims that have none. -/
structure Grows (events events' : List TerminalEvent) : Prop where
  isPrefix : events <+: events'
  keyed : (events.map TerminalEvent.claimHash).Nodup → (events'.map TerminalEvent.claimHash).Nodup

namespace Grows

variable {evs events' events'' : List TerminalEvent}

protected theorem refl : Grows evs evs := ⟨prefix_refl _, id⟩

protected theorem trans (h : Grows evs events') (h' : Grows events' events'') :
    Grows evs events'' := ⟨h.isPrefix.trans h'.isPrefix, h'.keyed ∘ h.keyed⟩

theorem snoc {e : TerminalEvent} (h : EventFits evs e) : Grows evs (evs ++ [e]) :=
  ⟨prefix_append _ _, fun hkeys =>
    nodup_snoc hkeys (not_mem_keys fun e' he' => (h e' he').2)⟩

end Grows

theorem markLaunched_claims (claimHash eventHash status epochID epochHash : String)
    (commits : Bool) :
    (s.markLaunched p claimHash eventHash status claim epochID epochHash commits).1.claims =
      s.claims ∧
    Grows s.terminalEvents (s.markLaunched p claimHash eventHash status claim epochID epochHash
      commits).1.terminalEvents := by
  unfold Journal.markLaunched
  split
  · exact ⟨rfl, .refl⟩
  split
  · exact ⟨rfl, .refl⟩
  dsimp only
  split
  · exact ⟨rfl, .refl⟩
  next hfits =>
  split
  · exact ⟨rfl, .refl⟩
  · exact ⟨rfl, .snoc (not_not.mp hfits)⟩

/-- One event for each claim, none of which had one. -/
theorem insertWaiting_some {es : List ClaimEntry} {evs events' : List TerminalEvent}
    (h : insertWaiting p es evs = some events') :
    Grows evs events' ∧ events' = evs ++ es.map (waitingEvent p) ∧
      (es.map ClaimEntry.claimHash).Nodup ∧
      ∀ e ∈ es, ∀ ev ∈ evs, ev.claimHash ≠ e.claimHash := by
  induction es generalizing evs with
  | nil =>
    obtain rfl := Option.some.inj h
    exact ⟨.refl, by simp⟩
  | cons e es ih =>
    rw [insertWaiting] at h
    split at h
    next hfits =>
      obtain ⟨hgrows, rfl, hnodup, hfresh⟩ := ih h
      refine ⟨(Grows.snoc hfits).trans hgrows, by simp, nodup_cons.mpr ⟨?_, hnodup⟩, ?_⟩
      · intro hmem
        obtain ⟨e', he', hhash⟩ := mem_map.mp hmem
        exact hfresh e' he' (waitingEvent p e) (by simp) hhash.symm
      · intro e' he' ev hevent
        rcases mem_cons.mp he' with rfl | he'
        · exact (hfits ev hevent).2
        · exact hfresh e' he' ev (mem_append_left _ hevent)
    · cases h

theorem markPriorEpoch_claims (cur : String) (commits : Bool) :
    (s.markPriorEpochNonterminal p cur commits).1.claims = s.claims ∧ Grows s.terminalEvents
        (s.markPriorEpochNonterminal p cur commits).1.terminalEvents := by
  unfold Journal.markPriorEpochNonterminal
  split
  · exact ⟨rfl, .refl⟩
  next evs hevents =>
  split
  · exact ⟨rfl, .refl⟩
  · exact ⟨rfl, (insertWaiting_some hevents).1⟩

theorem exec_claims (s : Journal) (x : Operation) : (exec p s x).1.claims = s.claims ∨
      ∃ claim epochID epochHash commits e, x = .claimPhase claim epochID epochHash commits ∧
        Admitted p s claim e ∧ (exec p s x).1.claims = s.claims ++ [e] := by
  cases x with
  | recordBootEpoch =>
    left
    simp only [exec, Journal.recordBootEpoch]
    split <;> rfl
  | claimPhase claim epochID epochHash commits =>
    rcases claimPhase_cases s claim epochID epochHash commits (p := p) with h | ⟨e, hadm, h⟩
    · exact .inl (congrArg Journal.claims h)
    · exact .inr ⟨claim, epochID, epochHash, commits, e, rfl, hadm, congrArg Journal.claims h⟩
  | markLaunched =>
    exact .inl (markLaunched_claims _ _ _ _ _ _ _ _).1
  | markPriorEpochNonterminal =>
    exact .inl (markPriorEpoch_claims _ _ _).1

theorem exec_events (s : Journal) (x : Operation) :
    Grows s.terminalEvents (exec p s x).1.terminalEvents := by
  cases x with
  | recordBootEpoch =>
    simp only [exec, Journal.recordBootEpoch]
    split <;> exact .refl
  | claimPhase claim epochID epochHash commits =>
    have hevents : (exec p s (.claimPhase claim epochID epochHash commits)).1.terminalEvents =
        s.terminalEvents := by
      rcases claimPhase_cases s claim epochID epochHash commits (p := p) with h | ⟨e, -, h⟩
      · exact congrArg Journal.terminalEvents h
      · exact (congrArg Journal.terminalEvents h).trans rfl
    exact hevents ▸ .refl
  | markLaunched =>
    exact (markLaunched_claims _ _ _ _ _ _ _ _).2
  | markPriorEpochNonterminal =>
    exact (markPriorEpoch_claims _ _ _).2

end Ananke.RepairSupervisor
