import Mathlib.Data.List.Induction
import Ananke.Interaction.Logic
import Ananke.Supervise.Questions

/-! What every trace of `finishOwnedWorker` keeps, whatever the backend, the store and the
files answer. -/
namespace Ananke.Supervise

open Store Lifecycle Interaction List

abbrev Ev := Event Answer

def isReap : Ev → Bool
  | ⟨.reapWorker _, _⟩ => true
  | _ => false

/-- The answers that make a cleanup attempt or the reap fail. -/
def recordsFailure : Ev → Bool
  | ⟨.groupMembers _, .error _⟩ => true
  | ⟨.signalGroup _ _, e⟩ => (refused e).isSome
  | ⟨.beforeDeadline _, before⟩ => !before
  | ⟨.reapWorker _, reaped⟩ => reaped.2.isSome
  | _ => false

def Reaped (t : List Ev) : Prop := ∃ e ∈ t, isReap e = true

/-- No failure has been recorded. -/
def Clean (t : List Ev) : Prop := ∀ e ∈ t, recordsFailure e = false

/-- The last thing seen is an empty worker group. -/
def SawEmptyGroup (pgid : Int) (t : List Ev) : Prop :=
  t.getLast? = some ⟨.groupMembers pgid, .ok []⟩

/-- A cleanup attempt saw live members, sent TERM and at most waited since. -/
def TermSent (pgid : Int) (t : List Ev) : Prop :=
  ∃ earlier members e waits, members ≠ [] ∧ (waits = [] ∨ ∃ d, waits = [⟨.wait d, ()⟩]) ∧
    t = earlier ++ [⟨.groupMembers pgid, .ok members⟩, ⟨.signalGroup pgid .term, e⟩] ++ waits

/-- The same attempt then saw that some members are still there. -/
def SurvivedTerm (pgid : Int) (t : List Ev) : Prop :=
  ∃ before remaining, TermSent pgid before ∧ remaining ≠ [] ∧
    t = before ++ [⟨.groupMembers pgid, .ok remaining⟩]

/-- The transcript was sealed and then read back as consumed to its end. -/
def TranscriptDelivered (t : List Ev) : Prop :=
  ∃ size prog before between after, prog.finalSize = size ∧ prog.consumedOffset = size ∧
    t = before ++ ⟨.sealTranscript size, none⟩ :: between ++
      ⟨.getTranscriptProgress, .ok prog⟩ :: after

/-- What must have happened before `completed` may be committed. -/
structure CleanExit (s : Supervisor) (failure : Option String) (t : List Ev) : Prop where
  failure : failure = none
  clean : Clean t
  exitCode : ∃ pid, ⟨.reapWorker pid, (0, none)⟩ ∈ t
  transcript : s.transcriptRequired = true → TranscriptDelivered t

/-- When a call may be made, given the trace before it. -/
def Admitted (s : Supervisor) (fail : Option String) (t : List Ev) (e : Ev) : Prop :=
  match e.1 with
  | .reapWorker _ => ¬ Reaped t ∧ SawEmptyGroup s.id.supervisorPGID t
  | .signalGroup pgid signal => ¬ Reaped t ∧ (signal = .kill → SurvivedTerm pgid t)
  | .commitTerminal target _ _ =>
    Reaped t ∧ (target = .completed → CleanExit s fail t)
  | _ => True

/-- Every call of a program that follows the trace is admitted, and `P` holds when it returns. -/
abbrev Safely (s : Supervisor) (fail : Option String) {α : Type} (p : Sup α)
    (P : α → List Ev → Prop) (t : List Ev) : Prop :=
  wp (traces (Always (Admitted s fail))) p P t

variable {s : Supervisor} {fail : Option String} {t t' u : List Ev} {e : Ev} {pgid : Int}

theorem admitted_of_harmless {q : Call} (a : Answer q) (h : Harmless q) :
    Admitted s fail t ⟨q, a⟩ := by
  cases q <;> simp_all [Harmless, Admitted]

theorem not_reaped_of_harmless (h : Harmless e.1) : isReap e = false := by
  obtain ⟨q, _⟩ := e
  cases q <;> simp_all [Harmless, isReap]

theorem clean_of_harmless (h : Harmless e.1) : recordsFailure e = false := by
  obtain ⟨q, _⟩ := e
  cases q <;> simp_all [Harmless, recordsFailure]

theorem reaped_snoc : Reaped (t ++ [e]) ↔ Reaped t ∨ isReap e = true := by
  simp only [Reaped, mem_append, mem_singleton]
  constructor
  · rintro ⟨e', he' | rfl, hr⟩
    · exact .inl ⟨e', he', hr⟩
    · exact .inr hr
  · rintro (⟨e', he', hr⟩ | hr)
    · exact ⟨e', .inl he', hr⟩
    · exact ⟨e, .inr rfl, hr⟩

theorem clean_snoc : Clean (t ++ [e]) ↔ Clean t ∧ recordsFailure e = false := by
  simp [Clean, or_imp, forall_and]

/-- The trace up to the reap: everything admitted, and not reaped yet. -/
structure Unreaped (s : Supervisor) (failure : Option String) (t : List Ev) : Prop where
  admitted : Always (Admitted s failure) t
  unreaped : ¬ Reaped t

theorem Unreaped.snoc (h : Unreaped s fail t) (he : Admitted s fail t e)
    (hr : isReap e = false) : Unreaped s fail (t ++ [e]) :=
  ⟨always_snoc.mpr ⟨h.admitted, he⟩, by simp [reaped_snoc, h.unreaped, hr]⟩

/-- What a cleanup step leaves: still unreaped, and an attempt without error saw the group
empty and recorded no failure. -/
def CleanedUp (s : Supervisor) (fail : Option String) (pgid : Int) (t : List Ev)
    (err : Option String) (t' : List Ev) : Prop :=
  Unreaped s fail t' ∧ (err = none → SawEmptyGroup pgid t' ∧ (Clean t → Clean t'))

variable {err : Option String}

theorem CleanedUp.of_clean (h : CleanedUp s fail pgid u err t')
    (hclean : Clean t → Clean u) : CleanedUp s fail pgid t err t' :=
  ⟨h.1, fun herr => ⟨(h.2 herr).1, (h.2 herr).2 ∘ hclean⟩⟩

section

variable (h : Unreaped s fail t)
include h

theorem Unreaped.ask {α : Type} {q : Call} {k : Answer q → Sup α} {P : α → List Ev → Prop}
    (hq : ∀ a, Admitted s fail t ⟨q, a⟩) (hr : ∀ a, isReap ⟨q, a⟩ = false)
    (hk : ∀ a, Unreaped s fail (t ++ [⟨q, a⟩]) → Safely s fail (k a) P (t ++ [⟨q, a⟩])) :
    Safely s fail (.ask q k) P t := by
  refine wp_traces_ask.mpr fun a => ?_
  have ha := h.snoc (hq a) (hr a)
  exact ⟨ha.admitted, hk a ha⟩

theorem awaitEmptyGroup_spec (fuel : Nat) :
    Safely s fail (awaitEmptyGroup s fuel pgid) (CleanedUp s fail pgid t) t := by
  refine wp_loop (fun _ t' => Unreaped s fail t' ∧ (Clean t → Clean t')) ?_ fuel ⟨h, fun hc => hc⟩
  rintro ⟨⟩ _ ⟨h', hclean⟩
  refine h'.ask (fun _ => trivial) (fun _ => rfl) fun members hmem => ?_
  match members with
  | .error e => exact wp_traces_ret.mpr ⟨hmem, by simp⟩
  | .ok [] =>
    refine wp_traces_ret.mpr ⟨hmem, fun _ => ⟨by simp [SawEmptyGroup], fun hc => ?_⟩⟩
    exact clean_snoc.mpr ⟨hclean hc, rfl⟩
  | .ok (m :: ms) =>
    refine hmem.ask (fun _ => trivial) (fun _ => rfl) fun before hpre => ?_
    cases before with
    | false => exact wp_traces_ret.mpr ⟨hpre, by simp⟩
    | true =>
      refine hpre.ask (fun _ => trivial) (fun _ => rfl) fun waited hwaited => ?_
      refine wp_traces_ret.mpr ⟨hwaited, fun hc => ?_⟩
      simp only [clean_snoc]
      exact ⟨⟨⟨hclean hc, rfl⟩, rfl⟩, rfl⟩

theorem killGroup_spec (hterm : TermSent pgid t) (fuel : Nat) :
    Safely s fail (killGroup s fuel pgid) (CleanedUp s fail pgid t) t := by
  refine h.ask (fun _ => trivial) (fun _ => rfl) fun remaining hrem => ?_
  match remaining with
  | .error e => exact wp_traces_ret.mpr ⟨hrem, by simp⟩
  | .ok [] =>
    refine wp_traces_ret.mpr ⟨hrem, fun _ => ⟨by simp [SawEmptyGroup], fun hc => ?_⟩⟩
    exact clean_snoc.mpr ⟨hc, rfl⟩
  | .ok (m :: ms) =>
    refine hrem.ask (fun _ => ⟨hrem.unreaped, fun _ => ⟨t, m :: ms, hterm, by simp, rfl⟩⟩)
      (fun _ => rfl) fun killed hkilled => ?_
    dsimp
    cases hkill : refused killed with
    | some e => exact wp_traces_ret.mpr ⟨hkilled, by simp⟩
    | none =>
      refine wp_mono (fun _ _ h' => h'.of_clean fun hc => ?_) (awaitEmptyGroup_spec hkilled fuel)
      simp only [clean_snoc]
      exact ⟨⟨hc, rfl⟩, by simp [recordsFailure, hkill]⟩

theorem cleanupGroup_spec (fuel : Nat) :
    Safely s fail (cleanupGroup s fuel pgid) (CleanedUp s fail pgid t) t := by
  refine h.ask (fun _ => trivial) (fun _ => rfl) fun members hmem => ?_
  match members with
  | .error e => exact wp_traces_ret.mpr ⟨hmem, by simp⟩
  | .ok [] =>
    refine wp_traces_ret.mpr ⟨hmem, fun _ => ⟨by simp [SawEmptyGroup], fun hc => ?_⟩⟩
    exact clean_snoc.mpr ⟨hc, rfl⟩
  | .ok (m :: ms) =>
    refine hmem.ask (fun _ => ⟨hmem.unreaped, by simp⟩) (fun _ => rfl)
      fun termed htermed => ?_
    dsimp
    cases hterm : refused termed with
    | some e => exact wp_traces_ret.mpr ⟨htermed, by simp⟩
    | none =>
      have hclean : Clean t → Clean (t ++ [⟨.groupMembers pgid, .ok (m :: ms)⟩] ++
          [⟨.signalGroup pgid .term, termed⟩]) := by
        intro hc
        simp only [clean_snoc]
        exact ⟨⟨hc, rfl⟩, by simp [recordsFailure, hterm]⟩
      by_cases hgrace : s.cfg.gracePeriod > 0
      · simp only [hgrace, if_true]
        refine htermed.ask (fun _ => trivial) (fun _ => rfl) fun waited hwaited => ?_
        refine wp_mono (fun _ _ h' => h'.of_clean fun hc => clean_snoc.mpr ⟨hclean hc, rfl⟩)
          (killGroup_spec hwaited ?_ fuel)
        exact ⟨t, m :: ms, termed, [⟨.wait s.cfg.gracePeriod, ()⟩], by simp, .inr ⟨_, rfl⟩, by simp⟩
      · simp only [hgrace, if_false]
        refine wp_mono (fun _ _ h' => h'.of_clean hclean) (killGroup_spec htermed ?_ fuel)
        exact ⟨t, m :: ms, termed, [], by simp, .inl rfl, by simp⟩

theorem Unreaped.append (ht : Always (Admitted s fail) (t ++ u))
    (hu : ∀ e ∈ u, Harmless e.1) : Unreaped s fail (t ++ u) := by
  refine ⟨ht, ?_⟩
  rintro ⟨e, he, hr⟩
  rcases mem_append.mp he with he | he
  · exact h.unreaped ⟨e, he, hr⟩
  · simp [not_reaped_of_harmless (hu e he)] at hr

end

theorem clean_append (h : Clean t) (hu : ∀ e ∈ u, Harmless e.1) : Clean (t ++ u) := by
  exact forall_mem_append.mpr ⟨h, fun e he => clean_of_harmless (hu e he)⟩

/-- What holds each time `cleanupGroupUntilProven` goes round. -/
structure CleanupInv (s : Supervisor) (failure : Option String) (l : CleanupLoop) (t : List Ev) :
    Prop where
  unreaped : Unreaped s failure t
  clean : l.failure = none → failure = none ∧ Clean t
  recorded : l.cleanupFailureRecorded = true → l.failure ≠ none

theorem join_ne_none (fail : Option String) (text : String) : join fail text ≠ none := by
  cases fail <;> simp [join]

theorem recordCleanup_inv {l : CleanupLoop} {persisted : Bool}
    (ht : Unreaped s fail t) (hclean : err = none → l.failure = none → fail = none ∧ Clean t)
    (hrecorded : l.cleanupFailureRecorded = true → l.failure ≠ none) :
    CleanupInv s fail (recordCleanup s l persisted err) t := by
  cases err with
  | none => exact ⟨ht, fun h => hclean rfl h, hrecorded⟩
  | some text =>
    cases hflag : l.cleanupFailureRecorded with
    | false =>
      simp only [recordCleanup, hflag]
      exact ⟨ht, fun h => absurd h (join_ne_none _ _), fun _ => join_ne_none _ _⟩
    | true =>
      have hfailed := hrecorded hflag
      simp only [recordCleanup, hflag]
      exact ⟨ht, fun h => absurd h hfailed, fun _ => hfailed⟩

theorem untilProven_spec (s : Supervisor) (fuel : Nat) (fail : Option String) : Safely s fail
      (cleanupGroupUntilProven s fuel s.id.supervisorPGID fail)
      (fun f t => Unreaped s fail t ∧ SawEmptyGroup s.id.supervisorPGID t ∧
        (f = none → fail = none ∧ Clean t)) [] := by
  refine wp_loop (CleanupInv s fail) ?_ fuel ?_
  · intro l t hl
    refine wp_bind (wp_traces_asks (fun _ _ a => admitted_of_harmless a)
      (asks_persistObligation l) hl.unreaped.admitted) ?_
    rintro persisted _ ⟨ht', _, rfl, hu⟩
    have hkept := hl.unreaped.append ht' hu
    refine wp_bind (cleanupGroup_spec hkept fuel) ?_
    rintro err t'' ⟨ht'', hnone⟩
    have hclean : err = none → l.failure = none → fail = none ∧ Clean t'' := by
      intro herr hl'
      obtain ⟨hf, hc⟩ := hl.clean hl'
      exact ⟨hf, (hnone herr).2 (clean_append hc hu)⟩
    by_cases hdone : err.isNone = true ∧ persisted = true
    · simp only [hdone, and_self, if_true, Prog.pure_eq, wp_traces_ret]
      have herr : err = none := by simpa using hdone.1
      exact ⟨ht'', (hnone herr).1, hclean herr⟩
    · simp only [hdone, if_false, call, Prog.call, Prog.bind_eq, Prog.bind_ask, Prog.bind_ret]
      refine ht''.ask (fun _ => trivial) (fun _ => rfl) fun waited hwaited => ?_
      refine wp_traces_ret.mpr (recordCleanup_inv hwaited ?_ hl.recorded)
      intro herr hl'
      exact ⟨(hclean herr hl').1, clean_snoc.mpr ⟨(hclean herr hl').2, rfl⟩⟩
  · exact ⟨⟨always_nil, by simp [Reaped]⟩, fun h => ⟨h, by simp [Clean]⟩, by simp⟩

/-! After the reap nothing but the commit can go wrong. -/

def SealedAt (size : Int) (t : List Ev) : Prop :=
  ∃ before between, t = before ++ ⟨.sealTranscript size, none⟩ :: between

variable {size : Int}

theorem SealedAt.append (h : SealedAt size t) : SealedAt size (t ++ u) := by
  obtain ⟨before, between, rfl⟩ := h
  exact ⟨before, between ++ u, by simp⟩

theorem transcriptDelivered_of_sealed {prog : TranscriptProgress}
    (h : SealedAt size t) (hfinal : prog.finalSize = size)
    (hcons : prog.consumedOffset = size) :
    TranscriptDelivered (t ++ [⟨.getTranscriptProgress, .ok prog⟩] ++ u) := by
  obtain ⟨before, between, rfl⟩ := h
  exact ⟨size, prog, before, between, u, hfinal, hcons, by simp⟩

/-- What a round of the handoff may leave behind. -/
def RoundLeaves (size : Int) (r : HandoffLoop ⊕ Option String) (t : List Ev) : Prop :=
  (∀ l, r = .inl l → l.isSealed = true → SealedAt size t) ∧ (r = .inr none → TranscriptDelivered t)

variable {l : HandoffLoop}

theorem retryHandoff_leaves (h : l.isSealed = true → SealedAt size t) :
    wp (traces fun _ => True) (retryHandoff s l) (RoundLeaves size) t := by
  refine wp_traces_ask.mpr fun _ => ⟨trivial, wp_traces_ret.mpr ⟨?_, by simp⟩⟩
  rintro l' hl'
  cases hl'
  exact fun hs => (h hs).append

theorem leaves_error {text : String} :
    wp (traces fun _ => True) (.ret (.inr (some text)) : Sup (HandoffLoop ⊕ Option String))
      (RoundLeaves size) t :=
  wp_traces_ret.mpr ⟨by simp, by simp⟩

theorem awaitConsumed_leaves (h : SealedAt size t) :
    wp (traces fun _ => True) (awaitConsumed s size l) (RoundLeaves size) t := by
  refine wp_traces_ask.mpr fun prog => ⟨trivial, ?_⟩
  match prog with
  | .error e =>
    dsimp
    split
    · exact leaves_error
    · exact retryHandoff_leaves fun _ => h.append
  | .ok prog =>
    dsimp
    split
    · exact leaves_error
    next hfinal =>
      split
      next hcons =>
        refine wp_bind (wp_traces_extends _ _) ?_
        rintro info _ ⟨_, rfl⟩
        match info with
        | .error e => exact leaves_error
        | .ok info =>
          dsimp only
          split
          · exact leaves_error
          · exact wp_traces_ret.mpr ⟨by simp, fun _ =>
              transcriptDelivered_of_sealed h (not_not.mp hfinal) hcons⟩
      · split
        · exact leaves_error
        · exact retryHandoff_leaves fun _ => h.append

theorem handoffRound_leaves (h : l.isSealed = true → SealedAt size t) :
    wp (traces fun _ => True) (handoffRound s size l) (RoundLeaves size) t := by
  refine wp_traces_ask.mpr fun run => ⟨trivial, ?_⟩
  match run with
  | .error e =>
    dsimp
    split
    · exact leaves_error
    · exact retryHandoff_leaves fun hs => (h hs).append
  | .ok run =>
    dsimp
    split
    · exact leaves_error
    · split
      · exact leaves_error
      · split
        next hs => exact awaitConsumed_leaves (h hs).append
        next =>
          refine wp_traces_ask.mpr fun err => ⟨trivial, ?_⟩
          match err with
          | some e =>
            dsimp
            split
            · exact leaves_error
            · exact retryHandoff_leaves fun hs => (h hs).append.append
          | none => exact awaitConsumed_leaves ⟨_, [], rfl⟩

theorem handOff_delivers (s : Supervisor) (fuel : Nat) (t : List Ev) :
    wp (traces fun _ => True) (handOff s fuel)
      (fun err t' => err = none → s.transcriptRequired = true → TranscriptDelivered t') t := by
  unfold handOff
  split
  next hreq =>
    refine wp_bind (wp_traces_extends _ _) ?_
    rintro info t' -
    match info with
    | .error e => exact wp_traces_ret.mpr (by simp)
    | .ok info =>
      refine wp_loop (fun l t => l.isSealed = true → SealedAt info.size t) ?_ fuel (by simp)
      intro l t hl
      refine wp_mono ?_ (handoffRound_leaves hl)
      rintro (l' | _) _ ⟨hl', hdone⟩
      · exact hl' l' rfl
      · rintro rfl -
        exact hdone rfl
  next hreq => exact wp_traces_ret.mpr fun _ h => absurd h hreq

theorem decideTerminal_completed (s : Supervisor) (exitCode : Int) (t : List Ev) :
    wp (traces fun _ => True) (decideTerminal s exitCode)
      (fun decided _ => decided.1 = .completed → exitCode = 0) t := by
  refine wp_traces_ask.mpr fun run => ⟨trivial, ?_⟩
  match run with
  | .error e => exact wp_traces_ret.mpr (by simp)
  | .ok run =>
    dsimp
    split
    · exact wp_traces_ret.mpr (by simp)
    · split
      · exact wp_traces_ret.mpr (by simp)
      · split
        next hzero => exact wp_traces_ret.mpr fun _ => hzero
        next => exact wp_traces_ret.mpr (by simp)

/-- The trace once the worker is reaped: everything admitted so far. -/
structure AfterReap (s : Supervisor) (failure : Option String) (t : List Ev) : Prop where
  admitted : Always (Admitted s failure) t
  reaped : Reaped t

theorem Reaped.append (h : Reaped t) : Reaped (t ++ u) := by
  obtain ⟨e, he, hr⟩ := h
  exact ⟨e, mem_append_left u he, hr⟩

theorem CleanExit.append (h : CleanExit s fail t) (hu : ∀ e ∈ u, Harmless e.1) :
    CleanExit s fail (t ++ u) where
  failure := h.failure
  clean := clean_append h.clean hu
  exitCode := by
    obtain ⟨pid, hpid⟩ := h.exitCode
    exact ⟨pid, mem_append_left u hpid⟩
  transcript := by
    intro hreq
    obtain ⟨size, prog, before, between, after, hfinal, hcons, rfl⟩ :=
      h.transcript hreq
    exact ⟨size, prog, before, between, after ++ u, hfinal, hcons, by simp⟩

theorem wp_harmless {α : Type} {p : Sup α} (hp : Asks Harmless p) (h : AfterReap s fail t) :
    Safely s fail p
      (fun _ t' => AfterReap s fail t' ∧ ∃ u, t' = t ++ u ∧ ∀ e ∈ u, Harmless e.1) t := by
  refine wp_mono ?_ (wp_traces_asks (fun _ _ a => admitted_of_harmless a) hp h.admitted)
  rintro _ _ ⟨ht', u, rfl, hu⟩
  exact ⟨⟨ht', h.reaped.append⟩, u, rfl, hu⟩

variable {f : Option String}

theorem commitOrCancel_spec {term : State} {reason : String}
    (h : AfterReap s fail t) (hexit : term = .completed → CleanExit s fail t) :
    Safely s fail (commitTerminalOrCancel s f term reason) (fun _ t' => AfterReap s fail t')
      t := by
  refine wp_traces_ask.mpr fun err => ?_
  have hnext : AfterReap s fail (t ++ [⟨.commitTerminal term reason (finalOutbox s term), err⟩]) :=
    ⟨always_snoc.mpr ⟨h.admitted, h.reaped, hexit⟩, h.reaped.append⟩
  refine ⟨hnext.admitted, ?_⟩
  dsimp
  split
  · refine wp_traces_ask.mpr fun err' => ?_
    have hlast : Always (Admitted s fail) (_ ++ [⟨.commitTerminal .cancelled
        "cancelled by durable request" (finalOutbox s .cancelled), err'⟩]) :=
      always_snoc.mpr ⟨hnext.admitted, hnext.reaped, by simp⟩
    exact ⟨hlast, wp_traces_ret.mpr ⟨hlast, hnext.reaped.append⟩⟩
  · exact wp_traces_ret.mpr hnext

theorem commitFinal_spec {exitCode : Int} (h : AfterReap s fail t)
    (hexit : f = none → exitCode = 0 → CleanExit s fail t) (fuel : Nat) :
    Safely s fail (commitFinal s fuel exitCode f) (fun _ t' => AfterReap s fail t') t := by
  refine wp_bind (wp_traces_and (wp_harmless (asks_decideTerminal s exitCode) h)
    (decideTerminal_completed s exitCode t)) ?_
  rintro _ t' ⟨⟨h', _, rfl, hu⟩, hzero⟩
  refine wp_bind (commitOrCancel_spec h' ?_) ?_
  · intro hdone
    cases f with
    | none => exact (hexit rfl (hzero hdone)).append hu
    | some text => simp [finalDecision] at hdone
  · rintro ⟨_, err⟩ _ ht'
    cases err with
    | some e => exact wp_traces_ret.mpr ht'
    | none =>
      refine wp_bind (wp_harmless (asks_acknowledgeOutbox s fuel) ht') ?_
      exact fun _ t'' ht'' => wp_traces_ret.mpr ht''.1

theorem finishReaped_spec {pid : Int} {reaped : Int × Option Err}
    (h : AfterReap s fail t) (hmem : ⟨.reapWorker pid, reaped⟩ ∈ t)
    (hclean : f = none → reaped.2 = none → fail = none ∧ Clean t) (fuel : Nat) :
    Safely s fail (finishReaped s fuel f reaped) (fun _ t' => AfterReap s fail t') t := by
  obtain ⟨_, err⟩ := reaped
  cases err with
  | some e =>
    refine wp_bind (wp_harmless (asks_untilPersisted s fuel _) h) ?_
    rintro _ t' ⟨h', -⟩
    refine wp_bind (wp_harmless (asks_finalization s fuel) h') ?_
    rintro _ t'' ⟨h'', -⟩
    exact commitFinal_spec h'' (fun hf => absurd hf (join_ne_none _ _)) fuel
  | none =>
    refine wp_bind (wp_traces_and (wp_harmless (asks_handOff s fuel) h)
      (handOff_delivers s fuel t)) ?_
    rintro handoffErr _ ⟨⟨h', u, rfl, hu⟩, hdel⟩
    cases handoffErr with
    | some text =>
      refine wp_bind (wp_harmless (asks_untilPersisted s fuel _) h') ?_
      exact fun _ t'' ht'' => wp_traces_ret.mpr ht''.1
    | none =>
      refine wp_bind (wp_harmless (asks_finalization s fuel) h') ?_
      rintro _ _ ⟨h'', _, rfl, hu'⟩
      refine commitFinal_spec h'' ?_ fuel
      rintro hf rfl
      obtain ⟨hnone, hc⟩ := hclean hf rfl
      have hexit : CleanExit s fail (t ++ u) :=
        ⟨hnone, clean_append hc hu, ⟨pid, mem_append_left u hmem⟩, hdel rfl⟩
      exact hexit.append hu'

theorem finishOwnedWorker_spec (s : Supervisor) (fuel : Nat) (workerPID : Int)
    (fail : Option String) :
    Safely s fail (finishOwnedWorker s fuel workerPID fail) (fun _ t => AfterReap s fail t) [] := by
  refine wp_bind (untilProven_spec s fuel fail) ?_
  rintro _ t ⟨ht, hempty, hclean⟩
  refine wp_traces_ask.mpr fun reaped => ?_
  have hreap : AfterReap s fail (t ++ [⟨.reapWorker workerPID, reaped⟩]) :=
    ⟨always_snoc.mpr ⟨ht.admitted, ht.unreaped, hempty⟩, reaped_snoc.mpr (.inr rfl)⟩
  have hmem : (⟨.reapWorker workerPID, reaped⟩ : Ev) ∈ t ++ [⟨.reapWorker workerPID, reaped⟩] := by
    simp
  refine ⟨hreap.admitted, finishReaped_spec hreap hmem ?_ fuel⟩
  intro hf hok
  exact ⟨(hclean hf).1, clean_snoc.mpr ⟨(hclean hf).2, by simp [recordsFailure, hok]⟩⟩

theorem reap_at_most_once (h : Always (Admitted s fail) t) : t.countP isReap ≤ 1 := by
  induction t using List.reverseRecOn with
  | nil => simp
  | append_singleton t e ih =>
    obtain ⟨ht, _⟩ := always_snoc.mp h
    rw [countP_append, countP_singleton]
    by_cases hr : isReap e = true
    · have hnone : ¬ Reaped t := by
        obtain ⟨q, _⟩ := e
        cases q <;> simp_all [isReap, Admitted]
      have hzero : t.countP isReap = 0 := by
        rw [countP_eq_zero]
        exact fun e' he' hr' => hnone ⟨e', he', hr'⟩
      simp [hzero, hr]
    · simpa [hr] using ih ht

theorem reap_once (h : AfterReap s fail t) : t.countP isReap = 1 := by
  have hle := reap_at_most_once h.admitted
  obtain ⟨e, he, hr⟩ := h.reaped
  have hpos : 0 < t.countP isReap := countP_pos_iff.mpr ⟨e, he, hr⟩
  omega

theorem unreaped_cleanup {fuel : Nat} {p : Sup (Option String)}
    (h : Runs (cleanupGroupUntilProven s fuel pgid fail) t p) : t.countP isReap = 0 := by
  rw [countP_eq_zero]
  rintro ⟨q, _⟩ he hr
  have hq : Cleans q := asks_of_runs (asks_untilProven s fuel pgid fail) h _ he
  cases q <;> simp_all [isReap, Cleans]

/-- In every execution each call is admitted where it is made; the worker is reaped at most
once, never by the cleanup loop, and exactly once as soon as the execution is past that loop, in
particular when it returns. -/
theorem finishOwnedWorker_safe (s : Supervisor) (fuel : Nat) (workerPID : Int)
    (fail : Option String) {t : List Ev} {p : Sup (State × Option String)}
    (h : Runs (finishOwnedWorker s fuel workerPID fail) t p) :
    Always (Admitted s fail) t ∧ t.countP isReap ≤ 1 ∧
      ((∃ p', Runs (cleanupGroupUntilProven s fuel s.id.supervisorPGID fail) t p') →
        t.countP isReap = 0) ∧
      ((¬ ∃ p', Runs (cleanupGroupUntilProven s fuel s.id.supervisorPGID fail) t p') →
        t.countP isReap = 1) ∧
      ∀ r, p = .ret r → t.countP isReap = 1 := by
  obtain ⟨hadmitted, hp⟩ := wp_traces_sound (finishOwnedWorker_spec s fuel workerPID fail)
    always_nil h
  rw [nil_append] at hadmitted hp
  refine ⟨hadmitted, reap_at_most_once hadmitted, ?_, ?_, ?_⟩
  · rintro ⟨_, hcleanup⟩
    exact unreaped_cleanup hcleanup
  · intro hleft
    rcases runs_bind h with hcleanup | ⟨f, t₁, t₂, rfl, hcleanup, hrest⟩
    · exact absurd hcleanup hleft
    · refine reap_once ⟨hadmitted, ?_⟩
      cases hrest with
      | nil => exact absurd ⟨_, by simpa using hcleanup⟩ hleft
      | ask => exact ⟨_, mem_append_right t₁ mem_cons_self, rfl⟩
  · rintro r rfl
    exact reap_once (wp_traces_ret.mp hp)

def demoSupervisor : Supervisor where
  cfg := { runID := "r", socketPath := "/s", token := "k" }
  id := ⟨"r", 3, 7, 7, "/s", "k", "", {}⟩
  transcriptRequired := false
  transcriptFile := false
  cancelled := false
  listener := true

def demoRun : Run :=
  { newRun "r" "p" "w" { workerPath := "/w", socketPath := "/s", token := "k" } "t0" with
    state := .running
    supervisorPID := 3
    supervisorPGID := 7
    workerPID := 7 }

/-- Everything goes well, with the given members in the group. -/
def demoAnswer (members : List Int) : (q : Call) → Answer q
  | .groupMembers _ => .ok members
  | .signalGroup _ _ => none
  | .reapWorker _ => (0, none)
  | .beforeDeadline _ => false
  | .wait _ => ()
  | .getRun => .ok demoRun
  | .transition _ _ => none
  | .sealTranscript _ => none
  | .getTranscriptProgress => .ok {}
  | .setRunSupervisor _ _ _ => none
  | .commitTerminal _ _ _ => none
  | .acknowledgeOutbox => none
  | .getOutbox => .ok {}
  | .writeIdentity _ => none
  | .readIdentity => .ok demoSupervisor.id
  | .statAnchor => .error (.other "")
  | .statPath => .error (.other "")
  | .listen => none
  | .probe => .ok ⟨true, "r", 3, 7, 7, {}⟩

theorem finishOwnedWorker_safe_demo :
    let done := follow (demoAnswer []) 12 (finishOwnedWorker demoSupervisor 1 7 none)
    done.2 = .ret (.completed, none) ∧ done.1.countP isReap = 1 := by
  intro done
  have hdone : done.2 = .ret (.completed, none) := rfl
  have hruns : Runs (finishOwnedWorker demoSupervisor 1 7 none) done.1 done.2 :=
    runs_follow (demoAnswer []) 12 _
  exact ⟨hdone, (finishOwnedWorker_safe demoSupervisor 1 7 none hruns).2.2.2.2 _ hdone⟩

/-- A worker group that never empties is never reaped, however long the supervisor runs. -/
theorem reapWorker_not_always : ¬ ∀ answer : (q : Call) → Answer q, ∃ fuel t p,
      Runs (finishOwnedWorker demoSupervisor fuel 7 none) t p ∧
        (∀ e ∈ t, e.2 = answer e.1) ∧ t.countP isReap = 1 := by
  intro h
  obtain ⟨fuel, t, _, hruns, hanswer, _⟩ := h (demoAnswer [7])
  obtain ⟨hadmitted, -⟩ := wp_traces_sound (finishOwnedWorker_spec demoSupervisor fuel 7 none)
    always_nil hruns
  rw [nil_append] at hadmitted
  obtain ⟨⟨q, _⟩, hmem, hreap⟩ := countP_pos_iff.mp (by omega : 0 < t.countP isReap)
  obtain ⟨pre, post, rfl⟩ := append_of_mem hmem
  cases q with
  | reapWorker =>
    -- the reap was admitted, so an empty group was seen, which this backend never reports
    have hlast : SawEmptyGroup 7 pre := (hadmitted pre _ post rfl).2
    have hseen := mem_of_getLast? hlast
    have hnever := hanswer _ (mem_append_left _ hseen)
    simp [demoAnswer] at hnever
  | _ => simp [isReap] at hreap

end Ananke.Supervise
