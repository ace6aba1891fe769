import Ananke.RepairSupervisor.Waiting

/-! The restart of the supervisor, which gives over to a human what the epochs before have left
without a terminal event. -/
namespace Ananke.RepairSupervisor

open Machine Relational Repair List

variable {p : Encoding} {s : Journal} {cur : String}

theorem mem_pending {e : ClaimEntry} : e ∈ s.pending cur ↔ e ∈ s.claims ∧
    e.bootEpochID ≠ cur ∧ ∀ ev ∈ s.terminalEvents, ev.claimHash ≠ e.claimHash := by
  simp [Journal.pending]

/-- The keys of both tables. -/
structure Journal.Keyed (s : Journal) : Prop where
  claims : (s.claims.map ClaimEntry.claimHash).Nodup
  events : (s.terminalEvents.map TerminalEvent.claimHash).Nodup

theorem keyed_step {x : Operation} (h : s.Keyed) : (exec p s x).1.Keyed := by
  constructor
  · rcases exec_claims s x (p := p) with hsame | ⟨_, _, _, _, e, -, hadm, hadded⟩
    · rw [hsame]
      exact h.claims
    · rw [hadded]
      exact nodup_snoc h.claims (not_mem_keys fun e' he' => (hadm.fits.2.2.2.2 e' he').1)
  · exact (exec_events s x).keyed h.events

variable {ops : List Operation}

theorem keyed_run : (run (exec p) Journal.empty ops).Keyed := by
  refine invariant_run (fun s x => keyed_step) ?_
  exact ⟨nodup_nil, nodup_nil⟩

theorem rowsOf_waitingEvent {es : List ClaimEntry} {e : ClaimEntry}
    (hnodup : (es.map ClaimEntry.claimHash).Nodup) (he : e ∈ es) :
    rowsOf TerminalEvent.claimHash e.claimHash (es.map (waitingEvent p)) = [waitingEvent p e] := by
  have hkeys : ((es.map (waitingEvent p)).map TerminalEvent.claimHash).Nodup := by
    rw [map_map]
    exact hnodup
  exact rowsOf_of_mem hkeys (mem_map_of_mem he)

theorem markPrior_of_pending (h : s.pending cur = []) (commits : Bool) :
    (s.markPriorEpochNonterminal p cur commits).1 = s := by
  simp only [Journal.markPriorEpochNonterminal, h, insertWaiting]
  split <;> rfl

theorem events_run : s.terminalEvents <+: (run (exec p) s ops).terminalEvents := by
  refine invariant_run (I := fun t : Journal => s.terminalEvents <+: t.terminalEvents) ?_
    (prefix_refl _)
  intro t x ht
  exact ht.trans (exec_events t x).isPrefix

/-- A restart that succeeds appends one event to the events, for each claim of another epoch
that has none, and changes nothing else; until there is a new claim, the next one changes
nothing. In every journal the claims have their own hashes, and no claim has two events. -/
theorem prior_epoch_marked {commits : Bool}
    (h : (s.markPriorEpochNonterminal p cur commits).2 = .ok ()) :
    (s.markPriorEpochNonterminal p cur commits).1 =
      { s with terminalEvents := s.terminalEvents ++ (s.pending cur).map (waitingEvent p) } ∧
    (∀ e ∈ s.claims, e.bootEpochID ≠ cur → (∀ ev ∈ s.terminalEvents, ev.claimHash ≠ e.claimHash) →
      rowsOf TerminalEvent.claimHash e.claimHash
        (s.markPriorEpochNonterminal p cur commits).1.terminalEvents = [waitingEvent p e]) ∧
    ((s.claims.map ClaimEntry.claimHash).Nodup → ∀ e ∈ s.claims,
      e.bootEpochID = cur ∨ (∃ ev ∈ s.terminalEvents, ev.claimHash = e.claimHash) →
      rowsOf TerminalEvent.claimHash e.claimHash
        (s.markPriorEpochNonterminal p cur commits).1.terminalEvents =
          rowsOf TerminalEvent.claimHash e.claimHash s.terminalEvents) ∧
    (∀ later again, let t := run (exec p) (s.markPriorEpochNonterminal p cur commits).1 later
      t.claims = s.claims → (t.markPriorEpochNonterminal p cur again).1 = t) ∧
    ∀ ops, (run (exec p) Journal.empty ops).Keyed := by
  unfold Journal.markPriorEpochNonterminal at h ⊢
  split at h
  · cases h
  next evs hevents =>
  split at h
  · cases h
  next hcommits =>
  obtain ⟨-, rfl, hnodup, -⟩ := insertWaiting_some hevents
  rw [if_neg hcommits]
  refine ⟨rfl, ?_, ?_, ?_, fun ops => keyed_run⟩
  · intro e he hepoch hnone
    have hadded := rowsOf_waitingEvent (p := p) hnodup (mem_pending.mpr ⟨he, hepoch, hnone⟩)
    rw [rowsOf_append, rowsOf_eq_nil hnone, hadded, nil_append]
  · intro hkeys e he hsettled
    -- under the key, what is pending has the hash of no claim that is not
    have hadded : rowsOf TerminalEvent.claimHash e.claimHash
        ((s.pending cur).map (waitingEvent p)) = [] := by
      refine rowsOf_eq_nil fun ev hevent hhash => ?_
      obtain ⟨e', he', rfl⟩ := mem_map.mp hevent
      obtain ⟨hclaim, hepoch, hnone⟩ := mem_pending.mp he'
      obtain rfl := eq_of_key_eq hkeys hclaim he hhash
      rcases hsettled with hcurrent | ⟨ev, hevent, hhash⟩
      · exact hepoch hcurrent
      · exact hnone ev hevent hhash
    rw [rowsOf_append, hadded, append_nil]
  · intro later again t hclaims
    refine markPrior_of_pending (eq_nil_iff_forall_not_mem.mpr ?_) again
    intro e he
    obtain ⟨hclaim, hepoch, hnone⟩ := mem_pending.mp he
    rw [hclaims] at hclaim
    have hkept : ∀ ev ∈ s.terminalEvents ++ (s.pending cur).map (waitingEvent p),
        ev.claimHash ≠ e.claimHash := fun ev hevent => hnone ev (events_run.subset hevent)
    have hpending : e ∈ s.pending cur := mem_pending.mpr
      ⟨hclaim, hepoch, fun ev hevent => hkept ev (mem_append_left _ hevent)⟩
    exact hkept (waitingEvent p e) (mem_append_right _ (mem_map_of_mem hpending)) rfl

open Instance in
/-- The materialization succeeds, the adapter is claimed, and the next epoch begins: the adapter
alone is marked, and only once. -/
theorem prior_epoch_marked_restarted :
    let s := run (exec encoding) Journal.empty [materialization, ended "succeeded", adapter]
    let t := (s.markPriorEpochNonterminal encoding "next" true).1
    t = { s with
      terminalEvents := s.terminalEvents ++ (s.pending "next").map (waitingEvent encoding) } ∧
    (s.pending "next").map ClaimEntry.claimHash = ["a"] ∧
    (∀ e ∈ s.claims, e.claimHash = "m" →
      rowsOf TerminalEvent.claimHash e.claimHash t.terminalEvents =
        rowsOf TerminalEvent.claimHash e.claimHash s.terminalEvents) ∧
    ((run (exec encoding) t [adapter]).markPriorEpochNonterminal encoding "next" true).1 =
      run (exec encoding) t [adapter] := by
  intro s t
  have h : (s.markPriorEpochNonterminal encoding "next" true).2 = .ok () := by decide
  obtain ⟨hmarked, -, hkept, hagain, -⟩ := prior_epoch_marked h
  refine ⟨hmarked, by decide, ?_, hagain [adapter] true rfl⟩
  intro e he hhash
  refine hkept (by decide) e he (.inr ?_)
  rw [hhash]
  decide

end Ananke.RepairSupervisor
