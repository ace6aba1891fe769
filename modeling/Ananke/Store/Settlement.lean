import Ananke.Store.History
import Ananke.Store.Query

/-! The finalization outbox: a row is settled once, and its run is listed until then. -/
namespace Ananke.Store

open Relational Machine List Validation

/-- What may become of an outbox row: a pending one is acknowledged or abandoned, and then stays. -/
def Settles (row row' : OutboxRow) : Prop :=
  row' = row ∨ row.acknowledged = 0 ∧ (row'.acknowledged = 1 ∨ row'.acknowledged = -1)

/-- The operation settles the run's row, to the value that is left in it. -/
def SettledBy (id : String) (op : Op) (row : OutboxRow) : Prop :=
  (∃ now, op = .acknowledgeOutbox id now) ∧ row.acknowledged = 1 ∨
    (∃ reason now, op = .abandonOutbox id reason now) ∧ row.acknowledged = -1

variable {s s' : DB} {id : String} {op : Op} {row row' row'' : OutboxRow}

theorem Settles.trans (h : Settles row row') (h' : Settles row' row'') : Settles row row'' := by
  rcases h with rfl | ⟨hpend, hsettled⟩
  · exact h'
  · rcases h' with rfl | ⟨hzero, -⟩
    · exact .inr ⟨hpend, hsettled⟩
    · omega

theorem resolveOutbox_settles {f : OutboxRow → OutboxRow} {v : Int}
    (h : resolveOutbox s id f = .ok s')
    (hf : ∀ row, (f row).runID = row.runID ∧ (f row).acknowledged = v)
    (hrow : s.outboxOf id = [row]) : ∃ row', s'.outboxOf id = [row'] ∧
      (row' = row ∨ row.acknowledged = 0 ∧ row'.acknowledged = v) := by
  unfold resolveOutbox at h
  split at h
  · cases h
    have hkeeps : ∀ row, (if row.acknowledged = 0 then f row else row).runID = row.runID := by
      intro row
      split
      · exact (hf row).1
      · rfl
    refine ⟨_, (rowsOf_update hkeeps).trans (congrArg _ hrow), ?_⟩
    by_cases hpend : row.acknowledged = 0
    · exact .inr ⟨hpend, by simpa [hpend] using (hf row).2⟩
    · exact .inl (if_neg hpend)
  · cases h

theorem exec_settled_by (op : Op) (hrow : s.outboxOf id = [row]) :
    ∃ row', (exec s op).1.outboxOf id = [row'] ∧
      (row' = row ∨ row.acknowledged = 0 ∧ SettledBy id op row') := by
  rcases exec_view s op id with hsame | ⟨hok, hstep⟩
  · exact ⟨row, (congrArg RunView.outbox hsame).trans hrow, .inl rfl⟩
  · have hperform := perform_of_exec hok
    have hpre : (s.view id).outbox = [row] := hrow
    suffices h : ∃ row', ((exec s op).1.view id).outbox = [row'] ∧
      (row' = row ∨ row.acknowledged = 0 ∧ SettledBy id op row') from h
    generalize s.view id = v, hafter : (exec s op).1.view id = v' at hstep hpre
    cases hstep with
    | commitTerminal _ _ _ _ _ _ hout | commitNoProcessFailure _ _ _ _ hout =>
      simp [hout] at hpre
    | resolveOutbox hop =>
      rw [← hafter]
      rcases hop with ⟨now, rfl⟩ | ⟨reason, now, rfl⟩
      · obtain ⟨row', hrow', hset⟩ :=
          resolveOutbox_settles hperform (fun _ => ⟨rfl, rfl⟩) hrow
        exact ⟨row', hrow', hset.imp_right (.imp_right fun h => .inl ⟨⟨now, rfl⟩, h⟩)⟩
      · obtain ⟨row', hrow', hset⟩ :=
          resolveOutbox_settles (unless_eq_ok hperform).2 (fun _ => ⟨rfl, rfl⟩) hrow
        exact ⟨row', hrow', hset.imp_right (.imp_right fun h => .inr ⟨⟨reason, now, rfl⟩, h⟩)⟩
    | _ => exact ⟨row, hpre, .inl rfl⟩

theorem exec_settles (op : Op) (hrow : s.outboxOf id = [row]) :
    ∃ row', (exec s op).1.outboxOf id = [row'] ∧ Settles row row' := by
  obtain ⟨row', hrow', hset⟩ := exec_settled_by op hrow
  exact ⟨row', hrow', hset.imp_right (.imp_right fun h => h.imp And.right And.right)⟩

theorem commitTerminal_pending {target : State} {reason now : String} {outbox : OutboxRow}
    (h : commitTerminal s id target reason now outbox = .ok s') :
    ∃ row, s'.outboxOf id = [row] ∧ row.acknowledged = 0 := by
  obtain ⟨_, -, -, -, hview, -⟩ := commit_view (unless_eq_ok h).2
  exact ⟨_, congrArg RunView.outbox hview, rfl⟩

theorem run_settles (hrow : s.outboxOf id = [row]) (ops : List Op) :
    ∃ row', (run exec s ops).outboxOf id = [row'] ∧ Settles row row' := by
  refine invariant_run (I := fun s' : DB => ∃ row', s'.outboxOf id = [row'] ∧ Settles row row')
    ?_ ⟨row, hrow, .inl rfl⟩
  rintro _ op ⟨_, hrow', hsettles⟩
  obtain ⟨row'', hrow'', hnext⟩ := exec_settles op hrow'
  exact ⟨row'', hrow'', hsettles.trans hnext⟩

theorem keysDistinct_reachable (ops : List Op) : (run exec {} ops).KeysDistinct :=
  invariant_run (fun _ _ h => exec_keysDistinct h) nodup_nil

theorem terminal_of_outbox (h : Consistent (s.view id)) (hrow : row ∈ s.outboxOf id) :
    s.outboxOf id = [row] ∧ ∃ run, s.getRun id = some run ∧ isTerminal run.state = true := by
  cases hrun : s.getRun id with
  | none =>
    have hout : s.outboxOf id = [] := by
      simp only [Consistent, DB.view, hrun] at h
      exact h.2
    simp [hout] at hrow
  | some run =>
    obtain ⟨-, hout⟩ := (consistent_of_run hrun).mp h
    by_cases hterm : isTerminal run.state = true
    · obtain ⟨row', hone, -⟩ := (outbox_terminal hterm).mp hout
      obtain rfl : row = row' := mem_singleton.mp (hone ▸ hrow)
      exact ⟨hone, run, rfl, hterm⟩
    · have hnone := (outbox_live (by simpa using hterm)).mp hout
      rw [show s.outboxOf id = [] from hnone] at hrow
      cases hrow

theorem listed_iff (ops : List Op) (r : Run) :
    r ∈ (run exec {} ops).listActiveRuns ↔ (run exec {} ops).getRun r.id = some r ∧
      (isTerminal r.state = false ∨
        ∃ row, (run exec {} ops).outboxOf r.id = [row] ∧ row.acknowledged = 0) := by
  have hmem : r ∈ (run exec {} ops).runs ↔ (run exec {} ops).getRun r.id = some r :=
    ⟨getRun_of_mem (keysDistinct_reachable ops), mem_of_find?_eq_some⟩
  have hpend : (∃ row ∈ (run exec {} ops).outboxOf r.id, row.acknowledged = 0) ↔
      ∃ row, (run exec {} ops).outboxOf r.id = [row] ∧ row.acknowledged = 0 := by
    constructor
    · rintro ⟨row, hrow, hzero⟩
      exact ⟨row, (terminal_of_outbox (consistent_reachable ops r.id) hrow).1, hzero⟩
    · rintro ⟨row, hrow, hzero⟩
      exact ⟨row, by simp [hrow], hzero⟩
  simp [DB.listActiveRuns, hmem, hpend]

/-- In every history an outbox row is its run's only one and is settled at most once; the recovery
query lists, each once, the live runs and those whose row is pending; a run whose row is settled is
never listed again; `CommitTerminal` leaves a pending row; and only `AcknowledgeOutbox` and
`AbandonOutbox` of its run settle it. -/
theorem outbox_settled_once (ops later : List Op) : (∀ row ∈ (run exec {} ops).outbox, ∃ row',
      (run exec {} (ops ++ later)).outboxOf row.runID = [row'] ∧ Settles row row') ∧
    (∀ r, r ∈ (run exec {} ops).listActiveRuns ↔ (run exec {} ops).getRun r.id = some r ∧
      (isTerminal r.state = false ∨
        ∃ row, (run exec {} ops).outboxOf r.id = [row] ∧ row.acknowledged = 0)) ∧
    ((run exec {} ops).listActiveRuns.map Run.id).Nodup ∧
    (∀ row ∈ (run exec {} ops).outbox, row.acknowledged ≠ 0 →
      ∀ r ∈ (run exec {} (ops ++ later)).listActiveRuns, r.id ≠ row.runID) ∧
    (∀ id target reason now outbox s,
      commitTerminal (run exec {} ops) id target reason now outbox = .ok s →
        ∃ row, s.outboxOf id = [row] ∧ row.acknowledged = 0) ∧
    ∀ op id row row', (run exec {} ops).outboxOf id = [row] → row.acknowledged = 0 →
      (exec (run exec {} ops) op).1.outboxOf id = [row'] → row'.acknowledged ≠ 0 →
        SettledBy id op row' := by
  have hone : ∀ row ∈ (run exec {} ops).outbox, (run exec {} ops).outboxOf row.runID = [row] := by
    intro row hrow
    have hmem : row ∈ (run exec {} ops).outboxOf row.runID := by
      simpa [DB.outboxOf, rowsOf] using hrow
    exact (terminal_of_outbox (consistent_reachable ops row.runID) hmem).1
  refine ⟨fun row hrow => ?_, fun r => listed_iff ops r, ?_, ?_,
    fun _ _ _ _ _ _ => commitTerminal_pending, ?_⟩
  · rw [run_append]
    exact run_settles (hone row hrow) later
  · exact (keysDistinct_reachable ops).sublist (filter_sublist.map Run.id)
  · rintro row hrow hsettled r hr hid
    obtain ⟨row', hrow', hsettles⟩ := run_settles (hone row hrow) later
    rw [← run_append, ← hid] at hrow'
    obtain ⟨-, _, hrun, hterm⟩ :=
      terminal_of_outbox (consistent_reachable (ops ++ later) r.id) (hrow' ▸ mem_singleton_self _)
    obtain ⟨hget, hlive | ⟨pending, hpending, hzero⟩⟩ := (listed_iff _ r).mp hr
    · cases hrun.symm.trans hget
      simp [hterm] at hlive
    · obtain rfl : row' = pending := by simpa [hrow'] using hpending
      rcases hsettles with rfl | ⟨hopen, -⟩
      · exact hsettled hzero
      · exact hsettled hopen
  · intro op id row row' hrow hpend hrow' hsettled
    obtain ⟨_, hnext, hset⟩ := exec_settled_by op hrow
    obtain rfl : row' = _ := by simpa [hrow'] using hnext
    rcases hset with rfl | ⟨-, hby⟩
    · exact absurd hpend hsettled
    · exact hby

end Ananke.Store
