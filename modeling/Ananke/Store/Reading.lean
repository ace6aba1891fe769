import Ananke.Store.View
import Mathlib.Data.List.Sort

/-! A reader of a run's events: it asks for what follows the last sequence it has seen, and after
a restart goes on from the last sequence it has persisted. -/
namespace Ananke.Store

open Relational Machine List Validation

/-- The events of a run after a sequence, in order; `parses` is what `time.Parse` accepts as a
time stamp, and a row keeps the text of its own. -/
def DB.listEvents (s : DB) (parses : String → Bool) (runID : String) (afterSeq : Nat) :
    Except String (List Event) :=
  let rows := ((s.eventsOf runID).filter (afterSeq < ·.seq)).mergeSort (·.seq ≤ ·.seq)
  if rows.all (parses ·.writtenAt) then .ok rows else .error "parse written_at"

/-- The store beside a reader: what the reader has received, and had when it last persisted. -/
structure Reader where
  db : DB := {}
  (seen saved : List Event := [])

inductive Reading
  | write (op : Op)
  | poll
  | persist
  | restart

/-- The last sequence seen; 0 before the first event. -/
def lastSeen (seen : List Event) : Nat := (seen.getLast?.map (·.seq)).getD 0

/-- One step of the writers or of the reader; a listing that fails brings nothing. -/
def Reader.act (parses : String → Bool) (id : String) (r : Reader) : Reading → Reader × Unit
  | .write op => ({ r with db := (exec r.db op).1 }, ())
  | .poll =>
    match r.db.listEvents parses id (lastSeen r.seen) with
    | .ok rows => ({ r with seen := r.seen ++ rows }, ())
    | .error _ => (r, ())
  | .persist => ({ r with saved := r.seen }, ())
  | .restart => ({ r with seen := r.saved }, ())

/-- The sequence numbers are 1, 2, … without a gap. -/
def InSequence (evs : List Event) : Prop := evs.map (·.seq) = List.range' 1 evs.length

variable {s : DB} {id : String} {op : Op} {v v' : RunView} {evs seen rest : List Event}
  {e : Event} {parses : String → Bool} {r : Reader}

theorem nextSeq_inSequence (h : InSequence evs) : nextSeq (evs.map (·.seq)) = evs.length + 1 := by
  cases hlen : evs.length with
  | zero => simp [length_eq_zero_iff.mp hlen, nextSeq]
  | succ n =>
    have hmax : (evs.map (·.seq)).max? = some (n + 1) := by
      rw [h, hlen, List.max?_eq_some_iff]
      exact ⟨mem_range'_1.mpr (by omega), fun m hm => by
        have := mem_range'_1.mp hm
        omega⟩
    simp [nextSeq, hmax]

theorem inSequence_snoc : InSequence (evs ++ [e]) ↔ InSequence evs ∧ e.seq = evs.length + 1 := by
  simp [InSequence, List.range'_concat, Nat.add_comm]

/-- Only an append touches the events of a run, and it adds the next one at the end. -/
theorem inSequence_step (h : RunStep id op v v') (hv : InSequence v.events) :
    InSequence v'.events ∧ v.events <+: v'.events := by
  cases h with
  | appendEvent =>
    exact ⟨inSequence_snoc.mpr ⟨hv, nextSeq_inSequence hv⟩, prefix_append _ _⟩
  | _ => exact ⟨hv, prefix_refl _⟩

/-- An append that succeeds adds the event it returns, and no other. -/
theorem appendEvent_adds {s' : DB} {type now : String} {payload : List UInt8} {off : Int}
    (h : appendEvent s id type payload off now = .ok (s', e))
    (hs : InSequence (s.eventsOf id)) : s'.eventsOf id = s.eventsOf id ++ [e] ∧
      e = ⟨id, (s.eventsOf id).length + 1, type, payload, off, now⟩ := by
  obtain ⟨-, h⟩ := unless_eq_ok h
  split at h
  · cases h
  · obtain ⟨-, ⟨⟩⟩ := unless_eq_ok h
    refine ⟨?_, congrArg (Event.mk id · type payload off now) (nextSeq_inSequence hs)⟩
    simp [DB.eventsOf, DB.insertEvent, DB.updateRun, rowsOf]

theorem lastSeen_eq (h : InSequence seen) : lastSeen seen = seen.length := by
  cases seen using List.reverseRecOn with
  | nil => rfl
  | append_singleton => simp [lastSeen, (inSequence_snoc.mp h).2]

/-- What follows the last sequence seen is exactly the rest. -/
theorem listEvents_rest (hevents : s.eventsOf id = seen ++ rest) (h : InSequence (seen ++ rest)) :
    s.listEvents parses id (lastSeen seen) =
      if rest.all (parses ·.writtenAt) then .ok rest else .error "parse written_at" := by
  have hsplit : seen.map (·.seq) ++ rest.map (·.seq) =
      List.range' 1 seen.length ++ List.range' (1 + seen.length) rest.length := by
    simpa [InSequence, List.range'_append] using h
  obtain ⟨hseen, hrest⟩ := append_inj hsplit (by simp)
  have hseq (e : Event) {n m : Nat} {es : List Event} (h : es.map (·.seq) = List.range' n m)
      (he : e ∈ es) : n ≤ e.seq ∧ e.seq < n + m :=
    mem_range'_1.mp (h ▸ mem_map_of_mem he)
  have hold : seen.filter (seen.length < ·.seq) = [] := by
    simp only [filter_eq_nil_iff, decide_eq_true_eq]
    intro e he
    have := hseq e hseen he
    omega
  have hnew : rest.filter (seen.length < ·.seq) = rest := by
    simp only [filter_eq_self, decide_eq_true_eq]
    intro e he
    have := hseq e hrest he
    omega
  have hsorted : rest.Pairwise (fun a b => decide (a.seq ≤ b.seq) = true) := by
    have hpairs : (rest.map (·.seq)).Pairwise (· ≤ ·) := hrest ▸ pairwise_le_range' ..
    simpa [pairwise_map] using hpairs
  simp [DB.listEvents, hevents, lastSeen_eq hseen, hold, hnew, mergeSort_of_pairwise hsorted]

/-- The reader holds the first events of the run, and had persisted the first of these. -/
structure Reader.Sound (id : String) (r : Reader) : Prop where
  numbered : InSequence (r.db.eventsOf id)
  seen : r.seen <+: r.db.eventsOf id
  saved : r.saved <+: r.db.eventsOf id

variable (parses) in
/-- A poll brings all the events not seen yet, unless one of them cannot be read. -/
theorem act_poll (h : r.Sound id) : ∃ rest, r.db.eventsOf id = r.seen ++ rest ∧
    (r.act parses id .poll).1 = if rest.all (parses ·.writtenAt) then
      { r with seen := r.db.eventsOf id } else r := by
  obtain ⟨rest, hrest⟩ := h.seen
  refine ⟨rest, hrest.symm, ?_⟩
  simp only [Reader.act, listEvents_rest hrest.symm (hrest ▸ h.numbered)]
  split_ifs
  · simp only [hrest]
  · rfl

theorem Reader.Sound.act (h : r.Sound id) (a : Reading) : (r.act parses id a).1.Sound id := by
  cases a with
  | write op =>
    have hstep := exec_preserves (s := r.db)
      (P := fun v => InSequence v.events ∧ r.db.eventsOf id <+: v.events)
      (fun _ _ (hrow : RunStep id op _ _) hv => (inSequence_step hrow hv.1).imp_right hv.2.trans)
      ⟨h.numbered, prefix_refl _⟩
    exact ⟨hstep.1, h.seen.trans hstep.2, h.saved.trans hstep.2⟩
  | poll =>
    obtain ⟨rest, -, hpoll⟩ := act_poll parses h
    rw [hpoll]
    split_ifs
    · exact ⟨h.numbered, prefix_refl _, h.saved⟩
    · exact h
  | persist => exact ⟨h.numbered, h.seen, h.seen⟩
  | restart => exact ⟨h.numbered, h.saved, h.saved⟩

/-- However writers and reader interleave, the events are numbered from 1 without a gap as they
were committed, an append adds the event it returns at their end, and the reader has received the
first of them, each once and in order; its next poll brings it all the others, if their time stamps
can be read. -/
theorem events_read_once (parses : String → Bool) (id : String) (acts : List Reading) :
    let r := run (Reader.act parses id) {} acts
    InSequence (r.db.eventsOf id) ∧ (∀ type payload off now db e,
        appendEvent r.db id type payload off now = .ok (db, e) →
          (r.act parses id (.write (.appendEvent id type payload off now))).1.db = db ∧
          db.eventsOf id = r.db.eventsOf id ++ [e] ∧
          e = ⟨id, (r.db.eventsOf id).length + 1, type, payload, off, now⟩) ∧
      r.saved <+: r.db.eventsOf id ∧
      ∃ rest, r.db.eventsOf id = r.seen ++ rest ∧ (r.act parses id .poll).1.seen =
          if rest.all (parses ·.writtenAt) then r.db.eventsOf id else r.seen := by
  intro r
  have h : r.Sound id := invariant_run (I := Reader.Sound id) (fun _ a h => h.act a)
    ⟨rfl, prefix_refl _, prefix_refl _⟩
  obtain ⟨rest, hrest, hpoll⟩ := act_poll parses h
  refine ⟨h.numbered, ?_, h.saved, rest, hrest, ?_⟩
  · intro type payload off now db e happend
    refine ⟨?_, appendEvent_adds happend h.numbered⟩
    simp [Reader.act, exec, perform, happend, Except.map]
  · rw [hpoll]
    split_ifs <;> rfl

/-- Two events are appended and read, a third comes, and the reader starts again from the first. -/
def readings : List Reading :=
  (started ⟨"/w", [], [], "", "", "", "", false⟩).map .write ++
    [.write (.appendEvent "r" "text" [1] 3 "t2"), .poll, .persist,
      .write (.appendEvent "r" "text" [2] 6 "t3"), .poll,
      .write (.appendEvent "r" "text" [3] 9 "t4"), .restart]

theorem events_read_once_restarted :
    let r := run (Reader.act (fun _ => true) "r") {} readings
    (r.db.eventsOf "r").map (fun e => (e.seq, e.payload)) = [(1, [1]), (2, [2]), (3, [3])] ∧
      r.seen.map (·.seq) = [1] ∧
      (r.act (fun _ => true) "r" .poll).1.seen = r.db.eventsOf "r" := by
  obtain ⟨-, -, -, _, -, hpoll⟩ := events_read_once (fun _ => true) "r" readings
  exact ⟨by decide +kernel, by decide +kernel, by simpa using hpoll⟩

end Ananke.Store
