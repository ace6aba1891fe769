import Ananke.Repair.Production
import Ananke.Machine.Run

/-! Repair jobs in the daemon. Every request starts a job of its own; the jobs run beside each
other and save their patches under names that are made from the clock. -/
namespace Ananke.Repair

open Machine List

def Instant.seconds (now : Instant) : Int := now.val / second

/-- The clock texts of the daemon: the names of the jobs tell nanoseconds apart, those of the
patches seconds. -/
structure Stamps (β : Type) extends Runner β where
  /-- `Format("20060102_150405.000000000")` -/
  formatNano : Instant → String
  formatNano_injective : Function.Injective formatNano
  formatStamp_seconds : ∀ a b, formatStamp a = formatStamp b → a.seconds = b.seconds

inductive JobStatus
  | running | completed | failed
deriving DecidableEq

/-- What can be read of a job. -/
structure RepairJobHandle where
  status : JobStatus
  (attestationHash diffPath errorMsg : String)

/-- How far `RunRepair` has come: it reads the clock, and later the diff of its worktree. -/
inductive Progress
  | accepted
  | begun (now : Instant)
  | saved (now : Instant) (diff : List UInt8)

structure RepairJob where
  acceptedAt : Instant
  progress : Progress
  handle : RepairJobHandle

/-- All jobs that were ever accepted, the table of those that can be polled, the jobs that a
poll is about to evict, and the files. -/
structure Daemon where
  accepted : List RepairJob
  jobs : String → Option Nat
  evicting : List String
  files : String → Option (List UInt8)

/-- `os.WriteFile`; a write that fails may leave something behind. -/
inductive Write
  | done
  | failed (left : Option (List UInt8))

inductive JobOperation
  | request (root requestText : String) (now : Instant)
  | begin (job : Nat) (now : Instant)
  | save (job : Nat) (diff : List UInt8) (write : Write)
  | finish (job : Nat) (result : Except String String)
  | poll (id : String)
  | evict (id : String)

inductive JobReply
  | rootRequired | requestTextRequired | idRequired | notFound
  | started (id : String)
  | job (handle : RepairJobHandle)
  | none

variable {β : Type} (p : Stamps β)

def jobID (job : RepairJob) : String := "repair_" ++ p.formatNano job.acceptedAt

def Daemon.modify (s : Daemon) (i : Nat) (f : RepairJob → RepairJob) : Daemon :=
  { s with accepted := s.accepted.modify i f }

namespace Daemon

variable (s : Daemon)

/-- A job that is accepted takes its place in the table, whatever is there. -/
def handleRepairRequest (root requestText : String) (now : Instant) : Daemon × JobReply :=
  if root = "" then (s, .rootRequired)
  else if requestText = "" then (s, .requestTextRequired)
  else
    let job : RepairJob := ⟨now, .accepted, ⟨.running, "", "", ""⟩⟩
    ({ s with
        accepted := s.accepted ++ [job]
        jobs := Function.update s.jobs (jobID p job) (some s.accepted.length) },
      .started (jobID p job))

/-- An empty diff is not written, and whether a write fails is not looked at. -/
def saveDiff (now : Instant) (diff : List UInt8) (write : Write) : Daemon :=
  if diff.isEmpty then s
  else
    match write with
    | .done => { s with files := Function.update s.files (diffPath p.toRunner now) (some diff) }
    | .failed left => { s with files := Function.update s.files (diffPath p.toRunner now) left }

/-- `RunRepair` of one job, from one point of contact with the outside to the next; a job takes
no step that is not its turn. -/
def runJob : JobOperation → Daemon
  | .begin i now =>
    match s.accepted[i]? with
    | some ⟨_, .accepted, ⟨.running, _, _, _⟩⟩ => s.modify i ({ · with progress := .begun now })
    | _ => s
  | .save i diff write =>
    match s.accepted[i]? with
    | some ⟨_, .begun now, ⟨.running, _, _, _⟩⟩ =>
      (s.saveDiff p now diff write).modify i ({ · with progress := .saved now diff })
    | _ => s
  | .finish i (.error msg) =>
    match s.accepted[i]? with
    | some ⟨_, _, ⟨.running, _, _, _⟩⟩ => s.modify i ({ · with handle := ⟨.failed, "", "", msg⟩ })
    | _ => s
  | .finish i (.ok hash) =>
    match s.accepted[i]? with
    | some ⟨_, .saved now _, ⟨.running, _, _, _⟩⟩ =>
      s.modify i ({ · with handle := ⟨.completed, hash, diffPath p.toRunner now, ""⟩ })
    | _ => s
  | _ => s

/-- A job that has ended is evicted, in a second critical section. -/
def handleRepairPoll (id : String) : Daemon × JobReply :=
  if id = "" then (s, .idRequired)
  else
    match (s.jobs id).bind (s.accepted[·]?) with
    | none => (s, .notFound)
    | some job =>
      if job.handle.status = .running then (s, .job job.handle)
      else ({ s with evicting := id :: s.evicting }, .job job.handle)

def evict (id : String) : Daemon :=
  if id ∈ s.evicting then
    { s with jobs := Function.update s.jobs id none, evicting := s.evicting.erase id }
  else s

def exec : JobOperation → Daemon × JobReply
  | .request root requestText now => s.handleRepairRequest p root requestText now
  | .poll id => s.handleRepairPoll id
  | .evict id => (s.evict id, .none)
  | x => (s.runJob p x, .none)

/-- A daemon that has just been started, with the files that it finds. -/
def fresh (files : String → Option (List UInt8)) : Daemon := ⟨[], fun _ => none, [], files⟩

end Daemon

/-- When the job read the clock, if it has. -/
def Progress.begunAt : Progress → Option Instant
  | .accepted => none
  | .begun now => some now
  | .saved now _ => some now

/-- No two jobs are accepted in one nanosecond or begin in one second, and every job has a diff
and can write it. -/
def Apart (s : Daemon) : JobOperation → Prop
  | .request _ _ now => ∀ job ∈ s.accepted, job.acceptedAt ≠ now
  | .begin _ now => ∀ job ∈ s.accepted, ∀ a ∈ job.progress.begunAt, a.seconds ≠ now.seconds
  | .save _ diff write => diff ≠ [] ∧ write = .done
  | _ => True

structure Separate (s : Daemon) : Prop where
  acceptances : (s.accepted.map RepairJob.acceptedAt).Nodup
  seconds : ∀ (i j : Nat) (job job' : RepairJob) (a b : Instant), s.accepted[i]? = some job →
    s.accepted[j]? = some job' → job.progress.begunAt = some a → job'.progress.begunAt = some b →
      a.seconds = b.seconds → i = j
  saved : ∀ (i : Nat) (job : RepairJob) (now : Instant) (diff : List UInt8),
    s.accepted[i]? = some job → job.progress = .saved now diff →
    s.files (diffPath p.toRunner now) = some diff
  completed : ∀ (i : Nat) (job : RepairJob), s.accepted[i]? = some job →
    job.handle.status = .completed → ∃ now diff, job.progress = .saved now diff ∧
      job.handle.diffPath = diffPath p.toRunner now

variable {p} {s : Daemon}

theorem append_between {a b c d : String} (h : a ++ b ++ d = a ++ c ++ d) : b = c := by
  have hlist := congrArg String.toList h
  exact String.toList_inj.mp (by simpa using hlist)

theorem diffPath_seconds {a b : Instant} (h : diffPath p.toRunner a = diffPath p.toRunner b) :
    a.seconds = b.seconds :=
  p.formatStamp_seconds a b (append_between h)

variable {job : RepairJob}

theorem jobID_injective {job' : RepairJob} (h : jobID p job = jobID p job') :
    job.acceptedAt = job'.acceptedAt := by
  have hbetween := congrArg (· ++ "") h
  exact p.formatNano_injective (append_between hbetween)

variable {i : Nat} {f : RepairJob → RepairJob}

theorem getElem?_modify_cases {j : Nat} {jobs : List RepairJob} {job' : RepairJob}
    (hi : jobs[i]? = some job) (h : (jobs.modify i f)[j]? = some job') :
    (j = i ∧ job' = f job) ∨ (j ≠ i ∧ jobs[j]? = some job') := by
  by_cases hij : i = j
  · subst hij
    rw [List.getElem?_modify_eq, hi] at h
    exact .inl ⟨rfl, (Option.some.inj h).symm⟩
  · rw [List.getElem?_modify_ne f jobs hij] at h
    exact .inr ⟨Ne.symm hij, h⟩

/-- One job takes a step: the others keep what they have, and it gets what is its own. -/
theorem Separate.modify (h : Separate p s) (files : String → Option (List UInt8))
    (hi : s.accepted[i]? = some job) (hat : ∀ job, (f job).acceptedAt = job.acceptedAt)
    (hbegun : ∀ a, (f job).progress.begunAt = some a → job.progress.begunAt = some a ∨
      ∀ job' ∈ s.accepted, ∀ b ∈ job'.progress.begunAt, b.seconds ≠ a.seconds)
    (hothers : ∀ (j : Nat) (job' : RepairJob) (now : Instant) (diff : List UInt8), j ≠ i →
      s.accepted[j]? = some job' → job'.progress = .saved now diff →
        files (diffPath p.toRunner now) = some diff)
    (hsaved : ∀ now diff, (f job).progress = .saved now diff →
      files (diffPath p.toRunner now) = some diff)
    (hdone : (f job).handle.status = .completed → ∃ now diff,
      (f job).progress = .saved now diff ∧ (f job).handle.diffPath = diffPath p.toRunner now) :
    Separate p { s with accepted := s.accepted.modify i f, files := files } where
  acceptances := by
    have hmap : (s.accepted.modify i f).map RepairJob.acceptedAt =
        s.accepted.map RepairJob.acceptedAt := by
      refine ext_getElem? fun j => ?_
      simp only [List.getElem?_map, List.getElem?_modify]
      split
      · cases s.accepted[j]? <;> simp [hat]
      · simp
    rw [hmap]
    exact h.acceptances
  seconds := by
    intro j k job₁ job₂ a b hj hk ha hb hsame
    rcases getElem?_modify_cases hi hj with ⟨rfl, rfl⟩ | ⟨hji, hother⟩
    · rcases getElem?_modify_cases hi hk with ⟨rfl, -⟩ | ⟨hki, hk⟩
      · rfl
      · rcases hbegun a ha with ha | hfresh
        · exact h.seconds _ _ _ _ _ _ hi hk ha hb hsame
        · exact absurd hsame.symm (hfresh job₂ (mem_of_getElem? hk) b hb)
    · rcases getElem?_modify_cases hi hk with ⟨rfl, rfl⟩ | ⟨hki, hk⟩
      · rcases hbegun b hb with hb | hfresh
        · exact h.seconds _ _ _ _ _ _ hother hi ha hb hsame
        · exact absurd hsame (hfresh job₁ (mem_of_getElem? hother) a ha)
      · exact h.seconds _ _ _ _ _ _ hother hk ha hb hsame
  saved := by
    intro j job' now diff hj hprog
    rcases getElem?_modify_cases hi hj with ⟨rfl, rfl⟩ | ⟨hji, hj⟩
    · exact hsaved now diff hprog
    · exact hothers j job' now diff hji hj hprog
  completed := by
    intro j job' hj hstat
    rcases getElem?_modify_cases hi hj with ⟨rfl, rfl⟩ | ⟨hji, hj⟩
    · exact hdone hstat
    · exact h.completed j job' hj hstat

theorem Separate.modify_handle (h : Separate p s)
    (hi : s.accepted[i]? = some job) {handle : RepairJobHandle}
    (hdone : handle.status = .completed → ∃ now diff,
      job.progress = .saved now diff ∧ handle.diffPath = diffPath p.toRunner now) :
    Separate p (s.modify i ({ · with handle := handle })) :=
  h.modify s.files hi (fun _ => rfl) (fun _ ha => .inl ha)
    (fun j job' now diff _ => h.saved j job' now diff) (fun now diff => h.saved i job now diff hi)
    hdone

theorem Separate.request (h : Separate p s) {root requestText : String} {now : Instant}
    (hfresh : ∀ job ∈ s.accepted, job.acceptedAt ≠ now) :
    Separate p (s.handleRepairRequest p root requestText now).1 := by
  unfold Daemon.handleRepairRequest
  split
  · exact h
  split
  · exact h
  -- What is known of the new job is only that it has not begun.
  have hnew {i : Nat} {job : RepairJob} {prog : Progress} {handle : RepairJobHandle}
      (hi : (s.accepted ++ [⟨now, prog, handle⟩])[i]? = some job) :
      s.accepted[i]? = some job ∨ job = ⟨now, prog, handle⟩ := by
    rcases Nat.lt_or_ge i s.accepted.length with hlt | hge
    · exact .inl (by rwa [List.getElem?_append_left hlt] at hi)
    · rw [List.getElem?_append_right hge] at hi
      have hmem := mem_of_getElem? hi
      exact .inr (mem_singleton.mp hmem)
  constructor
  · simp only [map_append, map_cons, map_nil]
    refine nodup_append.mpr ⟨h.acceptances, by simp, ?_⟩
    rintro a ha b hb rfl
    obtain ⟨job, hjob, rfl⟩ := mem_map.mp ha
    exact hfresh job hjob (mem_singleton.mp hb)
  · intro i j job job' a b hi hj ha hb
    rcases hnew hi with hi | rfl
    · rcases hnew hj with hj | rfl
      · exact h.seconds i j job job' a b hi hj ha hb
      · cases hb
    · cases ha
  · intro i job now' diff hi hprog
    rcases hnew hi with hi | rfl
    · exact h.saved i job now' diff hi hprog
    · cases hprog
  · intro i job hi hstat
    rcases hnew hi with hi | rfl
    · exact h.completed i job hi hstat
    · cases hstat

variable {x : JobOperation}

theorem Separate.runJob (h : Separate p s) (hx : Apart s x) : Separate p (s.runJob p x) := by
  cases x with
  | begin =>
    simp only [Daemon.runJob]
    split
    next hi =>
      refine h.modify s.files hi (fun _ => rfl) ?_ ?_ ?_ ?_
      · intro a ha
        obtain rfl := Option.some.inj ha
        exact .inr hx
      · intro j job' now' diff _
        exact h.saved j job' now' diff
      · intro now' diff hprog
        cases hprog
      · intro hstat
        cases hstat
    · exact h
  | save i diff =>
    obtain ⟨hdiff, rfl⟩ := hx
    simp only [Daemon.runJob]
    split
    next now _ _ _ hi =>
      have hsave : s.saveDiff p now diff .done = { s with
          files := Function.update s.files (diffPath p.toRunner now) (some diff) } := by
        simp [Daemon.saveDiff, hdiff]
      rw [hsave]
      refine h.modify _ hi (fun _ => rfl) ?_ ?_ ?_ ?_
      · intro a ha
        exact .inl ha
      · intro j job' now' diff' hji hj hprog
        have hpath : diffPath p.toRunner now' ≠ diffPath p.toRunner now := by
          intro heq
          have hbegun : job'.progress.begunAt = some now' := by rw [hprog, Progress.begunAt]
          exact hji (h.seconds _ _ _ _ _ _ hj hi hbegun rfl (diffPath_seconds heq))
        exact (Function.update_of_ne hpath _ _).trans (h.saved j job' now' diff' hj hprog)
      · intro now' diff' hprog
        cases hprog
        exact Function.update_self _ _ _
      · intro hstat
        cases hstat
    · exact h
  | finish i res =>
    cases res with
    | error msg =>
      simp only [Daemon.runJob]
      split
      next hi =>
        refine h.modify_handle hi ?_
        intro hstat
        cases hstat
      · exact h
    | ok hash =>
      simp only [Daemon.runJob]
      split
      next now diff _ _ _ hi => exact h.modify_handle hi fun _ => ⟨now, diff, rfl, rfl⟩
      · exact h
  | request root requestText now | poll id | evict id => exact h

theorem Separate.step (h : Separate p s) (hx : Apart s x) : Separate p (s.exec p x).1 := by
  cases x with
  | request => exact h.request hx
  | begin i now | save i diff write | finish i res => exact h.runJob hx
  | poll =>
    simp only [Daemon.exec, Daemon.handleRepairPoll]
    split
    · exact h
    split
    · exact h
    split
    · exact h
    · exact ⟨h.acceptances, h.seconds, h.saved, h.completed⟩
  | evict =>
    simp only [Daemon.exec, Daemon.evict]
    split
    · exact ⟨h.acceptances, h.seconds, h.saved, h.completed⟩
    · exact h

namespace Instance

open TrustedSupervisor.Instance (digits mod_of_digits_eq)

theorem ticks_lt (now : Instant) : ticks now < 10 ^ 21 := by
  obtain ⟨_, hlow, hhigh⟩ := now
  simp only [second] at hlow hhigh
  simp only [ticks, second]
  omega

theorem val_eq_ticks (now : Instant) : now.val = ticks now - 62167219200 * second := by
  obtain ⟨_, hlow, hhigh⟩ := now
  simp only [second] at hlow hhigh
  simp only [ticks, second]
  omega

theorem eq_of_digits_eq {k m n : Nat} (hm : m < 10 ^ k) (hn : n < 10 ^ k)
    (h : String.ofList (digits k m) = String.ofList (digits k n)) : m = n := by
  have hmod := mod_of_digits_eq (String.ofList_injective h)
  rwa [Nat.mod_eq_of_lt hm, Nat.mod_eq_of_lt hn] at hmod

theorem formatNano_injective :
    Function.Injective fun now : Instant => String.ofList (digits 21 (ticks now)) := by
  intro a b h
  have hticks := eq_of_digits_eq (ticks_lt a) (ticks_lt b) h
  exact Subtype.ext (by rw [val_eq_ticks a, val_eq_ticks b, hticks])

theorem formatStamp_seconds (a b : Instant) (h : runner.formatStamp a = runner.formatStamp b) :
    a.seconds = b.seconds := by
  have ha := ticks_lt a
  have hb := ticks_lt b
  have hticks := eq_of_digits_eq (by omega) (by omega) h
  simp only [Instant.seconds, val_eq_ticks a, val_eq_ticks b, second]
  omega

def stamps : Stamps Nat where
  toRunner := runner
  formatNano now := String.ofList (digits 21 (ticks now))
  formatNano_injective
  formatStamp_seconds

def soon : Instant := ⟨2, by decide, by decide⟩

def later : Instant := ⟨1000000001, by decide, by decide⟩

/-- Two jobs beside each other, the second of them begun at this instant. -/
def twoJobs (now : Instant) : List JobOperation :=
  [.request "repo" "repair" start, .request "repo" "repair" soon, .begin 0 start, .begin 1 now,
    .save 0 [1] .done, .save 1 [2] .done, .finish 0 (.ok "first"), .finish 1 (.ok "second")]

end Instance

/-- In every run whose jobs are accepted in different nanoseconds, begin in different seconds
and write a diff, the jobs have different names, and the path that a completed job reports names
a file with its own diff. -/
theorem repairs_apart {files : String → Option (List UInt8)} {ops : List JobOperation}
    (h : Meets (Daemon.exec p) Apart (Daemon.fresh files) ops) :
    ((run (Daemon.exec p) (Daemon.fresh files) ops).accepted.map (jobID p)).Nodup ∧
      ∀ id i job, (run (Daemon.exec p) (Daemon.fresh files) ops).jobs id = some i →
        (run (Daemon.exec p) (Daemon.fresh files) ops).accepted[i]? = some job →
        job.handle.status = .completed →
        ∃ now diff, job.progress = .saved now diff ∧
          (run (Daemon.exec p) (Daemon.fresh files) ops).files job.handle.diffPath = some diff := by
  have hseparate : Separate p (run (Daemon.exec p) (Daemon.fresh files) ops) := by
    refine invariant_meets (fun s x hs hx => hs.step hx) h ?_
    exact ⟨nodup_nil, by simp [Daemon.fresh], by simp [Daemon.fresh], by simp [Daemon.fresh]⟩
  constructor
  · have hpairs := pairwise_map.mp hseparate.acceptances
    exact pairwise_map.mpr (hpairs.imp fun hne heq => hne (jobID_injective heq))
  · rintro id i job - hi hstatus
    obtain ⟨now, diff, hprogress, hpath⟩ := hseparate.completed i job hi hstatus
    exact ⟨now, diff, hprogress, hpath ▸ hseparate.saved i job now diff hi hprogress⟩

open Instance in
/-- Two jobs that begin in different seconds. The first reports a path with its own diff, which
the second has not overwritten. -/
theorem repairs_apart_later :
    let s := run (Daemon.exec stamps) (Daemon.fresh fun _ => none) (twoJobs later)
    Meets (Daemon.exec stamps) Apart (Daemon.fresh fun _ => none) (twoJobs later) ∧
      (s.accepted.map (jobID stamps)).Nodup ∧ ∃ id job, s.jobs id = some 0 ∧
        s.accepted[0]? = some job ∧ s.files job.handle.diffPath = some [1] := by
  intro s
  have hmeets : Meets (Daemon.exec stamps) Apart (Daemon.fresh fun _ => none) (twoJobs later) := by
    refine ⟨?_, ?_, ?_, ?_, ⟨by decide, rfl⟩, ⟨by decide, rfl⟩, trivial, trivial, trivial⟩
    · intro job hjob
      cases hjob
    · intro job hjob heq
      obtain rfl := mem_singleton.mp hjob
      exact absurd (congrArg Subtype.val heq) (by decide)
    · intro job hjob a ha
      rcases mem_pair.mp hjob with rfl | rfl <;> cases ha
    · intro job hjob a ha
      rcases mem_pair.mp hjob with rfl | rfl
      · obtain rfl := Option.some.inj ha
        decide
      · cases ha
  obtain ⟨hnames, hdiffs⟩ := repairs_apart hmeets
  have hid : s.jobs (jobID stamps ⟨start, .accepted, ⟨.running, "", "", ""⟩⟩) = some 0 := by
    decide +kernel
  obtain ⟨_, _, hprogress, hdiff⟩ := hdiffs _ 0 _ hid rfl rfl
  cases hprogress
  exact ⟨hmeets, hnames, _, _, hid, rfl, hdiff⟩

open Instance in
/-- Of two jobs that begin in one second, the first reports a path with the diff of the
second. -/
theorem repairs_mixed :
    ∃ id job now, (run (Daemon.exec stamps) (Daemon.fresh fun _ => none) (twoJobs soon)).jobs id =
        some 0 ∧
      (run (Daemon.exec stamps) (Daemon.fresh fun _ => none) (twoJobs soon)).accepted[0]? =
        some job ∧
      job.handle.status = .completed ∧ job.progress = .saved now [1] ∧
      (run (Daemon.exec stamps) (Daemon.fresh fun _ => none) (twoJobs soon)).files
        job.handle.diffPath = some [2] := by
  refine ⟨jobID stamps ⟨start, .accepted, ⟨.running, "", "", ""⟩⟩, _, _, ?_, rfl, rfl, rfl, ?_⟩
  · decide +kernel
  · decide +kernel

end Ananke.Repair
