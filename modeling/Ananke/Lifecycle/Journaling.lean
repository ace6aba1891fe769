import Mathlib.Data.List.Infix
import Ananke.Lifecycle.Drive
import Ananke.Lifecycle.Walk

/-! Exactly-once journaling: the events of a run against the lines of its transcript. -/
namespace Ananke.Lifecycle

open Store Interaction Text List

/-- The event a line stands for; an empty or malformed line stands for none. -/
def lineEvent (unmarshal : Unmarshal) (line : List UInt8) : Option (String × List UInt8) :=
  if trimNewline line = [] then none else parseEnvelope unmarshal (trimNewline line)

/-- The journal of a byte stream: its well-formed lines in order, each with the offset at
which it ends. -/
def journal (unmarshal : Unmarshal) (bytes : List UInt8) : List (String × List UInt8 × Int) :=
  (numbered newline bytes).filterMap fun (line, stop) =>
    (lineEvent unmarshal line).map fun (type, payload) => (type, payload, (stop : Int))

/-- What an event row says. -/
def entry (e : Store.Event) : String × List UInt8 × Int := (e.type, e.payload, e.transcriptOffset)

def entries (id : String) (w : World) : List (String × List UInt8 × Int) :=
  (w.db.eventsOf id).map entry

/-- The consumed offset and the seal of the run. -/
def progress (id : String) (w : World) : Option (Int × Int) :=
  (w.db.getRun id).map fun r => (r.transcriptConsumedOffset, r.transcriptFinalSize)

theorem progress_view (id : String) (w : World) : progress id w = (w.db.view id).run.map
    fun r => (r.transcriptConsumedOffset, r.transcriptFinalSize) := rfl

theorem entries_view (id : String) (w : World) :
    entries id w = (w.db.view id).events.map entry := rfl

variable {unmarshal : Unmarshal} {id : String} {w w' : World} {q : Question}
  {bytes line : List UInt8}

theorem journal_snoc (hb : AtLineEnd newline bytes) (hl : IsLine newline line) :
    journal unmarshal (bytes ++ line) = journal unmarshal bytes ++
      ((lineEvent unmarshal line).map fun (type, payload) =>
        (type, payload, ((bytes.length + line.length : Nat) : Int))).toList := by
  unfold journal
  rw [numbered_snoc hb hl, filterMap_append]
  cases h : lineEvent unmarshal line <;> simp [h]

/-- How the run's progress and transcript move while nothing is journaled for it. -/
inductive Drift (id : String) (w w' : World) : Prop
  | same (hprogress : progress id w' = progress id w) (hgrow : w.transcript id <+: w'.transcript id)
  | created (hnone : progress id w = none) (hnew : progress id w' = some (0, -1))
      (hbytes : w'.transcript id = w.transcript id)
  | sealed {consumed final final' : Int} (hopen : progress id w = some (consumed, final))
      (hneg : final < 0) (hsealed : progress id w' = some (consumed, final'))
      (hbytes : w'.transcript id = w.transcript id)
  | noProcess {consumed final consumed' final' : Int}
      (hbefore : progress id w = some (consumed, final))
      (hafter : progress id w' = some (consumed', final'))
      (hc : consumed' = consumed ∨ consumed' = 0) (hf : final' = final ∨ final' = 0)
      (hempty : w.transcript id = []) (hbytes : w'.transcript id = w.transcript id)

/-- A step that journals nothing for the run. -/
structure Moves (id : String) (w w' : World) : Prop where
  drift : Drift id w w'
  entries : entries id w' = entries id w
  keys : w.db.KeysDistinct → w'.db.KeysDistinct

/-- An operation that journals nothing for the run. -/
def NotJournaling (id : String) : Op → Prop
  | .appendEvent runID _ _ _ _ => runID ≠ id
  | .advanceTranscriptConsumed runID _ _ => runID ≠ id
  | _ => True

theorem drift_exec {op : Op} (hop : NotJournaling id op)
    (hnp : ∀ reason now, op = .commitNoProcessFailure id reason now → w.transcript id = [])
    (hdb : w'.db = (exec w.db op).1) (hbytes : w'.transcript id = w.transcript id) :
    Drift id w w' ∧ entries id w' = entries id w := by
  have hgrow : w.transcript id <+: w'.transcript id := hbytes ▸ prefix_refl _
  rcases exec_view w.db op id with hsame | ⟨-, hstep⟩
  · refine ⟨.same ?_ hgrow, ?_⟩
    · rw [progress_view, progress_view, hdb, hsame]
    · rw [entries_view, entries_view, hdb, hsame]
  · rw [← hdb] at hstep
    have hp := progress_view id w
    have hp' := progress_view id w'
    have he := entries_view id w
    have he' := entries_view id w'
    generalize w.db.view id = v, w'.db.view id = v' at hstep hp hp' he he'
    cases hstep with
    | createRun hnone =>
      refine ⟨.created ?_ ?_ hbytes, he'.trans he.symm⟩
      · rw [hp, hnone]
        rfl
      · rw [hp']
        rfl
    | @commitNoProcessFailure _ run reason now hrun =>
      have hempty := hnp reason now rfl
      refine ⟨.noProcess (by rw [hp, hrun]; rfl) (by rw [hp']; rfl) ?_ ?_ hempty hbytes,
        he'.trans he.symm⟩
      · by_cases h : run.transcriptRequired = true <;> simp [transitionRun, h]
      · by_cases h : run.transcriptRequired = true <;> simp [transitionRun, h]
    | sealTranscript hrun hsize hopen =>
      exact ⟨.sealed (by rw [hp, hrun]; rfl) hopen (by rw [hp']; rfl) hbytes, he'.trans he.symm⟩
    | appendEvent hrun | advanceTranscriptConsumed hrun => exact absurd rfl hop
    | resolveOutbox => exact ⟨.same (by rw [hp, hp']) hgrow, he'.trans he.symm⟩
    | transition hrun | commitTerminal hrun | cancelRunning hrun | cancelFlag hrun
    | setRunSupervisor hrun | setTranscriptIdentity hrun =>
      refine ⟨.same ?_ hgrow, he'.trans he.symm⟩
      rw [hp, hp', hrun]
      simp [RunView.move, transitionRun]

theorem moves_envStep (hs : EnvStep w w') : Moves id w w' := by
  have hkept : w'.db = w.db → w.transcript id <+: w'.transcript id →
      Drift id w w' ∧ entries id w' = entries id w := by
    intro hdb hgrow
    exact ⟨.same (by simp only [progress, hdb]) hgrow, by simp only [entries, hdb]⟩
  suffices h : Drift id w w' ∧ entries id w' = entries id w from ⟨h.1, h.2, keys_envStep hs⟩
  obtain ⟨-, ⟨hbytes, hdb | ⟨op, hop, hdb⟩⟩ | ⟨hdb, hgrow⟩⟩ := envStep_cases hs
  · exact hkept hdb (hbytes ▸ prefix_refl _)
  · refine drift_exec ?_ ?_ hdb (by rw [hbytes])
    · cases op <;> simp_all [Foreign, NotJournaling]
    · rintro reason now rfl
      exact hop
  · exact hkept hdb (hgrow id)

theorem moves_quiet {a : QuestionAnswer q} (hq : Quiet id q) (hs : daemonSem w q a w') :
    Moves id w w' := by
  suffices h : Drift id w w' ∧ entries id w' = entries id w from ⟨h.1, h.2, keys_sem hs⟩
  rcases daemonSem_cases hs with rfl | ⟨id', cmd, now, rfl, -, rfl⟩
  · exact ⟨.same rfl (prefix_refl _), rfl⟩
  · have hdb := wrote_db w id' cmd (exec w.db (cmd.op id' now)).1
    refine drift_exec ?_ ?_ hdb (by rw [wrote_transcript])
    · cases cmd with
      | appendEvent | advanceTranscriptConsumed | accountMalformed =>
        intro hid
        exact absurd (hq hid) (by simp [QuietCall, Write.journals])
      | _ => trivial
    · intro reason now' hop
      cases cmd <;> simp [Write.op] at hop

/-- The journal holds exactly what the consumed part of the transcript stands for. -/
structure Journaled (unmarshal : Unmarshal) (id : String) (w : World) : Prop where
  keys : w.db.KeysDistinct
  absent : progress id w = none → entries id w = []
  present : ∀ consumed final, progress id w = some (consumed, final) →
    0 ≤ consumed ∧ consumed ≤ (w.transcript id).length ∧
    entries id w = journal unmarshal ((w.transcript id).take consumed.toNat) ∧
    -- the consumed part ends with a line, or the seal lets nothing more in
    (AtLineEnd newline ((w.transcript id).take consumed.toNat) ∨ 0 ≤ final ∧ final ≤ consumed)

/-- An offset up to which the tail may have read: the same is journaled up to there, or
the seal lets nothing more in. -/
structure Fits (unmarshal : Unmarshal) (id : String) (offset : Int) (w : World) : Prop where
  nonneg : 0 ≤ offset
  within : offset ≤ (w.transcript id).length
  tracked : ∃ consumed final, progress id w = some (consumed, final) ∧ consumed ≤ offset ∧
    (AtLineEnd newline ((w.transcript id).take offset.toNat) ∧
      entries id w = journal unmarshal ((w.transcript id).take offset.toNat) ∨
      0 ≤ final ∧ final ≤ offset)

/-- The journal is right, and the tail in memory fits it. -/
structure Tracks (unmarshal : Unmarshal) (id : String) (tail : Option Tail) (w : World) : Prop where
  journaled : Journaled unmarshal id w
  fits : ∀ t, tail = some t → t.pos = t.offset.toNat ∧ Fits unmarshal id t.offset w

theorem take_of_prefix {a b : List UInt8} {n : Nat} (h : a <+: b) (hn : n ≤ a.length) :
    b.take n = a.take n := by
  obtain ⟨_, rfl⟩ := h
  exact take_append_of_le_length hn

variable {off : Int} {tail : Option Tail}

theorem journaled_moves (hm : Moves id w w') (h : Journaled unmarshal id w) :
    Journaled unmarshal id w' := by
  obtain ⟨hd, he, hk⟩ := hm
  have hk := hk h.keys
  cases hd with
  | same hp hgrow =>
    refine ⟨hk, fun hnone => he.trans (h.absent (hp ▸ hnone)), fun consumed final hsome => ?_⟩
    obtain ⟨hpos, hwithin, hjrn, hcut⟩ := h.present consumed final (hp ▸ hsome)
    have htake := take_of_prefix hgrow (n := consumed.toNat) (by omega)
    have hlen := hgrow.length_le
    exact ⟨hpos, by omega, by rw [he, htake, hjrn], by rwa [htake]⟩
  | created hnone hnew hbytes =>
    refine ⟨hk, fun hnone' => by simp [hnew] at hnone', fun consumed final hsome => ?_⟩
    cases hnew.symm.trans hsome
    have hempty : entries id w' = journal unmarshal [] := he.trans (h.absent hnone)
    exact ⟨by omega, by omega, by simpa using hempty, .inl (.inl (by simp))⟩
  | @sealed consumed final final' hopen hneg hseal hbytes =>
    obtain ⟨hpos, hwithin, hjrn, hcut⟩ := h.present _ _ hopen
    refine ⟨hk, fun hnone => by simp [hseal] at hnone, fun c f hsome => ?_⟩
    cases hseal.symm.trans hsome
    rw [hbytes]
    refine ⟨hpos, hwithin, he.trans hjrn, .inl ?_⟩
    rcases hcut with hcut | hcut
    · exact hcut
    · omega
  | @noProcess consumed final consumed' final' hpre hafter hc hf hempty hbytes =>
    obtain ⟨_, hwithin, hjrn, _⟩ := h.present _ _ hpre
    rw [hempty, length_nil] at hwithin
    refine ⟨hk, fun hnone => by simp [hafter] at hnone, fun c f hsome => ?_⟩
    cases hafter.symm.trans hsome
    rw [hbytes, hempty] at *
    refine ⟨by omega, by simp; omega, by simpa using he.trans hjrn, .inl (.inl (by simp))⟩

theorem fits_moves (hm : Moves id w w') (hj : Journaled unmarshal id w)
    (h : Fits unmarshal id off w) : Fits unmarshal id off w' := by
  obtain ⟨hd, he, -⟩ := hm
  obtain ⟨hpos, hwithin, consumed, final, hprog, hcons, hcut⟩ := h
  cases hd with
  | same hp hgrow =>
    have htake := take_of_prefix hgrow (n := off.toNat) (by omega)
    have hlen := hgrow.length_le
    exact ⟨hpos, by omega, consumed, final, hp.trans hprog, hcons, by rwa [htake, he]⟩
  | created hnone => simp [hprog] at hnone
  | @sealed c f f' hopen hneg hseal hbytes =>
    cases hprog.symm.trans hopen
    refine ⟨hpos, hbytes ▸ hwithin, consumed, f', hseal, hcons, .inl ?_⟩
    rcases hcut with hcut | hcut
    · rwa [hbytes, he]
    · omega
  | @noProcess c f c' f' hpre hafter hc hf hempty hbytes =>
    cases hprog.symm.trans hpre
    have hjrn := (hj.present _ _ hprog).2.2.1
    rw [hempty, take_nil] at hjrn
    rw [hempty, length_nil] at hwithin
    refine ⟨hpos, by simpa [hbytes, hempty] using hwithin, c', f', hafter, ?_, .inl ⟨?_, ?_⟩⟩
    · omega
    · exact .inl (by simp [hbytes, hempty])
    · rw [he, hbytes, hempty, take_nil, hjrn]

/-- A fact that outlives every step that journals nothing. -/
def Carries (id : String) (P : World → Prop) : Prop := ∀ w w', Moves id w w' → P w → P w'

theorem carries_tracks : Carries id (Tracks unmarshal id tail) := fun _ _ hm h =>
  ⟨journaled_moves hm h.journaled, fun t ht =>
    ⟨(h.fits t ht).1, fits_moves hm h.journaled (h.fits t ht).2⟩⟩

/-- The run's durable offset. -/
def ConsumedAt (id : String) (off : Int) (w : World) : Prop :=
  ∃ final, progress id w = some (off, final)

theorem carries_consumedAt :
    Carries id fun w => Journaled unmarshal id w ∧ ConsumedAt id off w := by
  rintro _ _ hm ⟨hj, final, hprog⟩
  refine ⟨journaled_moves hm hj, ?_⟩
  cases hm.drift with
  | same hp => exact ⟨final, hp.trans hprog⟩
  | created hnone => simp [hprog] at hnone
  | @sealed c f f' hopen hneg hseal =>
    cases hprog.symm.trans hopen
    exact ⟨f', hseal⟩
  | @noProcess c f c' f' hpre hafter hc hf hempty =>
    cases hprog.symm.trans hpre
    obtain ⟨_, hwithin, -⟩ := hj.present _ _ hprog
    rw [hempty, length_nil] at hwithin
    obtain rfl : c' = off := by omega
    exact ⟨f', hafter⟩

/-- The system in which the daemon is careful, with what that is meant to save. -/
def journalSetting (unmarshal : Unmarshal) (id : String) : Setting Question QuestionAnswer World :=
  { environment.restrict Careful with inv := Journaled unmarshal id }

abbrev journalRun (unmarshal : Unmarshal) (id : String) :=
  runSetting (journalSetting unmarshal id) id

variable {P : World → Prop}

theorem Carries.stable (hP : Carries id P) : Stable environment P := by
  intro w w' hr h
  induction hr with
  | refl => exact h
  | tail _ hs ih => exact hP _ _ (moves_envStep hs) ih

/-- A line has been read from the tail's position. -/
structure Holds (unmarshal : Unmarshal) (id : String) (t : Tail) (line : List UInt8)
    (w : World) : Prop where
  tracks : Tracks unmarshal id (some t) w
  isLine : IsLine newline line
  here : line <+: (w.transcript id).drop t.pos

/-- The line ends: with its terminator, or at the seal. -/
def Terminated (id : String) (t : Tail) (line : List UInt8) (w : World) : Prop :=
  line.getLast? = some newline ∨ ∃ consumed, progress id w = some (consumed, t.offset + line.length)

/-- The tail behind the line. -/
def pastLine (t : Tail) (line : List UInt8) : Tail :=
  ⟨t.offset + line.length, t.pos + line.length⟩

variable {t : Tail}

theorem carries_holds : Carries id (Holds unmarshal id t line) := by
  intro w w' hm h
  refine ⟨carries_tracks w w' hm h.tracks, h.isLine, ?_⟩
  cases hm.drift with
  | same hp hgrow => exact h.here.trans (hgrow.drop t.pos)
  | created hnone hnew hbytes | sealed hopen hneg hseal hbytes
  | noProcess hpre hafter hc hf hempty hbytes => exact hbytes ▸ h.here

theorem carries_terminated :
    Carries id fun w => Holds unmarshal id t line w ∧ Terminated id t line w := by
  rintro w w' hm ⟨h, hend⟩
  refine ⟨carries_holds w w' hm h, ?_⟩
  rcases hend with hend | ⟨consumed, hseal⟩
  · exact .inl hend
  · obtain ⟨_, -, -⟩ := (h.tracks.fits t rfl).2
    cases hm.drift with
    | same hp => exact .inr ⟨consumed, hp.trans hseal⟩
    | created hnone => simp [hseal] at hnone
    | @sealed c f f' hopen hneg =>
      cases hseal.symm.trans hopen
      omega
    | noProcess hpre hafter hc hf hempty =>
      -- something was read, so the transcript is not empty
      have hline := h.here
      rw [hempty, drop_nil] at hline
      exact absurd (prefix_nil.mp hline) h.isLine.1

section

variable (h : Holds unmarshal id t line w)
include h

theorem Holds.take : (w.transcript id).take (t.offset + line.length).toNat =
        (w.transcript id).take t.offset.toNat ++ line ∧
      t.offset + line.length ≤ (w.transcript id).length ∧
      ((w.transcript id).take t.offset.toNat).length = t.offset.toNat := by
  obtain ⟨hpos, hfits⟩ := h.tracks.fits t rfl
  obtain ⟨_, _, -⟩ := hfits
  have hline := h.here
  rw [hpos] at hline
  have hlen := hline.length_le
  rw [length_drop] at hlen
  refine ⟨?_, by omega, by rw [length_take]; omega⟩
  have hsum : (t.offset + line.length).toNat = t.offset.toNat + line.length := by omega
  rw [hsum, take_add, ← prefix_iff_eq_take.mp hline]

theorem Holds.journal (hcut : AtLineEnd newline ((w.transcript id).take t.offset.toNat)) :
    journal unmarshal ((w.transcript id).take (t.offset + line.length).toNat) =
      journal unmarshal ((w.transcript id).take t.offset.toNat) ++
        ((lineEvent unmarshal line).map fun (type, payload) =>
          (type, payload, t.offset + line.length)).toList := by
  obtain ⟨htake, -, hlen⟩ := h.take
  obtain ⟨_, -, -⟩ := (h.tracks.fits t rfl).2
  have hstop : ((t.offset.toNat + line.length : Nat) : Int) = t.offset + line.length := by omega
  rw [htake, journal_snoc hcut h.isLine, hlen, hstop]

/-- Where the line ends there is a cut again, or the seal. -/
theorem Holds.cut {consumed final : Int}
    (hend : Terminated id t line w) (hprog : progress id w = some (consumed, final)) :
    AtLineEnd newline ((w.transcript id).take (t.offset + line.length).toNat) ∨
      0 ≤ final ∧ final ≤ t.offset + line.length := by
  rcases hend with hend | ⟨c, hseal⟩
  · exact .inl (h.take.1 ▸ atLineEnd_append hend)
  · obtain ⟨_, -, -⟩ := (h.tracks.fits t rfl).2
    cases hprog.symm.trans hseal
    exact .inr ⟨by omega, Int.le_refl _⟩

theorem tracks_skipped (hend : Terminated id t line w) (hnone : lineEvent unmarshal line = none) :
    Tracks unmarshal id (some (pastLine t line)) w := by
  obtain ⟨_, _, _, consumed, final, hprog, _, hcut⟩ :=
    h.tracks.fits t rfl
  refine ⟨h.tracks.journaled, ?_⟩
  rintro _ ⟨⟩
  refine ⟨by simp only [pastLine]; omega, by simp only [pastLine]; omega, h.take.2.1,
    consumed, final, hprog, by simp only [pastLine]; omega, ?_⟩
  rcases hcut with ⟨hcut, hentries⟩ | hcut
  · rcases h.cut hend hprog with hnext | hnext
    · refine .inl ⟨hnext, ?_⟩
      have hjrn := h.journal hcut
      rw [hnone] at hjrn
      simpa [pastLine, hentries] using hjrn.symm
    · exact .inr hnext
  · exact .inr ⟨hcut.1, by simp only [pastLine]; omega⟩

theorem tracks_written {consumed final : Int} {evs : List (String × List UInt8 × Int)}
    (hend : Terminated id t line w) (hkeys : w'.db.KeysDistinct)
    (hbytes : w'.transcript id = w.transcript id) (hpre : progress id w = some (consumed, final))
    (hseal : final < 0 ∨ t.offset + line.length ≤ final)
    (hafter : progress id w' = some (max consumed (t.offset + line.length), final))
    (hevents : ((lineEvent unmarshal line).map fun (type, payload) =>
      (type, payload, t.offset + line.length)).toList = evs)
    (hentries : entries id w' = entries id w ++ evs) :
    Tracks unmarshal id (some (pastLine t line)) w' := by
  obtain ⟨_, _, _, c, f, hprog, _, hcut⟩ := h.tracks.fits t rfl
  cases hpre.symm.trans hprog
  have hline : 0 < line.length := length_pos_iff.mpr h.isLine.1
  obtain ⟨hopen, hjrn⟩ : AtLineEnd newline ((w.transcript id).take t.offset.toNat) ∧
      entries id w = journal unmarshal ((w.transcript id).take t.offset.toNat) := by
    rcases hcut with hcut | hcut
    · exact hcut
    · omega
  have hmax : max consumed (t.offset + line.length) = t.offset + line.length := by omega
  rw [hmax] at hafter
  have hnow : entries id w' =
      journal unmarshal ((w'.transcript id).take (t.offset + line.length).toNat) := by
    rw [hbytes, h.journal hopen, hentries, hjrn, hevents]
  have hnext := h.cut hend hprog
  rw [← hbytes] at hnext
  have hthere := hbytes ▸ h.take.2.1
  refine ⟨⟨hkeys, fun hnone => by simp [hafter] at hnone, fun c f hsome => ?_⟩, ?_⟩
  · cases hafter.symm.trans hsome
    exact ⟨by omega, hthere, hnow, hnext⟩
  · rintro _ ⟨⟩
    refine ⟨by simp only [pastLine]; omega, by simp only [pastLine]; omega, hthere,
      t.offset + line.length, final, hafter, Int.le_refl _, ?_⟩
    exact hnext.imp_left fun hnext => ⟨hnext, hnow⟩

end

/-- The writes that account a line at its end. -/
inductive Accounts (unmarshal : Unmarshal) (line : List UInt8) (stop : Int) : Write → Prop
  | skip (h : lineEvent unmarshal line = none) :
      Accounts unmarshal line stop (.advanceTranscriptConsumed stop)
  | malformed (h : lineEvent unmarshal line = none) :
      Accounts unmarshal line stop (.accountMalformed stop)
  | event {type : String} {payload : List UInt8}
      (h : lineEvent unmarshal line = some (type, payload)) :
      Accounts unmarshal line stop (.appendEvent type payload stop)

variable {cmd : Write} {now : String} {stop : Int}

theorem exec_accounts (hcmd : Accounts unmarshal line stop cmd)
    (hok : (exec w.db (cmd.op id now)).2 = .ok ()) :
    RunStep id (cmd.op id now) (w.db.view id) ((exec w.db (cmd.op id now)).1.view id) := by
  cases hcmd with
  | skip | malformed => exact exec_advance_step hok
  | event => exact exec_appendEvent_step hok

theorem runStep_accounts {v v' : RunView} (hcmd : Accounts unmarshal line stop cmd)
    (hstep : RunStep id (cmd.op id now) v v') :
    ∃ run run', v.run = some run ∧ withinSeal run stop = true ∧ v'.run = some run' ∧
      run'.transcriptConsumedOffset = max run.transcriptConsumedOffset stop ∧
      run'.transcriptFinalSize = run.transcriptFinalSize ∧
      v'.events.map entry = v.events.map entry ++
        ((lineEvent unmarshal line).map fun (type, payload) => (type, payload, stop)).toList := by
  cases hcmd with
  | skip hnone | malformed hnone =>
    cases hstep with
    | advanceTranscriptConsumed hrun hoffset hseal =>
      exact ⟨_, _, hrun, hseal, rfl, rfl, rfl, by simp [hnone]⟩
    | resolveOutbox hop => rcases hop with ⟨_, hop⟩ | ⟨_, _, hop⟩ <;> cases hop
  | event hevent =>
    cases hstep with
    | appendEvent hrun hseal =>
      exact ⟨_, _, hrun, hseal, rfl, rfl, rfl, by simp [hevent, entry]⟩
    | resolveOutbox hop => rcases hop with ⟨_, hop⟩ | ⟨_, _, hop⟩ <;> cases hop

theorem tracks_accounted (h : Holds unmarshal id t line w) (hend : Terminated id t line w)
    (hcmd : Accounts unmarshal line (t.offset + line.length) cmd)
    (hok : (exec w.db (cmd.op id now)).2 = .ok ()) :
    Tracks unmarshal id (some (pastLine t line))
      (w.wrote id cmd (exec w.db (cmd.op id now)).1) := by
  obtain ⟨run, _, hrun, hseal, hrun', hcons, hfinal, hevents⟩ :=
    runStep_accounts hcmd (exec_accounts hcmd hok)
  have hpre : progress id w = some (run.transcriptConsumedOffset, run.transcriptFinalSize) := by
    rw [progress_view, hrun]
    rfl
  refine tracks_written h hend ?_ (by rw [wrote_transcript]) hpre ?_ ?_ rfl ?_
  · rw [wrote_db]
    exact exec_keysDistinct h.tracks.journaled.keys
  · simpa [withinSeal] using hseal
  · rw [progress_view, wrote_db, hrun']
    simp [hcons, hfinal]
  · rw [entries_view, entries_view, wrote_db, hevents]

theorem Carries.quiet {α : Type} {p : RunProg α} (hP : Carries id P)
    (hinv : ∀ w, P w → Journaled unmarshal id w) (hp : Asks QuietCall p) :
    Preserves (journalRun unmarshal id) P p := by
  refine triple_asks (S := journalRun unmarshal id) hP.stable ?_ hp
  intro w c a w' hc hw hs
  have hw' := hP w w' (moves_quiet (q := .about id c) (fun _ => hc) hs.2) hw
  exact ⟨hinv w' hw', hw'⟩

def roundTail (r : Tail ⊕ Tail) : Tail := r.elim (fun t => t) fun t => t

theorem triple_putBack {pos : Nat} : Triple (journalRun unmarshal id)
    (Tracks unmarshal id (some t)) (retryLater { t with pos := pos })
    fun r => Tracks unmarshal id (some (roundTail r)) := by
  refine triple_bind (triple_bind (M := fun e w => Tracks unmarshal id (some t) w ∧ e = none)
    ?_ fun e => ?_) fun t => triple_pure (carries_tracks.stable) fun _ h => h
  · refine triple_call (S := journalRun unmarshal id) carries_tracks.stable (fun a => ?_) ?_
    · intro w w' hr h
      exact ⟨carries_tracks.stable w w' hr h.1, h.2⟩
    · intro w a w' hw hs
      have hw' := carries_tracks w w'
        (moves_quiet (q := .about id (.rewind _)) (fun _ => trivial) hs.2) hw
      exact ⟨hw'.journaled, hw', hs.1.2⟩
  · cases e with
    | some e => exact ⟨fun w hw => by cases hw.2⟩
    | none =>
      refine triple_pure carries_tracks.stable fun w hw => ?_
      refine ⟨hw.1.journaled, ?_⟩
      rintro _ ⟨⟩
      exact ⟨rfl, (hw.1.fits t rfl).2⟩

/-- A line in hand, and what else is known of it where `φ` holds. -/
def HoldsIf (unmarshal : Unmarshal) (id : String) (t : Tail) (line : List UInt8) (φ : Prop)
    (w : World) : Prop :=
  Holds unmarshal id t line w ∧ (φ → Terminated id t line w)

theorem carries_holdsIf {φ : Prop} : Carries id (HoldsIf unmarshal id t line φ) :=
  fun w w' hm h => ⟨carries_holds w w' hm h.1, fun hφ =>
    (carries_terminated w w' hm ⟨h.1, h.2 hφ⟩).2⟩

theorem progress_of_read {p : TranscriptProgress}
    (h : Store.getTranscriptProgress w.db id = .ok p) :
    progress id w = some (p.consumedOffset, p.finalSize) := by
  unfold Store.getTranscriptProgress at h
  split at h
  · cases h
  next run hrun =>
    cases h
    simp [progress, hrun]

theorem triple_lineComplete {status : ReadEnd} :
    Triple (journalRun unmarshal id) (Holds unmarshal id t line)
      (lineComplete line status (t.offset + line.length))
      fun complete => HoldsIf unmarshal id t line (complete = true) := by
  have hno : ∀ w, Holds unmarshal id t line w → HoldsIf unmarshal id t line (false = true) w :=
    fun w h => ⟨h, fun hfalse => by cases hfalse⟩
  unfold lineComplete
  split
  next hend => exact triple_pure carries_holdsIf.stable fun w h => ⟨h, fun _ => .inl hend⟩
  · split
    · refine triple_bind (M := fun a => HoldsIf unmarshal id t line
        (∃ p, a = .ok p ∧ t.offset + line.length = p.finalSize)) ?_ fun a => ?_
      · refine triple_call (S := journalRun unmarshal id)
          carries_holds.stable (fun _ => carries_holdsIf.stable) ?_
        intro w a w' hw hs
        have hw' := carries_holds w w'
          (moves_quiet (q := .about id .getTranscriptProgress) (fun _ => trivial) hs.2) hw
        refine ⟨hw'.tracks.journaled, hw', ?_⟩
        rintro ⟨p, rfl, hsize⟩
        obtain ⟨hread, rfl⟩ := hs.2
        refine .inr ⟨p.consumedOffset, ?_⟩
        rw [hsize]
        exact progress_of_read hread
      · cases a with
        | error e => exact triple_pure carries_holdsIf.stable fun w h => hno w h.1
        | ok p =>
          refine triple_pure carries_holdsIf.stable fun w h => ⟨h.1, fun hseal => h.2 ⟨p, rfl, ?_⟩⟩
          exact (of_decide_eq_true hseal).2
    · exact triple_pure carries_holdsIf.stable hno

theorem triple_account (hcmd : Accounts unmarshal line (t.offset + line.length) cmd) :
    Triple (journalRun unmarshal id)
      (fun w => Holds unmarshal id t line w ∧ Terminated id t line w) (write cmd)
      fun e => Tracks unmarshal id (some (if e = none then pastLine t line else t)) := by
  refine triple_call (S := journalRun unmarshal id)
    carries_terminated.stable (fun _ => carries_tracks.stable) ?_
  intro w a w' hw hs
  suffices h : Tracks unmarshal id (some (if a = none then pastLine t line else t)) w' from
    ⟨h.journaled, h⟩
  cases a with
  | some e =>
    obtain rfl : w' = w := hs.2
    exact hw.1.tracks
  | none =>
    obtain ⟨_, hok, rfl⟩ := hs.2
    exact tracks_accounted hw.1 hw.2 hcmd hok

theorem triple_corruption_journaled (hnone : lineEvent unmarshal line = none) :
    Triple (journalRun unmarshal id) (fun w => Holds unmarshal id t line w ∧ Terminated id t line w)
      (accountCorruption { t with pos := t.pos + line.length } (t.offset + line.length))
      fun r => Tracks unmarshal id (some (roundTail r)) := by
  have hinv : ∀ w, Holds unmarshal id t line w ∧ Terminated id t line w →
      Journaled unmarshal id w := fun w h => h.1.tracks.journaled
  have hback : Triple (journalRun unmarshal id)
      (fun w => Holds unmarshal id t line w ∧ Terminated id t line w)
      (retryLater { t with pos := t.pos + line.length })
      fun r => Tracks unmarshal id (some (roundTail r)) :=
    triple_pre triple_putBack (fun w h => h.1.tracks)
  refine triple_bind (carries_terminated.quiet hinv (asks_call trivial)) fun found => ?_
  cases found with
  | error e => exact hback
  | ok r =>
    dsimp only
    split
    · exact triple_pure carries_tracks.stable fun w h => tracks_skipped h.1 h.2 hnone
    · refine triple_bind (carries_terminated.quiet hinv ?_) fun persistErr => ?_
      · unfold requireCleanup
        split
        · exact asks_pure
        · split
          · exact asks_call rfl
          · exact asks_pure
      · split
        · exact hback
        · refine triple_bind (triple_account (.malformed hnone)) fun advanced => ?_
          cases advanced with
          | some e => exact triple_putBack
          | none => exact triple_pure carries_tracks.stable fun w h => h

theorem triple_accountLine {status : ReadEnd} : Triple (journalRun unmarshal id)
      (fun w => Holds unmarshal id t line w ∧ Terminated id t line w)
      (accountLine unmarshal { t with pos := t.pos + line.length } line status
        (t.offset + line.length))
      fun r => Tracks unmarshal id (some (roundTail r)) := by
  unfold accountLine
  split
  next hblank =>
    have hnone : lineEvent unmarshal line = none := by simp [lineEvent, hblank]
    refine triple_bind (triple_account (.skip hnone)) fun advanced => ?_
    cases advanced with
    | some e => exact triple_putBack
    | none => exact triple_pure carries_tracks.stable fun w h => h
  next hblank =>
    have hparse : lineEvent unmarshal line = parseEnvelope unmarshal (trimNewline line) := by
      simp [lineEvent, hblank]
    split
    next hnone => exact triple_corruption_journaled (hparse.trans hnone)
    next type payload hsome =>
      refine triple_bind (triple_account (.event (hparse.trans hsome))) fun appended => ?_
      cases appended with
      | some e => exact triple_putBack
      | none =>
        cases status <;> exact triple_pure carries_tracks.stable fun w h => h

theorem triple_journalRound (t : Tail) : Triple (journalRun unmarshal id)
    (Tracks unmarshal id (some t)) (tailRound unmarshal t)
    fun r => Tracks unmarshal id (some (roundTail r)) := by
  refine triple_bind (M := fun read w => Tracks unmarshal id (some t) w ∧
    (read.1 ≠ [] → Holds unmarshal id t read.1 w)) ?_ fun read => ?_
  · refine triple_call (S := journalRun unmarshal id) carries_tracks.stable (fun a => ?_) ?_
    · intro w w' hr h
      exact ⟨carries_tracks.stable w w' hr h.1, fun hne => carries_holds.stable w w' hr (h.2 hne)⟩
    · rintro w ⟨line, status⟩ _ hw hs
      obtain ⟨hread, rfl⟩ := hs.2
      refine ⟨hw.journaled, hw, fun hne => ?_⟩
      obtain ⟨hline, hhere⟩ := isLine_of_isRead hread hne
      exact ⟨hw, hline, hhere⟩
  · obtain ⟨_, _⟩ := read
    dsimp only [handleLine]
    split
    · split <;> exact triple_pure carries_tracks.stable fun w h => h.1
    next hne =>
      refine triple_bind (triple_pre triple_lineComplete (fun w h => h.2 hne)) fun complete => ?_
      cases complete with
      | true => exact triple_pre triple_accountLine (fun w h => ⟨h.1, h.2 rfl⟩)
      | false => exact triple_pre triple_putBack (fun w h => h.1.tracks)

theorem tracks_placed (hj : Journaled unmarshal id w) (h : ConsumedAt id off w) :
    Tracks unmarshal id (some (.at off)) w := by
  obtain ⟨final, hprog⟩ := h
  obtain ⟨hpos, hwithin, hjrn, hcut⟩ := hj.present _ _ hprog
  refine ⟨hj, ?_⟩
  rintro _ ⟨⟩
  exact ⟨rfl, hpos, hwithin, off, final, hprog, Int.le_refl _,
    hcut.imp_left fun hcut => ⟨hcut, hjrn⟩⟩

theorem consumedAt_of_getRun {r : Run} (h : w.db.getRun id = some r) :
    ConsumedAt id r.transcriptConsumedOffset w :=
  ⟨r.transcriptFinalSize, by simp [progress, h]⟩

/-- The walk's rules for the journal. -/
def journalRules (unmarshal : Unmarshal) (id : String) :
    TailRules (journalSetting unmarshal id) unmarshal id where
  J := Tracks unmarshal id
  At := ConsumedAt id
  Ended := Ended id
  inv_of_J h := h.journaled
  J_none h := ⟨h, fun _ ht => by cases ht⟩
  rely hr hj := ⟨fun _ h => carries_tracks.stable _ _ hr h,
    fun _ h => (carries_consumedAt.stable _ _ hr ⟨hj, h⟩).2, ended_rely hr⟩
  quiet hq hs hj :=
    have hm := moves_quiet hq hs.2
    ⟨fun _ h => carries_tracks _ _ hm h, fun _ h => (carries_consumedAt _ _ hm ⟨hj, h⟩).2,
      ended_sem hs.2⟩
  listed hs hj := by
    obtain ⟨rfl, hnodup, hrows⟩ := listed_rows hs.2 hj.keys
    refine ⟨hnodup, fun r hr hid => ?_⟩
    exact consumedAt_of_getRun (hid ▸ hrows r hr)
  progress hs := by
    obtain ⟨hread, rfl⟩ := hs.2
    exact ⟨_, progress_of_read hread⟩
  live hs hlive hended := by
    obtain ⟨run, hrun, hterm⟩ := hended
    obtain ⟨hrow, -⟩ := hs.2
    cases hrun.symm.trans hrow
    simp [hlive] at hterm
  commit hs := ended_of_commit hs.2
  place hs hj hat := by
    obtain ⟨⟨hseek, -⟩, _, rfl⟩ := hs
    refine tracks_placed hj ?_
    rcases hat with hat | rfl
    · exact hat
    · obtain ⟨_, hrun, hzero⟩ := Option.map_eq_some_iff.mp (hseek rfl)
      exact hzero ▸ consumedAt_of_getRun hrun
  round t := triple_journalRound t

variable {fuel : Nat}

/-- While the daemon is careful, the events of a run are in every state the well-formed
lines of the consumed part of its transcript, each once and in file order. -/
theorem journaled_exactly_once {r : Run} (h : Reachable unmarshal fuel Careful w)
    (hrun : w.db.getRun id = some r) :
    0 ≤ r.transcriptConsumedOffset ∧ r.transcriptConsumedOffset ≤ (w.transcript id).length ∧
      (w.db.eventsOf id).map entry =
        journal unmarshal ((w.transcript id).take r.transcriptConsumedOffset.toNat) := by
  obtain ⟨_, hreach⟩ := h
  have hinit : Journaled unmarshal id World.empty :=
    ⟨by simp [World.empty, DB.KeysDistinct], fun _ => rfl, fun _ _ h => by cases h⟩
  have hj : Journaled unmarshal id w := (journalRules unmarshal id).inv_of_engine hinit hreach
  obtain ⟨hpos, hwithin, hjournal, -⟩ :=
    hj.present r.transcriptConsumedOffset r.transcriptFinalSize (by simp [progress, hrun])
  exact ⟨hpos, hwithin, hjournal⟩

/-- An envelope with the type `log` and the payload `1`. -/
def demoLine : List UInt8 := "\x7b\"type\":\"log\",\"payload\":1\x7d".toUTF8.toList

/-- A parser for the lines of the demo runs. -/
def demoUnmarshal : Unmarshal := fun trimmed =>
  if trimmed = demoLine then some ("log", [49]) else none

def loggingEngine : Daemon Unit := engine demoUnmarshal 3

def loggingStart : World := demoStart (demoLine ++ [newline])

/-- The daemon has just journaled the line. -/
def journaledDemo : World × Daemon Unit := drive (demoOracle 27) 20 (loggingStart, loggingEngine)

theorem reach_journaledDemo : Reach (environment.restrict Careful) loggingEngine World.empty
    journaledDemo.1 journaledDemo.2 := by
  have hadmits : Admits Careful (demoOracle 27) 20 (loggingStart, loggingEngine) := by
    decide +kernel
  exact reach_drive hadmits (.env .start (rely_demoStart _))

theorem journaled_exactly_once_demo : ∃ r, journaledDemo.1.db.getRun "r" = some r ∧
    (journaledDemo.1.db.eventsOf "r").map entry = [("log", [49], 27)] ∧
    0 ≤ r.transcriptConsumedOffset ∧
    r.transcriptConsumedOffset ≤ (journaledDemo.1.transcript "r").length ∧
    (journaledDemo.1.db.eventsOf "r").map entry = journal demoUnmarshal
      ((journaledDemo.1.transcript "r").take r.transcriptConsumedOffset.toNat) := by
  have hsome : (journaledDemo.1.db.getRun "r").isSome = true := by decide +kernel
  obtain ⟨r, hrun⟩ := Option.isSome_iff_exists.mp hsome
  exact ⟨r, hrun, by decide +kernel, journaled_exactly_once ⟨_, reach_journaledDemo⟩ hrun⟩

def stuckOracle : Oracle
  | .seek _ => some (.other "seek /t: input/output error")
  | c => demoOracle 27 c

def tailLessDemo : World × Daemon Unit := drive stuckOracle 11 (journaledDemo.1, loggingEngine)

def duplicatedDemo : World × Daemon Unit := drive (demoOracle 27) 13 tailLessDemo

def lenientUnmarshal : Unmarshal := fun _ => some ("log", [49])

def lenientEngine : Daemon Unit := engine lenientUnmarshal 3

def forwardOracle : Oracle
  | .rewind _ => some (.other "seek /t: input/output error")
  | c => demoOracle 1 c

/-- The tick has read the incomplete line `a` and cannot put it back. -/
def strayedDemo : World × Daemon Unit := drive forwardOracle 21 (demoStart [97], lenientEngine)

def grownDemo : World :=
  { strayedDemo.1 with
    transcript := Function.update strayedDemo.1.transcript "r"
      (strayedDemo.1.transcript "r" ++ [98, newline, 99, newline]) }

/-- The next tick takes the offsets from the line's start. -/
def misplacedDemo : World × Daemon Unit := drive (demoOracle 5) 14 (grownDemo, strayedDemo.2)

/-- Neither condition can be spared: a tail that a tick re-creates at the start journals
the line a second time, and a line that was not put back shifts all that follow it. -/
theorem journaled_wrong :
    (∃ unmarshal fuel w r, Reachable unmarshal fuel Rewinds w ∧ w.db.getRun "r" = some r ∧
      (w.db.eventsOf "r").map entry ≠
        journal unmarshal ((w.transcript "r").take r.transcriptConsumedOffset.toNat)) ∧
    ∃ unmarshal fuel w r, Reachable unmarshal fuel SeeksUnread w ∧ w.db.getRun "r" = some r ∧
      (w.db.eventsOf "r").map entry ≠
        journal unmarshal ((w.transcript "r").take r.transcriptConsumedOffset.toNat) := by
  constructor
  · have hjournaled : Reach (environment.restrict Rewinds) loggingEngine World.empty
        journaledDemo.1 journaledDemo.2 :=
      reach_drive (by decide +kernel) (.env .start (rely_demoStart _))
    have htailLess : Reach (environment.restrict Rewinds) loggingEngine World.empty
        tailLessDemo.1 tailLessDemo.2 := reach_drive (by decide +kernel) hjournaled.restart
    have hduplicated : Reach (environment.restrict Rewinds) loggingEngine World.empty
        duplicatedDemo.1 duplicatedDemo.2 := reach_drive (by decide +kernel) htailLess
    have hconsumed : (duplicatedDemo.1.db.getRun "r").map Run.transcriptConsumedOffset =
        some 27 := by
      decide +kernel
    obtain ⟨r, hrun, hr⟩ := Option.map_eq_some_iff.mp hconsumed
    refine ⟨demoUnmarshal, 3, duplicatedDemo.1, r, ⟨_, hduplicated⟩, hrun, ?_⟩
    rw [hr]
    decide +kernel
  · have hstrayed : Reach (environment.restrict SeeksUnread) lenientEngine World.empty
        strayedDemo.1 strayedDemo.2 :=
      reach_drive (by decide +kernel) (.env .start (rely_demoStart [97]))
    have hgrown := hstrayed.env (.single (.grow "r" [98, newline, 99, newline]))
    have hmisplaced : Reach (environment.restrict SeeksUnread) lenientEngine World.empty
        misplacedDemo.1 misplacedDemo.2 := reach_drive (by decide +kernel) hgrown
    have hconsumed : (misplacedDemo.1.db.getRun "r").map Run.transcriptConsumedOffset = some 4 := by
      decide +kernel
    obtain ⟨r, hrun, hr⟩ := Option.map_eq_some_iff.mp hconsumed
    refine ⟨lenientUnmarshal, 3, misplacedDemo.1, r, ⟨_, hmisplaced⟩, hrun, ?_⟩
    rw [hr]
    decide +kernel

end Ananke.Lifecycle
