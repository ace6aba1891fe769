import Ananke.Launch.Writes
import Ananke.Relational.Statement

/-! The stages of a claim. The generations of a specification follow one another without a
gap, and the rows of each generation are those of the stage it has reached. -/
namespace Ananke.Launch

open Validation Relational Machine List

variable {β : Type}

/-- The claims of every specification are numbered, and its head is the last of them. -/
structure Lineage (db : DB β) : Prop where
  fenced : Fenced db
  line : ∀ head ∈ db.heads, ∃ spec earlier last, head.launchSpecHash = some spec ∧
    rowsOf ClaimRow.launchSpecHash spec db.claims = earlier ++ [last] ∧ last.fence = head.fence ∧
      Numbered ((earlier ++ [last]).map fun claim => claim.fence.fenceGeneration)

/-- The rows of one generation, table by table. -/
structure Generation where
  outbox : List OutboxRow
  materializations : List MaterializationRow
  runIntents : List RunIntentRow

def DB.generation (db : DB β) (k : String × Int) : Generation where
  outbox := rowsOf OutboxRow.generation k db.outbox
  materializations := rowsOf MaterializationRow.generation k db.materializations
  runIntents := rowsOf RunIntentRow.generation k db.runIntents

/-- An outbox row of the claim. -/
structure OutboxOf (p : Primitives β) (claim : ClaimRow) (sequence : Int)
    (state : LaunchOutboxState) (row : OutboxRow) : Prop where
  fence : row.fence = claim.fence
  sequence : row.sequence = sequence
  state : row.state = state
  named : row.outboxID ≠ none
  readable : p.Readable row.createdAt

/-- A materialization of the claim, by the contract that is sealed in its specification. -/
structure MaterializationOf (p : Primitives β) (claim : ClaimRow) (contract : LaunchSealedContract)
    (row : MaterializationRow) : Prop where
  fence : row.fence = claim.fence
  contract : row.materializationHash = contract.materializationHash ∧ row.nonce = contract.nonce
  state : row.state = launchMaterializationStateReady
  named : row.materializationID ≠ none
  readable : p.Readable row.createdAt

/-- A run intent of the claim, for the materialization. -/
structure RunIntentOf (p : Primitives β) (claim : ClaimRow) (materialization : MaterializationRow)
    (row : RunIntentRow) : Prop where
  fence : row.fence = claim.fence
  names : row.materializationID = materialization.materializationID
  attempt : row.attempt = claim.attempt
  readable : p.Readable row.createdAt

/-- The three stages that a claim can have reached. -/
inductive Staged (p : Primitives β) (claim : ClaimRow) (contract : LaunchSealedContract) :
    Generation → Prop
  | claimed (o₁ : OutboxRow) (h₁ : OutboxOf p claim 1 .pendingMaterialization o₁) :
      Staged p claim contract ⟨[o₁], [], []⟩
  | materialized (o₁ o₂ : OutboxRow) (m : MaterializationRow)
      (h₁ : OutboxOf p claim 1 .pendingMaterialization o₁)
      (h₂ : OutboxOf p claim 2 .pendingRunAdmission o₂)
      (hm : MaterializationOf p claim contract m) : Staged p claim contract ⟨[o₁, o₂], [m], []⟩
  | intended (o₁ o₂ o₃ : OutboxRow) (m : MaterializationRow) (r : RunIntentRow)
      (h₁ : OutboxOf p claim 1 .pendingMaterialization o₁)
      (h₂ : OutboxOf p claim 2 .pendingRunAdmission o₂)
      (h₃ : OutboxOf p claim 3 .pendingProcessAdmission o₃)
      (hm : MaterializationOf p claim contract m) (hr : RunIntentOf p claim m r) :
      Staged p claim contract ⟨[o₁, o₂, o₃], [m], [r]⟩

/-- Every row belongs to a claim. -/
structure Owned (db : DB β) : Prop where
  outbox : ∀ row ∈ db.outbox, row.generation ∈ db.claims.map ClaimRow.generation
  materializations : ∀ row ∈ db.materializations, row.generation ∈ db.claims.map ClaimRow.generation
  runIntents : ∀ row ∈ db.runIntents, row.generation ∈ db.claims.map ClaimRow.generation

/-- Every run that is intended has its one created fact. -/
structure Created (p : Primitives β) (db : DB β) : Prop where
  runIDs : (db.runIntents.map RunIntentRow.runID).Nodup
  fact : ∀ run ∈ db.runIntents, ∃ runID fact, run.runID = some runID ∧
    rowsOf StateFactRow.runID runID db.runFacts = [fact] ∧ fact.kind = launchStateFactCreated ∧
    fact.sequence = 1 ∧ fact.tokenHash = run.fence.claimTokenHash ∧ p.Readable fact.writtenAt
  run : ∀ fact ∈ db.runFacts, some fact.runID ∈ db.runIntents.map RunIntentRow.runID

/-- The rows of a table of intents are about runs that are intended, one for each. -/
structure Noted (p : Primitives β) (db : DB β) (state : Option String) (rows : List IntentRow) :
    Prop where
  named : ∀ row ∈ rows, row.intentID ≠ none
  state : ∀ row ∈ rows, row.state = state
  runIDs : (rows.map IntentRow.runID).Nodup
  run : ∀ row ∈ rows, ∃ run ∈ db.runIntents, run.runID = row.runID ∧ run.fence = row.fence
  readable : ∀ row ∈ rows, p.Readable row.createdAt

variable [DecidableEq β]

structure WellFormed (p : Primitives β) (db : DB β) : Prop where
  lineage : Lineage db
  claims : ∀ claim ∈ db.claims,
    p.Readable claim.createdAt ∧ 0 < claim.attempt ∧ 0 < claim.fence.fenceGeneration
  staged : ∀ claim ∈ db.claims, ∃ stored,
    loadLaunchSpec p db claim.launchSpecHash = .ok (some stored) ∧
      Staged p claim stored.spec.sealedContract (db.generation claim.generation)
  owned : Owned db
  created : Created p db
  terminal : Noted p db none db.terminalIntents
  evidence : Noted p db (some "settled") db.evidenceIntents

variable {p : Primitives β} {db db' : DB β} {op : Op} {claim claim' row : ClaimRow}

theorem wellFormed_empty : WellFormed p ({} : DB β) where
  lineage := ⟨fenced_empty, by simp⟩
  claims := by simp
  staged := by simp
  owned := ⟨by simp, by simp, by simp⟩
  created := ⟨nodup_nil, by simp, by simp⟩
  terminal := ⟨nofun, nofun, nodup_nil, nofun, nofun⟩
  evidence := ⟨nofun, nofun, nodup_nil, nofun, nofun⟩

section

omit [DecidableEq β]

theorem Lineage.unique (h : Lineage db) (hclaim : claim ∈ db.claims) (hclaim' : claim' ∈ db.claims)
    (he : claim.generation = claim'.generation) : claim = claim' := by
  have hspec : claim.launchSpecHash = claim'.launchSpecHash := congrArg Prod.fst he
  obtain ⟨head, hhead, hsame⟩ := mem_map.mp (h.fenced.headed claim hclaim)
  obtain ⟨spec, earlier, last, hid, hrows, -, hnum⟩ := h.line head hhead
  rw [hid, Option.some.injEq] at hsame
  have hmem : claim ∈ earlier ++ [last] := by
    rw [← hrows]
    simpa [rowsOf, hsame] using hclaim
  have hmem' : claim' ∈ earlier ++ [last] := by
    rw [← hrows]
    simpa [rowsOf, hsame, hspec] using hclaim'
  exact eq_of_key_eq hnum.nodup hmem hmem' (congrArg Prod.snd he)

theorem NewClaim.generation_ne (h : NewClaim db row) (hclaim : claim ∈ db.claims) :
    claim.generation ≠ row.generation := by
  intro he
  exact h.generation claim hclaim (congrArg Prod.fst he) (congrArg Prod.snd he)

theorem NewClaim.not_mem (h : NewClaim db row) :
    row.generation ∉ db.claims.map ClaimRow.generation :=
  not_mem_keys fun _ => h.generation_ne

theorem Lineage.moves (h : Lineage db) (hmoves : Moves db db') : Lineage db' := by
  refine ⟨h.fenced.moves hmoves, ?_⟩
  cases hmoves with
  | stay hclaims hheads =>
    rw [hclaims, hheads]
    exact h.line
  | acquire row hnew hfirst hhead hclaims hheads =>
    rw [hheads, hclaims]
    refine forall_snoc.mpr ⟨fun head hh => ?_, ?_⟩
    · obtain ⟨spec, earlier, last, hid, hrows, hline⟩ := h.line head hh
      have hne : row.launchSpecHash ≠ spec := fun he =>
        hhead (he ▸ hid ▸ mem_map_of_mem hh)
      exact ⟨spec, earlier, last, hid, (rowsOf_snoc_ne hne).trans hrows, hline⟩
    · -- no claim of the specification came before its head
      have hnone : rowsOf ClaimRow.launchSpecHash row.launchSpecHash db.claims = [] :=
        rowsOf_eq_nil fun claim hclaim he => hhead (he ▸ h.fenced.headed claim hclaim)
      refine ⟨_, [], row, rfl, by rw [rowsOf_snoc rfl, hnone], rfl, ?_⟩
      simp only [nil_append, map_singleton, hfirst]
      rfl
  | reclaim row head hnew hhead hgen hclaims hheads =>
    intro head' hh
    rw [hheads] at hh
    rw [hclaims]
    rcases mem_update_heads hh with ⟨hne, hold⟩ | rfl
    · obtain ⟨spec, earlier, last, hid, hrows, hline⟩ := h.line head' hold
      have hne : row.launchSpecHash ≠ spec := fun he => hne (he ▸ hid)
      exact ⟨spec, earlier, last, hid, (rowsOf_snoc_ne hne).trans hrows, hline⟩
    · have hmem := mem_of_find?_eq_some hhead
      obtain ⟨spec, earlier, last, hid, hrows, hfence, hnum⟩ := h.line head hmem
      obtain ⟨_, hhigh⟩ := h.fenced.range head hmem
      have hpos := hnew.positive
      obtain rfl := Option.some.inj (hid.symm.trans (key_of_select hhead))
      refine ⟨_, earlier ++ [last], row, rfl, by rw [rowsOf_snoc rfl, hrows], rfl, ?_⟩
      rw [hgen] at hpos
      rw [map_append, map_singleton, numbered_snoc, hgen, addInt_succ (by omega) hhigh hpos]
      refine ⟨hnum, ?_⟩
      rw [map_append, map_singleton, numbered_snoc, hfence] at hnum
      rw [hnum.2, length_map, length_map, length_append]
      push_cast
      simp

variable {k : String × Int}

theorem Owned.generation_eq (h : Owned db)
    (hk : k ∉ db.claims.map ClaimRow.generation) : db.generation k = ⟨[], [], []⟩ := by
  have hnone : ∀ {ρ : Type} (key : ρ → String × Int) (rows : List ρ),
      (∀ r ∈ rows, key r ∈ db.claims.map ClaimRow.generation) → rowsOf key k rows = [] :=
    fun key rows hrows => rowsOf_eq_nil fun r hr he => hk (he ▸ hrows r hr)
  rw [DB.generation, hnone _ _ h.outbox, hnone _ _ h.materializations, hnone _ _ h.runIntents]

theorem Created.stay (h : Created p db) (hruns : db'.runIntents = db.runIntents)
    (hfacts : db'.runFacts = db.runFacts) : Created p db' := by
  obtain ⟨hrunIDs, hfact, hrun⟩ := h
  exact ⟨hruns ▸ hrunIDs, hruns ▸ hfacts ▸ hfact, hruns ▸ hfacts ▸ hrun⟩

theorem Created.intend {run : RunIntentRow} {runID writtenAt : String} (h : Created p db)
    (hid : run.runID = some runID)
    (hfresh : run.runID ∉ db.runIntents.map RunIntentRow.runID) (hread : p.Readable writtenAt)
    (hruns : db'.runIntents = db.runIntents ++ [run]) (hfacts : db'.runFacts =
      db.runFacts ++ [⟨runID, 1, launchStateFactCreated, run.fence.claimTokenHash, writtenAt⟩]) :
    Created p db' where
  runIDs := hruns ▸ nodup_snoc h.runIDs hfresh
  fact := by
    rw [hruns, hfacts]
    refine forall_snoc.mpr ⟨fun run' hrun' => ?_, ?_⟩
    · obtain ⟨runID', fact, hid', hrows, hfact⟩ := h.fact run' hrun'
      have hne : runID ≠ runID' := fun he =>
        hfresh (mem_map.mpr ⟨run', hrun', by rw [hid, hid', he]⟩)
      refine ⟨runID', fact, hid', ?_, hfact⟩
      rw [rowsOf_snoc_ne, hrows]
      exact hne
    · have hnone : rowsOf StateFactRow.runID runID db.runFacts = [] :=
        rowsOf_eq_nil fun fact' hfact' he => hfresh (hid ▸ he ▸ h.run fact' hfact')
      have hown (fact : StateFactRow) (he : fact.runID = runID) :
          rowsOf StateFactRow.runID runID (db.runFacts ++ [fact]) = [fact] := by
        rw [rowsOf_snoc he, hnone, nil_append]
      exact ⟨_, _, hid, hown _ rfl, rfl, rfl, rfl, hread⟩
  run := by
    rw [hfacts, hruns, map_append]
    exact forall_snoc.mpr ⟨fun fact' hfact' => mem_append_left _ (h.run fact' hfact'),
      by simp [hid]⟩

variable {state : Option String} {rows : List IntentRow}

theorem Noted.mono (h : Noted p db state rows)
    (hruns : ∀ run ∈ db.runIntents, run ∈ db'.runIntents) : Noted p db' state rows where
  named := h.named
  state := h.state
  runIDs := h.runIDs
  run := by
    intro row hrow
    obtain ⟨run, hrun, hid, hfence⟩ := h.run row hrow
    exact ⟨run, hruns run hrun, hid, hfence⟩
  readable := h.readable

theorem Noted.append {row : IntentRow} (h : Noted p db state rows)
    (hnew : NewIntent p db state rows row) : Noted p db state (rows ++ [row]) where
  named := forall_snoc.mpr ⟨h.named, hnew.named⟩
  state := forall_snoc.mpr ⟨h.state, hnew.state⟩
  runIDs := nodup_snoc h.runIDs hnew.fresh
  run := forall_snoc.mpr ⟨h.run, hnew.run⟩
  readable := forall_snoc.mpr ⟨h.readable, hnew.readable⟩

variable {contract : LaunchSealedContract} {g : Generation}

theorem Staged.of_materializations_nil
    (h : Staged p claim contract g) (hnone : g.materializations = []) :
    ∃ o₁, g = ⟨[o₁], [], []⟩ ∧ OutboxOf p claim 1 .pendingMaterialization o₁ := by
  cases h with
  | claimed o₁ h₁ => exact ⟨o₁, rfl, h₁⟩
  | materialized => cases hnone
  | intended => cases hnone

theorem Staged.of_runIntents_nil
    {m : MaterializationRow} (h : Staged p claim contract g) (hm : m ∈ g.materializations)
    (hnone : g.runIntents = []) :
    ∃ o₁ o₂, g = ⟨[o₁, o₂], [m], []⟩ ∧ OutboxOf p claim 1 .pendingMaterialization o₁ ∧
      OutboxOf p claim 2 .pendingRunAdmission o₂ ∧ MaterializationOf p claim contract m := by
  cases h with
  | claimed => cases hm
  | materialized o₁ o₂ m' h₁ h₂ hm' =>
    rw [mem_singleton] at hm
    subst hm
    exact ⟨o₁, o₂, rfl, h₁, h₂, hm'⟩
  | intended => cases hnone

end

variable {stored : StoredLaunchSpec} {ms ms' : List MaterializationRow}
  {rs rs' : List RunIntentRow} {os : List OutboxRow}

theorem loadSpec_append {launchSpecHash : String}
    {spec : SpecRow β} (h : loadLaunchSpec p db launchSpecHash = .ok (some stored)) :
    loadLaunchSpec p { db with specs := db.specs ++ [spec] } launchSpecHash =
      .ok (some stored) := by
  unfold loadLaunchSpec at h ⊢
  split at h
  · cases h
  next row hrow =>
    simp only [select_snoc_some hrow]
    exact h

theorem WellFormed.addClaim {outboxID : String} (h : WellFormed p db)
    (hnew : NewClaim db row) (hread : p.Readable row.createdAt)
    (hstored : loadLaunchSpec p db row.launchSpecHash = .ok (some stored))
    (hlin : Lineage db') {heads : List HeadRow} (hdb : db' =
      { db with
        claims := db.claims ++ [row]
        heads := heads
        outbox := db.outbox ++ [row.stage outboxID 1 .pendingMaterialization row.createdAt] }) :
    WellFormed p db' := by
  subst hdb
  refine ⟨hlin, ?_, ?_, ?_, h.created.stay rfl rfl, h.terminal.mono fun _ => id,
    h.evidence.mono fun _ => id⟩
  · exact forall_snoc.mpr ⟨h.claims, hread, hnew.attempt, hnew.positive⟩
  · refine forall_snoc.mpr ⟨fun claim hclaim => ?_, stored, hstored, ?_⟩
    · obtain ⟨stored, hstored, hstaged⟩ := h.staged claim hclaim
      refine ⟨stored, hstored, ?_⟩
      rw [DB.generation, rowsOf_snoc_ne]
      · exact hstaged
      · exact (hnew.generation_ne hclaim).symm
    · obtain ⟨hout, hmats, hruns⟩ :=
        Generation.mk.inj (h.owned.generation_eq hnew.not_mem)
      rw [DB.generation, rowsOf_snoc, hout, hmats, hruns]
      · exact .claimed _ ⟨rfl, rfl, rfl, Option.some_ne_none _, hread⟩
      · rfl
  · have hmem : ∀ k ∈ db.claims.map ClaimRow.generation,
        k ∈ (db.claims ++ [row]).map ClaimRow.generation := by
      intro k hk
      rw [map_append]
      exact mem_append_left _ hk
    refine ⟨forall_snoc.mpr ⟨fun o ho => hmem _ (h.owned.outbox o ho), ?_⟩,
      fun m hm => hmem _ (h.owned.materializations m hm),
      fun r hr => hmem _ (h.owned.runIntents r hr)⟩
    rw [map_append, map_singleton]
    exact mem_append_right _ (mem_singleton_self _)

/-- The next stage of a claim: the rows of its generation, and of no other, go on. -/
theorem WellFormed.advance {facts : List StateFactRow} (h : WellFormed p db)
    (hclaim : claim ∈ db.claims) (hdb : db' =
      { db with
        outbox := db.outbox ++ os
        materializations := ms'
        runIntents := rs'
        runFacts := facts })
    (hmats : ms' = db.materializations ++ ms) (hruns : rs' = db.runIntents ++ rs)
    (hos : ∀ o ∈ os, o.generation = claim.generation)
    (hms : ∀ m ∈ ms, m.generation = claim.generation)
    (hrs : ∀ r ∈ rs, r.generation = claim.generation)
    (hstaged : ∀ stored, loadLaunchSpec p db claim.launchSpecHash = .ok (some stored) →
      Staged p claim stored.spec.sealedContract (db.generation claim.generation) →
      Staged p claim stored.spec.sealedContract ⟨(db.generation claim.generation).outbox ++ os,
          (db.generation claim.generation).materializations ++ ms,
          (db.generation claim.generation).runIntents ++ rs⟩)
    (hcreated : Created p db') : WellFormed p db' := by
  subst hdb hmats hruns
  have hmore : ∀ run ∈ db.runIntents, run ∈ db.runIntents ++ rs := fun _ =>
    mem_append_left _
  have hself : ∀ {ρ : Type} (key : ρ → String × Int) (rows : List ρ),
      (∀ r ∈ rows, key r = claim.generation) → rowsOf key claim.generation rows = rows := by
    intro ρ key rows hrows
    rw [rowsOf, filter_eq_self]
    simpa using hrows
  have hother : ∀ {ρ : Type} (key : ρ → String × Int) (rows : List ρ) (k : String × Int),
      k ≠ claim.generation → (∀ r ∈ rows, key r = claim.generation) → rowsOf key k rows = [] :=
    fun key rows k hk hrows => rowsOf_eq_nil fun r hr he => hk (he.symm.trans (hrows r hr))
  refine ⟨h.lineage.moves (.stay rfl rfl), h.claims, ?_, ?_, hcreated, h.terminal.mono hmore,
    h.evidence.mono hmore⟩
  · intro claim' hclaim'
    obtain ⟨stored, hstored, hstage⟩ := h.staged claim' hclaim'
    refine ⟨stored, hstored, ?_⟩
    rw [DB.generation, rowsOf_append, rowsOf_append, rowsOf_append]
    by_cases he : claim'.generation = claim.generation
    · obtain rfl := h.lineage.unique hclaim' hclaim he
      rw [hself _ _ hos, hself _ _ hms, hself _ _ hrs]
      exact hstaged stored hstored hstage
    · rw [hother _ _ _ he hos, hother _ _ _ he hms, hother _ _ _ he hrs, append_nil,
        append_nil, append_nil]
      exact hstage
  · have hmem : ∀ {ρ : Type} (key : ρ → String × Int) (rows new : List ρ),
        (∀ r ∈ rows, key r ∈ db.claims.map ClaimRow.generation) →
        (∀ r ∈ new, key r = claim.generation) →
        ∀ r ∈ rows ++ new, key r ∈ db.claims.map ClaimRow.generation := by
      intro ρ key rows new hrows hnew
      exact forall_mem_append.mpr ⟨hrows, fun r hr => hnew r hr ▸ mem_map_of_mem hclaim⟩
    exact ⟨hmem _ _ _ h.owned.outbox hos, hmem _ _ _ h.owned.materializations hms,
      hmem _ _ _ h.owned.runIntents hrs⟩

theorem WellFormed.writes (h : WellFormed p db) (hwrit : Writes p db op db') :
    WellFormed p db' := by
  have hlin := h.lineage.moves hwrit.moves
  cases hwrit with
  | store =>
    refine ⟨hlin, h.claims, ?_, ⟨h.owned.1, h.owned.2, h.owned.3⟩,
      h.created.stay rfl rfl, h.terminal.mono fun _ => id, h.evidence.mono fun _ => id⟩
    intro claim hclaim
    obtain ⟨stored, hload, hstaged⟩ := h.staged claim hclaim
    exact ⟨stored, loadSpec_append hload, hstaged⟩
  | acquire row stored hstored hnew hfirst hhead hreq hread =>
    exact h.addClaim hnew hread hstored hlin rfl
  | reclaim row head hnew hhead hgen hreq hread =>
    -- the specification was loaded when it was first claimed
    obtain ⟨spec, _, last, hid, hrows, -⟩ := h.lineage.line head (mem_of_find?_eq_some hhead)
    obtain rfl := Option.some.inj (hid.symm.trans (key_of_select hhead))
    have hlast : last ∈ rowsOf ClaimRow.launchSpecHash row.launchSpecHash db.claims := by
      rw [hrows]
      simp
    simp only [rowsOf, mem_filter, decide_eq_true_eq] at hlast
    obtain ⟨stored, hstored, -⟩ := h.staged last hlast.1
    rw [hlast.2] at hstored
    exact h.addClaim hnew hread hstored hlin rfl
  | @materialize request outboxID now claim stored hclaim hstored hcont hnone hread =>
    have hempty := rowsOf_eq_nil hnone
    refine h.advance hclaim rfl rfl (append_nil _).symm ?_ ?_ (by simp) ?_ (h.created.stay rfl rfl)
    · simp [OutboxRow.generation, ClaimRow.stage, ClaimRow.generation]
    · simp [MaterializationRow.generation, ClaimRow.generation]
    · intro stored' hstored' hstaged
      rw [hstored] at hstored'
      cases hstored'
      obtain ⟨o₁, hg, h₁⟩ := hstaged.of_materializations_nil hempty
      rw [hg]
      exact .materialized _ _ _ h₁ ⟨rfl, rfl, rfl, Option.some_ne_none _, hread⟩
        ⟨rfl, hcont, rfl, Option.some_ne_none _, hread⟩
  | @intend request outboxID now claim materialization hclaim hatt hmat hgen
      hnames hfresh hnone hread =>
    have hempty := rowsOf_eq_nil hnone
    have hmem : materialization ∈ (db.generation claim.generation).materializations := by
      simpa [DB.generation, rowsOf, hgen] using hmat
    refine h.advance hclaim rfl (append_nil _).symm rfl ?_ (by simp) ?_ ?_
      (h.created.intend rfl hfresh hread rfl rfl)
    · simp [OutboxRow.generation, ClaimRow.stage, ClaimRow.generation]
    · simp [RunIntentRow.generation, ClaimRow.generation]
    · intro stored hstored hstaged
      obtain ⟨_, _, hg, h₁, h₂, hm⟩ := hstaged.of_runIntents_nil hmem hempty
      rw [hg]
      exact .intended _ _ _ _ _ h₁ h₂ ⟨rfl, rfl, rfl, Option.some_ne_none _, hread⟩ hm
        ⟨rfl, hnames.symm, rfl, hread⟩
  | terminal row hnew =>
    have hterm := h.terminal.append hnew
    exact ⟨hlin, h.claims, h.staged, ⟨h.owned.1, h.owned.2, h.owned.3⟩,
      h.created.stay rfl rfl, hterm.mono fun _ => id, h.evidence.mono fun _ => id⟩
  | evidence row hnew =>
    have hevid := h.evidence.append hnew
    exact ⟨hlin, h.claims, h.staged, ⟨h.owned.1, h.owned.2, h.owned.3⟩,
      h.created.stay rfl rfl, h.terminal.mono fun _ => id, hevid.mono fun _ => id⟩

theorem wellFormed_exec {op : Op × Bool} (h : WellFormed p db) : WellFormed p (exec p db op).1 := by
  rcases exec_writes p db op with hsame | hwrit
  · rw [hsame]
    exact h
  · exact h.writes hwrit

theorem wellFormed_run {ops : List (Op × Bool)} : WellFormed p (run (exec p) {} ops) :=
  invariant_run (fun _ _ => wellFormed_exec) wellFormed_empty

end Ananke.Launch
