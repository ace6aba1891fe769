import Ananke.Launch.Stages

/-! Recovery: whatever was written, the boundary of a claimed specification can be read. -/
namespace Ananke.Launch

open Text Validation Relational Machine List

variable {β : Type} {p : Primitives β} {db : DB β} {claim : ClaimRow}

theorem Primitives.Readable.exists {text : String} (h : p.Readable text) :
    ∃ time, p.timeOf text = some time := Option.isSome_iff_exists.mp h

theorem find_eq_head_rowsOf {ρ : Type} (key : ρ → String × Int) (k : String × Int)
    (rows : List ρ) : (rows.find? fun r => (key r).1 = k.1 ∧ (key r).2 = k.2) =
      (rowsOf key k rows).head? := by
  rw [rowsOf, List.head?_filter]
  refine congrArg (fun q => List.find? q rows) (funext fun r => decide_eq_decide.mpr ?_)
  exact (@Prod.ext_iff _ _ (key r) k).symm

theorem loadLatestOutbox_ok {o : OutboxRow} {seq : Int} {state : LaunchOutboxState}
    (hlatest : OutboxRow.latest (db.generation claim.generation).outbox = some o)
    (ho : OutboxOf p claim seq state o) (hstage : validLaunchOutboxStage seq state) :
    ∃ outbox, loadLatestLaunchOutbox p db claim.launchSpecHash claim.fence.fenceGeneration =
      .ok outbox ∧ outbox.fence = claim.fence ∧ outbox.state = state := by
  have hrows : (db.outbox.filter fun row => row.launchSpecHash = claim.launchSpecHash ∧
      row.fence.fenceGeneration = claim.fence.fenceGeneration) =
      (db.generation claim.generation).outbox := by
    refine filter_congr fun row _ => decide_eq_decide.mpr ?_
    exact (@Prod.ext_iff _ _ row.generation claim.generation).symm
  obtain ⟨time, htime⟩ := ho.readable.exists
  obtain ⟨outboxID, hid⟩ := Option.ne_none_iff_exists'.mp ho.named
  simp only [loadLatestLaunchOutbox, hrows, ok_iff, scan]
  refine ⟨_, ⟨o, hlatest, outboxID, hid, (), ?_, time, htime, rfl⟩, ho.fence, ho.state⟩
  rw [ho.sequence, ho.state]
  exact hstage

variable {stored : StoredLaunchSpec}

theorem sealed_of_load [DecidableEq β] {launchSpecHash : String}
    (h : loadLaunchSpec p db launchSpecHash = .ok (some stored)) :
    launchHashPattern stored.spec.sealedContract.materializationHash = true ∧
      launchNoncePattern stored.spec.sealedContract.nonce = true := by
  unfold loadLaunchSpec at h
  split at h
  · cases h
  · simp only [map_eq_ok, readLaunchSpec, ok_iff, Option.some.injEq] at h
    obtain ⟨-, ⟨_, -, -, -, -, ⟨hhash, -⟩, -, -, -, -, -, -, rfl⟩, rfl⟩ := h
    simp only [hashLaunchSpec, bind_eq_ok] at hhash
    obtain ⟨_, hvalid, -⟩ := hhash
    simp only [validateLaunchSpec, ok_iff] at hvalid
    obtain ⟨-, -, -, -, -, -, -, -, -, -, -, -, -, -, -, -, -, -, -, -, -, hseal, -⟩ := hvalid
    exact hseal

theorem find_materialization : (db.materializations.find? fun row =>
    row.launchSpecHash = claim.launchSpecHash ∧
      row.fence.fenceGeneration = claim.fence.fenceGeneration) =
    (db.generation claim.generation).materializations.head? :=
  find_eq_head_rowsOf MaterializationRow.generation claim.generation db.materializations

theorem loadMaterialization_ok_none
    (hrows : (db.generation claim.generation).materializations = []) :
    loadLaunchMaterialization p db claim.launchSpecHash claim.fence.fenceGeneration = .ok none := by
  rw [loadLaunchMaterialization, find_materialization, hrows]
  rfl

theorem materialized_ok [DecidableEq β] {m : MaterializationRow}
    (hstored : loadLaunchSpec p db claim.launchSpecHash = .ok (some stored))
    (hrows : (db.generation claim.generation).materializations = [m])
    (hm : MaterializationOf p claim stored.spec.sealedContract m) :
    ∃ mat, loadLaunchMaterialization p db claim.launchSpecHash
        claim.fence.fenceGeneration = .ok (some mat) ∧
      mat.fence = claim.fence ∧ m.materializationID = mat.materializationID ∧
      validatePersistedLaunchMaterialization stored mat = .ok () := by
  obtain ⟨time, htime⟩ := hm.readable.exists
  have hpatterns := sealed_of_load hstored
  rw [← hm.contract.1, ← hm.contract.2] at hpatterns
  obtain ⟨id, hid⟩ := Option.ne_none_iff_exists'.mp hm.named
  have hread : readMaterialization p m = .ok ⟨m.fence, m.launchSpecHash, id,
      m.materializationHash, m.nonce, time⟩ := by
    simp only [readMaterialization, ok_iff, scan]
    exact ⟨id, hid, (), ⟨hm.state, hpatterns⟩, time, htime, rfl⟩
  rw [loadLaunchMaterialization, find_materialization, hrows]
  simp only [List.head?_cons, hread]
  exact ⟨_, rfl, hm.fence, hid, require_of hm.contract⟩

theorem find_runIntent : (db.runIntents.find? fun row => row.launchSpecHash = claim.launchSpecHash ∧
      row.fence.fenceGeneration = claim.fence.fenceGeneration) =
    (db.generation claim.generation).runIntents.head? :=
  find_eq_head_rowsOf RunIntentRow.generation claim.generation db.runIntents

theorem generation_ok_none (hrows : (db.generation claim.generation).runIntents = []) :
    loadLaunchRunIntentByGeneration p db claim.launchSpecHash claim.fence.fenceGeneration =
      .ok none := by
  rw [loadLaunchRunIntentByGeneration, find_runIntent, hrows]
  rfl

variable {r : RunIntentRow} {runID : String}

theorem byGeneration_ok (hrows : (db.generation claim.generation).runIntents = [r]) :
    r ∈ db.runIntents ∧ ∀ runID, r.runID = some runID → loadLaunchRunIntentByGeneration p db
      claim.launchSpecHash claim.fence.fenceGeneration = loadLaunchRunIntent p db runID := by
  have hfind : _ = (db.generation claim.generation).runIntents.head? := find_runIntent
  rw [hrows] at hfind
  refine ⟨mem_of_find?_eq_some hfind, fun _ hid => ?_⟩
  rw [loadLaunchRunIntentByGeneration, hfind]
  simp only [head?_cons, hid]
  rfl

theorem loadRunIntent_ok (h : Created p db) (hr : r ∈ db.runIntents)
    (hatt : 1 ≤ r.attempt) (hreadable : p.Readable r.createdAt) :
    ∃ runID run, r.runID = some runID ∧ loadLaunchRunIntent p db runID = .ok (some run) ∧
      run.fence = r.fence ∧ run.runID = runID ∧ run.materializationID = r.materializationID := by
  obtain ⟨runID, fact, hid, hfacts, hkind, hfirst, htoken, hwritten⟩ := h.fact r hr
  have hsel := select_of_mem h.runIDs hr
  rw [hid] at hsel
  have hmem : fact ∈ db.runFacts ∧ fact.runID = runID := by
    have hmem : fact ∈ rowsOf StateFactRow.runID runID db.runFacts := by
      rw [hfacts]
      exact mem_singleton_self _
    simpa [rowsOf] using hmem
  have hsome : (db.runFacts.find? fun fact =>
      fact.runID = runID ∧ fact.sequence = 1).isSome = true := by
    rw [List.find?_isSome]
    exact ⟨fact, hmem.1, decide_eq_true ⟨hmem.2, hfirst⟩⟩
  obtain ⟨found, hfound⟩ := Option.isSome_iff_exists.mp hsome
  -- the run has one fact only
  have hsame : found = fact := by
    have hagree := List.find?_some hfound
    simp only [decide_eq_true_eq] at hagree
    have hmem' : found ∈ rowsOf StateFactRow.runID runID db.runFacts :=
      mem_filter.mpr ⟨mem_of_find?_eq_some hfound, decide_eq_true hagree.1⟩
    rw [hfacts] at hmem'
    exact mem_singleton.mp hmem'
  subst hsame
  obtain ⟨time, htime⟩ := hreadable.exists
  obtain ⟨time', htime'⟩ := hwritten.exists
  have hread : readRunIntent p runID r found = .ok ⟨r.fence, r.launchSpecHash,
      r.materializationID, runID, r.attempt, ⟨found.sequence, found.tokenHash, time'⟩, time⟩ := by
    simp only [readRunIntent, ok_iff]
    exact ⟨(), ⟨hkind, hfirst, htoken, hatt⟩, time, htime, time', htime', rfl⟩
  refine ⟨runID, ⟨r.fence, r.launchSpecHash, r.materializationID, runID, r.attempt,
    ⟨found.sequence, found.tokenHash, time'⟩, time⟩, hid, ?_, rfl, rfl, rfl⟩
  simp only [loadLaunchRunIntent, hsel, hfound, hread]
  rfl

theorem loadIntent_ok (name : String) {state : Option String} {rows : List IntentRow}
    {active : TaskClaim} (hcreated : Created p db) (h : Noted p db state rows)
    (hr : r ∈ db.runIntents) (hrunID : r.runID = some runID) (hfence : r.fence = active.fence) :
    ∃ intent, loadIntent p name state rows runID = .ok intent ∧
      checkFence (name ++ " intent") active (intent.map LaunchIntent.fence) = .ok () := by
  cases hsel : select IntentRow.runID runID rows with
  | none => exact ⟨none, by simp only [loadIntent, hsel], require_of (.inl rfl)⟩
  | some row =>
    have hrow := mem_of_find?_eq_some hsel
    obtain ⟨time, htime⟩ := (h.readable row hrow).exists
    obtain ⟨run, hrun, hid, hsame⟩ := h.run row hrow
    have hrun' : run = r :=
      eq_of_key_eq hcreated.runIDs hrun hr (by rw [hid, key_of_select hsel, hrunID])
    obtain ⟨intentID, hintent⟩ := Option.ne_none_iff_exists'.mp (h.named row hrow)
    refine ⟨some ⟨row.fence, row.runID, intentID, time⟩, ?_, require_of (.inr ?_)⟩
    · simp only [loadIntent, hsel, ok_iff, scan]
      exact ⟨intentID, hintent, (), h.state row hrow, time, htime, rfl⟩
    · simp [← hsame, hrun', hfence]

theorem loadRunFacts_ok {run : LaunchRunIntent} {active : TaskClaim}
    {mat : LaunchMaterialization} (hcreated : Created p db)
    (hterm : Noted p db none db.terminalIntents)
    (hevid : Noted p db (some "settled") db.evidenceIntents)
    (hr : r ∈ db.runIntents) (hid : r.runID = some run.runID) (hfence : run.fence = r.fence)
    (hact : r.fence = active.fence)
    (hnames : mat.materializationID = run.materializationID) :
    ∃ facts, loadRunFacts p db active (some mat) (some run) = .ok facts := by
  obtain ⟨term, hload, hcheck⟩ :=
    loadIntent_ok "terminal" hcreated hterm hr hid hact
  obtain ⟨evidence, hload', hcheck'⟩ :=
    loadIntent_ok "evidence" hcreated hevid hr hid hact
  simp only [loadRunFacts, ok_iff, loadLaunchTerminalIntent, loadLaunchEvidenceIntent]
  exact ⟨_, (), require_of (.inr (by rw [hfence, hact])), (), by rw [Option.map_some, hnames],
    term, hload, (), hcheck, evidence, hload', (), hcheck', rfl⟩

/-- The stages of one claim are numbered, and the facts of its generation are those of the
stages it has reached. -/
structure InStages (db : DB β) (claim : ClaimRow) : Prop where
  numbered : Numbered ((db.generation claim.generation).outbox.map OutboxRow.sequence)
  stages : ∀ row ∈ (db.generation claim.generation).outbox,
    validLaunchOutboxStage row.sequence row.state
  range : 1 ≤ (db.generation claim.generation).outbox.length ∧
    (db.generation claim.generation).outbox.length ≤ 3
  materialized : 2 ≤ (db.generation claim.generation).outbox.length ↔
    ∃ row ∈ db.materializations, row.generation = claim.generation
  intended : (db.generation claim.generation).outbox.length = 3 ↔
    ∃ row ∈ db.runIntents, row.generation = claim.generation
  names : ∀ row ∈ db.runIntents, row.generation = claim.generation →
    ∃ materialization ∈ db.materializations, materialization.generation = claim.generation ∧
      row.materializationID = materialization.materializationID

theorem Staged.fences {contract : LaunchSealedContract} {g : Generation}
    (h : Staged p claim contract g) : (∀ row ∈ g.outbox, row.fence = claim.fence) ∧
      (∀ row ∈ g.materializations, row.fence = claim.fence) ∧
      ∀ row ∈ g.runIntents, row.fence = claim.fence := by
  cases h with
  | claimed o₁ h₁ => simp [h₁.fence]
  | materialized o₁ o₂ m h₁ h₂ hm => simp [h₁.fence, h₂.fence, hm.fence]
  | intended o₁ o₂ o₃ m r h₁ h₂ h₃ hm hr =>
    simp [h₁.fence, h₂.fence, h₃.fence, hm.fence, hr.fence]

theorem claim_of_owned {ρ : Type} {key : ρ → String × Int} {rows : List ρ}
    {fence : ρ → LaunchFence} {spec : ρ → String}
    (hkey : ∀ r, key r = (spec r, (fence r).fenceGeneration))
    (howned : ∀ r ∈ rows, key r ∈ db.claims.map ClaimRow.generation)
    (hfences : ∀ claim ∈ db.claims, ∀ r ∈ rowsOf key claim.generation rows, fence r = claim.fence)
    {r : ρ} (hr : r ∈ rows) :
    ∃ claim ∈ db.claims, claim.launchSpecHash = spec r ∧ claim.fence = fence r := by
  obtain ⟨claim, hclaim, he⟩ := mem_map.mp (howned r hr)
  refine ⟨claim, hclaim, ?_, ?_⟩
  · rw [hkey] at he
    exact congrArg Prod.fst he
  · exact (hfences claim hclaim r (mem_filter.mpr ⟨hr, decide_eq_true he.symm⟩)).symm

variable [DecidableEq β]

theorem WellFormed.active (h : WellFormed p db) (hclaim : claim ∈ db.claims) :
    ∃ last ∈ db.claims, last.launchSpecHash = claim.launchSpecHash ∧ ∃ active,
      loadActiveLaunchClaim p db claim.launchSpecHash = .ok (some active) ∧
        active.fence = last.fence := by
  obtain ⟨head, hhead, hspec⟩ := mem_map.mp (h.lineage.fenced.headed claim hclaim)
  obtain ⟨spec, _, last, hid, hrows, hfence, -⟩ := h.lineage.line head hhead
  have hlast : last ∈ db.claims ∧ last.launchSpecHash = spec := by
    have hmem : last ∈ rowsOf ClaimRow.launchSpecHash spec db.claims := by
      rw [hrows]
      simp
    simpa [rowsOf] using hmem
  have hsel := select_of_mem h.lineage.fenced.heads hhead
  rw [hspec] at hsel
  have hfind : (db.claims.find? fun claim => some claim.launchSpecHash = head.launchSpecHash ∧
      claim.fence = head.fence).isSome = true := by
    rw [List.find?_isSome]
    exact ⟨last, hlast.1, decide_eq_true ⟨by rw [hid, hlast.2], hfence⟩⟩
  obtain ⟨found, hfound⟩ := Option.isSome_iff_exists.mp hfind
  have hagree := List.find?_some hfound
  simp only [decide_eq_true_eq] at hagree
  have hmem := mem_of_find?_eq_some hfound
  obtain ⟨hreadable, hatt, hpos⟩ := h.claims found hmem
  obtain ⟨time, htime⟩ := hreadable.exists
  have hread : readClaim p found =
      .ok ⟨found.fence, found.launchSpecHash, found.ownerID, found.attempt, time⟩ := by
    simp only [readClaim, ok_iff]
    exact ⟨(), ⟨hpos, hatt⟩, time, htime, rfl⟩
  refine ⟨found, hmem, Option.some.inj (hagree.1.trans hspec),
    ⟨found.fence, found.launchSpecHash, found.ownerID, found.attempt, time⟩, ?_, rfl⟩
  simp only [loadActiveLaunchClaim, hsel, hfound, hread]
  rfl

/-- The boundary of a claimed specification, at whichever stage its last claim stands. -/
theorem WellFormed.boundary (h : WellFormed p db) (hclaim : claim ∈ db.claims) :
    ∃ boundary, loadLaunchRecoveryBoundary p db claim.launchSpecHash = .ok boundary := by
  obtain ⟨last, hlast, hspec, active, hact, hfence⟩ := h.active hclaim
  rw [← hspec] at hact ⊢
  obtain ⟨stored, hstored, hstaged⟩ := h.staged last hlast
  generalize hg : db.generation last.generation = g at hstaged
  have hout := congrArg Generation.outbox hg
  have hmats := congrArg Generation.materializations hg
  have hruns := congrArg Generation.runIntents hg
  have hmatch {fence : LaunchFence} (name : String) (he : fence = last.fence) :
      checkFence name active (some fence) = .ok () := require_of (.inr (by rw [he, hfence]))
  cases hstaged with
  | claimed o₁ h₁ =>
    obtain ⟨outbox, hload, hsame, hstate⟩ := loadLatestOutbox_ok (by rw [hout]; rfl) h₁
      (.inl ⟨rfl, rfl⟩)
    refine ⟨⟨last.launchSpecHash, active, outbox, none, none, none, none, .retryMaterialization⟩,
      boundary_eq_ok.mpr ⟨stored, rfl, hact, hstored, hfence ▸ hload,
        hmatch _ hsame, hfence ▸ loadMaterialization_ok_none hmats, rfl,
        require_of (.inl rfl), hfence ▸ generation_ok_none hruns, rfl, ?_⟩⟩
    rw [hstate]
    rfl
  | materialized o₁ o₂ m h₁ h₂ hm =>
    have hlatest : OutboxRow.latest [o₁, o₂] = some o₂ := by
      simp [OutboxRow.latest, h₁.sequence, h₂.sequence]
    obtain ⟨outbox, hload, hsame, hstate⟩ := loadLatestOutbox_ok (by rw [hout]; exact hlatest) h₂
      (.inr (.inl ⟨rfl, rfl⟩))
    obtain ⟨mat, hload', hsame', -, hvalid⟩ :=
      materialized_ok hstored hmats hm
    refine ⟨⟨last.launchSpecHash, active, outbox, some mat, none, none, none,
      .retryRunAdmission⟩, boundary_eq_ok.mpr ⟨stored, rfl, hact, hstored,
        hfence ▸ hload, hmatch _ hsame, hfence ▸ hload', ?_, hmatch _ hsame',
        hfence ▸ generation_ok_none hruns, rfl, ?_⟩⟩
    · simpa [each_eq_ok] using hvalid
    · rw [hstate]
      rfl
  | intended o₁ o₂ o₃ m r h₁ h₂ h₃ hm hr =>
    have hlatest : OutboxRow.latest [o₁, o₂, o₃] = some o₃ := by
      simp [OutboxRow.latest, h₁.sequence, h₂.sequence, h₃.sequence]
    obtain ⟨outbox, hload, hsame, hstate⟩ := loadLatestOutbox_ok (by rw [hout]; exact hlatest) h₃
      (.inr (.inr ⟨rfl, rfl⟩))
    obtain ⟨mat, hload', hsame', hid, hvalid⟩ :=
      materialized_ok hstored hmats hm
    obtain ⟨hmem, hrun⟩ := byGeneration_ok hruns
    obtain ⟨runID, run, hrow, hload'', hsame'', hrunID, hnames⟩ := loadRunIntent_ok h.created hmem
      (hr.attempt ▸ (h.claims last hlast).2.1) hr.readable
    obtain ⟨⟨term, evidence⟩, hfacts⟩ := loadRunFacts_ok h.created h.terminal h.evidence hmem
      (hrunID ▸ hrow) hsame'' (hr.fence.trans hfence.symm)
      (Option.some.inj (by rw [← hid, ← hr.names, hnames]))
    refine ⟨⟨last.launchSpecHash, active, outbox, some mat, some run, term,
      evidence, .retryProcessAdmission⟩, boundary_eq_ok.mpr ⟨stored, rfl,
        hact, hstored, hfence ▸ hload, hmatch _ hsame, hfence ▸ hload', ?_, hmatch _ hsame',
        hfence ▸ (hrun runID hrow).trans hload'', hfacts, ?_⟩⟩
    · simpa [each_eq_ok] using hvalid
    · rw [hstate]
      rfl

/-- What the launch tables are: every specification has its generations in order, every fact
carries the fence of its generation, and recovery can read what it needs. -/
structure Recoverable (p : Primitives β) (db : DB β) : Prop where
  generations : ∀ claim ∈ db.claims, ∃ earlier last,
    rowsOf ClaimRow.launchSpecHash claim.launchSpecHash db.claims = earlier ++ [last] ∧
      Numbered ((earlier ++ [last]).map fun claim => claim.fence.fenceGeneration) ∧
      select HeadRow.launchSpecHash claim.launchSpecHash db.heads =
        some ⟨claim.launchSpecHash, last.fence⟩
  outbox : ∀ row ∈ db.outbox, ∃ claim ∈ db.claims,
    claim.launchSpecHash = row.launchSpecHash ∧ claim.fence = row.fence
  materializations : ∀ row ∈ db.materializations, ∃ claim ∈ db.claims,
    claim.launchSpecHash = row.launchSpecHash ∧ claim.fence = row.fence
  runIntents : ∀ row ∈ db.runIntents, ∃ claim ∈ db.claims,
    claim.launchSpecHash = row.launchSpecHash ∧ claim.fence = row.fence
  terminalIntents : ∀ row ∈ db.terminalIntents, ∃ run ∈ db.runIntents,
    run.runID = row.runID ∧ run.fence = row.fence
  evidenceIntents : ∀ row ∈ db.evidenceIntents, ∃ run ∈ db.runIntents,
    run.runID = row.runID ∧ run.fence = row.fence
  stages : ∀ claim ∈ db.claims, InStages db claim
  recovery : ∀ claim ∈ db.claims,
    ∃ boundary, loadLaunchRecoveryBoundary p db claim.launchSpecHash = .ok boundary

theorem WellFormed.generations (h : WellFormed p db) (hclaim : claim ∈ db.claims) : ∃ earlier last,
      rowsOf ClaimRow.launchSpecHash claim.launchSpecHash db.claims = earlier ++ [last] ∧
        Numbered ((earlier ++ [last]).map fun claim => claim.fence.fenceGeneration) ∧
        select HeadRow.launchSpecHash claim.launchSpecHash db.heads =
          some ⟨claim.launchSpecHash, last.fence⟩ := by
  obtain ⟨head, hhead, hspec⟩ := mem_map.mp (h.lineage.fenced.headed claim hclaim)
  obtain ⟨spec, earlier, last, hid, hrows, hfence, hnum⟩ := h.lineage.line head hhead
  obtain rfl := Option.some.inj (hid.symm.trans hspec)
  refine ⟨earlier, last, hrows, hnum, ?_⟩
  rw [← hspec, select_of_mem h.lineage.fenced.heads hhead, hfence]

theorem WellFormed.stages (h : WellFormed p db) (hclaim : claim ∈ db.claims) :
    InStages db claim := by
  obtain ⟨stored, -, hstaged⟩ := h.staged claim hclaim
  have hmats (row : MaterializationRow) : row ∈ (db.generation claim.generation).materializations ↔
        row ∈ db.materializations ∧ row.generation = claim.generation := by
    simp [DB.generation, rowsOf]
  have hruns (row : RunIntentRow) : row ∈ (db.generation claim.generation).runIntents ↔
      row ∈ db.runIntents ∧ row.generation = claim.generation := by
    simp [DB.generation, rowsOf]
  suffices hall : ∀ g, Staged p claim stored.spec.sealedContract g →
      Numbered (g.outbox.map OutboxRow.sequence) ∧
        (∀ row ∈ g.outbox, validLaunchOutboxStage row.sequence row.state) ∧
        (1 ≤ g.outbox.length ∧ g.outbox.length ≤ 3) ∧
        (2 ≤ g.outbox.length ↔ ∃ row, row ∈ g.materializations) ∧
        (g.outbox.length = 3 ↔ ∃ row, row ∈ g.runIntents) ∧
        ∀ row ∈ g.runIntents, ∃ mat ∈ g.materializations,
          row.materializationID = mat.materializationID by
    obtain ⟨hnum, hvalid, hrange, hmat, hintended, hnames⟩ := hall _ hstaged
    simp only [hmats, hruns] at hmat hintended hnames
    refine ⟨hnum, hvalid, hrange, hmat, hintended, ?_⟩
    intro row hrow hgen
    obtain ⟨mat, ⟨hmem, hsame⟩, hid⟩ := hnames row ⟨hrow, hgen⟩
    exact ⟨mat, hmem, hsame, hid⟩
  intro g hg
  cases hg with
  | claimed o₁ h₁ =>
    simp [Numbered, validLaunchOutboxStage, h₁.sequence, h₁.state]
  | materialized o₁ o₂ m h₁ h₂ =>
    simp [Numbered, validLaunchOutboxStage, h₁.sequence, h₁.state, h₂.sequence, h₂.state,
      range_succ]
  | intended o₁ o₂ o₃ m r h₁ h₂ h₃ hm hr =>
    simp [Numbered, validLaunchOutboxStage, h₁.sequence, h₁.state, h₂.sequence, h₂.state,
      h₃.sequence, h₃.state, hr.names, range_succ]

theorem reachable_recoverable (p : Primitives β) (ops : List (Op × Bool)) :
    Recoverable p (run (exec p) {} ops) := by
  have h : WellFormed p (run (exec p) {} ops) := wellFormed_run
  have hfences : ∀ claim ∈ (run (exec p) {} ops).claims, _ := fun claim hclaim =>
    let ⟨_, _, hstaged⟩ := h.staged claim hclaim
    hstaged.fences
  exact {
    generations := fun _ => h.generations
    outbox := fun _ =>
      claim_of_owned (fun _ => rfl) h.owned.outbox fun claim hc => (hfences claim hc).1
    materializations := fun _ =>
      claim_of_owned (fun _ => rfl) h.owned.materializations fun claim hc => (hfences claim hc).2.1
    runIntents := fun _ =>
      claim_of_owned (fun _ => rfl) h.owned.runIntents fun claim hc => (hfences claim hc).2.2
    terminalIntents := h.terminal.run
    evidenceIntents := h.evidence.run
    stages := fun _ => h.stages
    recovery := fun _ => h.boundary }

end Ananke.Launch
