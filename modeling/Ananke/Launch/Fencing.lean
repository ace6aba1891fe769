import Ananke.Launch.Admission

/-! Fencing: the generation of a specification's head only grows, so a fence that was
replaced is never accepted again. -/
namespace Ananke.Launch

open Validation Relational Machine List

variable {β : Type} {p : Primitives β} {db db' : DB β} {now : Int}
  {outboxID launchSpecHash : String} {fence : LaunchFence} {active claim : TaskClaim}

@[simp] theorem insert_eq_ok {ρ : Type} {action : String} {fits : Prop} [Decidable fits]
    {row : ρ} {rows rows' : List ρ} :
    insert action fits row rows = .ok rows' ↔ fits ∧ rows ++ [row] = rows' := by
  rw [insert, guard_eq_ok, pure_eq_ok]

theorem stamp_eq_ok {text : String} {time : Int} : stamp p now = .ok (text, time) ↔
    p.timeOf (p.formatTime now) = some time ∧ p.formatTime now = text := by
  rw [stamp, bind_eq_ok]
  simp only [expect_eq_ok, pure_eq_ok, Prod.mk.injEq]
  constructor
  · rintro ⟨_, ht, htext, rfl⟩
    exact ⟨ht, htext⟩
  · rintro ⟨ht, htext⟩
    exact ⟨time, ht, htext, rfl⟩

theorem claim_eq_some (h : loadActiveLaunchClaim p db launchSpecHash = .ok (some active)) :
    active.launchSpecHash = launchSpecHash ∧
    ∃ head row, select HeadRow.launchSpecHash launchSpecHash db.heads = some head ∧
      row ∈ db.claims ∧ row.launchSpecHash = launchSpecHash ∧ row.fence = head.fence ∧
      active.fence = head.fence ∧ active.attempt = row.attempt ∧
      1 ≤ active.fence.fenceGeneration := by
  unfold loadActiveLaunchClaim at h
  split at h
  · cases h
  next head hhead =>
    split at h
    · cases h
    next row hrow =>
      have hspec := key_of_select hhead
      have hagree := List.find?_some hrow
      simp only [decide_eq_true_eq] at hagree
      rw [map_eq_ok] at h
      obtain ⟨_, hclaim, hsome⟩ := h
      cases hsome
      rw [readClaim, guard_eq_ok, bind_eq_ok] at hclaim
      obtain ⟨hpos, _, -, hclaim⟩ := hclaim
      cases hclaim
      have hown := Option.some.inj (hagree.1.trans hspec)
      exact ⟨hown, head, row, hhead, mem_of_find?_eq_some hrow, hown, hagree.2, hagree.2, rfl,
        hpos.1⟩

theorem fence_eq_ok : requireActiveLaunchFence p db launchSpecHash fence = .ok active ↔
      active.fence = fence ∧ ∃ spec, resolveLaunchSpecHash db launchSpecHash fence = .ok spec ∧
        loadActiveLaunchClaim p db spec = .ok (some active) := by
  rw [requireActiveLaunchFence, bind_eq_ok]
  simp only [ok_iff]
  constructor
  · rintro ⟨spec, hspec, _, hload, _, rfl, -, hfence, rfl⟩
    exact ⟨hfence, spec, hspec, hload⟩
  · rintro ⟨hfence, spec, hspec, hload⟩
    exact ⟨spec, hspec, some active, hload, active, rfl, (), hfence, rfl⟩

theorem insertOutbox_eq_ok {seq : Int} {state : LaunchOutboxState}
    (h : insertLaunchOutbox p db claim seq state outboxID now = .ok db') :
    db' = { db with outbox := db.outbox ++ [⟨outboxID, claim.launchSpecHash, claim.fence,
      seq, state, p.formatTime now⟩] } := by
  rw [insertLaunchOutbox, bind_eq_ok] at h
  simp only [insert_eq_ok, pure_eq_ok] at h
  obtain ⟨_, ⟨-, rfl⟩, rfl⟩ := h
  rfl

/-- A new claim: its identity is fresh and its generation is new for its specification. -/
structure NewClaim (db : DB β) (row : ClaimRow) : Prop where
  fresh : row.claimID ∉ db.claims.map ClaimRow.claimID
  generation : ∀ r ∈ db.claims, r.launchSpecHash = row.launchSpecHash →
    r.fence.fenceGeneration ≠ row.fence.fenceGeneration
  positive : 0 < row.fence.fenceGeneration
  attempt : 0 < row.attempt

theorem insertClaim_eq_ok {req : LaunchClaimRequest} {gen : Int}
    (h : insertLaunchClaim p db req gen now = .ok (claim, db')) :
    ∃ row : ClaimRow, NewClaim db row ∧ row.launchSpecHash = req.launchSpecHash ∧
      row.attempt = req.attempt ∧
      row.fence = ⟨req.claimID, req.claimTokenHash, gen⟩ ∧
      (row.createdAt = p.formatTime now ∧ (p.timeOf row.createdAt).isSome = true) ∧
      claim.launchSpecHash = row.launchSpecHash ∧ claim.fence = row.fence ∧
      claim.attempt = row.attempt ∧
      (gen = 1 ∧ some row.launchSpecHash ∉ db.heads.map HeadRow.launchSpecHash ∧
          db' = { db with claims := db.claims ++ [row],
                          heads := db.heads ++ [⟨row.launchSpecHash, row.fence⟩] } ∨
        gen ≠ 1 ∧ db' = { db with claims := db.claims ++ [row] }) := by
  simp only [insertLaunchClaim, ok_iff, insert_eq_ok] at h
  obtain ⟨⟨_, _⟩, hstamp, _, ⟨⟨hfresh, hgeneration, hpos, hatt⟩, rfl⟩, h⟩ := h
  obtain ⟨htime, rfl⟩ := stamp_eq_ok.mp hstamp
  refine ⟨_, ⟨hfresh, fun r hr hspec he => hgeneration r hr ⟨hspec, he⟩, hpos, hatt⟩,
    rfl, rfl, rfl, ⟨rfl, by rw [htime]; rfl⟩, ?_⟩
  split at h
  next hone =>
    simp only [ok_iff, insert_eq_ok] at h
    obtain ⟨_, ⟨hspec, rfl⟩, ⟨⟩⟩ := h
    exact ⟨rfl, rfl, rfl, .inl ⟨hone, hspec, rfl⟩⟩
  next hone =>
    cases h
    exact ⟨rfl, rfl, rfl, .inr ⟨hone, rfl⟩⟩

/-- What an operation can do to the claims and their heads. -/
inductive Moves (db db' : DB β) : Prop
  | stay (hclaims : db'.claims = db.claims) (hheads : db'.heads = db.heads)
  | acquire (row : ClaimRow) (hnew : NewClaim db row) (hfirst : row.fence.fenceGeneration = 1)
      (hhead : some row.launchSpecHash ∉ db.heads.map HeadRow.launchSpecHash)
      (hclaims : db'.claims = db.claims ++ [row])
      (hheads : db'.heads = db.heads ++ [⟨row.launchSpecHash, row.fence⟩])
  | reclaim (row : ClaimRow) (head : HeadRow) (hnew : NewClaim db row)
      (hhead : select HeadRow.launchSpecHash row.launchSpecHash db.heads = some head)
      (hgeneration : row.fence.fenceGeneration = addInt head.fence.fenceGeneration 1)
      (hclaims : db'.claims = db.claims ++ [row])
      (hheads : db'.heads = update HeadRow.launchSpecHash row.launchSpecHash
        (fun head => { head with fence := row.fence }) db.heads)

theorem addInt_lt (a b : Int) : addInt a b < 2 ^ 63 := by
  rw [addInt, Int.bmod_def]
  split <;> omega

/-- A positive successor is the successor: the sum has not wrapped around. -/
theorem addInt_succ {a : Int} (ha : 0 ≤ a) (hbound : a < 2 ^ 63) (h : 0 < addInt a 1) :
    addInt a 1 = a + 1 := by
  rw [addInt, Int.bmod_def] at h ⊢
  split at h <;> split <;> omega

variable {req : LaunchClaimReclaimRequest}

theorem reclaimClaim_eq_ok (h : reclaimLaunchClaim p db req outboxID now = .ok (claim, some db')) :
    ∃ active head, loadActiveLaunchClaim p db req.claim.launchSpecHash = .ok (some active) ∧
      active.fence = req.expectedFence ∧
      select HeadRow.launchSpecHash req.claim.launchSpecHash db.heads = some head ∧
      head.fence = req.expectedFence ∧
      ∃ row : ClaimRow, NewClaim db row ∧ row.launchSpecHash = req.claim.launchSpecHash ∧
        row.attempt = req.claim.attempt ∧ (p.timeOf row.createdAt).isSome = true ∧
        row.fence.fenceGeneration = addInt head.fence.fenceGeneration 1 ∧
        db' = { db with
          claims := db.claims ++ [row]
          heads := update HeadRow.launchSpecHash row.launchSpecHash
            (fun head => { head with fence := row.fence }) db.heads
          outbox := db.outbox ++ [⟨outboxID, row.launchSpecHash, row.fence, 1,
            .pendingMaterialization, row.createdAt⟩] } := by
  simp only [reclaimLaunchClaim, ok_iff, Prod.mk.injEq, Option.some.injEq] at h
  obtain ⟨-, -, -, ⟨hspec, -⟩, active, hact, ⟨_, _⟩, hclaim, _, hout, -, rfl⟩ := h
  obtain ⟨hfence, _, hresolves, hload⟩ := fence_eq_ok.mp hact
  rw [resolveLaunchSpecHash, if_neg hspec, Except.ok.injEq] at hresolves
  subst hresolves
  obtain ⟨-, head, -, hhead, -, -, -, hsame, -, -⟩ := claim_eq_some hload
  obtain ⟨row, hnew, hrow, hatt, hgeneration, ⟨htext, hread⟩, hclaimSpec, hclaimFence, -,
    hcase⟩ := insertClaim_eq_ok hclaim
  have hgen : row.fence.fenceGeneration = addInt head.fence.fenceGeneration 1 := by
    rw [hgeneration, hsame]
  refine ⟨active, head, hload, hfence, hhead, hsame.symm.trans hfence, row, hnew, hrow, hatt,
    hread, hgen, ?_⟩
  rcases hcase with ⟨-, hnone, -⟩ | ⟨-, rfl⟩
  · -- a first generation would bring its own head, and there is one already
    rw [← select_eq_none, hrow, hhead] at hnone
    cases hnone
  · rw [insertOutbox_eq_ok hout, hclaimSpec, hclaimFence, ← htext]

variable {σ ε α : Type} {commits : Bool} {fail : ε} {s : σ} {res : Except ε (α × Option σ)}

theorem settle_fst : (settle commits fail s res).1 = s ∨
      ∃ a, res = .ok (a, some (settle commits fail s res).1) := by
  match res with
  | .error e => exact .inl rfl
  | .ok (a, none) => exact .inl rfl
  | .ok (a, some s') =>
    cases commits with
    | false => exact .inl rfl
    | true => exact .inr ⟨a, rfl⟩

theorem settle_error {e : ε} (h : (settle commits fail s res).2 = .error e) :
    (settle commits fail s res).1 = s := by
  match res with
  | .error e => rfl
  | .ok (a, none) => rfl
  | .ok (a, some s') =>
    cases commits with
    | false => rfl
    | true => cases h

theorem of_settle_ok {a : α} (h : (settle commits fail s res).2 = .ok a) :
    res = .ok (a, none) ∧ (settle commits fail s res).1 = s ∨
      res = .ok (a, some (settle commits fail s res).1) := by
  match res with
  | .error e => cases h
  | .ok (b, none) =>
    cases h
    exact .inl ⟨rfl, rfl⟩
  | .ok (b, some s') =>
    cases commits with
    | false => cases h
    | true =>
      cases h
      exact .inr rfl

/-- The heads name the latest generation of every claimed specification. -/
structure Fenced (db : DB β) : Prop where
  claims : (db.claims.map ClaimRow.claimID).Nodup
  heads : (db.heads.map HeadRow.launchSpecHash).Nodup
  headed : ∀ row ∈ db.claims, some row.launchSpecHash ∈ db.heads.map HeadRow.launchSpecHash
  latest : ∀ head ∈ db.heads, ∀ row ∈ db.claims, row.launchSpecHash = head.launchSpecHash →
    row.fence.fenceGeneration ≤ head.fence.fenceGeneration
  range : ∀ head ∈ db.heads, 1 ≤ head.fence.fenceGeneration ∧ head.fence.fenceGeneration < 2 ^ 63

theorem fenced_empty : Fenced ({} : DB β) :=
  ⟨nodup_nil, nodup_nil, nofun, nofun, nofun⟩

variable {row : ClaimRow}

theorem Fenced.stay (h : Fenced db) (hclaims : db'.claims = db.claims)
    (hheads : db'.heads = db.heads) : Fenced db' := by
  constructor
  · exact hclaims ▸ h.claims
  · exact hheads ▸ h.heads
  · rw [hclaims, hheads]
    exact h.headed
  · rw [hclaims, hheads]
    exact h.latest
  · rw [hheads]
    exact h.range

theorem Fenced.acquire (h : Fenced db) (hnew : NewClaim db row)
    (hfirst : row.fence.fenceGeneration = 1)
    (hhead : some row.launchSpecHash ∉ db.heads.map HeadRow.launchSpecHash) :
    Fenced { db with
      claims := db.claims ++ [row]
      heads := db.heads ++ [⟨row.launchSpecHash, row.fence⟩] } where
  claims := nodup_snoc h.claims hnew.fresh
  heads := nodup_snoc h.heads hhead
  headed := by
    rw [map_append]
    exact forall_snoc.mpr ⟨fun r hr => mem_append_left _ (h.headed r hr), by simp⟩
  latest := by
    intro head hh r hr hspec
    rcases mem_snoc.mp hr with hr | rfl <;> rcases mem_snoc.mp hh with hh | rfl
    · exact h.latest head hh r hr hspec
    · -- no claim of the specification came before its head
      have hr' := h.headed r hr
      rw [hspec] at hr'
      exact absurd hr' hhead
    · exact absurd (hspec ▸ mem_map_of_mem hh) hhead
    · exact le_refl _
  range := by
    refine forall_snoc.mpr ⟨h.range, ?_⟩
    dsimp only
    omega

variable {head : HeadRow}

theorem mem_update_heads (h : head ∈ update HeadRow.launchSpecHash row.launchSpecHash
      (fun head => { head with fence := row.fence }) db.heads) :
    head.launchSpecHash ≠ row.launchSpecHash ∧ head ∈ db.heads ∨
      head = ⟨row.launchSpecHash, row.fence⟩ := by
  obtain ⟨_, hr, rfl⟩ := mem_map.mp h
  split
  next hspec => exact .inr (HeadRow.mk.injEq .. ▸ ⟨hspec, rfl⟩)
  next hspec => exact .inl ⟨hspec, hr⟩

section

variable (h : Fenced db) (hnew : NewClaim db row)
  (hhead : select HeadRow.launchSpecHash row.launchSpecHash db.heads = some head)
  (hgeneration : row.fence.fenceGeneration = addInt head.fence.fenceGeneration 1)
include h hnew hhead hgeneration

theorem Fenced.lt_of_reclaim : head.fence.fenceGeneration < row.fence.fenceGeneration := by
  obtain ⟨_, hhigh⟩ := h.range head (mem_of_find?_eq_some hhead)
  have hpos := hnew.positive
  rw [hgeneration] at hpos ⊢
  rw [addInt_succ (by omega) hhigh hpos]
  omega

theorem Fenced.reclaim : Fenced { db with
      claims := db.claims ++ [row]
      heads := update HeadRow.launchSpecHash row.launchSpecHash
        (fun head => { head with fence := row.fence }) db.heads } := by
  have hlt := h.lt_of_reclaim hnew hhead hgeneration
  have hmem := mem_of_find?_eq_some hhead
  have hspec := key_of_select hhead
  constructor
  · exact nodup_snoc h.claims hnew.fresh
  · rw [keys_update]
    · exact h.heads
    · exact fun _ => rfl
  · rw [keys_update]
    · exact forall_snoc.mpr ⟨h.headed, hspec ▸ mem_map_of_mem hmem⟩
    · exact fun _ => rfl
  · intro head' hh r hr hsame
    rw [mem_snoc] at hr
    rcases mem_update_heads hh with ⟨hne, hold⟩ | rfl
    · rcases hr with hr | rfl
      · exact h.latest head' hold r hr hsame
      · exact absurd hsame.symm hne
    · rcases hr with hr | rfl
      · exact (h.latest head hmem r hr (hsame.trans hspec.symm)).trans hlt.le
      · exact le_refl _
  · intro head' hh
    rcases mem_update_heads hh with ⟨-, hold⟩ | rfl
    · exact h.range head' hold
    · exact ⟨hnew.positive, by rw [hgeneration]; exact addInt_lt _ _⟩

end

theorem Fenced.moves (h : Fenced db) (hmoves : Moves db db') : Fenced db' := by
  cases hmoves with
  | stay hclaims hheads => exact h.stay hclaims hheads
  | acquire row hnew hfirst hhead hclaims hheads =>
    exact (h.acquire hnew hfirst hhead).stay hclaims hheads
  | reclaim row head hnew hhead hgen hclaims hheads =>
    exact (h.reclaim hnew hhead hgen).stay hclaims hheads

/-- The fence belongs to a claim whose specification has moved on to a later generation. -/
def Retired (db : DB β) (fence : LaunchFence) : Prop :=
  ∃ row ∈ db.claims, row.fence = fence ∧
    ∃ head ∈ db.heads, head.launchSpecHash = row.launchSpecHash ∧
      fence.fenceGeneration < head.fence.fenceGeneration

theorem Retired.moves (h : Retired db fence) (hfenced : Fenced db) (hmoves : Moves db db') :
    Retired db' fence := by
  obtain ⟨row, hrow, hfence, head, hhead, hspec, hlt⟩ := h
  cases hmoves with
  | stay hclaims hheads => exact ⟨row, hclaims ▸ hrow, hfence, head, hheads ▸ hhead, hspec, hlt⟩
  | acquire new hnew hfirst hnone hclaims hheads =>
    exact ⟨row, hclaims ▸ mem_append_left _ hrow, hfence, head,
      hheads ▸ mem_append_left _ hhead, hspec, hlt⟩
  | reclaim new old hnew hold hgen hclaims hheads =>
    refine ⟨row, hclaims ▸ mem_append_left _ hrow, hfence, ?_⟩
    have hmoved := mem_map_of_mem
      (f := fun head : HeadRow => if head.launchSpecHash = new.launchSpecHash then
        { head with fence := new.fence } else head) hhead
    rw [hheads]
    refine ⟨_, hmoved, ?_⟩
    split
    next hsame =>
      -- the head that moves on was the latest, and moves to a later generation
      have heq : head = old := eq_of_key_eq hfenced.heads hhead (mem_of_find?_eq_some hold)
        (hsame.trans (key_of_select hold).symm)
      have hmore := hfenced.lt_of_reclaim hnew hold hgen
      exact ⟨hspec, (heq ▸ hlt).trans hmore⟩
    · exact ⟨hspec, hlt⟩

theorem Retired.ne_active (h : Retired db fence) (hfenced : Fenced db)
    (hact : loadActiveLaunchClaim p db launchSpecHash = .ok (some active)) :
    active.fence ≠ fence := by
  obtain ⟨row, hrow, hfence, head, hhead, hspec, hlt⟩ := h
  obtain ⟨-, head', row', hhead', hrow', hspec', hfence', hsame, -, -⟩ :=
    claim_eq_some hact
  intro heq
  -- the claim's identity determines its row, and that its specification and head
  have hid : row = row' := eq_of_key_eq hfenced.claims hrow hrow' (by
    rw [ClaimRow.claimID, ClaimRow.claimID, hfence, hfence', ← hsame, heq])
  have hheadEq : head = head' := eq_of_key_eq hfenced.heads hhead (mem_of_find?_eq_some hhead')
    (by rw [hspec, hid, hspec', key_of_select hhead'])
  rw [hheadEq, ← hsame, heq] at hlt
  exact lt_irrefl _ hlt

/-- The fence an operation presents. -/
def Op.presents : Op → Option LaunchFence
  | .storeLaunchSpec _ _ _ | .acquireLaunchClaim _ _ _ => none
  | .reclaimLaunchClaim req _ _ => some req.expectedFence
  | .recordLaunchMaterializationReady req _ _ => some req.fence
  | .createLaunchRunIntent req _ _ => some req.fence
  | .appendLaunchTerminalIntent req _ => some req.fence
  | .settleLaunchEvidenceIntent req _ => some req.fence
  | .withLaunchFenceAdmission _ fence _ => some fence

/-- The specification it presents the fence for. -/
def Op.target (db : DB β) : Op → Except Err String
  | .reclaimLaunchClaim req _ _ => .ok req.claim.launchSpecHash
  | .withLaunchFenceAdmission launchSpecHash _ _ => .ok launchSpecHash
  | .recordLaunchMaterializationReady req _ _ => launchSpecHashForClaim db req.fence.claimID
  | .createLaunchRunIntent req _ _ => launchSpecHashForClaim db req.fence.claimID
  | .appendLaunchTerminalIntent req _ => launchSpecHashForClaim db req.fence.claimID
  | .settleLaunchEvidenceIntent req _ => launchSpecHashForClaim db req.fence.claimID
  | .storeLaunchSpec req _ _ => .ok req.launchSpecHash
  | .acquireLaunchClaim req _ _ => .ok req.launchSpecHash

/-- The fence is the one of the specification's active claim. -/
def Active (p : Primitives β) (db : DB β) (launchSpecHash : String) (fence : LaunchFence) : Prop :=
  ∃ active, loadActiveLaunchClaim p db launchSpecHash = .ok (some active) ∧ active.fence = fence

theorem Active.unique {fence' : LaunchFence} (h : Active p db launchSpecHash fence)
    (h' : Active p db launchSpecHash fence') : fence = fence' := by
  obtain ⟨_, hact, rfl⟩ := h
  obtain ⟨_, hact', rfl⟩ := h'
  rw [hact] at hact'
  cases hact'
  rfl

theorem active_of_require (h : requireActiveLaunchFence p db "" fence = .ok active) :
    ∃ spec, launchSpecHashForClaim db fence.claimID = .ok spec ∧ Active p db spec fence := by
  obtain ⟨hfence, spec, hresolve, hload⟩ := fence_eq_ok.mp h
  rw [resolveLaunchSpecHash, if_pos rfl] at hresolve
  exact ⟨spec, hresolve, active, hload, hfence⟩

theorem active_of_appendIntent {name : String} {state : Option String} {conflict : Err}
    {rows : List IntentRow} {req : LaunchIntentRequest} {r : LaunchIntent × Option (List IntentRow)}
    (h : appendIntent p db name state conflict rows req now = .ok r) :
    ∃ spec, launchSpecHashForClaim db req.fence.claimID = .ok spec ∧
      Active p db spec req.fence := by
  rw [appendIntent, seq_eq_ok, bind_eq_ok] at h
  obtain ⟨-, _, hact, -⟩ := h
  exact active_of_require hact

variable [DecidableEq β] {op : Op × Bool}

theorem retired_of_reclaim {a : Answer} (hfenced : Fenced db)
    (h : (exec p db (.reclaimLaunchClaim req outboxID now, commits)).2.answer = .ok a) :
    Retired (exec p db (.reclaimLaunchClaim req outboxID now, commits)).1
      req.expectedFence := by
  simp only [exec, map_eq_ok] at h ⊢
  obtain ⟨_, hclaim, -⟩ := h
  rcases of_settle_ok hclaim with ⟨hnone, -⟩ | hsome
  · simp [reclaimLaunchClaim, bind_eq_ok] at hnone
  · obtain ⟨_, head, hload, hact, hhead, hfence, row, hnew, hspec, -, -, hgen, hdb⟩ :=
      reclaimClaim_eq_ok hsome
    obtain ⟨-, _, old, -, hold, holdSpec, holdFence, hsame, -, -⟩ :=
      claim_eq_some hload
    have hlt := hfenced.lt_of_reclaim hnew (hspec ▸ hhead) hgen
    rw [hfence] at hlt
    rw [hdb]
    refine ⟨old, mem_append_left _ hold, ?_, ?_⟩
    · rw [holdFence, ← hsame, hact]
    · refine ⟨{ head with fence := row.fence }, ?_, ?_, hlt⟩
      · refine mem_map.mpr ⟨head, mem_of_find?_eq_some hhead, ?_⟩
        rw [if_pos (hspec ▸ key_of_select hhead)]
      · rw [key_of_select hhead, holdSpec]

variable {boundary : LaunchRecoveryBoundary}

theorem boundary_eq_ok : loadLaunchRecoveryBoundary p db launchSpecHash = .ok boundary ↔
      ∃ stored, boundary.launchSpecHash = launchSpecHash ∧
        loadActiveLaunchClaim p db launchSpecHash = .ok (some boundary.claim) ∧
        loadLaunchSpec p db launchSpecHash = .ok (some stored) ∧
        loadLatestLaunchOutbox p db launchSpecHash boundary.claim.fence.fenceGeneration =
          .ok boundary.outbox ∧
        checkFence "outbox" boundary.claim (some boundary.outbox.fence) = .ok () ∧
        loadLaunchMaterialization p db launchSpecHash boundary.claim.fence.fenceGeneration =
          .ok boundary.materialization ∧
        each (validatePersistedLaunchMaterialization stored) boundary.materialization.toList =
          .ok () ∧
        checkFence "materialization" boundary.claim
          (boundary.materialization.map LaunchMaterialization.fence) = .ok () ∧
        loadLaunchRunIntentByGeneration p db launchSpecHash
          boundary.claim.fence.fenceGeneration = .ok boundary.runIntent ∧
        loadRunFacts p db boundary.claim boundary.materialization boundary.runIntent =
          .ok (boundary.terminalIntent, boundary.evidenceIntent) ∧
        recoveryAction boundary.outbox.state boundary.materialization.isSome
          boundary.runIntent.isSome = .ok boundary.action := by
  simp only [loadLaunchRecoveryBoundary, ok_iff]
  constructor
  · rintro ⟨_, hfound, _, rfl, _, hfound', stored, rfl, _, hout, _, hfence,
      mat, hmat, _, hpers, _, hfence', run, hrun, ⟨term, evidence⟩,
      hfacts, action, hact, rfl⟩
    exact ⟨stored, rfl, hfound, hfound', hout, hfence, hmat, hpers, hfence', hrun, hfacts, hact⟩
  · rintro ⟨stored, rfl, hfound, hfound', hout, hfence, hmat, hpers, hfence', hrun, hfacts, hact⟩
    exact ⟨_, hfound, _, rfl, _, hfound', stored, rfl, _, hout, (), hfence, _,
      hmat, (), hpers, (), hfence', _, hrun, _, hfacts, _, hact, rfl⟩

theorem loadActive_of_boundary (h : loadLaunchRecoveryBoundary p db launchSpecHash = .ok boundary) :
    loadActiveLaunchClaim p db launchSpecHash = .ok (some boundary.claim) := by
  obtain ⟨-, -, hload, -⟩ := boundary_eq_ok.mp h
  exact hload

/-- The operation failed, left everything as it was and did not run its callback. -/
def Refused (p : Primitives β) (db : DB β) (op : Op × Bool) : Prop :=
  ∃ e, exec p db op = (db, ⟨.error e, none⟩)

theorem refused_or_ok {op : Op} {α : Type} {answer : α → Answer}
    {res : Except Err (α × Option (DB β))} (hexec : exec p db (op, commits) =
      (let (db', r) := settle commits (.sql "commit") db res; (db', ⟨r.map answer, none⟩))) :
    Refused p db (op, commits) ∨ ∃ r, res = .ok r := by
  cases res with
  | error e => exact .inl ⟨e, hexec⟩
  | ok r => exact .inr ⟨r, rfl⟩

/-- An operation that presents a fence is refused unless the fence is the active one. -/
theorem refused_or_active {op : Op} (h : op.presents = some fence) : Refused p db (op, commits) ∨
      ∃ spec, op.target db = .ok spec ∧ Active p db spec fence := by
  cases op with
  | storeLaunchSpec => cases h
  | acquireLaunchClaim => cases h
  | reclaimLaunchClaim =>
    cases h
    refine (refused_or_ok rfl).imp_right ?_
    rintro ⟨_, hr⟩
    simp only [reclaimLaunchClaim, ok_iff] at hr
    obtain ⟨-, -, -, ⟨hspec, -⟩, active, hact, -⟩ := hr
    obtain ⟨hfence, _, hresolve, hload⟩ := fence_eq_ok.mp hact
    rw [resolveLaunchSpecHash, if_neg hspec, Except.ok.injEq] at hresolve
    exact ⟨_, rfl, active, hresolve ▸ hload, hfence⟩
  | recordLaunchMaterializationReady =>
    cases h
    refine (refused_or_ok rfl).imp_right ?_
    rintro ⟨_, hr⟩
    rw [recordLaunchMaterializationReady, seq_eq_ok, bind_eq_ok] at hr
    obtain ⟨-, _, hact, -⟩ := hr
    exact active_of_require hact
  | createLaunchRunIntent =>
    cases h
    refine (refused_or_ok rfl).imp_right ?_
    rintro ⟨_, hr⟩
    rw [createLaunchRunIntent, seq_eq_ok, bind_eq_ok] at hr
    obtain ⟨-, _, hact, -⟩ := hr
    exact active_of_require hact
  | appendLaunchTerminalIntent | settleLaunchEvidenceIntent =>
    cases h
    refine (refused_or_ok rfl).imp_right ?_
    rintro ⟨_, hr⟩
    obtain ⟨_, hintent, -⟩ := bind_eq_ok.mp hr
    exact active_of_appendIntent hintent
  | withLaunchFenceAdmission launchSpecHash fence =>
    cases h
    cases hr : admitLaunchFence p db launchSpecHash fence with
    | error e => exact .inl ⟨e, by simp [exec, hr]⟩
    | ok boundary =>
      simp only [admitLaunchFence, ok_iff] at hr
      obtain ⟨b, hb, -, hfence, rfl⟩ := hr
      exact .inr ⟨_, rfl, b.claim, loadActive_of_boundary hb, hfence⟩

theorem Retired.refused {op : Op} (h : Retired db fence) (hfenced : Fenced db)
    (hop : op.presents = some fence) : Refused p db (op, commits) := by
  have hcases : Refused p db (op, commits) ∨ _ := refused_or_active hop
  rcases hcases with hrefused | ⟨spec, -, active, hload, hfence⟩
  · exact hrefused
  · exact absurd hfence (h.ne_active hfenced hload)

theorem exec_error {e : Err} (h : (exec p db op).2.answer = .error e) : (exec p db op).1 = db := by
  obtain ⟨op, _⟩ := op
  cases op with
  | withLaunchFenceAdmission =>
    simp only [exec]
    split <;> rfl
  | _ => exact settle_error (map_eq_error.mp h)

end Ananke.Launch
