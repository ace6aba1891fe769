import Ananke.ExternalSupervisor.Persistence
import Ananke.Launch.Writes

/-! What each operation of a handoff read and wrote, given that it went well. -/
namespace Ananke.ExternalSupervisor

open Launch Validation Relational

variable {β : Type} {p : Primitives β} {s s' : Store β} {handoffID : String} {now : Int}
  {env : Envelope} {handoff : Handoff} {fence : LaunchFence}
  {rcpt : AuthReceipt} {cb : AuthCallback}
  {cancellation : AuthCancellation}

@[simp] theorem insertRow_eq_ok {ρ : Type} {action : String} {fits : Prop} [Decidable fits]
    {row : ρ} {rows rows' : List ρ} :
    insertRow action fits row rows = .ok rows' ↔ fits ∧ rows ++ [row] = rows' := by
  rw [insertRow, guard_eq_ok, pure_eq_ok]

/-- The replay evidence after a record was remembered: the same, or one more row under keys
that are new. -/
def Remembers (rows : List ReplayRow) (row : ReplayRow) (rows' : List ReplayRow) : Prop :=
  rows' = rows ∨ row.record ∉ rows.map ReplayRow.record ∧ row.nonce ∉ rows.map ReplayRow.nonce ∧
    rows' = rows ++ [row]

theorem remember_eq_ok {row : ReplayRow} (h : rememberExternalSupervisorReplay s row = .ok s') :
    ∃ rows, Remembers s.replay row rows ∧ s' = { s with replay := rows } := by
  unfold rememberExternalSupervisorReplay at h
  split at h
  · rw [seq_eq_ok, pure_eq_ok] at h
    exact ⟨s.replay, .inl rfl, h.2.symm⟩
  next hnone =>
    rw [guard_eq_ok, pure_eq_ok] at h
    exact ⟨_, .inr ⟨select_eq_none.mp hnone, h.1, rfl⟩, h.2.symm⟩

/-- Two records were remembered one after the other. -/
def RemembersBoth (rows rows' : List ReplayRow) : Prop :=
  ∃ row row' middle, Remembers rows row middle ∧ Remembers middle row' rows'

theorem persistReceipt_eq_ok (h : persistExternalSupervisorReceipt p s env rcpt now = .ok s') :
    ∃ rows, RemembersBoth s.replay rows ∧ env.handoffID ∉ s.receipts.map ReceiptRow.handoffID ∧
      s' = { s with
        replay := rows, receipts := s.receipts ++ [receiptRow p env rcpt now] } := by
  simp only [persistExternalSupervisorReceipt, ok_iff, insertRow_eq_ok] at h
  obtain ⟨_, h₁, _, h₂, _, ⟨⟨-, hfresh, -⟩, rfl⟩, rfl⟩ := h
  obtain ⟨rows₁, hrows₁, rfl⟩ := remember_eq_ok h₁
  obtain ⟨rows₂, hrows₂, rfl⟩ := remember_eq_ok h₂
  exact ⟨rows₂, ⟨_, _, rows₁, hrows₁, hrows₂⟩, hfresh, rfl⟩

theorem persistCallback_eq_ok (h : persistExternalSupervisorCallback p s env rcpt cb now = .ok s') :
    ∃ row rows, Remembers s.replay row rows ∧
      env.handoffID ∉ s.callbacks.map CallbackRow.handoffID ∧
      s' = { s with
        replay := rows
        callbacks := s.callbacks ++ [callbackRow p env rcpt cb now] } := by
  simp only [persistExternalSupervisorCallback, ok_iff, insertRow_eq_ok] at h
  obtain ⟨_, h₁, _, ⟨⟨-, hfresh, -⟩, rfl⟩, rfl⟩ := h
  obtain ⟨rows, hrows, rfl⟩ := remember_eq_ok h₁
  exact ⟨_, rows, hrows, hfresh, rfl⟩

theorem persist_eq_ok
    (h : persistExternalSupervisorCancellation p s env rcpt cancellation now = .ok s') :
    ∃ row rows, Remembers s.replay row rows ∧
      env.handoffID ∉ s.cancellations.map CancellationRow.handoffID ∧
      s' = { s with
        replay := rows
        cancellations :=
          s.cancellations ++ [cancelRow p env rcpt cancellation now] } := by
  simp only [persistExternalSupervisorCancellation, ok_iff, insertRow_eq_ok] at h
  obtain ⟨_, h₁, _, ⟨⟨-, hfresh, -⟩, rfl⟩, rfl⟩ := h
  obtain ⟨rows, hrows, rfl⟩ := remember_eq_ok h₁
  exact ⟨_, rows, hrows, hfresh, rfl⟩

variable [DecidableEq β] {detail : String}

theorem decode_eq_ok {α : Type} {encode : α → β} {decode : β → Option α} {raw : β} {v : α} :
    decodeCanonical encode decode detail raw = .ok v ↔ decode raw = some v ∧ encode v = raw := by
  simp only [decodeCanonical, ok_iff]
  constructor
  · rintro ⟨_, hv, -, hraw, rfl⟩
    exact ⟨hv, hraw⟩
  · rintro ⟨hv, hraw⟩
    exact ⟨v, hv, (), hraw, rfl⟩

theorem handoff_eq_some (h : loadExternalSupervisorHandoff p s handoffID = .ok (some handoff)) :
    handoff.envelope.handoffID = handoffID ∧
    handoff.launchSpecHash = handoff.envelope.launchSpecHash ∧
    validateExternalSupervisorEnvelope p handoff.envelope = .ok () ∧
    ∃ row, select HandoffRow.handoffID handoffID s.handoffs = some row ∧
      p.decodeEnvelope row.envelopeJSON = some handoff.envelope := by
  unfold loadExternalSupervisorHandoff at h
  split at h
  · cases h
  next row hrow =>
    simp only [ok_iff, Option.some.injEq] at h
    obtain ⟨_, henv, -, ⟨hvalid, hspec, hid⟩, _, -, rfl⟩ := h
    exact ⟨hid, hspec.symm, hvalid, row, hrow, (decode_eq_ok.mp henv).1⟩

theorem loadHandoffOf_eq_ok : loadHandoffOf p s handoffID detail = .ok handoff ↔
      loadExternalSupervisorHandoff p s handoffID = .ok (some handoff) := by
  simp [loadHandoffOf, ok_iff]

theorem loadReceiptOf_eq_ok : loadReceiptOf p s handoffID detail = .ok rcpt ↔
      loadExternalSupervisorReceipt p s handoffID = .ok (some rcpt) := by
  simp [loadReceiptOf, ok_iff]

theorem loadReceipt_eq_none : loadExternalSupervisorReceipt p s handoffID = .ok none ↔
      handoffID ∉ s.receipts.map ReceiptRow.handoffID := by
  rw [← select_eq_none, loadExternalSupervisorReceipt]
  split <;> simp [ok_iff, *]

theorem receipt_eq_some : loadExternalSupervisorReceipt p s handoffID = .ok (some rcpt) ↔
      ∃ row handoff, select ReceiptRow.handoffID handoffID s.receipts = some row ∧
        p.decodeReceipt row.receiptJSON = some rcpt ∧
        p.encodeReceipt rcpt = row.receiptJSON ∧
        loadExternalSupervisorHandoff p s handoffID = .ok (some handoff) ∧
        validateAuthenticatedExternalSupervisorReceipt p rcpt handoff.envelope = .ok () := by
  unfold loadExternalSupervisorReceipt
  split
  next hnone => simp [hnone]
  next row hrow =>
    simp only [ok_iff, decode_eq_ok, loadHandoffOf_eq_ok, Option.some.injEq]
    constructor
    · rintro ⟨_, ⟨hdec, hencode⟩, handoff, hhand, -, hvalid, rfl⟩
      exact ⟨row, handoff, hrow, hdec, hencode, hhand, hvalid⟩
    · rintro ⟨_, handoff, hrow', hdec, hencode, hhand, hvalid⟩
      rw [hrow] at hrow'
      cases hrow'
      exact ⟨rcpt, ⟨hdec, hencode⟩, handoff, hhand, (), hvalid, rfl⟩

theorem loadCallback_eq_none : loadExternalSupervisorCallback p s handoffID = .ok none ↔
      handoffID ∉ s.callbacks.map CallbackRow.handoffID := by
  rw [← select_eq_none, loadExternalSupervisorCallback]
  split <;> simp [ok_iff, *]

theorem cancellation_eq_none : loadExternalSupervisorCancellation p s handoffID = .ok none ↔
      handoffID ∉ s.cancellations.map CancellationRow.handoffID := by
  rw [← select_eq_none, loadExternalSupervisorCancellation]
  split <;> simp [ok_iff, *]

/-- The launch facts that admit the envelope now. -/
def Admitted (p : Primitives β) (db : DB β) (env : Envelope) (fence : LaunchFence)
    (now : Int) : Prop :=
  ∃ boundary stored deadline,
    loadLaunchRecoveryBoundary p.toPrimitives db env.launchSpecHash = .ok boundary ∧
    boundary.action = .retryProcessAdmission ∧ boundary.claim.fence = fence ∧
    p.fenceBindingDigest fence = env.fenceBindingHash ∧
    loadLaunchSpec p.toPrimitives db env.launchSpecHash = .ok (some stored) ∧
    stored.spec.deadline = env.deadline ∧ p.timeOf env.deadline = some deadline ∧
    now < deadline ∧ stored.spec.attemptCap = env.attemptCap ∧
    boundary.claim.attempt = env.attemptNumber ∧ env.attemptNumber ≤ env.attemptCap

theorem admission_eq_ok {db : DB β} {u : Unit} :
    validateExternalSupervisorAdmission p db env fence now = .ok u ↔
      Admitted p db env fence now := by
  simp only [validateExternalSupervisorAdmission, ok_iff]
  constructor
  · rintro ⟨boundary, hbound, -, ⟨hact, hfence, hdigest⟩, _, hfound, stored, rfl, -,
      hsame, deadline, hdl, -, hnow, hcap, hatt, hle⟩
    exact ⟨boundary, stored, deadline, hbound, hact, hfence, hdigest, hfound, hsame,
      hdl, hnow, hcap, hatt, hle⟩
  · rintro ⟨boundary, stored, deadline, hbound, hact, hfence, hdigest, hfound, hsame,
      hdl, hnow, hcap, hatt, hle⟩
    exact ⟨boundary, hbound, (), ⟨hact, hfence, hdigest⟩, some stored, hfound, stored, rfl,
      (), hsame, deadline, hdl, (), hnow, hcap, hatt, hle⟩

theorem loadAdmission_eq_ok : loadAuthenticatedHandoffAdmission p s handoffID now = .ok handoff ↔
      loadExternalSupervisorHandoff p s handoffID = .ok (some handoff) ∧
      ∃ fence, Admitted p s.launch handoff.envelope fence now := by
  simp only [loadAuthenticatedHandoffAdmission, ok_iff, admission_eq_ok]
  constructor
  · rintro ⟨_, hfound, _, rfl, boundary, hbound, _, hadm, rfl⟩
    exact ⟨hfound, _, hadm⟩
  · rintro ⟨hload, _, boundary, stored, deadline, hbound, hact, rfl, hrest⟩
    have hspec := (handoff_eq_some hload).2.1
    exact ⟨_, hload, handoff, rfl, boundary, hspec ▸ hbound, (),
      ⟨boundary, stored, deadline, hbound, hact, rfl, hrest⟩, rfl⟩

theorem id_admission (h : loadAuthenticatedHandoffAdmission p s handoffID now = .ok handoff) :
    handoff.envelope.handoffID = handoffID :=
  (handoff_eq_some (loadAdmission_eq_ok.mp h).1).1

theorem loadFenced_eq_ok
    (h : loadAuthenticatedHandoffAdmissionWithFence p s handoffID fence now = .ok handoff) :
    loadAuthenticatedHandoffAdmission p s handoffID now = .ok handoff ∧
      Admitted p s.launch handoff.envelope fence now := by
  simp only [loadAuthenticatedHandoffAdmissionWithFence, ok_iff] at h
  obtain ⟨_, hadm, _, hbound, -, ⟨rfl, -⟩, rfl⟩ := h
  refine ⟨hadm, ?_⟩
  obtain ⟨hload, _, _, stored, deadline, hb, hact, rfl, hrest⟩ :=
    loadAdmission_eq_ok.mp hadm
  have hspec := (handoff_eq_some hload).2.1
  rw [hspec, hb] at hbound
  cases hbound
  exact ⟨_, stored, deadline, hb, hact, rfl, hrest⟩

/-- What an operation writes, and what it found when it did. -/
inductive Writes (p : Primitives β) (s : Store β) : Op → Store β → Prop
  | nothing (op : Op) : Writes p s op s
  | launch (op : Launch.Op) (commits : Bool) : Writes p s (.launch op)
      { s with launch := (Launch.exec p.toPrimitives s.launch (op, commits)).1 }
  | stage {envelope : Envelope} {fence : LaunchFence} {now : Int} (row : HandoffRow β)
      (entry : DeliveryOutboxRow) (hid : row.handoffID = envelope.handoffID)
      (hfresh : row.handoffID ∉ s.handoffs.map HandoffRow.handoffID) :
      Writes p s (.stage envelope fence now)
        { s with
          handoffs := s.handoffs ++ [row], deliveryOutbox := s.deliveryOutbox ++ [entry] }
  | deliver {handoffID : String} {authenticator : Option Authenticator}
      {deliver : Option (Envelope → Except Err AuthReceipt)} {now : Int}
      (handoff : Handoff) (receipt : AuthReceipt) (rows : List ReplayRow)
      (hadmission : loadAuthenticatedHandoffAdmission p s handoffID now = .ok handoff)
      (hfresh : handoffID ∉ s.receipts.map ReceiptRow.handoffID)
      (hvalid : validateAuthenticatedExternalSupervisorReceipt p receipt handoff.envelope = .ok ())
      (hrows : RemembersBoth s.replay rows) :
      Writes p s (.deliver handoffID authenticator deliver now)
        { s with
          replay := rows
          receipts := s.receipts ++ [receiptRow p handoff.envelope receipt now] }
  | reconcile {handoffID : String} {authenticator : Option Authenticator}
      {reconcile : Option (Envelope → AuthReceipt → Except Err (Option AuthCallback))}
      {now : Int} (handoff : Handoff) (receipt : AuthReceipt)
      (callback : AuthCallback) (row : ReplayRow) (rows : List ReplayRow)
      (hadmission : loadAuthenticatedHandoffAdmission p s handoffID now = .ok handoff)
      (hreceipt : loadExternalSupervisorReceipt p s handoffID = .ok (some receipt))
      (hcancellation : handoffID ∉ s.cancellations.map CancellationRow.handoffID)
      (hfresh : handoffID ∉ s.callbacks.map CallbackRow.handoffID)
      (hvalid : validateAuthenticatedExternalSupervisorCallback p callback handoff.envelope
        receipt = .ok ())
      (hrows : Remembers s.replay row rows) :
      Writes p s (.reconcile handoffID authenticator reconcile now)
        { s with
          replay := rows
          callbacks := s.callbacks ++ [callbackRow p handoff.envelope receipt callback now] }
  | cancel {request : Cancellation} {fence : LaunchFence} {authenticator : Option Authenticator}
      {cancel : Envelope → AuthReceipt → Cancellation →
        Except Err AuthCancellation} {now : Int} (handoff : Handoff)
      (receipt : AuthReceipt) (authenticated : AuthCancellation)
      (row : ReplayRow) (rows : List ReplayRow)
      (hadmission : loadAuthenticatedHandoffAdmission p s request.handoffID now = .ok handoff)
      (hreceipt : loadExternalSupervisorReceipt p s request.handoffID = .ok (some receipt))
      (hcallback : request.handoffID ∉ s.callbacks.map CallbackRow.handoffID)
      (hanswer : cancel handoff.envelope receipt request = .ok authenticated)
      (hvalid : validateAuthenticatedExternalSupervisorCancellation p authenticated
        handoff.envelope receipt = .ok ())
      (hfresh : request.handoffID ∉ s.cancellations.map CancellationRow.handoffID)
      (hrows : Remembers s.replay row rows) :
      Writes p s (.cancel request fence authenticator (some cancel) now)
        { s with
          replay := rows
          cancellations :=
            s.cancellations ++ [cancelRow p handoff.envelope receipt authenticated now] }
  | accept {authenticated : AuthCancellation} {fence : LaunchFence}
      {authenticator : Option Authenticator} {now : Int} (handoff : Handoff)
      (receipt : AuthReceipt) (row : ReplayRow) (rows : List ReplayRow)
      (hadmission : loadAuthenticatedHandoffAdmission p s
        authenticated.cancellation.handoffID now = .ok handoff)
      (hreceipt : loadExternalSupervisorReceipt p s authenticated.cancellation.handoffID =
        .ok (some receipt))
      (hvalid : validateAuthenticatedExternalSupervisorCancellation p authenticated
        handoff.envelope receipt = .ok ())
      (hfresh : authenticated.cancellation.handoffID ∉
        s.cancellations.map CancellationRow.handoffID)
      (hrows : Remembers s.replay row rows) :
      Writes p s (.accept authenticated fence authenticator now)
        { s with
          replay := rows
          cancellations :=
            s.cancellations ++ [cancelRow p handoff.envelope receipt authenticated now] }

theorem writes_perform {κ α : Type} {op : Op} {commits : Bool} {before : Except Err (Stage κ α)}
    {after : κ → Except Err (α × Option (Store β))}
    (h : ∀ k a s', before = .ok (.calls k) → after k = .ok (a, some s') → Writes p s op s') :
    Writes p s op (perform s commits before after).store := by
  unfold perform
  split
  · exact .nothing _
  · exact .nothing _
  next k =>
    change Writes p s op (settle commits (.sql "commit") s (after k)).1
    rcases settle_fst with hs | ⟨a, ha⟩
    · rw [hs]
      exact .nothing _
    · exact h k a _ rfl ha

theorem delivered_eq_ok {authn : Authenticator}
    (h : loadDelivered p s handoff handoffID authn = .ok rcpt) :
    loadExternalSupervisorReceipt p s handoffID = .ok (some rcpt) := by
  simp only [loadDelivered, ok_iff] at h
  obtain ⟨-, -, _, hfound, _, rfl, -, -, rfl⟩ := h
  exact hfound

theorem writes_deliver (authn : Option Authenticator)
    (deliver : Option (Envelope → Except Err AuthReceipt)) (commits : Bool) :
    Writes p s (.deliver handoffID authn deliver now)
      (deliverAndPersistExternalSupervisorReceipt p s handoffID authn deliver now
        commits).store := by
  unfold deliverAndPersistExternalSupervisorReceipt
  split
  next authn deliver =>
    refine writes_perform fun env r s' hpre hafter => ?_
    simp only [ok_iff] at hpre
    obtain ⟨handoff, hadm, -, -, found, hfound, hpre⟩ := hpre
    cases found with
    | some old =>
      simp at hpre
    | none =>
      simp only [pure_eq_ok, Stage.calls.injEq] at hpre
      subst hpre
      simp only [ok_iff, Prod.mk.injEq, Option.some.injEq] at hafter
      obtain ⟨rcpt, -, _, hvalid, -, -, _, hpers, rfl, rfl⟩ := hafter
      obtain ⟨rows, hrows, _, rfl⟩ := persistReceipt_eq_ok hpers
      exact .deliver handoff rcpt rows hadm (loadReceipt_eq_none.mp hfound) hvalid hrows
  · exact .nothing _

theorem writes_reconcile (authn : Option Authenticator) (reconcile : Option
      (Envelope → AuthReceipt → Except Err (Option AuthCallback)))
    (commits : Bool) :
    Writes p s (.reconcile handoffID authn reconcile now)
      (reconcileAndPersistExternalSupervisorCallback p s handoffID authn reconcile now
        commits).store := by
  unfold reconcileAndPersistExternalSupervisorCallback
  split
  next authn reconcile =>
    refine writes_perform fun (_, _) r s' hpre hafter => ?_
    simp only [ok_iff] at hpre
    obtain ⟨handoff, hadm, receipt', hrec, _, hcanc, -, hnone, found, hfound, hpre⟩ := hpre
    rw [Option.isSome_eq_false_iff, Option.isNone_iff_eq_none] at hnone
    subst hnone
    cases found with
    | some old =>
      simp at hpre
    | none =>
      simp only [pure_eq_ok, Stage.calls.injEq, Prod.mk.injEq] at hpre
      obtain ⟨rfl, rfl⟩ := hpre
      rw [bind_eq_ok] at hafter
      obtain ⟨answer, -, hafter⟩ := hafter
      cases answer with
      | none => simp at hafter
      | some cb =>
        simp only [ok_iff, Prod.mk.injEq, Option.some.injEq] at hafter
        obtain ⟨_, hvalid, -, -, _, hpers, -, rfl⟩ := hafter
        obtain ⟨row, rows, hrows, -, rfl⟩ := persistCallback_eq_ok hpers
        exact .reconcile handoff receipt' cb row rows hadm (delivered_eq_ok hrec)
          (cancellation_eq_none.mp hcanc)
          (loadCallback_eq_none.mp hfound) hvalid hrows
  · exact .nothing _

theorem writes_cancel (req : Cancellation) (authn : Option Authenticator)
    (cancel : Option (Envelope → AuthReceipt → Cancellation →
      Except Err AuthCancellation)) (commits : Bool) :
    Writes p s (.cancel req fence authn cancel now)
      (cancelAndPersistExternalSupervisorCancellation p s req fence authn cancel now
        commits).store := by
  unfold cancelAndPersistExternalSupervisorCancellation
  split
  next authn cancel =>
    refine writes_perform fun (_, _) r s' hpre hafter => ?_
    simp only [ok_iff] at hpre
    obtain ⟨-, -, handoff, hadm, receipt', hrec, -, -, _, hcallback, -, hnone,
      found, hfound, hpre⟩ := hpre
    rw [Option.isSome_eq_false_iff, Option.isNone_iff_eq_none] at hnone
    subst hnone
    cases found with
    | some old =>
      simp [ok_iff] at hpre
    | none =>
      simp only [pure_eq_ok, Stage.calls.injEq, Prod.mk.injEq] at hpre
      obtain ⟨rfl, rfl⟩ := hpre
      simp only [ok_iff, Prod.mk.injEq, Option.some.injEq] at hafter
      obtain ⟨authenticated, hans, _, hvalid, -, -, -, -, _, hpers, -, rfl⟩ := hafter
      obtain ⟨row, rows, hrows, -, rfl⟩ := persist_eq_ok hpers
      exact .cancel handoff receipt' authenticated row rows (loadFenced_eq_ok hadm).1
        (delivered_eq_ok hrec) (loadCallback_eq_none.mp hcallback)
        hans hvalid (cancellation_eq_none.mp hfound) hrows
  · exact .nothing _

theorem writes_accept {authenticated : AuthCancellation}
    {authn : Option Authenticator} {r : AuthCancellation}
    (h : acceptExternalSupervisorCancellation p s authenticated fence authn now =
      .ok (r, some s')) : Writes p s (.accept authenticated fence authn now) s' := by
  simp only [acceptExternalSupervisorCancellation, ok_iff] at h
  obtain ⟨_, -, handoff, hadm, _, hrec, rcpt, rfl, old, hfound, h⟩ := h
  cases old with
  | some old =>
    simp at h
  | none =>
    simp only [ok_iff, Prod.mk.injEq, Option.some.injEq] at h
    obtain ⟨_, hvalid, -, -, _, hpers, -, rfl⟩ := h
    obtain ⟨row, rows, hrows, -, rfl⟩ := persist_eq_ok hpers
    exact .accept handoff rcpt row rows (loadFenced_eq_ok hadm).1 hrec hvalid
      (cancellation_eq_none.mp hfound) hrows

theorem writes_stage {r : Handoff}
    (h : stageExternalSupervisorHandoff p s env fence now = .ok (r, some s')) :
    Writes p s (.stage env fence now) s' := by
  simp only [stageExternalSupervisorHandoff, bind_eq_ok] at h
  obtain ⟨-, -, found, -, h⟩ := h
  cases found with
  | some old =>
    simp at h
  | none =>
    simp only [ok_iff, insertRow_eq_ok, Prod.mk.injEq, Option.some.injEq] at h
    obtain ⟨-, -, -, -, _, ⟨⟨hfresh, -, -⟩, rfl⟩, _, ⟨-, rfl⟩, -, rfl⟩ := h
    exact .stage _ _ rfl hfresh

theorem exec_writes (p : Primitives β) (s : Store β) (op : Op × Bool) :
    Writes p s op.1 (exec p s op).1 := by
  obtain ⟨op, commits⟩ := op
  cases op with
  | launch op => exact .launch op commits
  | stage =>
    simp only [exec]
    rcases settle_fst with hs | ⟨a, ha⟩
    · exact hs.symm ▸ .nothing _
    · exact writes_stage ha
  | deliver handoffID authn deliver => exact writes_deliver authn deliver commits
  | reconcile handoffID authn reconcile =>
    exact writes_reconcile authn reconcile commits
  | cancel req fence authn cancel =>
    exact writes_cancel req authn cancel commits
  | accept =>
    simp only [exec]
    rcases settle_fst with hs | ⟨a, ha⟩
    · exact hs.symm ▸ .nothing _
    · exact writes_accept ha

end Ananke.ExternalSupervisor
