import Ananke.ExternalSupervisor.Instance

/-! What the store of handoffs holds after any run: one receipt of a handoff, and what
followed it. -/
namespace Ananke.ExternalSupervisor

open Launch Validation Relational Machine List

variable {β : Type} {p : Primitives β} {s s' s'' : Store β} {op : Op} {handoffID : String}
  {now : Int} {env : Envelope} {handoff : Handoff} {fence : LaunchFence}
  {rcpt receipt' : AuthReceipt}

/-- Nothing that is stored of a handoff is changed or removed. -/
structure Grows (s s' : Store β) : Prop where
  receipts : s.receipts <+: s'.receipts
  callbacks : s.callbacks <+: s'.callbacks
  cancellations : s.cancellations <+: s'.cancellations
  replay : s.replay <+: s'.replay

theorem Grows.refl (s : Store β) : Grows s s :=
  ⟨prefix_rfl, prefix_rfl, prefix_rfl, prefix_rfl⟩

theorem Grows.trans (h : Grows s s') (h' : Grows s' s'') : Grows s s'' :=
  ⟨h.receipts.trans h'.receipts, h.callbacks.trans h'.callbacks,
    h.cancellations.trans h'.cancellations, h.replay.trans h'.replay⟩

variable {rows rows' : List ReplayRow} {row : ReplayRow}

theorem Remembers.grows (h : Remembers rows row rows') : rows <+: rows' := by
  rcases h with rfl | ⟨-, -, rfl⟩
  · exact prefix_rfl
  · exact prefix_append _ _

theorem RemembersBoth.grows (h : RemembersBoth rows rows') : rows <+: rows' := by
  obtain ⟨_, _, _, h₁, h₂⟩ := h
  exact h₁.grows.trans h₂.grows

/-- Both keys of the replay evidence are unique. -/
def Unrepeated (rows : List ReplayRow) : Prop :=
  (rows.map ReplayRow.record).Nodup ∧ (rows.map ReplayRow.nonce).Nodup

theorem Unrepeated.remembers
    (h : Unrepeated rows) (hrow : Remembers rows row rows') : Unrepeated rows' := by
  rcases hrow with rfl | ⟨hrec, hnonce, rfl⟩
  · exact h
  · exact ⟨nodup_snoc h.1 hrec, nodup_snoc h.2 hnonce⟩

theorem Unrepeated.remembersBoth (h : Unrepeated rows)
    (hrows : RemembersBoth rows rows') : Unrepeated rows' := by
  obtain ⟨_, _, _, h₁, h₂⟩ := hrows
  exact (h.remembers h₁).remembers h₂

/-- Evidence under one of the keys stays what it was when it was first remembered. -/
theorem Unrepeated.eq_of_key {row' : ReplayRow}
    (h : Unrepeated rows') (hearl : rows <+: rows') (hrow : row ∈ rows) (hrow' : row' ∈ rows')
    (hkey : row'.record = row.record ∨ row'.nonce = row.nonce) : row' = row := by
  have hmem := hearl.subset hrow
  rcases hkey with hkey | hkey
  · exact eq_of_key_eq h.1 hrow' hmem hkey
  · exact eq_of_key_eq h.2 hrow' hmem hkey

/-- The store holds this receipt for the handoff. -/
def Holds (p : Primitives β) (s : Store β) (handoffID : String) (rcpt : AuthReceipt) : Prop :=
  ∃ row, select ReceiptRow.handoffID handoffID s.receipts = some row ∧
    row.receiptIdentityHash = rcpt.receipt.receiptHash ∧
    p.decodeReceipt row.receiptJSON = some rcpt

section

variable (h : Holds p s handoffID rcpt)
include h

theorem Holds.unique (h' : Holds p s handoffID receipt') : rcpt = receipt' := by
  obtain ⟨_, hrow, -, hdec⟩ := h
  obtain ⟨_, hrow', -, hdec'⟩ := h'
  rw [hrow] at hrow'
  cases hrow'
  exact Option.some.inj (hdec.symm.trans hdec')

theorem Holds.mem : handoffID ∈ s.receipts.map ReceiptRow.handoffID := by
  obtain ⟨row, hrow, -⟩ := h
  exact mem_map.mpr ⟨row, mem_of_find?_eq_some hrow, key_of_select hrow⟩

theorem Holds.mono (hgrows : Grows s s') :
    Holds p s' handoffID rcpt := by
  obtain ⟨row, hrow, hrest⟩ := h
  exact ⟨row, hgrows.receipts.find?_eq_some hrow, hrest⟩

end

theorem holds_append {row : ReceiptRow β} (hrows : s'.receipts = s.receipts ++ [row])
    (hfresh : row.handoffID ∉ s.receipts.map ReceiptRow.handoffID)
    (hhash : row.receiptIdentityHash = rcpt.receipt.receiptHash)
    (hdec : p.decodeReceipt row.receiptJSON = some rcpt) :
    Holds p s' row.handoffID rcpt := by
  refine ⟨row, ?_, hhash, hdec⟩
  rw [hrows, select_append, select_eq_none.mpr hfresh]
  simp

/-- A receipt with this hash is stored for the handoff. -/
def Follows (s : Store β) (handoffID receiptIdentityHash : String) : Prop :=
  ∃ row ∈ s.receipts, row.handoffID = handoffID ∧ row.receiptIdentityHash = receiptIdentityHash

variable {hash : String}

theorem Follows.mono (h : Follows s handoffID hash) (hgrows : Grows s s') :
    Follows s' handoffID hash := by
  obtain ⟨row, hrow, hnames⟩ := h
  exact ⟨row, hgrows.receipts.subset hrow, hnames⟩

theorem Holds.follows (h : Holds p s handoffID rcpt) :
    Follows s handoffID rcpt.receipt.receiptHash := by
  obtain ⟨row, hrow, hhash, -⟩ := h
  exact ⟨row, mem_of_find?_eq_some hrow, key_of_select hrow, hhash⟩

/-- Each handoff has one receipt, which is readable, and its callback and its cancellation
name it. -/
structure Coherent (p : Primitives β) (s : Store β) : Prop where
  receipts : (s.receipts.map ReceiptRow.handoffID).Nodup
  held : ∀ handoffID ∈ s.receipts.map ReceiptRow.handoffID, ∃ receipt, Holds p s handoffID receipt
  callbacks : ∀ row ∈ s.callbacks, Follows s row.handoffID row.receiptIdentityHash
  cancellations : ∀ row ∈ s.cancellations, Follows s row.handoffID row.receiptIdentityHash
  replay : Unrepeated s.replay

theorem coherent_empty (p : Primitives β) : Coherent p {} :=
  ⟨nodup_nil, by simp, by simp, by simp, nodup_nil, nodup_nil⟩

theorem attemptCap_le_of_hashSpec {spec : LaunchSpec}
    (h : hashLaunchSpec p.toPrimitives spec = .ok hash) : spec.attemptCap ≤ 100 := by
  simp only [hashLaunchSpec, validateLaunchSpec, ok_iff] at h
  obtain ⟨_, ⟨-, -, -, -, -, -, -, -, -, -, -, -, -, -, -, -, -, hcap, -⟩, -⟩ := h
  exact hcap.2

section

variable {κ α : Type} {commits : Bool} {before : Except Err (Stage κ α)}
  {after : κ → Except Err (α × Option (Store β))}

/-- The transport is called after the part of the operation that precedes it went well. -/
theorem perform_called {k : κ}
    (h : (perform s commits before after).called = some k) : before = .ok (.calls k) := by
  unfold perform at h
  split at h
  · cases h
  · cases h
  · cases h
    rfl

theorem perform_answer {a : α} (h : (perform s commits before after).answer = .ok a) :
    before = .ok (.answered a) ∧ (perform s commits before after).store = s ∨
      ∃ k, before = .ok (.calls k) ∧
        (after k = .ok (a, none) ∧ (perform s commits before after).store = s ∨
          after k = .ok (a, some (perform s commits before after).store)) := by
  unfold perform at h ⊢
  split at h
  · cases h
  · cases h
    exact .inl ⟨rfl, rfl⟩
  next k => exact .inr ⟨k, rfl, of_settle_ok h⟩

theorem perform_error {e : Err} (h : (perform s commits before after).answer = .error e) :
    (perform s commits before after).store = s := by
  unfold perform at h ⊢
  split at h
  · rfl
  · rfl
  · exact settle_error h

end

/-- No handoff has both a stored callback and a stored cancellation. -/
def Exclusive (s : Store β) : Prop :=
  ∀ handoffID ∈ s.callbacks.map CallbackRow.handoffID,
    handoffID ∉ s.cancellations.map CancellationRow.handoffID

theorem Exclusive.callback (hs : Exclusive s) {row : CallbackRow β}
    (hrow : row.handoffID ∉ s.cancellations.map CancellationRow.handoffID) :
    Exclusive { s with callbacks := s.callbacks ++ [row], replay := rows } := by
  intro handoffID hmem
  rw [map_append, mem_append, map_singleton, mem_singleton] at hmem
  rcases hmem with hmem | rfl
  · exact hs handoffID hmem
  · exact hrow

theorem Exclusive.cancellation (hs : Exclusive s) {row : CancellationRow β}
    (hrow : row.handoffID ∉ s.callbacks.map CallbackRow.handoffID) :
    Exclusive { s with cancellations := s.cancellations ++ [row], replay := rows } := by
  intro handoffID hmem
  rw [map_append, mem_append, map_singleton, mem_singleton]
  rintro (hold | rfl)
  · exact hs handoffID hmem hold
  · exact hrow hmem

variable [DecidableEq β]

theorem attemptCap_le_of_loadSpec {db : DB β} {stored : StoredLaunchSpec}
    (h : loadLaunchSpec p.toPrimitives db hash = .ok (some stored)) :
    stored.spec.attemptCap ≤ 100 := by
  unfold loadLaunchSpec at h
  split at h
  · cases h
  next row hrow =>
    simp only [map_eq_ok, Option.some.injEq, readLaunchSpec, ok_iff] at h
    obtain ⟨_, ⟨_, -, -, -, -, ⟨hhash, -⟩, -, -, -, -, -, -, rfl⟩, rfl⟩ := h
    exact attemptCap_le_of_hashSpec hhash

theorem attemptNumber_admission
    (h : loadAuthenticatedHandoffAdmission p s handoffID now = .ok handoff) :
    1 ≤ handoff.envelope.attemptNumber ∧
      handoff.envelope.attemptNumber ≤ handoff.envelope.attemptCap ∧
      handoff.envelope.attemptCap ≤ 100 := by
  obtain ⟨hload, _, _, _, _, -, -, -, -, hspec, -, -, -, hcap, -, hle⟩ :=
    loadAdmission_eq_ok.mp h
  have hbound := attemptCap_le_of_loadSpec hspec
  have henv := (handoff_eq_some hload).2.2.1
  simp only [validateExternalSupervisorEnvelope, validateExternalSupervisorEnvelopeContent, ok_iff]
    at henv
  obtain ⟨-, ⟨-, ⟨-, -, hone, -⟩, -⟩, -⟩ := henv
  exact ⟨hone, hle, hcap ▸ hbound⟩

theorem exact_of_admission
    (hadm : loadAuthenticatedHandoffAdmission p s handoffID now = .ok handoff)
    (hvalid : validateAuthenticatedExternalSupervisorReceipt p rcpt handoff.envelope = .ok ()) :
    rcpt.Exact := by
  obtain ⟨_, _, _⟩ := attemptNumber_admission hadm
  simp only [validateAuthenticatedExternalSupervisorReceipt, ok_iff] at hvalid
  obtain ⟨-, -, -, -, -, -, -, -, -, -, -, -, -, hbinds, -⟩ := hvalid
  obtain ⟨-, -, -, -, _, _, -, -, -, -, -, -, -, -, -, -, -, -, -, -, -, -, -, _, -⟩ := hbinds
  intro n hn
  simp only [mem_cons, not_mem_nil, or_false] at hn
  omega

theorem writes_grows (h : Writes p s op s') : Grows s s' := by
  cases h with
  | nothing => exact .refl s
  | launch | stage => exact ⟨prefix_rfl, prefix_rfl, prefix_rfl, prefix_rfl⟩
  | deliver _ _ _ _ _ _ hrows =>
    exact ⟨prefix_append _ _, prefix_rfl, prefix_rfl, hrows.grows⟩
  | reconcile _ _ _ _ _ _ _ _ _ _ hrows =>
    exact ⟨prefix_rfl, prefix_append _ _, prefix_rfl, hrows.grows⟩
  | cancel _ _ _ _ _ _ _ _ _ _ _ hrows | accept _ _ _ _ _ _ _ _ hrows =>
    exact ⟨prefix_rfl, prefix_rfl, prefix_append _ _, hrows.grows⟩

theorem grows_run (ops : List (Op × Bool)) : Grows s (run (exec p) s ops) :=
  invariant_run (I := Grows s) (fun s' op h => h.trans (writes_grows (exec_writes p s' op)))
    (.refl s)

theorem Coherent.holds (hs : Coherent p s)
    (h : loadExternalSupervisorReceipt p s handoffID = .ok (some rcpt)) :
    Holds p s handoffID rcpt := by
  obtain ⟨row, _, hrow, hdec, -⟩ := receipt_eq_some.mp h
  have hmem := mem_map.mpr ⟨row, mem_of_find?_eq_some hrow, key_of_select hrow⟩
  obtain ⟨_, _, hrow', hhash, hdec'⟩ := hs.held handoffID hmem
  rw [hrow] at hrow'
  cases hrow'
  rw [hdec] at hdec'
  cases hdec'
  exact ⟨row, hrow, hhash, hdec⟩

theorem Coherent.follows (hs : Coherent p s) {handoff : Handoff} {now : Int}
    (hadm : loadAuthenticatedHandoffAdmission p s handoffID now = .ok handoff)
    (hrec : loadExternalSupervisorReceipt p s handoffID = .ok (some rcpt)) :
    Follows s handoff.envelope.handoffID rcpt.receipt.receiptHash :=
  id_admission hadm ▸ (hs.holds hrec).follows

theorem callback_follows (h : Writes p s op s') (hs : Coherent p s) :
    ∀ row ∈ s'.callbacks, row ∈ s.callbacks ∨ Follows s row.handoffID row.receiptIdentityHash := by
  intro row hrow
  cases h with
  | reconcile handoff rcpt cb _ _ hadm hrec =>
    refine (mem_snoc.mp hrow).imp_right ?_
    rintro rfl
    exact hs.follows hadm hrec
  | _ => exact .inl hrow

theorem cancellation_follows (h : Writes p s op s') (hs : Coherent p s) : ∀ row ∈ s'.cancellations,
      row ∈ s.cancellations ∨ Follows s row.handoffID row.receiptIdentityHash := by
  intro row hrow
  cases h with
  | cancel handoff rcpt authenticated _ _ hadm hrec
  | accept handoff rcpt _ _ hadm hrec =>
    refine (mem_snoc.mp hrow).imp_right ?_
    rintro rfl
    exact hs.follows hadm hrec
  | _ => exact .inl hrow

theorem receipts_step (hp : p.Lawful) (h : Writes p s op s') :
    s'.receipts = s.receipts ∨ ∃ row rcpt, s'.receipts = s.receipts ++ [row] ∧
      row.handoffID ∉ s.receipts.map ReceiptRow.handoffID ∧
      row.receiptIdentityHash = rcpt.receipt.receiptHash ∧
      p.decodeReceipt row.receiptJSON = some rcpt := by
  cases h with
  | deliver handoff rcpt _ hadm hfresh hvalid =>
    have hid := id_admission hadm
    rw [← hid] at hfresh
    exact .inr ⟨_, rcpt, rfl, hfresh, rfl, hp rcpt (exact_of_admission hadm hvalid)⟩
  | _ => exact .inl rfl

theorem held_step (hp : p.Lawful) (h : Writes p s op s') (hs : Coherent p s) :
    ∀ handoffID ∈ s'.receipts.map ReceiptRow.handoffID, ∃ rcpt, Holds p s' handoffID rcpt := by
  intro handoffID hmem
  have hold (hmem : handoffID ∈ s.receipts.map ReceiptRow.handoffID) :
      ∃ rcpt, Holds p s' handoffID rcpt := by
    obtain ⟨rcpt, hholds⟩ := hs.held handoffID hmem
    exact ⟨rcpt, hholds.mono (writes_grows h)⟩
  rcases receipts_step hp h with hsame | ⟨row, rcpt, hrows, hfresh, hhash, hdec⟩
  · exact hold (hsame ▸ hmem)
  · rw [hrows, map_append, mem_append, map_singleton, mem_singleton] at hmem
    rcases hmem with hmem | rfl
    · exact hold hmem
    · exact ⟨rcpt, holds_append hrows hfresh hhash hdec⟩

theorem unrepeated_step (h : Writes p s op s') (hs : Unrepeated s.replay) :
    Unrepeated s'.replay := by
  cases h with
  | nothing | launch | stage => exact hs
  | deliver _ _ _ _ _ _ hrows => exact hs.remembersBoth hrows
  | reconcile _ _ _ _ _ _ _ _ _ _ hrows | cancel _ _ _ _ _ _ _ _ _ _ _ hrows
  | accept _ _ _ _ _ _ _ _ hrows => exact hs.remembers hrows

theorem Coherent.step (hp : p.Lawful) (h : Writes p s op s') (hs : Coherent p s) :
    Coherent p s' where
  receipts := by
    rcases receipts_step hp h with hsame | ⟨row, rcpt, hrows, hfresh, -⟩
    · rw [hsame]
      exact hs.receipts
    · rw [hrows]
      exact nodup_snoc hs.receipts hfresh
  held := held_step hp h hs
  callbacks row hrow := by
    have hgrows := writes_grows h
    rcases callback_follows h hs row hrow with hold | hnew
    · exact (hs.callbacks row hold).mono hgrows
    · exact hnew.mono hgrows
  cancellations row hrow := by
    have hgrows := writes_grows h
    rcases cancellation_follows h hs row hrow with hold | hnew
    · exact (hs.cancellations row hold).mono hgrows
    · exact hnew.mono hgrows
  replay := unrepeated_step h hs.replay

theorem coherent_run (hp : p.Lawful) (ops : List (Op × Bool)) : Coherent p (run (exec p) {} ops) :=
  invariant_run (fun s op h => h.step hp (exec_writes p s op)) (coherent_empty p)

theorem deliver_called_eq_none (hmem : handoffID ∈ s.receipts.map ReceiptRow.handoffID)
    (authn : Option Authenticator)
    (deliver : Option (Envelope → Except Err AuthReceipt)) (now : Int) (commits : Bool) :
    (exec p s (.deliver handoffID authn deliver now, commits)).2.called = none := by
  simp only [exec, Reply.outcome]
  rw [Option.map_eq_none_iff, Option.eq_none_iff_forall_ne_some]
  intro k hk
  unfold deliverAndPersistExternalSupervisorReceipt at hk
  split at hk
  · have hpre := perform_called hk
    simp only [ok_iff] at hpre
    obtain ⟨_, -, -, -, found, hfound, hpre⟩ := hpre
    cases found with
    | none => exact loadReceipt_eq_none.mp hfound hmem
    | some old =>
      simp at hpre
  · cases hk

theorem deliver_holds {commits : Bool} (hp : p.Lawful) (hs : Coherent p s)
    {authn : Option Authenticator}
    {deliver : Option (Envelope → Except Err AuthReceipt)} {answer : Answer}
    (h : (exec p s (.deliver handoffID authn deliver now, commits)).2.answer = .ok answer) :
    ∃ rcpt, answer = .receipt rcpt ∧
      Holds p (exec p s (.deliver handoffID authn deliver now, commits)).1 handoffID rcpt := by
  simp only [exec, Reply.outcome, map_eq_ok] at h ⊢
  obtain ⟨rcpt, h, rfl⟩ := h
  refine ⟨rcpt, rfl, ?_⟩
  unfold deliverAndPersistExternalSupervisorReceipt at h ⊢
  split at h
  · rcases perform_answer h with ⟨hpre, hstore⟩ | ⟨env, hpre, hafter⟩
    · rw [hstore]
      simp only [ok_iff] at hpre
      obtain ⟨handoff, -, -, -, found, hfound, hpre⟩ := hpre
      cases found with
      | none => simp at hpre
      | some old =>
        simp only [ok_iff, Stage.answered.injEq] at hpre
        obtain ⟨-, -, rfl⟩ := hpre
        exact hs.holds hfound
    · simp only [ok_iff] at hpre
      obtain ⟨handoff, hadm, -, -, found, _, hpre⟩ := hpre
      cases found with
      | some old =>
        simp at hpre
      | none =>
        simp only [pure_eq_ok, Stage.calls.injEq] at hpre
        subst hpre
        simp only [ok_iff, Prod.mk.injEq, reduceCtorEq, and_false, exists_false, false_and,
          false_or, Option.some.injEq] at hafter
        obtain ⟨rcpt, -, _, hvalid, -, -, _, hpers, rfl, hs'⟩ := hafter
        obtain ⟨_, -, hfresh, rfl⟩ := persistReceipt_eq_ok hpers
        have hnew : (receiptRow p handoff.envelope rcpt now).handoffID ∉
            s.receipts.map ReceiptRow.handoffID := hfresh
        have hid := id_admission hadm
        have hdec := hp _ (exact_of_admission hadm hvalid)
        rw [← hs', ← hid]
        exact holds_append rfl hnew rfl hdec
  · cases h

theorem exec_error {op : Op × Bool} {e : Err} (h : (exec p s op).2.answer = .error e) :
    (exec p s op).1 = s := by
  obtain ⟨op, _⟩ := op
  cases op with
  | launch =>
    simp only [exec, mapError_eq_error, map_eq_error] at h ⊢
    obtain ⟨_, he', -⟩ := h
    rw [Launch.exec_error he']
  | stage env fence now | accept authenticated fence authn now =>
    exact settle_error (map_eq_error.mp h)
  | deliver | reconcile | cancel =>
    simp only [exec, Reply.outcome, map_eq_error, deliverAndPersistExternalSupervisorReceipt,
      reconcileAndPersistExternalSupervisorCallback,
      cancelAndPersistExternalSupervisorCancellation] at h ⊢
    split at h
    · exact perform_error h
    · rfl

/-- In every run each handoff has one receipt; its callback and its cancellation are stored
behind the receipt and name it; once it is stored the transport is not asked to deliver
again and every delivery that succeeds answers with it; the replay evidence under a key
stays the same; and an operation that fails changes nothing. -/
theorem handoff_history (hp : p.Lawful) (ops : List (Op × Bool)) :
    let s := run (exec p) {} ops
    Coherent p s ∧
    (∀ op row, row ∈ (exec p s op).1.callbacks → row ∉ s.callbacks →
      Follows s row.handoffID row.receiptIdentityHash) ∧
    (∀ op row, row ∈ (exec p s op).1.cancellations → row ∉ s.cancellations →
      Follows s row.handoffID row.receiptIdentityHash) ∧
    (∀ op e, (exec p s op).2.answer = .error e → (exec p s op).1 = s) ∧
    (∀ handoffID authn deliver now commits answer,
      (exec p s (.deliver handoffID authn deliver now, commits)).2.answer = .ok answer →
      ∃ rcpt, answer = .receipt rcpt ∧
        Holds p (exec p s (.deliver handoffID authn deliver now, commits)).1 handoffID rcpt) ∧
    ∀ later, let s' := run (exec p) s later
      (∀ row ∈ s.replay, ∀ row' ∈ s'.replay,
        row'.record = row.record ∨ row'.nonce = row.nonce →
          row'.recordFingerprint = row.recordFingerprint) ∧
      s.replay <+: s'.replay ∧
      ∀ handoffID rcpt, Holds p s handoffID rcpt → Holds p s' handoffID rcpt ∧
        ∀ authn deliver now commits,
          let outcome := (exec p s' (.deliver handoffID authn deliver now, commits)).2
          outcome.called = none ∧ ∀ answer, outcome.answer = .ok answer →
            answer = .receipt rcpt := by
  intro s
  have hs : Coherent p s := coherent_run hp ops
  refine ⟨hs, ?_, ?_, fun op e => exec_error, ?_, ?_⟩
  · intro op row hrow hnew
    exact (callback_follows (exec_writes p s op) hs row hrow).resolve_left hnew
  · intro op row hrow hnew
    exact (cancellation_follows (exec_writes p s op) hs row hrow).resolve_left hnew
  · intro handoffID authn deliver now commits answer h
    exact deliver_holds hp hs h
  · intro later s'
    have hs' : Coherent p s' := invariant_run (fun s op h => h.step hp (exec_writes p s op)) hs
    have hgrows : Grows s s' := grows_run later
    refine ⟨?_, hgrows.replay, ?_⟩
    · intro row hrow row' hrow' hkey
      rw [hs'.replay.eq_of_key hgrows.replay hrow hrow' hkey]
    · intro handoffID rcpt hholds
      have hholds' := hholds.mono hgrows
      refine ⟨hholds', fun authn deliver now commits => ⟨?_, ?_⟩⟩
      · exact deliver_called_eq_none hholds'.mem authn deliver now commits
      · intro answer hanswer
        obtain ⟨_, rfl, hstored⟩ := deliver_holds hp hs' hanswer
        have hkept := hholds'.mono (writes_grows (exec_writes p s'
          (.deliver handoffID authn deliver now, commits)))
        rw [hkept.unique hstored]

open Instance in
/-- After the handoff was delivered the transport is not asked to deliver it again. -/
theorem handoff_history_delivered :
    Coherent prims delivered ∧ Holds prims delivered name Instance.receipt ∧
    ∀ later authn deliver now commits, (exec prims (run (exec prims) delivered later)
        (.deliver name authn deliver now, commits)).2.called = none := by
  have h := handoff_history lawful delivering
  simp only [run_delivering] at h
  obtain ⟨hs, -, -, -, -, hlater⟩ := h
  have hload : loadExternalSupervisorReceipt prims delivered name =
      .ok (some Instance.receipt) := loadReceipt_ok rfl rfl
  refine ⟨hs, hs.holds hload, fun later authn deliver now commits => ?_⟩
  exact (((hlater later).2.2 _ _ (hs.holds hload)).2 authn deliver now commits).1

/-- A cancellation that is brought in is for a handoff without a stored callback. -/
def Unanswered (s : Store β) (op : Op × Bool) : Prop :=
  match op.1 with
  | .accept authenticated _ _ _ =>
    authenticated.cancellation.handoffID ∉ s.callbacks.map CallbackRow.handoffID
  | _ => True

theorem exclusive_step (op : Op × Bool) (hs : Exclusive s) (hop : Unanswered s op) :
    Exclusive (exec p s op).1 := by
  have h := exec_writes p s op
  generalize (exec p s op).1 = s' at h
  obtain ⟨op, _⟩ := op
  cases h with
  | nothing | launch | stage | deliver => exact hs
  | reconcile handoff _ _ _ _ hadm _ hcanc =>
    rw [← id_admission hadm] at hcanc
    exact hs.callback hcanc
  | cancel handoff _ _ _ _ hadm _ hcallback =>
    rw [← id_admission hadm] at hcallback
    exact hs.cancellation hcallback
  | accept handoff _ _ _ hadm =>
    -- the operation itself does not look for a callback
    simp only [Unanswered] at hop
    rw [← id_admission hadm] at hop
    exact hs.cancellation hop

/-- Callback and cancellation exclude each other in every run that brings in cancellations
only of handoffs without a stored callback. -/
theorem callback_cancellation_exclusive (p : Primitives β) {ops : List (Op × Bool)}
    (h : Meets (exec p) Unanswered {} ops) : Exclusive (run (exec p) {} ops) :=
  invariant_meets (fun _ op hs hop => exclusive_step op hs hop) h (by simp [Exclusive])

open Instance

def accepting : Op × Bool :=
  (.accept (acknowledged 8) Instance.fence (some trusting) 8, true)

/-- A cancellation is brought in for the handoff that was delivered and not answered. -/
theorem callback_cancellation_exclusive_delivered :
    name ∈ (run (exec prims) {} (delivering ++ [accepting])
      ).cancellations.map CancellationRow.handoffID ∧
    Exclusive (run (exec prims) {} (delivering ++ [accepting])) := by
  constructor
  · rw [run_snoc, run_delivering, accepting, accept_ok rfl rfl rfl rfl (by decide) rfl]
    exact mem_cons_self
  · refine callback_cancellation_exclusive prims ?_
    rw [meets_append, run_delivering]
    exact ⟨⟨trivial, trivial, trivial, trivial, trivial, trivial, trivial⟩,
      fun h => not_mem_nil h, trivial⟩

/-- A cancellation is brought in for the handoff that was answered, and both are stored. -/
theorem callback_and_cancellation :
    ¬ Exclusive (run (exec prims) {} (reconciling ++ [accepting])) := by
  intro h
  rw [run_snoc, run_reconciling, accepting, accept_ok rfl rfl rfl rfl (by decide) rfl] at h
  exact h name mem_cons_self mem_cons_self

end Ananke.ExternalSupervisor
