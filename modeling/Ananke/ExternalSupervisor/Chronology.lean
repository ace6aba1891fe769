import Ananke.ExternalSupervisor.PeerInstance
import Ananke.ExternalSupervisor.History

/-! The issue times along the history of a handoff: delivery, receipt, then the callback or
the acknowledgement of a cancellation. -/
namespace Ananke.ExternalSupervisor

open Launch Validation Relational Machine List
open TrustedSupervisor.Instance (clockText)

section

variable {β κ : Type} {p : Primitives β} {c : Crypto κ} {s s' : Store β} {op : Op}
  {handoffID : String} {now : Int} {env : Envelope} {handoff : Handoff}
  {rcpt : AuthReceipt} {client : Client} {ended runHooks : Bool}

/-- Each text is a time, and none is before the one in front of it. -/
def IssuedInOrder (p : Primitives β) : List String → Prop :=
  List.IsChain fun first second => notBefore p second first = true

/-- The times of the delivery and the receipt, and of what follows. -/
def AuthReceipt.times (r : AuthReceipt) (following : List String) : List String :=
  r.delivery.issuedAt :: r.receipt.issuedAt :: following

theorem notBefore_of {first second : String} {a b : Int} (ha : p.timeOf first = some a)
    (hb : p.timeOf second = some b) (h : a ≤ b) : notBefore p second first = true := by
  simp [notBefore, ha, hb, h]

theorem IssuedInOrder.snoc {following : String} (h : IssuedInOrder p (rcpt.times []))
    (htime : notBefore p following rcpt.receipt.issuedAt = true) :
    IssuedInOrder p (rcpt.times [following]) := by
  simp_all [IssuedInOrder, AuthReceipt.times]

/-- The numbers of a cancellation are integers that canonical JSON carries unchanged. -/
def AuthCancellation.Exact (x : AuthCancellation) : Prop :=
  ∀ n ∈ [x.cancellation.attemptNumber, x.acknowledgement.attemptNumber], -2 ^ 53 ≤ n ∧ n ≤ 2 ^ 53

/-- A stored cancellation is read back as it was. -/
def Primitives.LawfulCancellation (p : Primitives β) : Prop :=
  ∀ x : AuthCancellation, x.Exact → p.decodeCancel (p.encodeCancel x) = some x

/-- Every stored acknowledgement was issued no earlier than the stored receipt. -/
def Timed (p : Primitives β) (s : Store β) : Prop :=
  ∀ row ∈ s.cancellations, ∃ x r rrow, p.decodeCancel row.cancellationJSON = some x ∧
    select ReceiptRow.handoffID row.handoffID s.receipts = some rrow ∧
    p.decodeReceipt rrow.receiptJSON = some r ∧
    notBefore p x.acknowledgement.issuedAt r.receipt.issuedAt = true

theorem Timed.grow (h : Timed p s) (hrcpts : s.receipts <+: s'.receipts)
    (hcanc : s'.cancellations = s.cancellations) : Timed p s' := by
  intro row hrow
  rw [hcanc] at hrow
  obtain ⟨x, r, rrow, hx, hsel, hr, htime⟩ := h row hrow
  exact ⟨x, r, rrow, hx, hrcpts.find?_eq_some hsel, hr, htime⟩

theorem receipt_issuedInOrder (h : verifyReceipt p c client ended env rcpt runHooks = .ok ()) :
    IssuedInOrder p (rcpt.times []) := by
  simp only [verifyReceipt, ok_iff] at h
  obtain ⟨-, -, -, -, -, -, _, hd, _, hr, -, -, -, ⟨htime, -⟩, -⟩ := h
  have horder := notBefore_of hd hr htime
  simp [IssuedInOrder, AuthReceipt.times, horder]

theorem callback_issuedInOrder {x : AuthCallback}
    (h : verifyCallback p c client ended env rcpt x runHooks = .ok ()) :
    IssuedInOrder p (rcpt.times [x.callback.issuedAt]) := by
  simp only [verifyCallback, ok_iff] at h
  obtain ⟨-, -, _, hrec, -, -, _, ht, _, hr, -, -, -, ⟨htime, -⟩, -⟩ := h
  exact (receipt_issuedInOrder hrec).snoc (notBefore_of hr ht htime)

theorem cancel_issuedInOrder {x : AuthCancellation}
    (h : verifyCancellation p c client ended env rcpt x runHooks = .ok ())
    (htime : notBefore p x.acknowledgement.issuedAt rcpt.receipt.issuedAt = true) :
    IssuedInOrder p (rcpt.times [x.acknowledgement.issuedAt]) := by
  simp only [verifyCancellation, ok_iff] at h
  obtain ⟨-, -, _, hrec, -⟩ := h
  exact (receipt_issuedInOrder hrec).snoc htime

variable [DecidableEq β]

theorem inOrder_receipt (h : loadExternalSupervisorReceipt p s handoffID = .ok (some rcpt)) :
    IssuedInOrder p (rcpt.times []) := by
  obtain ⟨-, _, -, -, -, -, hvalid⟩ := receipt_eq_some.mp h
  simp only [validateAuthenticatedExternalSupervisorReceipt, ok_iff] at hvalid
  obtain ⟨-, -, -, -, -, -, -, -, -, -, -, -, -, -, htime, -⟩ := hvalid
  simp [IssuedInOrder, AuthReceipt.times, htime]

theorem issuedInOrder_callback {cb : AuthCallback}
    (hrec : loadExternalSupervisorReceipt p s handoffID = .ok (some rcpt))
    (h : loadExternalSupervisorCallback p s handoffID = .ok (some cb)) :
    IssuedInOrder p (rcpt.times [cb.callback.issuedAt]) := by
  unfold loadExternalSupervisorCallback at h
  split at h
  · cases h
  · simp only [ok_iff, loadReceiptOf_eq_ok, Option.some.injEq, hrec, Except.ok.injEq] at h
    obtain ⟨_, -, _, -, _, rfl, -, hvalid, rfl⟩ := h
    simp only [validateAuthenticatedExternalSupervisorCallback, ok_iff] at hvalid
    obtain ⟨-, -, -, -, -, -, -, -, htime⟩ := hvalid
    exact (inOrder_receipt hrec).snoc htime

variable {x : AuthCancellation}

theorem loadCancellation_eq_some
    (h : loadExternalSupervisorCancellation p s handoffID = .ok (some x)) :
    ∃ row, select CancellationRow.handoffID handoffID s.cancellations = some row ∧
      p.decodeCancel row.cancellationJSON = some x := by
  unfold loadExternalSupervisorCancellation at h
  split at h
  · cases h
  next row hrow =>
    simp only [ok_iff, decode_eq_ok, Option.some.injEq] at h
    obtain ⟨_, ⟨hdec, -⟩, -, -, -, -, -, -, rfl⟩ := h
    exact ⟨row, hrow, hdec⟩

theorem Timed.issuedInOrder (hs : Timed p s)
    (hrec : loadExternalSupervisorReceipt p s handoffID = .ok (some rcpt))
    (h : loadExternalSupervisorCancellation p s handoffID = .ok (some x)) :
    IssuedInOrder p (rcpt.times [x.acknowledgement.issuedAt]) := by
  obtain ⟨row, hrow, hx⟩ := loadCancellation_eq_some h
  obtain ⟨_, _, _, hx', hsel, hr, htime⟩ := hs row (mem_of_find?_eq_some hrow)
  obtain ⟨_, -, hsel', hr', -⟩ := receipt_eq_some.mp hrec
  rw [key_of_select hrow] at hsel
  cases hsel'.symm.trans hsel
  cases hr'.symm.trans hr
  cases hx.symm.trans hx'
  exact (inOrder_receipt hrec).snoc htime

/-- The acknowledgement that an operation is given, by its caller or by the transport, was
issued no earlier than the receipt that is stored. -/
def Timely (p : Primitives β) (s : Store β) (op : Op × Bool) : Prop :=
  match op.1 with
  | .accept authenticated _ _ _ => ∀ rcpt,
    loadExternalSupervisorReceipt p s authenticated.cancellation.handoffID = .ok (some rcpt) →
    notBefore p authenticated.acknowledgement.issuedAt rcpt.receipt.issuedAt = true
  | .cancel request _ _ (some cancel) _ => ∀ env rcpt x,
    loadExternalSupervisorReceipt p s request.handoffID = .ok (some rcpt) →
    cancel env rcpt request = .ok x →
    notBefore p x.acknowledgement.issuedAt rcpt.receipt.issuedAt = true
  | _ => True

theorem exact_of_cancellation
    (hadm : loadAuthenticatedHandoffAdmission p s handoffID now = .ok handoff)
    (hvalid : validateAuthenticatedExternalSupervisorCancellation p x handoff.envelope rcpt =
      .ok ()) : x.Exact := by
  obtain ⟨_, _⟩ := attemptNumber_admission hadm
  simp only [validateAuthenticatedExternalSupervisorCancellation, ok_iff] at hvalid
  obtain ⟨-, -, -, -, -, -, -, -, -, -, -, _, -, -, -, -, _⟩ := hvalid
  intro n hn
  simp only [mem_cons, not_mem_nil, or_false] at hn
  omega

theorem Timed.cancellation {rows : List ReplayRow} (hp : p.LawfulCancellation) (hs : Timed p s)
    (hadm : loadAuthenticatedHandoffAdmission p s handoffID now = .ok handoff)
    (hrec : loadExternalSupervisorReceipt p s handoffID = .ok (some rcpt))
    (hvalid : validateAuthenticatedExternalSupervisorCancellation p x handoff.envelope rcpt =
      .ok ()) (htime : notBefore p x.acknowledgement.issuedAt rcpt.receipt.issuedAt = true) :
    Timed p { s with
      replay := rows
      cancellations :=
        s.cancellations ++ [cancelRow p handoff.envelope rcpt x now] } := by
  obtain ⟨rrow, -, hsel, hdec, -⟩ := receipt_eq_some.mp hrec
  rw [← id_admission hadm] at hsel
  exact forall_snoc.mpr ⟨hs, x, rcpt, rrow, hp x (exact_of_cancellation hadm hvalid),
    hsel, hdec, htime⟩

theorem timed_step (hp : p.LawfulCancellation) (op : Op × Bool) (hs : Timed p s)
    (hop : Timely p s op) : Timed p (exec p s op).1 := by
  have h := exec_writes p s op
  generalize (exec p s op).1 = s' at h
  obtain ⟨op, _⟩ := op
  cases h with
  | nothing | launch | stage | reconcile => exact hs
  | deliver => exact hs.grow (prefix_append _ _) rfl
  | cancel handoff rcpt x _ _ hadm hrec _ hans hvalid =>
    exact hs.cancellation hp hadm hrec hvalid (hop _ _ _ hrec hans)
  | accept handoff rcpt _ _ hadm hrec hvalid =>
    exact hs.cancellation hp hadm hrec hvalid (hop _ hrec)

variable {fence : LaunchFence}

theorem cancel_answer {req x : _} {authn : Authenticator}
    {cancel : Envelope → AuthReceipt → Cancellation → Except Err AuthCancellation} {commits : Bool}
    (h : (cancelAndPersistExternalSupervisorCancellation p s req fence (some authn)
      (some cancel) now commits).answer = .ok x) :
    x.cancellation = req ∧ ∃ rcpt,
      loadExternalSupervisorReceipt p s req.handoffID = .ok (some rcpt) ∧
      (loadExternalSupervisorCancellation p s req.handoffID = .ok (some x) ∨
        ∃ env, cancel env rcpt req = .ok x) := by
  rcases perform_answer h with ⟨hpre, -⟩ | ⟨⟨env, rcpt⟩, hpre, hafter⟩
  · simp only [ok_iff] at hpre
    obtain ⟨-, -, handoff, -, rcpt, hrec, -, -, cb, -, -, -, found, hfound, hpre⟩ := hpre
    cases found with
    | none => simp at hpre
    | some old =>
      simp only [ok_iff, Stage.answered.injEq] at hpre
      obtain ⟨-, hsame, -, -, rfl⟩ := hpre
      exact ⟨hsame, rcpt, delivered_eq_ok hrec, .inl hfound⟩
  · simp only [ok_iff] at hpre
    obtain ⟨-, -, _, -, receipt', hrec, -, -, _, -, -, -, found, _, hpre⟩ := hpre
    cases found with
    | some old =>
      simp [ok_iff] at hpre
    | none =>
      simp only [pure_eq_ok, Stage.calls.injEq, Prod.mk.injEq] at hpre
      obtain ⟨rfl, rfl⟩ := hpre
      simp only [ok_iff, Prod.mk.injEq, reduceCtorEq, and_false, exists_false, false_and, false_or]
        at hafter
      obtain ⟨_, hans, -, -, -, hsame, -, -, -, -, rfl, -⟩ := hafter
      exact ⟨hsame, receipt', delivered_eq_ok hrec, .inr ⟨_, hans⟩⟩

theorem accept_answer {authenticated : AuthCancellation}
    {authn : Option Authenticator} {written : Option (Store β)}
    (h : acceptExternalSupervisorCancellation p s authenticated fence authn now =
      .ok (x, written)) :
    x = authenticated ∧ ∃ rcpt,
      loadExternalSupervisorReceipt p s authenticated.cancellation.handoffID = .ok (some rcpt) := by
  simp only [acceptExternalSupervisorCancellation, ok_iff] at h
  obtain ⟨_, -, _, -, _, hrec, rcpt, rfl, old, -, h⟩ := h
  refine ⟨?_, rcpt, hrec⟩
  cases old with
  | some old =>
    simp only [ok_iff, Prod.mk.injEq] at h
    obtain ⟨-, hsame, rfl, -⟩ := h
    exact hsame
  | none =>
    simp only [ok_iff, Prod.mk.injEq] at h
    obtain ⟨-, -, -, -, -, -, rfl, -⟩ := h
    rfl

/-- Whatever acknowledgement an entry point of the store answers with was issued no earlier
than the receipt. -/
theorem answer_issuedInOrder {op : Op × Bool} (hs : Timed p s)
    (hop : Timely p s op) (h : (exec p s op).2.answer = .ok (.cancellation x)) :
    ∃ rcpt, loadExternalSupervisorReceipt p s x.cancellation.handoffID = .ok (some rcpt) ∧
      IssuedInOrder p (rcpt.times [x.acknowledgement.issuedAt]) := by
  obtain ⟨op, _⟩ := op
  cases op with
  | launch op | stage env fence now =>
    simp [exec] at h
  | deliver handoffID authn deliver now | reconcile handoffID authn reconcile now =>
    simp [exec, Reply.outcome] at h
  | cancel req fence authn cancel =>
    simp only [exec, Reply.outcome, map_eq_ok, Answer.cancellation.injEq] at h
    obtain ⟨_, h, rfl⟩ := h
    obtain _ | authn := authn
    · cases h
    obtain _ | cancel := cancel
    · cases h
    obtain ⟨hsame, rcpt, hrec, hfound | ⟨_, hans⟩⟩ := cancel_answer h
    · exact ⟨rcpt, hsame ▸ hrec, hs.issuedInOrder hrec hfound⟩
    · exact ⟨rcpt, hsame ▸ hrec, (inOrder_receipt hrec).snoc (hop _ _ _ hrec hans)⟩
  | accept authenticated fence authn now =>
    simp only [exec, map_eq_ok, Answer.cancellation.injEq] at h
    obtain ⟨y, h, hy⟩ := h
    subst hy
    obtain ⟨_, haccept⟩ : ∃ written, acceptExternalSupervisorCancellation p s authenticated fence
        authn now = .ok (y, written) := by
      rcases of_settle_ok h with ⟨hok, -⟩ | hok <;> exact ⟨_, hok⟩
    obtain ⟨rfl, rcpt, hrec⟩ := accept_answer haccept
    exact ⟨rcpt, hrec, (inOrder_receipt hrec).snoc (hop _ hrec)⟩

/-- Where every acknowledgement that is presented was issued no earlier than the receipt, the
issue times never decrease: along what the store holds, along what its entry points answer
with, and along what the client accepts. For receipts and callbacks that needs nothing. -/
theorem issue_times_ordered (c : Crypto κ) (hp : p.LawfulCancellation) {ops : List (Op × Bool)}
    (h : Meets (exec p) (Timely p) {} ops) :
    let s := run (exec p) {} ops
    (∀ handoffID rcpt, loadExternalSupervisorReceipt p s handoffID = .ok (some rcpt) →
      IssuedInOrder p (rcpt.times []) ∧
      (∀ x, loadExternalSupervisorCallback p s handoffID = .ok (some x) →
        IssuedInOrder p (rcpt.times [x.callback.issuedAt])) ∧
      ∀ x, loadExternalSupervisorCancellation p s handoffID = .ok (some x) →
        IssuedInOrder p (rcpt.times [x.acknowledgement.issuedAt])) ∧
    (∀ op x, Timely p s op → (exec p s op).2.answer = .ok (.cancellation x) →
      ∃ rcpt, loadExternalSupervisorReceipt p s x.cancellation.handoffID = .ok (some rcpt) ∧
        IssuedInOrder p (rcpt.times [x.acknowledgement.issuedAt])) ∧
    ∀ client ended env rcpt runHooks, (verifyReceipt p c client ended env rcpt runHooks = .ok () →
        IssuedInOrder p (rcpt.times [])) ∧
      (∀ x, verifyCallback p c client ended env rcpt x runHooks = .ok () →
        IssuedInOrder p (rcpt.times [x.callback.issuedAt])) ∧
      ∀ x, notBefore p x.acknowledgement.issuedAt rcpt.receipt.issuedAt = true →
        verifyCancellation p c client ended env rcpt x runHooks = .ok () →
        IssuedInOrder p (rcpt.times [x.acknowledgement.issuedAt]) := by
  intro s
  have hs : Timed p s := invariant_meets (fun _ op hs hop => timed_step hp op hs hop) h
    (fun _ hrow => absurd hrow not_mem_nil)
  refine ⟨?_, fun op x hop hanswer => answer_issuedInOrder hs hop hanswer, ?_⟩
  · intro handoffID rcpt hreceipt
    exact ⟨inOrder_receipt hreceipt, fun x hx => issuedInOrder_callback hreceipt hx,
      fun x hx => hs.issuedInOrder hreceipt hx⟩
  · intro client ended env rcpt runHooks
    exact ⟨receipt_issuedInOrder, fun x hx => callback_issuedInOrder hx,
      fun x htime hx => cancel_issuedInOrder hx htime⟩

end

open Instance

/-- A client delivers the handoff and brings in an acknowledgement of its cancellation. -/
def acknowledging (authn : Authenticator) (issuedAt : Nat) : List (Op × Bool) :=
  launching ++ [(.deliver name (some authn) (some fun _ => .ok receipt) 6, true),
      (.accept (acknowledged issuedAt) fence (some authn) 8, true)]

/-- The acknowledgement is issued after the receipt. -/
theorem issue_times_ordered_acknowledged :
    let s := run (exec prims) {} (acknowledging trusting 8)
    loadExternalSupervisorReceipt prims s name = .ok (some receipt) ∧
    loadExternalSupervisorCancellation prims s name = .ok (some (acknowledged 8)) ∧
    IssuedInOrder prims (receipt.times [(acknowledged 8).acknowledgement.issuedAt]) := by
  have hrun : run (exec prims) {} (acknowledging trusting 8) =
      cancelled delivered 8 := by
    rw [acknowledging, run_append, run_launching, run_cons_of (deliver_ok rfl rfl),
      run_cons_of (accept_ok rfl rfl rfl rfl (by decide) rfl), run_nil]
  have hreceipt : loadExternalSupervisorReceipt prims
      (run (exec prims) {} (acknowledging trusting 8)) name = .ok (some receipt) := by
    rw [hrun]
    exact loadReceipt_ok rfl rfl
  have hcanc : loadExternalSupervisorCancellation prims
      (run (exec prims) {} (acknowledging trusting 8)) name = .ok (some (acknowledged 8)) := by
    rw [hrun]
    exact loadCancellation_ok rfl rfl rfl
  have hlawful : prims.LawfulCancellation := fun _ _ => rfl
  have hmeets : Meets (exec prims) (Timely prims) {} (acknowledging trusting 8) := by
    rw [acknowledging, meets_append, run_launching]
    refine ⟨⟨trivial, trivial, trivial, trivial, trivial, trivial⟩,
      meets_cons_of (deliver_ok rfl rfl) trivial ⟨?_, trivial⟩⟩
    intro receipt hload
    have hload' := (loadReceipt_ok rfl rfl).symm.trans hload
    cases hload'
    exact notBefore_clockText 8 6
  exact ⟨hreceipt, hcanc,
    ((issue_times_ordered crypto hlawful hmeets).1 _ _ hreceipt).2.2 _ hcanc⟩

/-- The receipt is issued at 6. An acknowledgement issued at 5 passes the client's
verification, and the store takes it. -/
theorem acknowledged_before_receipt :
    let s := run (exec prims) {} (acknowledging peer 5)
    newClient prims crypto bundle predecessor none = .ok client ∧
    verifyCancellation prims crypto client false envelope receipt (acknowledged 5) true = .ok () ∧
    loadExternalSupervisorReceipt prims s name = .ok (some receipt) ∧
    loadExternalSupervisorCancellation prims s name = .ok (some (acknowledged 5)) ∧
    ¬ IssuedInOrder prims (receipt.times [(acknowledged 5).acknowledgement.issuedAt]) := by
  intro s
  have hs : s = cancelled delivered 5 := by
    simp only [s, acknowledging]
    rw [run_append, run_launching, run_cons_of (deliver_ok peer_envelope peer_receipt),
      run_cons_of (accept_ok rfl rfl rfl rfl (by decide) (peer_cancellation (by decide))), run_nil]
  refine ⟨newClient_ok, verifyCancellation_ok true (by decide), ?_, ?_, ?_⟩
  · rw [hs]
    exact loadReceipt_ok rfl rfl
  · rw [hs]
    exact loadCancellation_ok rfl rfl rfl
  · intro h
    have htime : notBefore prims (clockText 5) (clockText 6) = true :=
      (isChain_cons_cons.mp (isChain_cons_cons.mp h).2).1
    rw [notBefore_clockText] at htime
    exact absurd htime (by decide)

end Ananke.ExternalSupervisor
