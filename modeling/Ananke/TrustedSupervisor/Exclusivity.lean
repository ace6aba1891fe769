import Ananke.TrustedSupervisor.Transaction

/-! Nonces and operation keys across the tables: what a requested cancellation holds, and
what committed requests use. -/
namespace Ananke.TrustedSupervisor

open Text Validation Relational Machine List

section

variable {β : Type} {p : Primitives β} {auth : AuditJournalAuthority} {j j' : Journal β}

def CancelIntentRow.nonces (row : CancelIntentRow β) : List String :=
  [row.requestNonceHash, row.responseNonceHash, row.exclusivityNonceHash]

/-- The cancellation has no outcome yet. -/
def Journal.Requested (j : Journal β) (row : CancelIntentRow β) : Prop :=
  row ∈ j.cancellationIntents ∧ row.intentHash ∉ j.cancellationOutcomes.map OutcomeRow.intentHash

/-- The request uses nothing the cancellation holds. -/
def ServerJournalRequest.Spares (req : ServerJournalRequest β) (row : CancelIntentRow β) : Prop :=
  req.operationKey ≠ row.operationKey ∧ ∀ n ∈ req.nonces, n ∉ row.nonces

/-- No committed request uses what a requested cancellation of another request holds. -/
def Exclusive (j : Journal β) : Prop :=
  ∀ row, j.Requested row → ∀ r ∈ j.requests, r.requestHash ≠ row.requestHash → r.request.Spares row

/-- Cancellations hold different nonces and operation keys. -/
def Apart (j : Journal β) : Prop :=
  ∀ a ∈ j.cancellationIntents, ∀ b ∈ j.cancellationIntents, a.requestHash ≠ b.requestHash →
    a.operationKey ≠ b.operationKey ∧ ∀ n ∈ a.nonces, n ∉ b.nonces

/-- What an operation writes to the tables of requests and of cancellations. -/
inductive Writes (p : Primitives β) (j : Journal β) : JournalOp β → Journal β → Prop
  | neither {op : JournalOp β} {j' : Journal β} (hr : j'.requests = j.requests)
      (hn : j'.nonces = j.nonces) (hc : j'.cancellationIntents = j.cancellationIntents)
      (ho : j'.cancellationOutcomes = j.cancellationOutcomes) : Writes p j op j'
  | commit {request : ServerJournalRequest β}
      {build : Option (β → Except Err AuditExecutionIntent)} {response : Except Err β}
      {now : Nat} {j' : Journal β} {row : RequestRow β} (hreq : row.request = request)
      (hkeys : row.requestHash ∉ j.requests.map RequestRow.requestHash ∧
        row.request.operationKey ∉ j.requests.map (·.request.operationKey))
      (hfresh : NoncesFresh j row.request) (hr : j'.requests = j.requests ++ [row])
      (hn : j'.nonces = j.nonces ++ nonceRows row.request)
      (hc : j'.cancellationIntents = j.cancellationIntents)
      (ho : j'.cancellationOutcomes = j.cancellationOutcomes) :
      Writes p j (.transact request build response now) j'
  | ask {c : AuditCancellationIntent β} {j' : Journal β} (hfree : ¬ CancellationConflict j c)
      (hr : j'.requests = j.requests) (hn : j'.nonces = j.nonces)
      (hc : j'.cancellationIntents = j.cancellationIntents ++ [cancelRowOf p c])
      (ho : j'.cancellationOutcomes = j.cancellationOutcomes) :
      Writes p j (.requestAuditCancellation c) j'
  | close {c : AuditCancellationIntent β} {event : AuditExecutionEvent}
      {outcome : CancelOutcome} {response : Except Err β} {j' : Journal β}
      {asked : CancelIntentRow β} (hasked : asked ∈ j.cancellationIntents)
      (hhash : asked.requestHash = c.requestHash) (hkey : asked.operationKey = c.operationKey)
      (hnonces : asked.nonces = nonceHashes c) {row : RequestRow β}
      (hreq : row.request = cancelRequest c)
      (hkeys : row.requestHash ∉ j.requests.map RequestRow.requestHash ∧
        row.request.operationKey ∉ j.requests.map (·.request.operationKey))
      (hfresh : NoncesFresh j row.request) (hr : j'.requests = j.requests ++ [row])
      (hn : j'.nonces = j.nonces ++ nonceRows row.request)
      (hc : j'.cancellationIntents = j.cancellationIntents)
      (ho : j.cancellationOutcomes <+: j'.cancellationOutcomes) :
      Writes p j (.completeAuditCancellation c event outcome response) j'

variable {op : JournalOp β}

theorem Keys.writes (h : Keys j) (hw : Writes p j op j') : Keys j' := by
  cases hw with
  | neither hr hn | ask _ hr hn => exact h.frame hr hn
  | commit _ hkeys hfresh hr hn | close _ _ _ _ _ hkeys hfresh hr hn =>
    exact h.commit hkeys hfresh hr hn

/-- The rows that were there stay, in their order. -/
structure Journal.Grows (j j' : Journal β) : Prop where
  requests : j.requests <+: j'.requests
  intents : j.cancellationIntents <+: j'.cancellationIntents
  outcomes : j.cancellationOutcomes <+: j'.cancellationOutcomes

theorem Writes.grows (h : Writes p j op j') : j.Grows j' := by
  cases h with
  | neither hr _ hc ho => exact ⟨hr ▸ prefix_rfl, hc ▸ prefix_rfl, ho ▸ prefix_rfl⟩
  | ask _ hr _ hc ho => exact ⟨hr ▸ prefix_rfl, hc ▸ prefix_append .., ho ▸ prefix_rfl⟩
  | commit _ _ _ hr _ hc ho => exact ⟨hr ▸ prefix_append .., hc ▸ prefix_rfl, ho ▸ prefix_rfl⟩
  | close _ _ _ _ _ _ _ hr _ hc ho => exact ⟨hr ▸ prefix_append .., hc ▸ prefix_rfl, ho⟩

theorem not_mem_of_not_conflict {c : AuditCancellationIntent β} {row : CancelIntentRow β}
    (hfree : ¬ CancellationConflict j c) (hrow : row ∈ j.cancellationIntents) :
    row.operationKey ≠ c.operationKey ∧ ∀ n ∈ row.nonces, n ∉ nonceHashes c := by
  refine ⟨fun hkey => hfree (.inr (.inr ⟨row, hrow, .inl hkey⟩)), fun n hn hheld => ?_⟩
  refine hfree (.inr (.inr ⟨row, hrow, ?_⟩))
  simp only [CancelIntentRow.nonces, mem_cons, not_mem_nil, or_false] at hn
  rcases hn with rfl | rfl | rfl
  · exact .inr (.inl hheld)
  · exact .inr (.inr (.inl hheld))
  · exact .inr (.inr (.inr (.inl hheld)))

theorem Apart.writes (h : Apart j) (hw : Writes p j op j') : Apart j' := by
  cases hw with
  | neither _ _ hc | commit _ _ _ _ _ hc | close _ _ _ _ _ _ _ _ _ hc =>
    exact fun a ha b hb => h a (hc ▸ ha) b (hc ▸ hb)
  | ask hfree _ _ hc =>
    intro a ha b hb hne
    rw [hc, mem_snoc] at ha hb
    rcases ha with ha | rfl <;> rcases hb with hb | rfl
    · exact h a ha b hb hne
    · exact not_mem_of_not_conflict hfree ha
    · obtain ⟨hkey, hn⟩ := not_mem_of_not_conflict hfree hb
      exact ⟨hkey.symm, fun n hn' hb' => hn n hb' hn'⟩
    · exact absurd rfl hne

/-- What the journal does not check: a request leaves alone what the requested cancellations
of other requests hold. -/
def Considerate (j : Journal β) : JournalOp β → Prop
  | .transact request _ _ _ =>
    ∀ row, j.Requested row → request.requestHash ≠ row.requestHash → request.Spares row
  | _ => True

theorem Exclusive.writes (h : Exclusive j) (hk : Keys j) (ha : Apart j)
    (hop : Considerate j op) (hw : Writes p j op j') : Exclusive j' := by
  cases hw with
  | neither hr _ hc ho =>
    rintro row ⟨hrow, hout⟩ r hmem hne
    exact h row ⟨hc ▸ hrow, ho ▸ hout⟩ r (hr ▸ hmem) hne
  | commit hreq _ _ hr _ hc ho =>
    rintro row ⟨hrow, hout⟩ r hmem hne
    have hpend : j.Requested row := ⟨hc ▸ hrow, ho ▸ hout⟩
    rw [hr, mem_snoc] at hmem
    rcases hmem with hmem | rfl
    · exact h row hpend r hmem hne
    · subst hreq
      exact hop row hpend hne
  | ask hfree hr _ hc ho =>
    rintro row ⟨hrow, hout⟩ r hmem hne
    rw [hc, mem_snoc] at hrow
    rw [hr] at hmem
    rcases hrow with hrow | rfl
    · exact h row ⟨hrow, ho ▸ hout⟩ r hmem hne
    · -- the conflict query has looked at the committed requests and their nonces
      refine ⟨fun hkey => hfree (.inl ⟨r, hmem, .inr hkey⟩), fun n hn hheld => ?_⟩
      obtain ⟨used, hused, rfl⟩ := mem_map.mp (hk.nonce_mem hmem hn)
      exact hfree (.inr (.inl ⟨used, hused, hheld⟩))
  | close hasked hhash hkey hnonces hreq _ _ hr _ hc ho =>
    rintro row ⟨hrow, hout⟩ r hmem hne
    have hpend : j.Requested row :=
      ⟨hc ▸ hrow, fun hold => hout ((ho.map _).subset hold)⟩
    rw [hr, mem_snoc] at hmem
    rcases hmem with hmem | rfl
    · exact h row hpend r hmem hne
    · obtain ⟨hkeys, hn⟩ := ha _ hasked row hpend.1 (by
        intro heq
        exact hne (by rw [← heq, hhash, RequestRow.requestHash, hreq]; rfl))
      rw [hreq]
      refine ⟨fun heq => hkeys (hkey.trans heq), fun n hmem => hn n ?_⟩
      rw [hnonces]
      exact mem_nonces hmem

variable [DecidableEq β] {resp : Except Err β}

theorem writes_transact {req : ServerJournalRequest β}
    {build : Option (β → Except Err AuditExecutionIntent)} {now : Nat} {bytes : β} {seen : Bool}
    (h : transact p auth j req build resp now = .ok (j', bytes, seen)) :
    Writes p j (.transact req build resp now) j' := by
  obtain ⟨_, _, rfl⟩ | ⟨_, _, hreq, _, _, hkeys, hfresh, _, rfl⟩ := transact_eq_ok h
  · exact .neither rfl rfl rfl rfl
  · exact .commit hreq hkeys hfresh rfl rfl rfl rfl

theorem writes_storeAuditIntent {intent : AuditExecutionIntent}
    (h : storeAuditIntent p auth j intent = .ok j') :
    Writes p j (.storeAuditIntent intent) j' := by
  obtain ⟨_, rfl | ⟨_, _, rfl⟩⟩ := insertion_eq_ok (storeIntent_eq_ok h).2 <;>
    exact .neither rfl rfl rfl rfl

variable {ev : AuditExecutionEvent}

theorem writes_appendAuditEvent (h : appendAuditEvent p auth j ev = .ok j') :
    Writes p j (.appendAuditEvent ev) j' := by
  obtain ⟨_, _, _, _, _, _, rfl | ⟨_, rfl⟩⟩ := appendEvent_eq_ok h <;>
    exact .neither rfl rfl rfl rfl

variable {c : AuditCancellationIntent β} {record : AuditCancellationRecord β}

theorem writes_request (h : requestAuditCancellation p auth j c = .ok (j', record)) :
    Writes p j (.requestAuditCancellation c) j' := by
  obtain ⟨_, rfl | ⟨hfree, _, _, _, _, _, _, rfl⟩⟩ := request_eq_ok h
  · exact .neither rfl rfl rfl rfl
  · exact .ask hfree rfl rfl rfl rfl

theorem columns_of_load (hvalid : validateServerJournalContent p auth j = .ok ())
    {requestHash : String}
    (hload : loadAuditCancellationTx p auth j requestHash "" = .ok (some record)) :
    ∃ row ∈ j.cancellationIntents, row.requestHash = requestHash ∧
      ColumnsMatch row record.intent := by
  cases hsel : j.cancelRow requestHash "" with
  | none => simp [loadAuditCancellationTx, hsel] at hload
  | some row =>
    have hmem := mem_of_find?_eq_some hsel
    have hhash := key_of_select hsel
    refine ⟨row, hmem, hhash, ?_⟩
    have hcheck := checkCancellation_of_valid hvalid hmem
    simp only [hhash, checkCancellation, ok_iff] at hcheck
    obtain ⟨_, hfound, _, rfl, row', hrow', _, hsame, _⟩ := hcheck
    cases hload.symm.trans hfound
    cases hsel.symm.trans hrow'
    exact hsame

variable {outcome : CancelOutcome}

theorem writes_complete
    (h : completeAuditCancellation p auth j c ev outcome resp = .ok (j', record)) :
    Writes p j (.completeAuditCancellation c ev outcome resp) j' := by
  obtain ⟨_, hvalid, event', _, _, hload, hsame, ⟨_, rfl⟩ | ⟨_, hend⟩⟩ :=
    complete_eq_ok h
  · exact .neither rfl rfl rfl rfl
  · obtain ⟨asked, hasked, hhash, _, hkey, hn1, hn2, hn3, _⟩ := columns_of_load hvalid hload
    obtain ⟨_, _, hkey', hn1', hn2', hn3', _⟩ := hsame
    obtain ⟨_, _, bytes, _, _, _, _, hkeys, hfresh, _, _, rfl⟩ := ending_eq_ok hend
    have hnonces : asked.nonces = nonceHashes c := by
      rw [CancelIntentRow.nonces, nonceHashes, hn1, hn1', hn2, hn2', hn3, hn3']
    have hreq : (cancellationCommit p c event' bytes).request = cancelRequest c := rfl
    exact .close hasked hhash (hkey.trans hkey') hnonces hreq hkeys hfresh rfl rfl rfl
      (prefix_append _ _)

theorem writes_exec (j : Journal β) (op : JournalOp β) : Writes p j op (exec p auth j op).1 := by
  cases h : perform p auth j op with
  | error e =>
    rw [exec, h]
    exact .neither rfl rfl rfl rfl
  | ok j' =>
    rw [exec_of_perform h]
    cases op with
    | transact =>
      obtain ⟨_, hop, rfl⟩ := map_eq_ok.mp h
      exact writes_transact hop
    | storeAuditIntent => exact writes_storeAuditIntent h
    | appendAuditEvent => exact writes_appendAuditEvent h
    | requestAuditCancellation =>
      obtain ⟨_, hop, rfl⟩ := map_eq_ok.mp h
      exact writes_request hop
    | completeAuditCancellation =>
      obtain ⟨_, hop, rfl⟩ := map_eq_ok.mp h
      exact writes_complete hop

/-- In a run whose requests are considerate, nonces and operation keys stay exclusive, and
nothing a requested cancellation needs for its own request is taken. -/
theorem exclusive_run {ops : List (JournalOp β)}
    (hm : Meets (exec p auth) (fun j op => Considerate j op) {} ops) :
    let j := run (exec p auth) {} ops
    Exclusive j ∧ ∀ row, j.Requested row → row.requestHash ∉ j.requests.map RequestRow.requestHash →
      row.operationKey ∉ j.requests.map (·.request.operationKey) ∧
      ∀ n ∈ row.nonces, n ∉ j.nonces.map NonceRow.nonceHash := by
  have hinv : Keys (run (exec p auth) {} ops) ∧ Apart (run (exec p auth) {} ops) ∧
      Exclusive (run (exec p auth) {} ops) := by
    refine invariant_meets (I := fun j => Keys j ∧ Apart j ∧ Exclusive j) ?_ hm
      ⟨keys_empty, by simp [Apart], by simp [Exclusive]⟩
    rintro j op ⟨hk, ha, he⟩ hop
    have hw : Writes p j op (exec p auth j op).1 := writes_exec j op
    exact ⟨hk.writes hw, ha.writes hw, he.writes hk ha hop hw⟩
  obtain ⟨hk, _, he⟩ := hinv
  refine ⟨he, fun row hrow hnew => ⟨fun hmem => ?_, fun n hn hmem => ?_⟩⟩
  · obtain ⟨r, hr, heq⟩ := mem_map.mp hmem
    have hne : r.requestHash ≠ row.requestHash := fun h => hnew (mem_map.mpr ⟨r, hr, h⟩)
    exact (he row hrow r hr hne).1 heq
  · rw [hk.nonces] at hmem
    obtain ⟨_, hused, rfl⟩ := mem_map.mp hmem
    obtain ⟨r, hr, hin⟩ := mem_flatMap.mp hused
    have hne : r.requestHash ≠ row.requestHash := fun h => hnew (mem_map.mpr ⟨r, hr, h⟩)
    exact (he row hrow r hr hne).2 _ (mem_map_of_mem hin) hn

/-- Committed answers are for ever. After any operations, of audits and cancellations as well,
a request that shares its hash, its operation key or a nonce with a committed one succeeds only
if it is that request, and then with the committed answer and nothing new but a row of `replays`. -/
theorem answers_kept (ops more : List (JournalOp β)) :
    let j := run (exec p auth) {} ops
    let j' := run (exec p auth) j more
    j.Grows j' ∧ Keys j' ∧ ∀ row ∈ j.requests, ∀ req build resp now j'' bytes seen,
      row.request.Touches req →
      transact p auth j' req build resp now = .ok (j'', bytes, seen) →
      req = row.request ∧ bytes = row.responseBytes ∧
        ∃ replay, j'' = { j' with replays := j'.replays ++ [replay] } := by
  intro j j'
  have hkeys : Keys j' := by
    refine invariant_run (fun j op h => h.writes (writes_exec j op)) ?_
    exact invariant_run (fun j op h => h.writes (writes_exec j op)) keys_empty
  have hgrows : j.Grows j' := by
    refine invariant_run (I := j.Grows) (fun j' op h => ?_) ⟨prefix_rfl, prefix_rfl, prefix_rfl⟩
    have hw : j'.Grows (exec p auth j' op).1 := (writes_exec j' op).grows
    exact ⟨h.1.trans hw.1, h.2.trans hw.2, h.3.trans hw.3⟩
  refine ⟨hgrows, hkeys, fun row hrow req build resp now j'' bytes seen ht hop => ?_⟩
  have hkept : row ∈ j'.requests := hgrows.requests.subset hrow
  obtain rfl : row.request = req := by
    by_contra hne
    exact not_transact_of_touches hkeys hkept ht hne hop
  obtain ⟨replay, ⟨row', hrow', heq, rfl⟩, rfl⟩ | ⟨_, _, heq, _, _, hfresh, _⟩ := transact_eq_ok hop
  · refine ⟨rfl, ?_, replay, rfl⟩
    exact hkeys.committed_unique ⟨row', hrow', congrArg (·.requestHash) heq, rfl⟩
      ⟨row, hkept, rfl, rfl⟩
  · exact absurd (mem_map.mpr ⟨row, hkept, congrArg ServerJournalRequest.requestHash heq.symm⟩)
      hfresh.1

/-- Before any cancellation has ended, one whose nonce is taken cannot be completed. -/
theorem not_complete_of_taken (hout : j.cancellationOutcomes = [])
    (htaken : c.requestNonceHash ∈ j.nonces.map NonceRow.nonceHash) :
    (exec p auth j (.completeAuditCancellation c ev outcome resp)).2 ≠ .ok () := by
  intro h
  cases hop : perform p auth j (.completeAuditCancellation c ev outcome resp) with
  | error e => simp [exec, hop] at h
  | ok j' =>
    obtain ⟨⟨_, _⟩, hcompl, _⟩ := map_eq_ok.mp hop
    obtain ⟨_, _, _, _, _, hload, _, ⟨hended, _⟩ | ⟨_, hend⟩⟩ :=
      complete_eq_ok hcompl
    · rw [loadAuditCancellationTx] at hload
      split at hload
      · cases hload
      · rw [bind_eq_ok] at hload
        obtain ⟨_, _, hload⟩ := hload
        rw [recordOf, hout] at hload
        cases hload
        exact hended rfl
    · obtain ⟨_, _, _, _, _, _, _, _, hfresh, _⟩ := ending_eq_ok hend
      exact hfresh.2 _ (by simp [nonceRows, cancelRequest]; exact .inl rfl) htaken

end

section instances

open Instance

def deliveryWith (nonceHash : String) : ServerJournalRequest (List Token) :=
  { delivery with requestNonceHash := nonceHash }

def delivering (nonceHash : String) : List (JournalOp (List Token)) :=
  [.storeAuditIntent intent, .requestAuditCancellation (cancel 1),
    .transact (deliveryWith nonceHash) none (.ok [.text "receipt"]) 0]

def delivered (nonceHash : String) : Journal (List Token) :=
  { requested 1 with
    requests := [requestCommit prims (deliveryWith nonceHash) [.text "receipt"] 0]
    nonces := nonceRows (deliveryWith nonceHash) }

variable {nonceHash : String}

section

variable (hv : validServerJournalRequest prims (deliveryWith nonceHash))
include hv

theorem exec_delivery : exec prims authority (requested 1)
        (.transact (deliveryWith nonceHash) none (.ok [.text "receipt"]) 0) =
      (delivered nonceHash, .ok ()) := by
  have hsize : 0 < prims.size [.text "receipt"] ∧
    prims.size [.text "receipt"] ≤ maxFrameBytes := by decide
  have hsound : Sound prims authority (requested 1) :=
    sound_requested (by decide) (by decide)
  have h := transact_accepted hsound lawful hv (by simp [requested, stored])
    (by simp [requested, stored]) hsize 0
  exact exec_of_perform (map_eq_ok.mpr ⟨_, h, rfl⟩)

theorem run_delivering : outcomes (exec prims authority) {} (delivering nonceHash) =
        [.ok (), .ok (), .ok ()] ∧
      run (exec prims authority) {} (delivering nonceHash) =
        delivered nonceHash := by
  have h1 : (1 : Int) ≤ 1 := by decide
  have h2 : (1 : Int) ≤ 2 := by decide
  simp [delivering, outcomes, exec_store, exec_request h1 h2, exec_delivery hv]

end

/-- A delivery with nonces of its own. -/
theorem exclusive_delivering :
    let j := run (exec prims authority) {} (delivering (sha 13))
    Exclusive j ∧ ∀ row, j.Requested row → row.requestHash ∉ j.requests.map RequestRow.requestHash →
      row.operationKey ∉ j.requests.map (·.request.operationKey) ∧
      ∀ n ∈ row.nonces, n ∉ j.nonces.map NonceRow.nonceHash := by
  refine exclusive_run ⟨trivial, trivial, ?_, trivial⟩
  rw [exec_store, exec_request (by decide) (by decide)]
  rintro _ ⟨hrow, _⟩ _
  obtain rfl := mem_singleton.mp hrow
  refine ⟨by decide, ?_⟩
  simp [ServerJournalRequest.nonces, nonceRows, deliveryWith, delivery, cancelRowOf,
    CancelIntentRow.nonces, cancel, sha_ne]

theorem journalRequest_taking : validServerJournalRequest prims (deliveryWith (sha 22)) := by
  refine ⟨pattern_sha _, pattern_sha _, pattern_sha _,
    .inl rfl, sha_ne (by decide), hash_ne_empty (pattern_sha _), .inl rfl,
    .inl rfl, ?_, ?_, ?_⟩
  all_goals decide

/-- A delivery takes the nonce of a requested cancellation, which then cannot be completed. -/
theorem cancellation_nonce_taken : outcomes (exec prims authority) {} (delivering (sha 22)) =
        [.ok (), .ok (), .ok ()] ∧
      ¬ Exclusive (run (exec prims authority) {} (delivering (sha 22))) ∧
      ∀ ev outcome resp, (exec prims authority (run (exec prims authority) {} (delivering (sha 22)))
        (.completeAuditCancellation (cancel 1) ev outcome resp)).2 ≠ .ok () := by
  obtain ⟨hout, hrun⟩ := run_delivering journalRequest_taking
  rw [hrun]
  refine ⟨hout, ?_, ?_⟩
  · intro hexclusive
    have hpending : (delivered (sha 22)).Requested (cancelRowOf prims (cancel 1)) :=
      ⟨by simp [delivered, requested], by simp [delivered, requested, stored]⟩
    have hspares := hexclusive _ hpending _ (mem_singleton.mpr rfl)
      (sha_ne (m := 12) (n := 21) (by decide))
    refine hspares.2 (sha 22) ?_ ?_
    · simp [ServerJournalRequest.nonces, nonceRows, requestCommit, deliveryWith]
    · simp [CancelIntentRow.nonces, cancelRowOf, cancel]
  · intro ev outcome resp
    refine not_complete_of_taken ?_ ?_
    · simp [delivered, requested, stored]
    · simp [delivered, nonceRows, deliveryWith, cancel]

end instances

end Ananke.TrustedSupervisor
