import Ananke.TrustedSupervisor.Acceptance

/-! Requests are committed once. What the keys of the tables guarantee holds after every
sequence of operations, whether they are used with care or not. -/
namespace Ananke.TrustedSupervisor

open Text Validation Relational Machine List

section

variable {β : Type} {p : Primitives β} {auth : AuditJournalAuthority} {j j' : Journal β}

/-- The hashes of the nonces a request uses up. -/
def ServerJournalRequest.nonces (req : ServerJournalRequest β) : List String :=
  (nonceRows req).map NonceRow.nonceHash

/-- The keys of the committed requests. -/
structure Keys (j : Journal β) : Prop where
  requestHashes : (j.requests.map RequestRow.requestHash).Nodup
  operationKeys : (j.requests.map (·.request.operationKey)).Nodup
  nonces : j.nonces = j.requests.flatMap fun row => nonceRows row.request
  fresh : (j.nonces.map NonceRow.nonceHash).Nodup

theorem Keys.frame (h : Keys j) (hr : j'.requests = j.requests) (hn : j'.nonces = j.nonces) :
    Keys j' where
  requestHashes := hr ▸ h.requestHashes
  operationKeys := hr ▸ h.operationKeys
  nonces := by rw [hn, hr, h.nonces]
  fresh := hn ▸ h.fresh

variable {row : RequestRow β}

theorem Keys.commit (h : Keys j) (hk : row.requestHash ∉ j.requests.map RequestRow.requestHash ∧
      row.request.operationKey ∉ j.requests.map (·.request.operationKey))
    (hf : NoncesFresh j row.request) (hr : j'.requests = j.requests ++ [row])
    (hn : j'.nonces = j.nonces ++ nonceRows row.request) : Keys j' where
  requestHashes := hr ▸ nodup_snoc h.requestHashes hk.1
  operationKeys := hr ▸ nodup_snoc h.operationKeys hk.2
  nonces := by
    rw [hn, hr, h.nonces]
    simp
  fresh := by
    rw [hn, map_append, nodup_append]
    refine ⟨h.fresh, hf.1, ?_⟩
    rintro a ha b hb rfl
    obtain ⟨r, hmem, rfl⟩ := mem_map.mp hb
    exact hf.2 r hmem ha

variable {n : String}

theorem Keys.nonce_mem (h : Keys j) (hrow : row ∈ j.requests)
    (hn : n ∈ row.request.nonces) : n ∈ j.nonces.map NonceRow.nonceHash := by
  obtain ⟨_, hr, rfl⟩ := mem_map.mp hn
  rw [h.nonces]
  exact mem_map_of_mem (mem_flatMap.mpr ⟨row, hrow, hr⟩)

variable {row' : RequestRow β}

theorem Keys.nonce_unique (h : Keys j) (hrow : row ∈ j.requests)
    (hrow' : row' ∈ j.requests) (hn : n ∈ row.request.nonces)
    (hn' : n ∈ row'.request.nonces) : row = row' := by
  obtain ⟨r, hr, rfl⟩ := mem_map.mp hn
  obtain ⟨r', hr', heq⟩ := mem_map.mp hn'
  have hmem : r ∈ j.nonces := h.nonces ▸ mem_flatMap.mpr ⟨row, hrow, hr⟩
  have hmem' : r' ∈ j.nonces := h.nonces ▸ mem_flatMap.mpr ⟨row', hrow', hr'⟩
  obtain rfl := eq_of_key_eq h.fresh hmem' hmem heq
  -- each nonce row names the request it comes from
  have hname : ∀ {req : ServerJournalRequest β}, r' ∈ nonceRows req →
      r'.requestHash = req.requestHash := by
    intro req hin
    simp only [nonceRows, mem_append, mem_cons, not_mem_nil, or_false] at hin
    rcases hin with (rfl | rfl) | hin
    · rfl
    · rfl
    · split at hin
      · simp at hin
      · rw [mem_singleton.mp hin]
  exact eq_of_key_eq h.requestHashes hrow hrow' ((hname hr).symm.trans (hname hr'))

/-- The two requests share a hash, an operation key or a nonce. -/
def ServerJournalRequest.Touches (left right : ServerJournalRequest β) : Prop :=
  left.requestHash = right.requestHash ∨ left.operationKey = right.operationKey ∨
    ∃ n ∈ left.nonces, n ∈ right.nonces

theorem Keys.eq_of_touches (h : Keys j) (hrow : row ∈ j.requests)
    (hrow' : row' ∈ j.requests) (ht : row.request.Touches row'.request) : row = row' := by
  rcases ht with heq | heq | ⟨n, hn, hn'⟩
  · exact eq_of_key_eq h.requestHashes hrow hrow' heq
  · exact eq_of_key_eq h.operationKeys hrow hrow' heq
  · exact h.nonce_unique hrow hrow' hn hn'

/-- The request is committed with this response. -/
def Committed (j : Journal β) (requestHash : String) (bytes : β) : Prop :=
  ∃ row ∈ j.requests, row.requestHash = requestHash ∧ row.responseBytes = bytes

theorem Keys.committed_unique (h : Keys j) {requestHash : String} {bytes bytes' : β}
    (hc : Committed j requestHash bytes) (hc' : Committed j requestHash bytes') :
    bytes = bytes' := by
  obtain ⟨_, hrow, hhash, rfl⟩ := hc
  obtain ⟨_, hrow', hhash', rfl⟩ := hc'
  rw [eq_of_key_eq h.requestHashes hrow hrow' (hhash.trans hhash'.symm)]

theorem keys_empty : Keys ({} : Journal β) := ⟨by simp, by simp, by simp, by simp⟩

variable [DecidableEq β] {req : ServerJournalRequest β}
  {build : Option (β → Except Err AuditExecutionIntent)} {resp : Except Err β} {now : Nat}
  {bytes : β} {seen : Bool}

theorem Keys.transact (h : Keys j)
    (hop : transact p auth j req build resp now = .ok (j', bytes, seen)) :
    Keys j' := by
  obtain ⟨_, _, rfl⟩ | ⟨_, _, _, _, _, hkeys, hfresh, _, rfl⟩ := transact_eq_ok hop
  · exact h.frame rfl rfl
  · exact h.commit hkeys hfresh rfl rfl

section

variable (h : Keys j) (hrow : row ∈ j.requests) (ht : row.request.Touches req)
  (hne : row.request ≠ req)
include h hrow ht hne

/-- No transaction succeeds for a request that differs from a committed one it touches. -/
theorem not_transact_of_touches : transact p auth j req build resp now ≠ .ok (j', bytes, seen) := by
  intro hop
  obtain ⟨_, ⟨row', hrow', rfl, _⟩, _⟩ | ⟨row', _, rfl, _, _, ⟨hhash, hkey⟩, hfresh, _⟩ :=
    transact_eq_ok hop
  · exact hne (congrArg _ (h.eq_of_touches hrow hrow' ht))
  · rcases ht with heq | heq | ⟨n, hn, hn'⟩
    · exact hhash (mem_map.mpr ⟨row, hrow, heq⟩)
    · exact hkey (mem_map.mpr ⟨row, hrow, heq⟩)
    · obtain ⟨r, hr, rfl⟩ := mem_map.mp hn'
      exact hfresh.2 r hr (h.nonce_mem hrow hn)

theorem transact_touching (hv : validServerJournalRequest p req ∧
      (build.isSome = true → req.operation = .deliver))
    (hvalid : validateServerJournalContent p auth j = .ok ()) :
    transact p auth j req build resp now = .error .replay := by
  rw [transact, require_of hv, ok_bind, hvalid, ok_bind]
  cases hsel : select RequestRow.requestHash req.requestHash j.requests with
  | some row' =>
    have hne' : row'.request ≠ req := by
      intro heq
      have hmem := mem_of_find?_eq_some hsel
      have hsame := h.eq_of_touches hrow hmem (heq ▸ ht)
      exact hne (hsame ▸ heq)
    dsimp only
    rw [replayRequest, require_of_not hne', error_bind]
  | none =>
    have hhash : row.request.requestHash ≠ req.requestHash := fun heq =>
      select_eq_none.mp hsel (mem_map.mpr ⟨row, hrow, heq⟩)
    dsimp only
    rw [acceptRequest]
    by_cases hkey : ∀ r ∈ j.requests, r.request.operationKey ≠ req.operationKey
    · rw [require_of hkey, ok_bind, require_of_not, error_bind]
      rcases ht with heq | heq | ⟨n, hn, hn'⟩
      · exact absurd heq hhash
      · exact absurd heq (hkey row hrow)
      · intro hfresh
        obtain ⟨r, hr, rfl⟩ := mem_map.mp (h.nonce_mem hrow hn)
        exact hfresh r hr (mem_nonces hn')
    · rw [require_of_not hkey, error_bind]

end

/-- A call of `transact`, with what its callbacks return. -/
structure TransactCall (β : Type) where
  request : ServerJournalRequest β
  build : Option (β → Except Err AuditExecutionIntent)
  response : Except Err β
  now : Nat

/-- Whether the process lives to give the answer, and if not, where it stops. -/
inductive Fate
  | returns
  | stopsBeforeCommit
  | stopsAfterCommit

/-- The journal after a call, and the answer that the caller sees. -/
def settle (j : Journal β) (res : Except Err (Journal β × β × Bool)) :
    Fate → Journal β × Option (Except Err β)
  | .returns =>
    match res with
    | .ok (j', bytes, _) => (j', some (.ok bytes))
    | .error e => (j, some (.error e))
  | .stopsBeforeCommit => (j, none)
  | .stopsAfterCommit =>
    match res with
    | .ok (j', _, _) => (j', none)
    | .error _ => (j, none)

def call (p : Primitives β) (auth : AuditJournalAuthority) (j : Journal β)
    (x : TransactCall β × Fate) : Journal β × Option (Except Err β) :=
  settle j (transact p auth j x.1.request x.1.build x.1.response x.1.now) x.2

theorem call_returns {c : TransactCall β}
    (h : transact p auth j c.request c.build c.response c.now = .ok (j', bytes, seen)) :
    call p auth j (c, .returns) = (j', some (.ok bytes)) := by
  rw [call, h]
  rfl

theorem call_cases (x : TransactCall β × Fate) :
    (call p auth j x).1 = j ∧ (∀ bytes, (call p auth j x).2 ≠ some (.ok bytes)) ∨ ∃ j' bytes seen,
        transact p auth j x.1.request x.1.build x.1.response x.1.now = .ok (j', bytes, seen) ∧
        (call p auth j x).1 = j' ∧
        ∀ b, (call p auth j x).2 = some (.ok b) → b = bytes := by
  obtain ⟨c, fate⟩ := x
  unfold call
  cases transact p auth j c.request c.build c.response c.now with
  | error e => cases fate <;> simp [settle]
  | ok r =>
    obtain ⟨j', bytes, seen⟩ := r
    cases fate with
    | stopsBeforeCommit => simp [settle]
    | returns | stopsAfterCommit => exact .inr ⟨j', bytes, seen, rfl, rfl, by simp [settle]⟩

variable {calls : List (TransactCall β × Fate)}

theorem keys_call (h : Keys j) (x : TransactCall β × Fate) : Keys (call p auth j x).1 := by
  obtain ⟨hj, _⟩ | ⟨_, _, _, hop, hj, _⟩ := call_cases x
  · exact hj ▸ h
  · exact hj ▸ h.transact hop

theorem keys_calls (h : Keys j) : Keys (run (call p auth) j calls) :=
  invariant_run (fun _ x hj => keys_call hj x) h

theorem requests_call (x : TransactCall β × Fate) :
    j.requests <+: (call p auth j x).1.requests := by
  obtain ⟨hj, _⟩ | ⟨_, _, _, hop, hj, _⟩ := call_cases x
  · exact hj ▸ prefix_refl _
  · rw [hj]
    obtain ⟨_, _, rfl⟩ | ⟨_, _, _, _, _, _, _, _, rfl⟩ := transact_eq_ok hop
    · exact prefix_refl _
    · exact prefix_append _ _

theorem requests_calls : j.requests <+: (run (call p auth) j calls).requests := by
  induction calls generalizing j with
  | nil => exact prefix_refl _
  | cons x calls ih => exact (requests_call x).trans ih

theorem committed_call {x : TransactCall β × Fate} (h : (call p auth j x).2 = some (.ok bytes)) :
    Committed (call p auth j x).1 x.1.request.requestHash bytes := by
  obtain ⟨_, hno⟩ | ⟨_, _, _, hop, hj, hb⟩ := call_cases x
  · exact absurd h (hno bytes)
  · rw [hj, hb bytes h]
    obtain ⟨_, ⟨row, hrow, hreq, hbytes⟩, rfl⟩ | ⟨row, _, hreq, hbytes, _, _, _, _, rfl⟩ :=
      transact_eq_ok hop
    · exact ⟨row, hrow, congrArg _ hreq, hbytes⟩
    · exact ⟨row, by simp, congrArg _ hreq, hbytes⟩

theorem committed_of_answer {x : (TransactCall β × Fate) × Option (Except Err β)}
    (hx : x ∈ calls.zip (outcomes (call p auth) j calls)) (h : x.2 = some (.ok bytes)) :
    Committed (run (call p auth) j calls) x.1.1.request.requestHash bytes := by
  induction calls generalizing j with
  | nil => simp [outcomes] at hx
  | cons y calls ih =>
    rw [outcomes, zip_cons_cons, mem_cons] at hx
    rcases hx with rfl | hx
    · obtain ⟨row, hrow, hc⟩ := committed_call h
      rw [run_cons]
      exact ⟨row, requests_calls.subset hrow, hc⟩
    · exact ih hx

theorem sound_calls (hp : p.Lawful) (hb : ∀ x ∈ calls, BuildsResolved auth x.1.build x.1.response) :
    Sound p auth (run (call p auth) {} calls) := by
  refine invariant_mem (fun j x hx hj => ?_) Sound.empty
  obtain ⟨heq, _⟩ | ⟨_, _, _, hop, heq, _⟩ := call_cases x
  · exact heq ▸ hj
  · exact heq ▸ hj.transact hp (fun _ => hb x hx) hop

/-- Transactions are exactly once. After any calls, with the process stopping anywhere:
answers for one request hash agree and their commits last; request hashes, operation keys and
nonces are used by one committed request each; and a request that touches a committed one
from which it differs changes nothing and is answered as a replay, where it is well formed
and the journal can be read. A malformed call is a protocol error, and where the journal cannot be
read every other call is answered with what its validation says. -/
theorem transact_exactly_once (calls : List (TransactCall β × Fate)) :
    let j := run (call p auth) {} calls
    let answers := calls.zip (outcomes (call p auth) {} calls)
    (∀ x ∈ answers, ∀ y ∈ answers, ∀ bytes bytes', x.2 = some (.ok bytes) →
      y.2 = some (.ok bytes') → x.1.1.request.requestHash = y.1.1.request.requestHash →
      bytes = bytes') ∧
    (∀ more, j.requests <+: (run (call p auth) j more).requests) ∧
    (j.requests.map RequestRow.requestHash).Nodup ∧
    (j.requests.map (·.request.operationKey)).Nodup ∧
    (∀ row ∈ j.requests, ∀ row' ∈ j.requests, ∀ n ∈ row.request.nonces,
      n ∈ row'.request.nonces → row = row') ∧
    (∀ x : TransactCall β × Fate,
      (∃ row ∈ j.requests, row.request.Touches x.1.request ∧ row.request ≠ x.1.request) →
      (call p auth j x).1 = j ∧ (∀ bytes, (call p auth j x).2 ≠ some (.ok bytes)) ∧
      (validServerJournalRequest p x.1.request →
        (x.1.build.isSome = true → x.1.request.operation = .deliver) →
        validateServerJournalContent p auth j = .ok () → x.2 = .returns →
        (call p auth j x).2 = some (.error .replay))) ∧
    (p.Lawful → (∀ x ∈ calls, BuildsResolved auth x.1.build x.1.response) →
      validateServerJournalContent p auth j = .ok ()) ∧
    ∀ c : TransactCall β,
      let wellFormed := validServerJournalRequest p c.request ∧
        (c.build.isSome = true → c.request.operation = .deliver)
      (¬ wellFormed → (call p auth j (c, .returns)).2 = some (.error .protocol)) ∧
      (wellFormed → ∀ e, validateServerJournalContent p auth j = .error e →
        (call p auth j (c, .returns)).2 = some (.error e)) := by
  intro j answers
  have hkeys : Keys j := keys_calls keys_empty
  refine ⟨?_, fun more => requests_calls, hkeys.requestHashes, hkeys.operationKeys,
    fun row hrow row' hrow' n hn hn' => hkeys.nonce_unique hrow hrow' hn hn', ?_,
    fun hp hb => (sound_calls hp hb).validate hp, fun c => ⟨fun hbad => ?_, fun hwell e he => ?_⟩⟩
  · intro x hx y hy bytes bytes' hxb hyb hhash
    have hc' := committed_of_answer hy hyb
    rw [← hhash] at hc'
    exact hkeys.committed_unique (committed_of_answer hx hxb) hc'
  · rintro x ⟨_, hrow, ht, hne⟩
    obtain ⟨hj, hno⟩ | ⟨_, _, _, hop, _⟩ := call_cases x
    · refine ⟨hj, hno, fun hv hb hvalid hret => ?_⟩
      rw [call, transact_touching hkeys hrow ht hne ⟨hv, hb⟩ hvalid, hret]
      rfl
    · exact absurd hop (not_transact_of_touches hkeys hrow ht hne)
  · rw [call, transact, require_of_not hbad]
    rfl
  · rw [call, transact, require_of hwell, he]
    rfl

end

section instances

open Instance

/-- The delivery without its bytes. -/
def truncated : ServerJournalRequest (List Token) := { delivery with requestBytes := [] }

/-- A request that names a committed hash but is malformed is not answered as a replay. -/
theorem malformed_not_replay :
    let j := run (call prims authority) {} [(⟨delivery, none, .ok [.text "receipt"], 0⟩, .returns)]
    (∃ row ∈ j.requests, row.requestHash = truncated.requestHash ∧ row.request ≠ truncated) ∧
      (call prims authority j (⟨truncated, none, .ok [.text "receipt"], 0⟩,
        .returns)).2 = some (.error .protocol) := by
  have hsize : 0 < prims.size [.text "receipt"] ∧
    prims.size [.text "receipt"] ≤ maxFrameBytes := by decide
  have hsound : Sound prims authority {} := Sound.empty
  have hop := call_returns (c := ⟨delivery, none, .ok [.text "receipt"], 0⟩)
    (transact_accepted hsound lawful journalRequest_delivery (by simp) (by simp) hsize 0)
  have hbad : ¬ (validServerJournalRequest prims truncated ∧
      ((none : Option (List Token → Except Err AuditExecutionIntent)).isSome = true →
        truncated.operation = .deliver)) := by
    rintro ⟨⟨_, _, _, _, _, _, _, _, _, hempty, _⟩, _⟩
    exact absurd hempty (by decide)
  refine ⟨⟨requestCommit prims delivery [.text "receipt"] 0, ?_, rfl, ?_⟩, ?_⟩
  · rw [run_cons, hop]
    simp
  · intro h
    exact absurd (congrArg ServerJournalRequest.requestBytes h) (by decide)
  · rw [call, transact, require_of_not hbad]
    rfl

end instances

end Ananke.TrustedSupervisor
