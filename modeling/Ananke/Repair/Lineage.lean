import Ananke.Machine.Memory
import Ananke.Machine.Run
import Ananke.Repair.Authorization

/-! Lines of authorizations: the second attempt of a repair is authorized only after the first,
for the same work and by a later approval, and what was authorized does not change with the
values that the caller passed in. -/
namespace Ananke.Repair

open Machine List

variable {β : Type} (p : Primitives β)

/-- What the caller read from durable records is consistent and fits the release. -/
def validateAuthorityContext (want : AuthorityContext) : Bool :=
  let ev := want.guiApprovalEvent
  let approval := approvalFromAuthority ev
  validHash want.repairLineageHash &&
    want.p4.schemaVersion = "ananke.controlled-repair-p4-binding.v1" &&
    validHash want.p4.p4ProposalHash &&
    want.p4.attemptNumber = want.attemptNumber &&
    want.p4.attemptCap = want.attemptCap && 1 ≤ want.attemptNumber &&
    want.attemptNumber ≤ attemptCap && want.attemptCap = attemptCap &&
    want.repository.schemaVersion = "ananke.controlled-repair-repository-binding.v1" &&
    gitObjectPattern want.repository.baseCommit &&
    gitObjectPattern want.repository.baseTree &&
    want.route.schemaVersion = "ananke.controlled-repair-route-binding.v1" &&
    want.expectedPeer.schemaVersion = "ananke.controlled-repair-unix-peer-identity.v1" &&
    validFullFence want.p4.fullFence &&
    validRepositoryIdentity want.repository.repositoryIdentity &&
    validClosedIdentifier want.route.routeID 128 &&
    validClosedIdentifier want.route.supervisorProfileID 128 &&
    validClosedIdentifier want.expectedPeer.peerRole 128 &&
    want.installedPolicyHash = p.frozen.pins.supervisorPolicyHash &&
    want.installedSupervisorProfileHash = p.frozen.pins.supervisorProfileHash &&
    want.route.supervisorProfileHash = want.installedSupervisorProfileHash &&
    want.rotationMode = "forbidden_v1" &&
    ev.schemaVersion = "ananke.controlled-repair-operator-approval.v1" &&
    ev.approvalID ≠ "" && ev.decision = "approved" && ev.operatorIdentity ≠ "" &&
    ev.authenticationProvenance ≠ "" && validateAllHashStrings want.p4.hashes &&
    validateAllHashStrings want.repository.hashes &&
    recordHashMatches p.toCanonical want.p4.fullFence.content want.p4.fullFence.fenceHash &&
    recordHashMatches p.toCanonical want.p4.content want.p4.p4FactHash &&
    recordHashMatches p.toCanonical want.repository.content want.repository.repositoryBindingHash &&
    recordHashMatches p.toCanonical want.route.content want.route.routeBindingHash &&
    recordHashMatches p.toCanonical want.expectedPeer.content want.expectedPeer.peerIdentityHash &&
    !want.writablePaths.isEmpty && !want.testProfiles.isEmpty &&
    !hasDuplicatePaths want.writablePaths && !hasDuplicateProfiles want.testProfiles &&
    validateWritablePaths p want.writablePaths &&
    validateTestProfiles p want.testProfiles &&
    recordHashMatches p.toCanonical approval.content approval.approvalHash

def sameRepairAuthority (prev cur : AuthorizationScope) : Bool :=
  prev.repairLineageHash = cur.repairLineageHash &&
    prev.p4.p4ProposalHash = cur.p4.p4ProposalHash &&
    prev.p4.p4InputHash = cur.p4.p4InputHash &&
    prev.p4.p4EvidenceBundleHash = cur.p4.p4EvidenceBundleHash &&
    prev.p4.p4AdmissionHash = cur.p4.p4AdmissionHash &&
    prev.p4.fullFence = cur.p4.fullFence && prev.p4.attemptCap = cur.p4.attemptCap &&
    prev.repository = cur.repository &&
    prev.writablePaths = cur.writablePaths &&
    prev.testProfiles = cur.testProfiles && prev.route = cur.route &&
    prev.channelBindingHash = cur.channelBindingHash &&
    prev.expectedPeer = cur.expectedPeer && prev.policyHash = cur.policyHash &&
    prev.rotationMode = cur.rotationMode

section Verification

variable [DecidableEq β]

/-- The approval of the second attempt is another one, and later. -/
def laterApproval (prev cur : OperatorApproval) : Bool :=
  match p.parseUTC prev.approvedAt, p.parseUTC cur.approvedAt with
  | some previousApprovedAt, some currentApprovedAt =>
    previousApprovedAt < currentApprovedAt && cur.approvalID ≠ prev.approvalID &&
      cur.guiProvenanceHash ≠ prev.guiProvenanceHash &&
      cur.approvalHash ≠ prev.approvalHash
  | _, _ => false

def validateAuthorizationPredecessor (cur : Authorization)
    (pred : Option (VerifiedAuthorization β)) : Bool :=
  let attempt := cur.scope.attempt
  if attempt.attemptNumber = 1 then
    pred.isNone && attempt.previousAuthorizationHash = ""
  else
    match pred with
    | none => false
    | some prev =>
      verifiedAuthorizationIntact p prev && prev.authorization.scope.attempt.attemptNumber = 1 &&
        prev.authorization.scope.attempt.attemptCap = attemptCap &&
        attempt.previousAuthorizationHash = prev.authorization.authorizationHash &&
        sameRepairAuthority prev.authorization.scope cur.scope &&
        laterApproval p prev.authorization.approval cur.approval &&
        match p.canonicalBytes cur.toValue with
        | none => false
        | some currentBytes => currentBytes ≠ prev.canonical

inductive ContractError
  | invalidContract

/-- All that is checked before the canonical bytes are made. -/
def authorizationAdmissible (want : AuthorityContext) (cur : Authorization)
    (pred : Option (VerifiedAuthorization β)) (now : Int) : Bool :=
  verifyReleaseTrust p p.frozen now && validateAuthorityContext p want &&
    validateAuthorizationRecord p cur now && authorizationMatchesAuthority want cur &&
    validateAuthorizationPredecessor p cur pred

/-- `VerifyAuthorization`, on what its arguments say when it is called. Admission and effect
are checked alike. -/
def verifyAuthorization (want : AuthorityContext) (cur : Authorization)
    (pred : Option (VerifiedAuthorization β)) (now : Int) (_moment : ValidationMoment) :
    Except ContractError (VerifiedAuthorization β) :=
  if !authorizationAdmissible p want cur pred now then .error .invalidContract
  else
    match p.canonicalBytes cur.toValue with
    | none => .error .invalidContract
    | some canonical => .ok ⟨true, cur, want, canonical⟩

end Verification

/-! The records are passed by value, but their paths and profiles are slices. -/

/-- The slices of a record. -/
structure Slices where
  (writablePaths testProfiles : Slice)

/-- The arrays behind the slices. -/
structure Arrays where
  writablePaths : Memory WritablePathBinding
  testProfiles : Memory TestProfileBinding

/-- A record apart from what its slices hold. -/
structure Sliced (α : Type) where
  record : α
  slices : Slices

def Arrays.authorization (m : Arrays) (x : Sliced Authorization) : Authorization :=
  { x.record with scope :=
    { x.record.scope with
      writablePaths := m.writablePaths.read x.slices.writablePaths
      testProfiles := m.testProfiles.read x.slices.testProfiles } }

def Arrays.authority (m : Arrays) (x : Sliced AuthorityContext) : AuthorityContext :=
  { x.record with
    writablePaths := m.writablePaths.read x.slices.writablePaths
    testProfiles := m.testProfiles.read x.slices.testProfiles }

/-- The slices are parts of arrays that there are. -/
def Arrays.Holds (m : Arrays) (x : Slices) : Prop :=
  x.writablePaths.array < m.writablePaths.arrays.length ∧
    x.testProfiles.array < m.testProfiles.arrays.length

instance (m : Arrays) (x : Slices) : Decidable (m.Holds x) :=
  inferInstanceAs (Decidable (_ ∧ _))

/-- `cloneAuthorization` and `cloneAuthorityContext`. -/
def Arrays.clone {α : Type} (m : Arrays) (x : Sliced α) : Arrays × Sliced α :=
  let paths := m.writablePaths.clone x.slices.writablePaths
  let profiles := m.testProfiles.clone x.slices.testProfiles
  (⟨paths.1, profiles.1⟩, ⟨x.record, paths.2, profiles.2⟩)

/-- A capability, as it is kept. -/
structure Capability (β : Type) where
  valid : Bool
  authorization : Sliced Authorization
  authority : Sliced AuthorityContext
  canonical : β

/-- The capability that is returned has copies of the slices it was called with. -/
def Arrays.mint (m : Arrays) (want : Sliced AuthorityContext) (cur : Sliced Authorization)
    (valid : Bool) (canonical : β) : Arrays × Capability β :=
  let authorization := m.clone cur
  let auth := authorization.1.clone want
  (auth.1, ⟨valid, authorization.2, auth.2, canonical⟩)

/-- What a capability says. -/
def Arrays.verified (m : Arrays) (c : Capability β) : VerifiedAuthorization β :=
  ⟨c.valid, m.authorization c.authorization, m.authority c.authority, c.canonical⟩

/-- The memory, and the capabilities that were returned, oldest first. -/
structure Authorizations (β : Type) where
  arrays : Arrays
  returned : List (Capability β)

def Authorizations.empty : Authorizations β := ⟨⟨.empty, .empty⟩, []⟩

/-- What a caller can do. The capabilities are opaque, so a predecessor is one of those that
were returned, named by its number. -/
inductive AuthorizationOp
  | sharePaths (paths : List WritablePathBinding)
  | shareProfiles (profiles : List TestProfileBinding)
  | writePath (address index : Nat) (path : WritablePathBinding)
  | writeProfile (address index : Nat) (profile : TestProfileBinding)
  | verify (expected : Sliced AuthorityContext) (current : Sliced Authorization)
      (predecessor : Option Nat) (now : Int) (moment : ValidationMoment)

section Calls

variable [DecidableEq β]

variable (s : Authorizations β)

/-- The capability with this number; a number that names none is a nil pointer. -/
def Authorizations.predecessor (number : Option Nat) : Option (VerifiedAuthorization β) :=
  number.bind fun i => s.returned[i]?.map s.arrays.verified

/-- A call of `VerifyAuthorization`. -/
def verifyCall (want : Sliced AuthorityContext)
    (cur : Sliced Authorization) (pred : Option Nat) (now : Int)
    (moment : ValidationMoment) : Authorizations β × Except ContractError Unit :=
  match verifyAuthorization p (s.arrays.authority want) (s.arrays.authorization cur)
      (s.predecessor pred) now moment with
  | .error e => (s, .error e)
  | .ok verified =>
    let minted := s.arrays.mint want cur verified.valid verified.canonical
    (⟨minted.1, s.returned ++ [minted.2]⟩, .ok ())

def execAuthorization : AuthorizationOp → Authorizations β × Except ContractError Unit
  | .sharePaths paths =>
    ({ s with arrays := { s.arrays with writablePaths := s.arrays.writablePaths.share paths } },
      .ok ())
  | .shareProfiles profiles =>
    ({ s with arrays := { s.arrays with testProfiles := s.arrays.testProfiles.share profiles } },
      .ok ())
  | .writePath address index path =>
    ({ s with arrays := { s.arrays with
        writablePaths := s.arrays.writablePaths.write address index path } }, .ok ())
  | .writeProfile address index profile =>
    ({ s with arrays := { s.arrays with
        testProfiles := s.arrays.testProfiles.write address index profile } }, .ok ())
  | .verify want cur pred now moment =>
    -- there are no other slices to call it with
    if s.arrays.Holds want.slices ∧ s.arrays.Holds cur.slices then
      verifyCall p s want cur pred now moment
    else (s, .error .invalidContract)

/-- The second authorization is for the work of the first, under a later approval. -/
structure Renews (previous current : Authorization) : Prop where
  first : previous.scope.attempt.attemptNumber = 1
  named : current.scope.attempt.previousAuthorizationHash = previous.authorizationHash
  lineage : current.scope.repairLineageHash = previous.scope.repairLineageHash
  proposal : current.scope.p4.p4ProposalHash = previous.scope.p4.p4ProposalHash
  input : current.scope.p4.p4InputHash = previous.scope.p4.p4InputHash
  evidence : current.scope.p4.p4EvidenceBundleHash = previous.scope.p4.p4EvidenceBundleHash
  admission : current.scope.p4.p4AdmissionHash = previous.scope.p4.p4AdmissionHash
  fence : current.scope.p4.fullFence = previous.scope.p4.fullFence
  repository : current.scope.repository = previous.scope.repository
  writablePaths : current.scope.writablePaths = previous.scope.writablePaths
  testProfiles : current.scope.testProfiles = previous.scope.testProfiles
  route : current.scope.route = previous.scope.route
  channel : current.scope.channelBindingHash = previous.scope.channelBindingHash
  peer : current.scope.expectedPeer = previous.scope.expectedPeer
  policy : current.scope.policyHash = previous.scope.policyHash
  rotation : current.scope.rotationMode = previous.scope.rotationMode
  later : ∃ earlier later, p.parseUTC previous.approval.approvedAt = some earlier ∧
    p.parseUTC current.approval.approvedAt = some later ∧ earlier < later
  approvalID : current.approval.approvalID ≠ previous.approval.approvalID
  provenance : current.approval.guiProvenanceHash ≠ previous.approval.guiProvenanceHash
  approvalHash : current.approval.approvalHash ≠ previous.approval.approvalHash

/-- What is true of a capability that was returned after these. -/
structure Granted (before : List (VerifiedAuthorization β)) (verified : VerifiedAuthorization β) :
    Prop where
  intact : verifiedAuthorizationIntact p verified = true
  withinCap : 1 ≤ verified.authorization.scope.attempt.attemptNumber ∧
    verified.authorization.scope.attempt.attemptNumber ≤ attemptCap
  renews : verified.authorization.scope.attempt.attemptNumber = 2 →
    ∃ previous ∈ before, Renews p previous.authorization verified.authorization

/-- Whatever was returned is granted after what was returned before it. -/
def Chained : Prop :=
  ∀ (i : Nat) (c : Capability β), s.returned[i]? = some c →
    Granted p ((s.returned.take i).map s.arrays.verified) (s.arrays.verified c)

/-- Each capability of the first state is one of the second, and says the same there. -/
def Authorizations.Stays (s s' : Authorizations β) : Prop :=
  ∀ (i : Nat) (c : Capability β), s.returned[i]? = some c →
    s'.returned[i]? = some c ∧ s'.arrays.verified c = s.arrays.verified c

variable {p} {pred : Option (VerifiedAuthorization β)} {cur : Authorization}

theorem renews_of_validate (h : validateAuthorizationPredecessor p cur pred = true)
    (hsnd : cur.scope.attempt.attemptNumber = 2) :
    ∃ prev, pred = some prev ∧ Renews p prev.authorization cur := by
  unfold validateAuthorizationPredecessor at h
  simp only [hsnd] at h
  split at h
  next hone => simp at hone
  · split at h
    · cases h
    next prev =>
      simp only [checks_iff, sameRepairAuthority, and_assoc] at h
      obtain ⟨-, hfirst, -, hnamed, hlin, hprop, hinput, hevid, hadm, hfence, -,
        hrepo, hpaths, hprof, hroute, hchannel, hpeer, hpolicy, hrot, hlater, -⟩ := h
      unfold laterApproval at hlater
      split at hlater
      next earlier later hearl hlater' =>
        simp only [checks_iff, and_assoc] at hlater
        obtain ⟨hlt, hid, hprovenance, hhash⟩ := hlater
        exact ⟨prev, rfl,
          { first := hfirst, named := hnamed, lineage := hlin.symm, proposal := hprop.symm
            input := hinput.symm, evidence := hevid.symm, admission := hadm.symm
            fence := hfence.symm, repository := hrepo.symm, writablePaths := hpaths.symm
            testProfiles := hprof.symm, route := hroute.symm, channel := hchannel.symm
            peer := hpeer.symm, policy := hpolicy.symm, rotation := hrot.symm
            later := ⟨earlier, later, hearl, hlater', hlt⟩, approvalID := hid
            provenance := hprovenance, approvalHash := hhash }⟩
      · cases hlater

variable {verified : VerifiedAuthorization β} {want : AuthorityContext} {moment : ValidationMoment}

theorem verifyAuthorization_ok {now : Int}
    (h : verifyAuthorization p want cur pred now moment = .ok verified) :
    verified.authorization = cur ∧ verified.authority = want ∧
      verifiedAuthorizationIntact p verified = true ∧
      1 ≤ cur.scope.attempt.attemptNumber ∧
      cur.scope.attempt.attemptNumber ≤ attemptCap ∧
      validateAuthorizationPredecessor p cur pred = true := by
  unfold verifyAuthorization at h
  split at h
  · cases h
  next hadm =>
    split at h
    · cases h
    next canonical hcanon =>
      obtain rfl := Except.ok.inj h
      simp only [Bool.not_eq_true', Bool.not_eq_false, authorizationAdmissible, Bool.and_eq_true]
        at hadm
      obtain ⟨⟨⟨-, hrec⟩, -⟩, hpred⟩ := hadm
      simp only [validateAuthorizationRecord, authorizationHashesMatch, checks_iff,
        and_assoc] at hrec
      obtain ⟨-, -, -, -, -, -, -, -, hone, hcap, -, -, -, -, -, -, -, -, -, hhash, -⟩ := hrec
      refine ⟨rfl, rfl, ?_, hone, hcap, hpred⟩
      simp [verifiedAuthorizationIntact, hcanon, hhash]

theorem granted_of_verify {now : Int} {before : List (VerifiedAuthorization β)}
    (h : verifyAuthorization p want cur pred now moment = .ok verified)
    (hpre : ∀ prev ∈ pred, prev ∈ before) : Granted p before verified := by
  obtain ⟨rfl, -, hint, hone, hcap, hpred⟩ := verifyAuthorization_ok h
  refine ⟨hint, ⟨hone, hcap⟩, ?_⟩
  intro hsnd
  obtain ⟨prev, hprev, hrenews⟩ := renews_of_validate hpred hsnd
  exact ⟨prev, hpre prev hprev, hrenews⟩

end Calls

/-! What the caller does to its arrays leaves the arrays of the capabilities as they are. -/

variable (m : Arrays)

def Slices.Private (x : Slices) : Prop :=
  m.writablePaths.Private x.writablePaths ∧ m.testProfiles.Private x.testProfiles

/-- The caller holds none of the arrays of the capability. -/
def Capability.Private (c : Capability β) : Prop :=
  c.authorization.slices.Private m ∧ c.authority.slices.Private m

def Arrays.Keeps (m m' : Arrays) : Prop :=
  m.writablePaths.Keeps m'.writablePaths ∧ m.testProfiles.Keeps m'.testProfiles

theorem Arrays.Keeps.trans {m m' m'' : Arrays} (h : m.Keeps m') (h' : m'.Keeps m'') :
    m.Keeps m'' := ⟨h.1.trans h'.1, h.2.trans h'.2⟩

theorem Arrays.Keeps.slices {m m' : Arrays} (h : m.Keeps m') {x : Slices} (hx : x.Private m) :
    x.Private m' ∧ m'.writablePaths.read x.writablePaths = m.writablePaths.read x.writablePaths ∧
      m'.testProfiles.read x.testProfiles = m.testProfiles.read x.testProfiles := by
  obtain ⟨hpaths, hpaths'⟩ := h.1 _ hx.1
  obtain ⟨hprof, hprof'⟩ := h.2 _ hx.2
  exact ⟨⟨hpaths, hprof⟩, hpaths', hprof'⟩

theorem Arrays.Keeps.verified {m m' : Arrays} (h : m.Keeps m') {c : Capability β}
    (hc : c.Private m) : c.Private m' ∧ m'.verified c = m.verified c := by
  obtain ⟨hauth, hpaths, hprof⟩ := h.slices hc.1
  obtain ⟨hauthority, hpaths', hprof'⟩ := h.slices hc.2
  refine ⟨⟨hauth, hauthority⟩, ?_⟩
  simp only [Arrays.verified, Arrays.authorization, Arrays.authority, hpaths, hprof, hpaths',
    hprof']

variable {α : Type}

theorem keeps_clone (x : Sliced α) : m.Keeps (m.clone x).1 :=
  ⟨Memory.keeps_clone _ _, Memory.keeps_clone _ _⟩

theorem private_clone (x : Sliced α) : (m.clone x).2.slices.Private (m.clone x).1 :=
  ⟨Memory.private_clone _ _, Memory.private_clone _ _⟩

theorem authority_clone (x : Sliced AuthorityContext) :
    (m.clone x).1.authority (m.clone x).2 = m.authority x := by
  simp only [Arrays.authority, Arrays.clone, Memory.read_clone]

theorem authority_clone_of_holds (y : Sliced α)
    {x : Sliced AuthorityContext} (h : m.Holds x.slices) :
    (m.clone y).1.authority x = m.authority x := by
  simp only [Arrays.authority, Arrays.clone, Memory.read_clone_of_lt _ _ h.1,
    Memory.read_clone_of_lt _ _ h.2]

/-- The copy of the authorization is made first, and the second copy leaves it as it is. -/
theorem authorization_clone_clone (x : Sliced Authorization) (y : Sliced α) :
    ((m.clone x).1.clone y).1.authorization (m.clone x).2 = m.authorization x := by
  obtain ⟨-, hpaths, hprof⟩ := (keeps_clone (m.clone x).1 y).slices (private_clone m x)
  have hpaths' : (m.clone x).1.writablePaths.read (m.clone x).2.slices.writablePaths =
      m.writablePaths.read x.slices.writablePaths := Memory.read_clone _ _
  have hprof' : (m.clone x).1.testProfiles.read (m.clone x).2.slices.testProfiles =
      m.testProfiles.read x.slices.testProfiles := Memory.read_clone _ _
  have hrec : (m.clone x).2.record = x.record := rfl
  simp only [Arrays.authorization, hrec, hpaths, hprof, hpaths', hprof']

variable {want : Sliced AuthorityContext}

theorem mint_spec {m : Arrays}
    (hexp : m.Holds want.slices) (cur : Sliced Authorization) (valid : Bool)
    (canonical : β) :
    m.Keeps (m.mint want cur valid canonical).1 ∧
      (m.mint want cur valid canonical).2.Private (m.mint want cur valid canonical).1 ∧
      (m.mint want cur valid canonical).1.verified (m.mint want cur valid canonical).2 =
        ⟨valid, m.authorization cur, m.authority want, canonical⟩ := by
  have hkeeps := keeps_clone m cur
  have hkeeps' := keeps_clone (m.clone cur).1 want
  have hpriv := (hkeeps'.slices (private_clone m cur)).1
  refine ⟨hkeeps.trans hkeeps', ⟨hpriv, private_clone _ _⟩, ?_⟩
  simp only [Arrays.verified, Arrays.mint, authorization_clone_clone, authority_clone,
    authority_clone_of_holds m cur hexp]

section Runs

variable [DecidableEq β] {p} {s s' : Authorizations β}

variable (p) in
/-- What an operation can do: arrays that the caller does not hold are kept, and at most one
capability is returned, with arrays of its own. -/
structure Extends (s s' : Authorizations β) : Prop where
  keeps : s.arrays.Keeps s'.arrays
  returned : s'.returned = s.returned ∨ ∃ c, s'.returned = s.returned ++ [c] ∧
    c.Private s'.arrays ∧ Granted p (s.returned.map s.arrays.verified) (s'.arrays.verified c)

theorem extends_verifyCall {s : Authorizations β}
    (hexp : s.arrays.Holds want.slices) (cur : Sliced Authorization)
    (pred : Option Nat) (now : Int) (moment : ValidationMoment) :
    Extends p s (verifyCall p s want cur pred now moment).1 := by
  unfold verifyCall
  split
  · exact ⟨⟨.refl _, .refl _⟩, .inl rfl⟩
  next verified hver =>
    obtain ⟨hkeeps, hpriv, htold⟩ :=
      mint_spec hexp cur verified.valid verified.canonical
    refine ⟨hkeeps, .inr ⟨_, rfl, hpriv, ?_⟩⟩
    -- the copies say what was verified: nothing comes between the checks and the copies
    obtain ⟨hauth, hauthority, -⟩ := verifyAuthorization_ok hver
    have hgranted : Granted p (s.returned.map s.arrays.verified) verified := by
      refine granted_of_verify hver ?_
      intro prev hprev
      obtain ⟨_, -, hi⟩ := Option.bind_eq_some_iff.mp hprev
      obtain ⟨_, hc, rfl⟩ := Option.map_eq_some_iff.mp hi
      exact mem_map_of_mem (mem_of_getElem? hc)
    rw [htold, ← hauth, ← hauthority]
    exact hgranted

theorem extends_exec (s : Authorizations β) (op : AuthorizationOp) :
    Extends p s (execAuthorization p s op).1 := by
  cases op with
  | sharePaths => exact ⟨⟨Memory.keeps_share _ _, .refl _⟩, .inl rfl⟩
  | shareProfiles => exact ⟨⟨.refl _, Memory.keeps_share _ _⟩, .inl rfl⟩
  | writePath => exact ⟨⟨Memory.keeps_write _ _ _ _, .refl _⟩, .inl rfl⟩
  | writeProfile =>
    exact ⟨⟨.refl _, Memory.keeps_write _ _ _ _⟩, .inl rfl⟩
  | verify want cur pred now moment =>
    simp only [execAuthorization]
    split
    next hholds => exact extends_verifyCall hholds.1 cur pred now moment
    · exact ⟨⟨.refl _, .refl _⟩, .inl rfl⟩

variable (p) in
/-- Every capability has arrays of its own, and is granted. -/
structure Secure (s : Authorizations β) : Prop where
  secret : ∀ c ∈ s.returned, c.Private s.arrays
  chained : Chained p s

theorem Extends.stays (h : Extends p s s') (hsecret : ∀ c ∈ s.returned, c.Private s.arrays) :
    s.Stays s' := by
  intro i c hc
  refine ⟨?_, (h.keeps.verified (hsecret c (mem_of_getElem? hc))).2⟩
  obtain hsame | ⟨_, hsnoc, -⟩ := h.returned
  · rw [hsame, hc]
  · obtain ⟨hi, -⟩ := List.getElem?_eq_some_iff.mp hc
    rw [hsnoc, List.getElem?_append_left hi, hc]

theorem secure_extends (h : Extends p s s') (hs : Secure p s) : Secure p s' := by
  have hver : ∀ c ∈ s.returned, c.Private s'.arrays ∧ s'.arrays.verified c = s.arrays.verified c :=
    fun c hc => h.keeps.verified (hs.secret c hc)
  have hmap := map_congr_left fun c hc => (hver c hc).2
  -- what was returned before is granted as it was
  have hold : ∀ (i : Nat) (c : Capability β), s.returned[i]? = some c →
      Granted p ((s.returned.take i).map s'.arrays.verified) (s'.arrays.verified c) := by
    intro i c hc
    rw [map_take, hmap, ← map_take, (hver c (mem_of_getElem? hc)).2]
    exact hs.chained i c hc
  obtain hsame | ⟨_, hsnoc, hpriv, hgranted⟩ := h.returned
  · refine ⟨?_, ?_⟩
    · rw [hsame]
      exact fun c hc => (hver c hc).1
    · intro i c hc
      rw [hsame] at hc ⊢
      exact hold i c hc
  · refine ⟨?_, ?_⟩
    · rw [hsnoc]
      exact forall_mem_append.mpr ⟨fun c hc => (hver c hc).1, forall_mem_singleton.mpr hpriv⟩
    · intro i c hc
      rw [hsnoc] at hc ⊢
      rcases Nat.lt_or_ge i s.returned.length with hi | hi
      · rw [List.getElem?_append_left hi] at hc
        rw [take_append_of_le_length (Nat.le_of_lt hi)]
        exact hold i c hc
      · rw [List.getElem?_append_right hi] at hc
        obtain ⟨hzero, hlast⟩ := List.getElem?_eq_some_iff.mp hc
        have hi' : i = s.returned.length := by
          simp only [length_singleton] at hzero
          omega
        subst hi'
        simp only [Nat.sub_self, getElem_cons_zero] at hlast
        rw [take_left, hmap, ← hlast]
        exact hgranted

omit [DecidableEq β] in
theorem Authorizations.Stays.trans {s'' : Authorizations β} (h : s.Stays s') (h' : s'.Stays s'') :
    s.Stays s'' := by
  intro i c hc
  obtain ⟨hc', hver⟩ := h i c hc
  obtain ⟨hc'', hver'⟩ := h' i c hc'
  exact ⟨hc'', hver'.trans hver⟩

theorem stays_run (ops : List AuthorizationOp) (hs : Secure p s) :
    s.Stays (run (execAuthorization p) s ops) := by
  induction ops generalizing s with
  | nil => exact fun i c hc => ⟨hc, rfl⟩
  | cons op ops ih =>
    have hextends := extends_exec (p := p) s op
    exact (hextends.stays hs.secret).trans (ih (secure_extends hextends hs))

variable (p) in
/-- In every sequence of calls, and of assignments to the arrays that the caller holds, each
capability that was returned is intact and within the cap, one for the second attempt renews
one that was returned before it, and all of it stays as it was returned. -/
theorem authorizations_chained (ops later : List AuthorizationOp) :
    Chained p (run (execAuthorization p) .empty ops) ∧ (run (execAuthorization p) .empty ops).Stays
        (run (execAuthorization p) .empty (ops ++ later)) := by
  have hsecure : Secure p (run (execAuthorization p) .empty ops) := by
    refine invariant_run (fun s op h => secure_extends (extends_exec s op) h) ?_
    exact ⟨by simp [Authorizations.empty], by intro i c hc; simp [Authorizations.empty] at hc⟩
  refine ⟨hsecure.chained, ?_⟩
  rw [run_append]
  exact stays_run later hsecure

end Runs

end Ananke.Repair
