import ClearwaterFv.StoreContract

/-!
# ClientObjects — the objects that the memcached tests make and delete

Whatever the databases answer, a test makes its calls on objects that are there, deletes each
object once and when no other uses it, and leaves none behind.
-/

open Reasoning Reasoning.Prog

namespace ClearwaterFv

/-! ## Pointers to the objects -/

/-- The pointers to the objects there are, the newest first. -/
structure Pointed (h : Heap ClientObject) (ps : List (Option Nat)) : Prop where
  stacked : Heap.Stacked h.next h.live
  pointers : h.live.map (fun o => some o.address) = ps

section

variable {h : Heap ClientObject} {ps : List (Option Nat)} {p : Option Nat}

theorem Pointed.usable (hp : Pointed h ps) {a : Nat} (ha : some a ∈ ps) : h.Usable a := by
  rw [← hp.pointers] at ha
  obtain ⟨o, ho, haddress⟩ := List.mem_map.mp ha
  rw [← Option.some.inj haddress]
  exact hp.stacked.usable ho

theorem Pointed.new (hp : Pointed h ps) (content : ClientObject) {uses : List Nat}
    (huses : ∀ q ∈ uses, some q ∈ ps) :
    Pointed (h.new content uses) (some h.next :: ps) := by
  refine ⟨hp.stacked.new content fun q hq => ?_, congrArg (some h.next :: ·) hp.pointers⟩
  have hin := huses q hq
  rw [← hp.pointers] at hin
  obtain ⟨o, ho, haddress⟩ := List.mem_map.mp hin
  exact ⟨o, ho, Option.some.inj haddress⟩

-- The newest object can be deleted.
theorem Pointed.delete (hp : Pointed h (p :: ps)) :
    (∃ a, p = some a ∧ h.Deletable a) ∧ Pointed (p.elim h h.delete) ps := by
  obtain ⟨hstacked, hpointers⟩ := hp
  cases hlive : h.live with
  | nil =>
    rw [hlive] at hpointers
    cases hpointers
  | cons o older =>
    have hall := hpointers
    rw [hlive] at hall
    obtain ⟨rfl, holder⟩ := List.cons.inj hall
    refine ⟨⟨o.address, rfl, hstacked.deletable hlive⟩, hstacked.delete hlive, ?_⟩
    change (h.delete o.address).live.map _ = ps
    rw [hstacked.live_delete hlive]
    exact holder

end

/-! ## What a call needs -/

section

variable {B : Backend} {s : Client B}

/-- The object is there, with all that it uses. -/
def UsableAt (h : Heap ClientObject) (p : Option Nat) : Prop := ∃ a, p = some a ∧ h.Usable a

/-- The object is there, and nothing uses it. -/
def DeletableAt (h : Heap ClientObject) (p : Option Nat) : Prop :=
  ∃ a, p = some a ∧ h.Deletable a

/-- The call is made on objects that are there, and deletes none that is used. -/
def TestOp.Sound (s : Client B) : TestOp → Prop
  | newResolver => UsableAt s.heap s.dnsClient
  | newStore _ => UsableAt s.heap s.resolver
  | deleteStore => DeletableAt s.heap s.store
  | deleteResolver => DeletableAt s.heap s.resolver
  | deleteDnsClient => DeletableAt s.heap s.dnsClient
  | setData .. | getData .. | deleteData _ => UsableAt s.heap s.store
  | _ => True

/-- A call that neither makes an object nor deletes one. -/
def TestOp.Plain : TestOp → Prop
  | newDnsClient | newResolver | newStore _ | deleteStore | deleteResolver | deleteDnsClient =>
    False
  | _ => True

/-- No object is there. -/
def Bare (s : Client B) : Prop := Pointed s.heap []

/-- The resolver and its DNS client are there. -/
def Storeless (s : Client B) : Prop := Pointed s.heap [s.resolver, s.dnsClient]

/-- All three objects are there. -/
def Built (s : Client B) : Prop := Pointed s.heap [s.store, s.resolver, s.dnsClient]

theorem Pointed.usableAt {h : Heap ClientObject} {ps : List (Option Nat)} (hp : Pointed h ps)
    {p : Option Nat} (hin : p ∈ ps) : UsableAt h p := by
  have hsome := hin
  rw [← hp.pointers] at hsome
  obtain ⟨o, -, rfl⟩ := List.mem_map.mp hsome
  exact ⟨o.address, rfl, hp.usable hin⟩

theorem Built.step {op : TestOp} (hs : Built s) (hop : op.Plain) : Built (s.step op).2 := by
  cases op <;> first | exact absurd hop id | exact hs

theorem Built.sound {op : TestOp} (hs : Built s) (hop : op.Plain) : op.Sound s := by
  cases op <;> first | exact absurd hop id | exact trivial | exact hs.usableAt List.mem_cons_self

/-- The part of a test leads from `P` to `Q`, and makes its calls on objects that are there. -/
abbrev LeadsSoundly {α : Type} (P Q : Client B → Prop) (p : StoreTest α) : Prop :=
  Leads Client.step P (fun s op => op.Sound s) Q p

/-- The part of a test keeps the three objects. -/
abbrev KeepsBuilt {α : Type} (B : Backend) (p : StoreTest α) : Prop :=
  LeadsSoundly (Built : Client B → Prop) Built p

theorem KeepsBuilt.of_only {α : Type} {p : StoreTest α} (hp : Only TestOp.Plain p) :
    KeepsBuilt B p :=
  hp.keeps (fun _ _ hop hs => hs.step hop) fun _ _ hop hs => hs.sound hop

theorem leads_deleteStore :
    LeadsSoundly (Built : Client B → Prop) Storeless (call .deleteStore) where
  calls _ hs := Always.perform hs.delete.1
  final _ hs := hs.delete.2

theorem leads_newStore (targetDomain : String) :
    LeadsSoundly (Storeless : Client B → Prop) Built (call (.newStore targetDomain)) where
  calls _ hs := Always.perform (hs.usableAt List.mem_cons_self)
  final _ hs := hs.new _ fun _ hq => Option.mem_toList.mp hq ▸ List.mem_cons_self

theorem keepsBuilt_newStore {targetDomain : String} :
    KeepsBuilt B (renewStore targetDomain) :=
  Leads.bind leads_deleteStore fun _ => leads_newStore targetDomain

/-! ## The pieces of the tests -/

variable {key data dataOut : String} {cas : Nat} {expiry : Int} {status : Status}

theorem expect_plain (p : Prop) [Decidable p] : Only TestOp.Plain (expect p) :=
  Only.perform trivial

theorem setExpecting_plain : Only TestOp.Plain (setExpecting status key data cas expiry) :=
  Only.bind (Only.perform trivial) fun _ => expect_plain _

theorem getExpectingData_plain : Only TestOp.Plain (getExpectingData key data dataOut cas) :=
  Only.bind (Only.perform trivial) fun _ =>
    Only.bind (expect_plain _) fun _ => Only.bind (expect_plain _) fun _ => Only.ret _

theorem getExpecting_plain : Only TestOp.Plain (getExpecting status key dataOut cas) :=
  Only.bind (Only.perform trivial) fun _ => Only.bind (expect_plain _) fun _ => Only.ret _

theorem deleteExpecting_plain : Only TestOp.Plain (deleteExpecting status key) :=
  Only.bind (Only.perform trivial) fun _ => expect_plain _

theorem addThenGet_plain : Only TestOp.Plain (addThenGet key data) :=
  Only.bind setExpecting_plain fun _ => getExpectingData_plain

theorem addKillThenGet_plain : Only TestOp.Plain (addKillThenGet key data) :=
  Only.bind setExpecting_plain fun _ =>
    Only.bind (Only.perform trivial) fun _ => getExpectingData_plain

theorem updateThenDelete_plain :
    Only TestOp.Plain (SimpleMemcachedSolutionTest.updateThenDelete key) :=
  Only.bind addThenGet_plain fun _ => Only.bind setExpecting_plain fun _ =>
    Only.bind getExpectingData_plain fun _ => Only.bind deleteExpecting_plain fun _ =>
      Only.bind getExpecting_plain fun _ => Only.ret _

theorem updateRetrying_plain :
    Only TestOp.Plain (MemcachedSolutionFailureTest.updateRetrying key data dataOut cas) := by
  refine Only.bind (Only.perform trivial) fun rc => Only.bind (expect_plain _) fun _ => ?_
  change Only TestOp.Plain (if rc = Status.dataContention then _ else _)
  split
  · refine Only.bind (Only.perform trivial) fun _ => ?_
    refine Only.bind (expect_plain _) fun _ => Only.bind (expect_plain _) fun _ => ?_
    exact Only.bind setExpecting_plain fun _ => Only.ret _
  · exact Only.ret _

/-! ## The tests -/

theorem keepsBuilt_addKillSetSet :
    KeepsBuilt B (MemcachedSolutionFailureTest.addKillSetSet key) := by
  refine Leads.bind (KeepsBuilt.of_only addThenGet_plain) fun _ => ?_
  refine Leads.bind (KeepsBuilt.of_only (Only.perform trivial)) fun _ => ?_
  refine Leads.bind (KeepsBuilt.of_only updateRetrying_plain) fun _ => ?_
  refine Leads.bind (KeepsBuilt.of_only setExpecting_plain) fun _ => ?_
  refine Leads.bind (KeepsBuilt.of_only getExpectingData_plain) fun _ => ?_
  refine Leads.bind (KeepsBuilt.of_only setExpecting_plain) fun _ => ?_
  refine Leads.bind (KeepsBuilt.of_only getExpectingData_plain) fun _ => ?_
  exact Leads.bind (KeepsBuilt.of_only (Only.perform trivial)) fun _ => keepsBuilt_newStore

theorem keepsBuilt_connectUsingIpAddress :
    KeepsBuilt B (SimpleMemcachedSolutionTest.script key .connectUsingIpAddress) := by
  have hips : LeadsSoundly (Storeless : Client B → Prop) Storeless (call .getRogersIps) :=
    ⟨fun _ _ => Always.perform trivial, fun _ hs => hs⟩
  refine Leads.bind leads_deleteStore fun _ => Leads.bind hips fun ips => ?_
  exact Leads.bind (leads_newStore _) fun _ => KeepsBuilt.of_only updateThenDelete_plain

theorem keepsBuilt_simple (t : SimpleMemcachedSolutionTest) : KeepsBuilt B (t.script key) := by
  cases t with
  | connectUsingIpAddress => exact keepsBuilt_connectUsingIpAddress
  | badDomainName =>
    refine Leads.bind keepsBuilt_newStore fun _ => KeepsBuilt.of_only ?_
    refine Only.bind setExpecting_plain fun _ => Only.bind getExpecting_plain fun _ => ?_
    exact deleteExpecting_plain
  | domainAndPort =>
    exact Leads.bind keepsBuilt_newStore fun _ => KeepsBuilt.of_only updateThenDelete_plain
  | addGet => exact KeepsBuilt.of_only (Only.bind addThenGet_plain fun _ => Only.ret _)
  | addGetTwoKeys =>
    refine KeepsBuilt.of_only (Only.bind (Only.perform trivial) fun _ => ?_)
    refine Only.bind setExpecting_plain fun _ => Only.bind setExpecting_plain fun _ => ?_
    refine Only.bind getExpectingData_plain fun _ => Only.bind getExpectingData_plain fun _ => ?_
    exact Only.ret _
  | addGetExpire =>
    refine KeepsBuilt.of_only (Only.bind setExpecting_plain fun _ => ?_)
    refine Only.bind getExpectingData_plain fun _ => Only.bind (Only.perform trivial) fun _ => ?_
    exact Only.bind getExpecting_plain fun _ => Only.ret _
  | addSetSetDataContentionSet =>
    refine KeepsBuilt.of_only (Only.bind addThenGet_plain fun _ => ?_)
    refine Only.bind setExpecting_plain fun _ => Only.bind setExpecting_plain fun _ => ?_
    refine Only.bind getExpectingData_plain fun _ => Only.bind setExpecting_plain fun _ => ?_
    exact Only.bind getExpectingData_plain fun _ => Only.ret _
  | addSetCASDeleteDataContentionCASDelete =>
    refine KeepsBuilt.of_only (Only.bind addThenGet_plain fun _ => ?_)
    refine Only.bind setExpecting_plain fun _ => Only.bind setExpecting_plain fun _ => ?_
    refine Only.bind getExpectingData_plain fun _ => Only.bind setExpecting_plain fun _ => ?_
    exact Only.bind (Only.perform trivial) fun _ => Only.bind getExpecting_plain fun _ => Only.ret _
  | addAddDataContention =>
    refine KeepsBuilt.of_only (Only.bind setExpecting_plain fun _ => ?_)
    refine Only.bind setExpecting_plain fun _ => ?_
    exact Only.bind getExpectingData_plain fun _ => Only.ret _
  | addDelete =>
    refine KeepsBuilt.of_only (Only.bind addThenGet_plain fun _ => ?_)
    refine Only.bind deleteExpecting_plain fun _ => ?_
    exact Only.bind getExpecting_plain fun _ => Only.ret _
  | delete => exact KeepsBuilt.of_only deleteExpecting_plain
  | addDeleteAdd =>
    refine KeepsBuilt.of_only (Only.bind addThenGet_plain fun _ => ?_)
    refine Only.bind deleteExpecting_plain fun _ => Only.bind getExpecting_plain fun _ => ?_
    refine Only.bind setExpecting_plain fun _ => ?_
    exact Only.bind getExpectingData_plain fun _ => Only.ret _
  | addDeleteSetDataContention =>
    refine KeepsBuilt.of_only (Only.bind addThenGet_plain fun _ => ?_)
    exact Only.bind deleteExpecting_plain fun _ => setExpecting_plain

theorem keepsBuilt_failure (t : MemcachedSolutionFailureTest) : KeepsBuilt B (t.script key) := by
  have hplain : ∀ {op : TestOp}, op.Plain → Only TestOp.Plain (call op) := Only.perform
  cases t with
  | killAddGet =>
    refine KeepsBuilt.of_only (Only.bind (hplain trivial) fun _ => ?_)
    exact Only.bind addThenGet_plain fun _ => hplain trivial
  | addKillGet =>
    exact KeepsBuilt.of_only (Only.bind addKillThenGet_plain fun _ => hplain trivial)
  | addKillGetExpire =>
    refine KeepsBuilt.of_only (Only.bind setExpecting_plain fun _ => ?_)
    refine Only.bind (hplain trivial) fun _ => Only.bind (hplain trivial) fun _ => ?_
    exact Only.bind getExpecting_plain fun _ => hplain trivial
  | addKillSetSetDataContentionSet =>
    refine Keeps.forEach fun _ _ => ?_
    exact Leads.bind (KeepsBuilt.of_only (hplain trivial)) fun _ => keepsBuilt_addKillSetSet
  | addDeleteKill =>
    refine KeepsBuilt.of_only (Only.bind addThenGet_plain fun _ => ?_)
    refine Only.bind deleteExpecting_plain fun _ => Only.bind (hplain trivial) fun _ => ?_
    exact Only.bind getExpecting_plain fun _ => hplain trivial
  | addKillCASDelete =>
    refine KeepsBuilt.of_only (Only.bind addKillThenGet_plain fun _ => ?_)
    refine Only.bind setExpecting_plain fun _ => Only.bind (hplain trivial) fun _ => ?_
    exact Only.bind getExpecting_plain fun _ => hplain trivial

theorem keepsBuilt_larger (t : LargerClustersMemcachedSolutionTest) :
    KeepsBuilt B (t.script key) := by
  cases t with
  | addGet => exact KeepsBuilt.of_only (Only.bind addThenGet_plain fun _ => Only.ret _)
  | addKillGet =>
    exact KeepsBuilt.of_only (Only.bind addKillThenGet_plain fun _ => Only.perform trivial)
  | addKillGetSet =>
    refine KeepsBuilt.of_only (Only.bind addKillThenGet_plain fun _ => ?_)
    refine Only.bind setExpecting_plain fun _ => Only.bind getExpectingData_plain fun _ => ?_
    exact Only.perform trivial

/-! ## From `SetUp` to `TearDown` -/

/-- The DNS client is there. -/
def Resolverless (s : Client B) : Prop := Pointed s.heap [s.dnsClient]

theorem leads_setUp : LeadsSoundly (Bare : Client B → Prop) Built MemcachedTest.setUp := by
  have hdns : LeadsSoundly (Bare : Client B → Prop) Resolverless (call .newDnsClient) :=
    ⟨fun _ _ => Always.perform trivial,
      fun _ hs => hs.new _ fun q hq => absurd hq List.not_mem_nil⟩
  have hresolver : LeadsSoundly (Resolverless : Client B → Prop) Storeless (call .newResolver) :=
    ⟨fun _ hs => Always.perform (hs.usableAt List.mem_cons_self),
      fun _ hs => hs.new _ fun _ hq => Option.mem_toList.mp hq ▸ List.mem_cons_self⟩
  refine Leads.bind hdns fun _ => Leads.bind hresolver fun _ => ?_
  exact Leads.bind (leads_newStore _) fun _ => KeepsBuilt.of_only (Only.perform trivial)

theorem leads_tearDown : LeadsSoundly (Built : Client B → Prop) Bare MemcachedTest.tearDown := by
  have hresolver : LeadsSoundly (Storeless : Client B → Prop) Resolverless
      (call .deleteResolver) :=
    ⟨fun _ hs => Always.perform hs.delete.1, fun _ hs => hs.delete.2⟩
  have hdns : LeadsSoundly (Resolverless : Client B → Prop) Bare (call .deleteDnsClient) :=
    ⟨fun _ hs => Always.perform hs.delete.1, fun _ hs => hs.delete.2⟩
  exact Leads.bind leads_deleteStore fun _ => Leads.bind hresolver fun _ => hdns

theorem keepsBare_run (t : MemcachedTest) :
    LeadsSoundly (Bare : Client B → Prop) Bare t.run := by
  refine Leads.bind leads_setUp fun key => Leads.bind ?_ fun _ => leads_tearDown
  cases t with
  | simple t => exact keepsBuilt_simple t
  | failure t => exact keepsBuilt_failure t
  | larger t => exact keepsBuilt_larger t

end

/-- Whatever the databases are and whatever they answer, and whichever tests are run in whichever
order: no test makes a call on an object that is not there, or deletes an object that is not there
or that another one uses; and at the end of each test none is left. -/
theorem memcachedTests_leakNothing (B : Backend) (tests : List MemcachedTest) (nextKey : UInt32)
    (rogersIps : List String) (databases : B.State) :
    Always Client.step (fun s op => op.Sound s) (forEach tests MemcachedTest.run)
      (Client.initial nextKey rogersIps databases) ∧
    ∀ s ∈ stages Client.step MemcachedTest.run tests
      (Client.initial nextKey rogersIps databases), s.heap.live = [] := by
  have hbare : Bare (Client.initial nextKey rogersIps databases) := ⟨trivial, rfl⟩
  have hkeeps : LeadsSoundly (Bare : Client B → Prop) Bare (forEach tests MemcachedTest.run) :=
    Keeps.forEach fun t _ => keepsBare_run t
  refine ⟨hkeeps.calls _ hbare, fun s hs => ?_⟩
  have hstage : Bare s :=
    stages_inv (I := Bare) (fun t _ s hs => (keepsBare_run t).final s hs) hbare s hs
  exact List.map_eq_nil_iff.mp hstage.pointers

end ClearwaterFv
