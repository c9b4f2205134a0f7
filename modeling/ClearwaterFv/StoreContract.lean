import ClearwaterFv.Dnsmasq
import ClearwaterFv.Reasoning.Heap
import ClearwaterFv.StoreTests

/-!
# StoreContract — what the memcached tests are run against

The objects of the fixture, and behind its store the databases, of which only the answers are seen.
`Contract` is what the tests count on: the store keeps a value and a version for each key, a
`set_data` must name the version, and values expire.
-/

open Reasoning Reasoning.Decimal Reasoning.Lines Reasoning.Prog

namespace ClearwaterFv

/-! ## The objects of the fixture -/

/-- An object of the fixture, with the arguments of its constructor that are not pointers. -/
inductive ClientObject where
  | dnsCachedResolver (server : String) (port : Int)
  | astaireResolver
  | topologyNeutralMemcachedStore (targetDomain : String)
deriving DecidableEq

def ClientObject.targetDomain? : ClientObject → Option String
  | topologyNeutralMemcachedStore targetDomain => some targetDomain
  | _ => none

/-- The databases as they are seen through a `TopologyNeutralMemcachedStore` for a domain, and what
a scenario and the time that passes do to them. -/
structure Backend where
  State : Type
  setData : State → (targetDomain key data : String) → (cas : Nat) → (expiry : Int) →
    Status × State
  getData : State → (targetDomain key data : String) → (cas : Nat) →
    (Status × String × Nat) × State
  deleteData : State → (targetDomain key : String) → Status × State
  triggerFailure : State → State
  fixFailure : State → State
  usleep : State → Nat → State

/-- A fixture, with the static `_next_key` and `_dbs->get_rogers_ips()`. -/
structure Client (B : Backend) where
  nextKey : UInt32
  rogersIps : List String
  heap : Heap ClientObject
  dnsClient : Option Nat
  resolver : Option Nat
  store : Option Nat
  databases : B.State

namespace Client

variable {B : Backend}

/-- The domain that the store is for.  A call through a null pointer is not modelled any further. -/
def targetDomain (s : Client B) : String :=
  ((s.store.bind s.heap.at?).bind ClientObject.targetDomain?).getD ""

-- `delete` through a pointer, if it is not null
def deleted (s : Client B) (p : Option Nat) : Heap ClientObject :=
  p.elim s.heap s.heap.delete

def step (s : Client B) : (op : TestOp) → op.Res × Client B
  | .newDnsClient =>
    ((), { s with
      heap := s.heap.new (.dnsCachedResolver "127.0.0.1" 5353) []
      dnsClient := some s.heap.next })
  | .newResolver =>
    ((), { s with
      heap := s.heap.new .astaireResolver s.dnsClient.toList
      resolver := some s.heap.next })
  | .newStore targetDomain =>
    ((), { s with
      heap := s.heap.new (.topologyNeutralMemcachedStore targetDomain) s.resolver.toList
      store := some s.heap.next })
  | .deleteStore => ((), { s with heap := s.deleted s.store, store := none })
  | .deleteResolver => ((), { s with heap := s.deleted s.resolver, resolver := none })
  | .deleteDnsClient => ((), { s with heap := s.deleted s.dnsClient, dnsClient := none })
  | .drawKey => (s.nextKey.toNat.repr, { s with nextKey := s.nextKey + 1 })
  | .setData key data cas expiry =>
    let (rc, databases) := B.setData s.databases s.targetDomain key data cas expiry
    (rc, { s with databases := databases })
  | .getData key data cas =>
    let (answer, databases) := B.getData s.databases s.targetDomain key data cas
    (answer, { s with databases := databases })
  | .deleteData key =>
    let (rc, databases) := B.deleteData s.databases s.targetDomain key
    (rc, { s with databases := databases })
  | .getRogersIps => (s.rogersIps, s)
  | .triggerFailure => ((), { s with databases := B.triggerFailure s.databases })
  | .fixFailure => ((), { s with databases := B.fixFailure s.databases })
  | .usleep micros => ((), { s with databases := B.usleep s.databases micros })
  | .expect _ => ((), s)

/-- Before the first test of a test case. -/
def initial (nextKey : UInt32) (rogersIps : List String) (databases : B.State) : Client B where
  nextKey := nextKey
  rogersIps := rogersIps
  heap := Heap.empty
  dnsClient := none
  resolver := none
  store := none
  databases := databases

end Client

/-! ## What the tests count on -/

/-- What the databases hold for a key: the value with the time until which it is kept, and the
version that a `set_data` has to name. -/
structure Cell where
  value : Option (String × Nat)
  version : Nat
deriving DecidableEq

namespace Cell

/-- The value at a time, if there is one that has not expired, and the version. -/
def seenAt (c : Cell) (t : Nat) : Option String × Nat :=
  match c.value with
  | none => (none, c.version)
  | some (data, expires) => if t < expires then (some data, c.version) else (none, 0)

/-- The version named is the current one, or 0 where there is no value. -/
def Accepts (c : Cell) (t cas : Nat) : Prop :=
  cas = (c.seenAt t).2 ∨ (c.seenAt t).1 = none ∧ cas = 0

/-- What a `get_data` returns, and leaves in `data` and `cas`. -/
def found (c : Cell) (t : Nat) (data : String) : Status × String × Nat :=
  match c.seenAt t with
  | (some value, version) => (.ok, value, version)
  | (none, version) => (.notFound, data, version)

variable {data : String} {expires version t cas : Nat}

theorem seenAt_live (ht : t < expires) :
    seenAt ⟨some (data, expires), version⟩ t = (some data, version) := if_pos ht

theorem seenAt_expired (ht : expires ≤ t) :
    seenAt ⟨some (data, expires), version⟩ t = (none, 0) := if_neg (Nat.not_lt.mpr ht)

theorem found_live {dataOut : String} (ht : t < expires) :
    found ⟨some (data, expires), version⟩ t dataOut = (.ok, data, version) := by
  unfold found
  rw [seenAt_live ht]

theorem found_expired {dataOut : String} (ht : expires ≤ t) :
    found ⟨some (data, expires), version⟩ t dataOut = (.notFound, dataOut, 0) := by
  unfold found
  rw [seenAt_expired ht]

-- While there is a value, its version is accepted and no other.
theorem accepts_live (ht : t < expires) :
    Accepts ⟨some (data, expires), version⟩ t cas ↔ cas = version := by
  unfold Accepts
  rw [seenAt_live ht]
  simp only [reduceCtorEq, false_and, or_false]

theorem accepts_blank : Accepts ⟨none, version⟩ t cas ↔ cas = version ∨ cas = 0 := by
  unfold Accepts seenAt
  simp only [true_and]

end Cell

/-- How long, in microseconds, a call on the store takes, and what a scenario does; how much too
early a value may expire; and how long the store takes to lose one that has no time to live. -/
structure Limits where
  latency : Nat
  outage : Nat
  slack : Nat
  settling : Nat

def micros (expiry : Int) : Nat := expiry.toNat * 1000000

/-- The host of a domain that has no port, or the port that Rogers listens at. -/
def rogersHost? (targetDomain : String) : Option String :=
  match split ':' targetDomain with
  | [host] => some host
  | [host, port] => if decimal? port = some rogersPort then some host else none
  | _ => none

/-- The file that `create_and_start_dns` writes for the databases. -/
def rogersConfig (rogersIps : List String) : String :=
  dnsmasqConfig "127.0.0.1" 5353 (OrderedMap.empty.insert "rogers.local" rogersIps)

/-- A Rogers is found for the domain: the port is right, and the host is an address of one, or one
that dnsmasq has addresses for. -/
def Reaches (rogersIps : List String) (targetDomain : String) : Prop :=
  ∃ host ∈ rogersHost? targetDomain,
    host ∈ rogersIps ∨ addressesOf host (rogersConfig rogersIps) ≠ []

/-- What the tests count on.  The databases hold a cell for each key.  A call that reaches them
takes effect at one time `t` while it is made; one that does not reach them fails. -/
structure Contract (B : Backend) (rogersIps : List String) (L : Limits) where
  now : B.State → Nat
  cell : B.State → String → Cell
  set_time : ∀ s dom key data cas expiry, let s' := (B.setData s dom key data cas expiry).2
    now s ≤ now s' ∧ now s' ≤ now s + L.latency
  /-- Of a key, at most one `set_data` with the version is stored, under another version. -/
  set_reached : ∀ s dom key data cas expiry, Reaches rogersIps dom →
    let rc := (B.setData s dom key data cas expiry).1
    let s' := (B.setData s dom key data cas expiry).2
    ∃ t, now s ≤ t ∧ t ≤ now s' ∧
      (((cell s key).Accepts t cas ∧ rc = .ok ∧ ∃ expires version,
          cell s' = Function.update (cell s) key ⟨some (data, expires), version⟩ ∧
          version ≠ 0 ∧ version ≠ (cell s key).version ∧
          t + micros expiry ≤ expires + L.slack ∧ expires ≤ t + max (micros expiry) L.settling) ∨
        ¬ (cell s key).Accepts t cas ∧ rc = .dataContention ∧ cell s' = cell s)
  get_time : ∀ s dom key data cas, let s' := (B.getData s dom key data cas).2
    now s ≤ now s' ∧ now s' ≤ now s + L.latency
  get_cell : ∀ s dom key data cas, cell (B.getData s dom key data cas).2 = cell s
  /-- The version is there to be named also when there is no value. -/
  get_reached : ∀ s dom key data cas, Reaches rogersIps dom →
    let s' := (B.getData s dom key data cas).2
    ∃ t, now s ≤ t ∧ t ≤ now s' ∧
      (B.getData s dom key data cas).1 = (cell s key).found t data
  delete_time : ∀ s dom key, let s' := (B.deleteData s dom key).2
    now s ≤ now s' ∧ now s' ≤ now s + L.latency
  /-- The version that a value had does not outlive it. -/
  delete_reached : ∀ s dom key, Reaches rogersIps dom →
    (B.deleteData s dom key).1 = .ok ∧ ∃ version,
      cell (B.deleteData s dom key).2 = Function.update (cell s) key ⟨none, version⟩ ∧
      ((cell s key).value ≠ none → version ≠ (cell s key).version)
  unreached : ∀ s dom, ¬ Reaches rogersIps dom → ∀ key,
    (∀ data cas expiry, (B.setData s dom key data cas expiry).1 = .error ∧
      cell (B.setData s dom key data cas expiry).2 = cell s) ∧
    (∀ data cas, (B.getData s dom key data cas).1 = (.error, data, cas)) ∧
    (B.deleteData s dom key).1 = .error ∧ cell (B.deleteData s dom key).2 = cell s
  /-- No value is lost, but another server may have it under another version. -/
  outage_time : ∀ s, now s ≤ now (B.triggerFailure s) ∧
    now (B.triggerFailure s) ≤ now s + L.outage
  outage_cell : ∀ s key, (cell (B.triggerFailure s) key).value = (cell s key).value ∧
    ((cell s key).version ≠ 0 → (cell (B.triggerFailure s) key).version ≠ 0)
  repair_time : ∀ s, now s ≤ now (B.fixFailure s)
  repair_cell : ∀ s key, (cell (B.fixFailure s) key).value = (cell s key).value
  usleep_time : ∀ s micros, now s + micros ≤ now (B.usleep s micros)
  usleep_cell : ∀ s micros, cell (B.usleep s micros) = cell s

end ClearwaterFv
