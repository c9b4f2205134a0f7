import ClearwaterFv.Scenarios
import ClearwaterFv.Thrash

/-!
# StoreTests — what the memcached tests ask of the store

The bodies of the tests with their calls on the store and their expectations, and the `SetUp` and
`TearDown` around them.  What a scenario does to the deployment is in `Scenarios`; here it is one
call.  An expectation that fails does not end a test, so that every test is run to its end.
-/

open Reasoning Reasoning.Prog

namespace ClearwaterFv

/-- The calls of a test: on the objects of the fixture, on its store, on the scenario, and on the
test framework.  A `cas` is a number here, and a time one of microseconds. -/
inductive TestOp where
  | newDnsClient
  | newResolver
  | newStore (targetDomain : String)
  | deleteStore
  | deleteResolver
  | deleteDnsClient
  -- `_key = std::to_string(_next_key++)`
  | drawKey
  | setData (key data : String) (cas : Nat) (expiry : Int)
  | getData (key data : String) (cas : Nat)
  | deleteData (key : String)
  | getRogersIps
  | triggerFailure
  | fixFailure
  | usleep (micros : Nat)
  | expect (holds : Bool)

/-- The answers.  A `get_data` also answers with what it leaves in `data` and `cas`. -/
def TestOp.Res : TestOp → Type
  | drawKey => String
  | setData .. | deleteData .. => Status
  | getData .. => Status × String × Nat
  | getRogersIps => List String
  | _ => Unit

abbrev StoreTest := Prog TestOp TestOp.Res

def call (op : TestOp) : StoreTest op.Res := perform op

/-- `EXPECT_TRUE`, `EXPECT_EQ` and `EXPECT_NE`. -/
def expect (p : Prop) [Decidable p] : StoreTest Unit := call (.expect (decide p))

def defaultExpiry : Int := 60

/-! ## Pieces of the tests -/

/-- A `set_data`, and the status that is expected of it. -/
def setExpecting (status : Status) (key data : String) (cas : Nat) (expiry : Int) :
    StoreTest Unit := do
  let rc : Status ← call (.setData key data cas expiry)
  expect (status = rc)

/-- A `get_data` that is expected to find `dataIn`; what it leaves in `data_out` and `cas`. -/
def getExpectingData (key dataIn dataOut : String) (cas : Nat) : StoreTest (String × Nat) := do
  let (rc, dataOut, cas) ← call (.getData key dataOut cas)
  expect (Status.ok = rc)
  expect (dataOut = dataIn)
  return (dataOut, cas)

/-- A `get_data` that is expected to fail; what it leaves in `data_out` and `cas`. -/
def getExpecting (status : Status) (key dataOut : String) (cas : Nat) :
    StoreTest (String × Nat) := do
  let (rc, dataOut, cas) ← call (.getData key dataOut cas)
  expect (status = rc)
  return (dataOut, cas)

def deleteExpecting (status : Status) (key : String) : StoreTest Unit := do
  let rc : Status ← call (.deleteData key)
  expect (status = rc)

/-- The first lines of most of the tests. -/
def addThenGet (key dataIn : String) : StoreTest (String × Nat) := do
  setExpecting .ok key dataIn 0 defaultExpiry
  getExpectingData key dataIn "" 0

/-- The first lines of the tests that add a key before the failure. -/
def addKillThenGet (key dataIn : String) : StoreTest (String × Nat) := do
  setExpecting .ok key dataIn 0 defaultExpiry
  call .triggerFailure
  getExpectingData key dataIn "" 0

/-- `_store` is deleted, and made anew for the domain. -/
def renewStore (targetDomain : String) : StoreTest Unit := do
  call .deleteStore
  call (.newStore targetDomain)

/-! ## The tests -/

namespace SimpleMemcachedSolutionTest

/-- What `ConnectUsingIpAddress` and `DomainAndPort` do with their store. -/
def updateThenDelete (key : String) : StoreTest Unit := do
  let (dataOut, cas) ← addThenGet key "SimpleMemcachedSolutionTest.AddGet"
  let dataIn := "SimpleMemcachedSolutionTest.AddGet_1"
  setExpecting .ok key dataIn cas defaultExpiry
  let (dataOut, cas) ← getExpectingData key dataIn dataOut cas
  deleteExpecting .ok key
  let _ ← getExpecting .notFound key dataOut cas

def script (key : String) : SimpleMemcachedSolutionTest → StoreTest Unit
  | addGet => do
    let _ ← addThenGet key "SimpleMemcachedSolutionTest.AddGet"
  | addGetTwoKeys => do
    let key2 ← call .drawKey
    let dataIn1 := "SimpleMemcachedSolutionTest.AddGetTwoKeys1"
    let dataIn2 := "SimpleMemcachedSolutionTest.AddGetTwoKeys2"
    setExpecting .ok key dataIn1 0 defaultExpiry
    setExpecting .ok key2 dataIn2 0 defaultExpiry
    let _ ← getExpectingData key dataIn1 "" 0
    let _ ← getExpectingData key2 dataIn2 "" 0
  | addGetExpire => do
    let dataIn := "SimpleMemcachedSolutionTest.AddGetExpire"
    setExpecting .ok key dataIn 0 1
    let (dataOut, cas) ← getExpectingData key dataIn "" 0
    call (.usleep 2000000)
    let _ ← getExpecting .notFound key dataOut cas
  | addSetSetDataContentionSet => do
    let (dataOut, cas) ← addThenGet key "SimpleMemcachedSolutionTest.AddSetSetDataContentionSet"
    let dataIn := "SimpleMemcachedSolutionTest.AddSetSetDataContentionSet_New1"
    setExpecting .ok key dataIn cas defaultExpiry
    -- not `failed_data_in`
    setExpecting .dataContention key dataIn cas defaultExpiry
    let (dataOut, cas) ← getExpectingData key dataIn dataOut cas
    let dataIn := "SimpleMemcachedSolutionTest.AddSetSetDataContentionSet_New2"
    setExpecting .ok key dataIn cas defaultExpiry
    let _ ← getExpectingData key dataIn dataOut cas
  | addSetCASDeleteDataContentionCASDelete => do
    let (dataOut, cas) ← addThenGet key
      "SimpleMemcachedSolutionTest.AddSetCASDeleteDataContentionCASDelete"
    let dataIn := "SimpleMemcachedSolutionTest.AddSetCASDeleteDataContentionCASDelete_New"
    setExpecting .ok key dataIn cas defaultExpiry
    setExpecting .dataContention key dataIn cas 0
    let (dataOut, cas) ← getExpectingData key dataIn dataOut cas
    setExpecting .ok key "DELETE" cas 0
    call (.usleep 10000)
    let _ ← getExpecting .notFound key dataOut cas
  | addAddDataContention => do
    let dataIn := "SimpleMemcachedSolutionTest.AddAddDataContention"
    setExpecting .ok key dataIn 0 defaultExpiry
    setExpecting .dataContention key "SimpleMemcachedSolutionTest.AddAddDataContention_New" 0
      defaultExpiry
    let _ ← getExpectingData key dataIn "" 0
  | addDelete => do
    let (dataOut, cas) ← addThenGet key "SimpleMemcachedSolutionTest.AddDelete"
    deleteExpecting .ok key
    let _ ← getExpecting .notFound key dataOut cas
  | delete => deleteExpecting .ok key
  | addDeleteAdd => do
    let dataIn := "SimpleMemcachedSolutionTest.AddDeleteAdd"
    let (dataOut, cas) ← addThenGet key dataIn
    deleteExpecting .ok key
    let (dataOut, cas) ← getExpecting .notFound key dataOut cas
    setExpecting .ok key dataIn cas defaultExpiry
    let _ ← getExpectingData key dataIn dataOut cas
  | addDeleteSetDataContention => do
    let (_, cas) ← addThenGet key "SimpleMemcachedSolutionTest.AddDeleteSetDataContention"
    deleteExpecting .ok key
    setExpecting .dataContention key "SimpleMemcachedSolutionTest.AddDeleteSetDataContention_New"
      cas defaultExpiry
  | connectUsingIpAddress => do
    call .deleteStore
    let ips ← call .getRogersIps
    call (.newStore (ips.headD ""))
    updateThenDelete key
  | badDomainName => do
    renewStore "bad.domain.name"
    setExpecting .error key "SimpleMemcachedSolutionTest.AddGet" 0 defaultExpiry
    let _ ← getExpecting .error key "" 0
    deleteExpecting .error key
  | domainAndPort => do
    renewStore "rogers.local:11311"
    updateThenDelete key

end SimpleMemcachedSolutionTest

namespace MemcachedSolutionFailureTest

/-- The first update of `AddKillSetSetDataContentionSet`, and what it does when that is refused: the
failure may have taken the version with it. -/
def updateRetrying (key dataIn dataOut : String) (cas : Nat) : StoreTest (String × Nat) := do
  let rc : Status ← call (.setData key dataIn cas defaultExpiry)
  expect (rc = .dataContention ∨ rc = .ok)
  if rc = .dataContention then
    let (rc, dataOut, cas) ← call (.getData key dataOut cas)
    expect (Status.ok = rc)
    expect (dataOut ≠ dataIn)
    setExpecting .ok key dataIn cas defaultExpiry
    return (dataOut, cas)
  else
    return (dataOut, cas)

/-- One iteration of `AddKillSetSetDataContentionSet`, with its key. -/
def addKillSetSet (key : String) : StoreTest Unit := do
  let (dataOut, cas) ← addThenGet key "MemcachedSolutionFailureTest.AddKillSetSetDataContentionSet"
  call .triggerFailure
  let dataIn := "MemcachedSolutionFailureTest.AddKillSetSetDataContentionSet_New1"
  let (dataOut, cas) ← updateRetrying key dataIn dataOut cas
  setExpecting .dataContention key "FAIL" cas defaultExpiry
  let (dataOut, cas) ← getExpectingData key dataIn dataOut cas
  let dataIn := "MemcachedSolutionFailureTest.AddKillSetSetDataContentionSet_New2"
  setExpecting .ok key dataIn cas defaultExpiry
  let _ ← getExpectingData key dataIn dataOut cas
  call .fixFailure
  renewStore "rogers.local"

def script (key : String) : MemcachedSolutionFailureTest → StoreTest Unit
  | killAddGet => do
    call .triggerFailure
    let _ ← addThenGet key "MemcachedSolutionFailureTest.KillAddGet"
    call .fixFailure
  | addKillGet => do
    let _ ← addKillThenGet key "MemcachedSolutionFailureTest.AddKillGet"
    call .fixFailure
  | addKillGetExpire => do
    setExpecting .ok key "MemcachedSolutionFailureTest.AddKillGetExpire" 0 1
    call .triggerFailure
    call (.usleep 2000000)
    let _ ← getExpecting .notFound key "" 0
    call .fixFailure
  | addKillSetSetDataContentionSet =>
    forEach (List.range 10) fun _ => do
      let key ← call .drawKey
      addKillSetSet key
  | addDeleteKill => do
    let (dataOut, cas) ← addThenGet key "MemcachedSolutionFailureTest.AddDeleteKill"
    deleteExpecting .ok key
    call .triggerFailure
    let _ ← getExpecting .notFound key dataOut cas
    call .fixFailure
  | addKillCASDelete => do
    let (dataOut, cas) ← addKillThenGet key "MemcachedSolutionFailureTest.AddKillCASDelete"
    setExpecting .ok key "DELETE" cas 0
    call (.usleep 5000)
    let _ ← getExpecting .notFound key dataOut cas
    call .fixFailure

end MemcachedSolutionFailureTest

def LargerClustersMemcachedSolutionTest.script (key : String) :
    LargerClustersMemcachedSolutionTest → StoreTest Unit
  | addGet => do
    let _ ← addThenGet key "LargerClustersMemcachedSolutionTest.AddGet"
  | addKillGet => do
    let _ ← addKillThenGet key "LargerClustersMemcachedSolutionTest.AddKillGet"
    call .fixFailure
  | addKillGetSet => do
    let (dataOut, cas) ← addKillThenGet key "LargerClustersMemcachedSolutionTest.AddKillGetSet"
    let dataIn := "LargerClustersMemcachedSolutionTest.AddKillGetSet_New"
    setExpecting .ok key dataIn cas defaultExpiry
    let _ ← getExpectingData key dataIn dataOut cas
    call .fixFailure

/-- The memcached tests, but the one with threads. -/
inductive MemcachedTest where
  | simple (t : SimpleMemcachedSolutionTest)
  | failure (t : MemcachedSolutionFailureTest)
  | larger (t : LargerClustersMemcachedSolutionTest)

namespace MemcachedTest

/-- `SetUp`, up to its `wait_for_instances`; the key that it draws. -/
def setUp : StoreTest String := do
  call .newDnsClient
  call .newResolver
  call (.newStore "rogers.local")
  call .drawKey

def tearDown : StoreTest Unit := do
  call .deleteStore
  call .deleteResolver
  call .deleteDnsClient

def script (key : String) : MemcachedTest → StoreTest Unit
  | simple t => t.script key
  | failure t => t.script key
  | larger t => t.script key

/-- A test from its `SetUp` to its `TearDown`. -/
def run (t : MemcachedTest) : StoreTest Unit := do
  let key ← setUp
  t.script key
  tearDown

/-- How many keys a test draws. -/
def draws : MemcachedTest → Nat
  | simple .addGetTwoKeys => 2
  | failure .addKillSetSetDataContentionSet => 11
  | _ => 1

end MemcachedTest

end ClearwaterFv
