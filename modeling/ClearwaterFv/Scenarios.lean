import ClearwaterFv.CleanUp

/-!
# Scenarios — what the tests do to the deployment

The failure scenarios and, for each test, the calls that it makes on the instances of the
deployment.  The calls on the store, which no process of the deployment is started or stopped by,
are left out; a test that makes no other has an empty body here.
-/

open Reasoning Reasoning.Prog

namespace ClearwaterFv

/-- The scenario classes. -/
inductive Scenario where
  | noFailures
  | memcachedFails
  | memcachedRestarts
  | rogersFails
  | rogersRestarts
  | loneRogersRestarts
  | largeClusterMemcachedFails
  | largeClusterMemcachedRestarts
deriving DecidableEq

namespace Scenario

def numMemcachedInstances : Scenario → Int
  | largeClusterMemcachedFails | largeClusterMemcachedRestarts => 3
  | _ => 2

def numRogersInstances : Scenario → Int
  | loneRogersRestarts => 1
  | largeClusterMemcachedFails | largeClusterMemcachedRestarts => 3
  | _ => 2

end Scenario

/-- `get_first_*()->wait_for_instance()`. -/
def Site.waitFirst (s : Site) (role : Role) : Harness Unit :=
  match s.getFirst? role with
  | none => return ()
  | some inst => do
    let _ ← viaCopy inst (waitForInstance inst)

/-- The first instance of `_dbs` with a role is killed. -/
def killFirst (role : Role) : Harness Unit :=
  onSite .dbs fun dbs => dbs.call (.first role .kill)

/-- It is started or restarted, and awaited. -/
def bringUpFirst (role : Role) (method : Method) : Harness Unit := do
  onSite .dbs fun dbs => dbs.call (.first role method)
  onSite .dbs fun dbs => dbs.waitFirst role

namespace Scenario

/-- `trigger_failure`. -/
def triggerFailure : Scenario → Harness Unit
  | noFailures => return ()
  | memcachedFails | largeClusterMemcachedFails => killFirst .memcached
  | memcachedRestarts | largeClusterMemcachedRestarts => bringUpFirst .memcached .restart
  | rogersFails => killFirst .rogers
  | rogersRestarts | loneRogersRestarts => bringUpFirst .rogers .restart

/-- `fix_failure`. -/
def fixFailure : Scenario → Harness Unit
  | memcachedFails | largeClusterMemcachedFails => bringUpFirst .memcached .start
  | rogersFails => bringUpFirst .rogers .start
  | _ => return ()

end Scenario

/-! ## The tests -/

inductive SimpleMemcachedSolutionTest where
  | addGet
  | addGetTwoKeys
  | addGetExpire
  | addSetSetDataContentionSet
  | addSetCASDeleteDataContentionCASDelete
  | addAddDataContention
  | addDelete
  | delete
  | addDeleteAdd
  | addDeleteSetDataContention
  | connectUsingIpAddress
  | badDomainName
  | domainAndPort

inductive MemcachedSolutionFailureTest where
  | killAddGet
  | addKillGet
  | addKillGetExpire
  | addKillSetSetDataContentionSet
  | addDeleteKill
  | addKillCASDelete

def MemcachedSolutionFailureTest.body (scenario : Scenario) :
    MemcachedSolutionFailureTest → Harness Unit
  | addKillSetSetDataContentionSet =>
    forEach (List.range 10) fun _ => do
      scenario.triggerFailure
      scenario.fixFailure
  | _ => do
    scenario.triggerFailure
    scenario.fixFailure

inductive LargerClustersMemcachedSolutionTest where
  | addGet
  | addKillGet
  | addKillGetSet

def LargerClustersMemcachedSolutionTest.body (scenario : Scenario) :
    LargerClustersMemcachedSolutionTest → Harness Unit
  | addGet => return ()
  | addKillGet | addKillGetSet => do
    scenario.triggerFailure
    scenario.fixFailure

inductive MemcachedSolutionThrashTest where
  | thrashTest

namespace SimpleS4SolutionTest

inductive Test where
  | timerTracerBullet
  | tracerBullet
deriving DecidableEq

def Test.body : Test → Harness Unit
  | timerTracerBullet => return ()
  | tracerBullet => onSite .site1 Site.kill

end SimpleS4SolutionTest

/-! ## The test cases -/

/-- The test cases; the typed ones with a scenario. -/
inductive TestCase where
  | simpleMemcachedSolution
  | memcachedSolutionFailure (scenario : Scenario)
  | largerClustersMemcachedSolution (scenario : Scenario)
  | memcachedSolutionThrash (scenario : Scenario)
  | simpleS4Solution

namespace TestCase

/-- The tests of a test case. -/
def Test : TestCase → Type
  | simpleMemcachedSolution => SimpleMemcachedSolutionTest
  | memcachedSolutionFailure _ => MemcachedSolutionFailureTest
  | largerClustersMemcachedSolution _ => LargerClustersMemcachedSolutionTest
  | memcachedSolutionThrash _ => MemcachedSolutionThrashTest
  | simpleS4Solution => SimpleS4SolutionTest.Test

/-- What `SetUpTestCase` creates and starts. -/
def setUp : TestCase → SetUp
  | simpleMemcachedSolution => .memcached 2 2
  | memcachedSolutionFailure scenario | largerClustersMemcachedSolution scenario
  | memcachedSolutionThrash scenario =>
    .memcached scenario.numMemcachedInstances scenario.numRogersInstances
  | simpleS4Solution => .s4

def body : (tc : TestCase) → tc.Test → Harness Unit
  | simpleMemcachedSolution, _ => return ()
  | memcachedSolutionFailure scenario, t => MemcachedSolutionFailureTest.body scenario t
  | largerClustersMemcachedSolution scenario, t =>
    LargerClustersMemcachedSolutionTest.body scenario t
  | memcachedSolutionThrash _, _ => return ()
  | simpleS4Solution, t => SimpleS4SolutionTest.Test.body t

end TestCase

/-- One test, with its `SetUp`. -/
def TestCase.runTest (tc : TestCase) (t : tc.Test) : Harness Unit := do
  let _ ← tc.setUp.fixture.waitForInstances
  tc.body t

/-- A test case up to its `TearDownTestCase`. -/
def TestCase.runTests (tc : TestCase) (ts : List tc.Test) : Harness Unit := do
  tc.setUp.program
  forEach ts tc.runTest

end ClearwaterFv
