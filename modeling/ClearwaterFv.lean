import ClearwaterFv.Reasoning.Prog
import ClearwaterFv.Reasoning.Decimal
import ClearwaterFv.Reasoning.Paths
import ClearwaterFv.Reasoning.OrderedMap
import ClearwaterFv.Topology
import ClearwaterFv.ConfigText
import ClearwaterFv.System
import ClearwaterFv.ProcessInstance
import ClearwaterFv.Site
import ClearwaterFv.Construction
import ClearwaterFv.Reasoning.Branching
import ClearwaterFv.ForkTree
import ClearwaterFv.Fixtures
import ClearwaterFv.ProcessTable
import ClearwaterFv.Orphans
import ClearwaterFv.Release
import ClearwaterFv.CleanUp
import ClearwaterFv.Scenarios
import ClearwaterFv.Deployment
import ClearwaterFv.ConfigFiles
import ClearwaterFv.Mesh
import ClearwaterFv.Addresses
import ClearwaterFv.Reasoning.Attempts
import ClearwaterFv.Reasoning.Register
import ClearwaterFv.Thrash
import ClearwaterFv.Counter
import ClearwaterFv.Retries
import ClearwaterFv.Seed
import ClearwaterFv.Clock
import ClearwaterFv.Reports
import ClearwaterFv.Await
import ClearwaterFv.FailedReads
import ClearwaterFv.Dnsmasq
import ClearwaterFv.Overwriting
import ClearwaterFv.ClusterFiles
import ClearwaterFv.Servers
import ClearwaterFv.Standing
import ClearwaterFv.SetUp
import ClearwaterFv.TearDown
import ClearwaterFv.TestProgram
import ClearwaterFv.Reasoning.Heap
import ClearwaterFv.Reasoning.Weakest
import ClearwaterFv.StoreTests
import ClearwaterFv.StoreContract
import ClearwaterFv.Expectations
import ClearwaterFv.MemcachedTests
import ClearwaterFv.MemcachedRuns
import ClearwaterFv.ClientObjects
import ClearwaterFv.Confinement
import ClearwaterFv.ChronosFiles
import ClearwaterFv.Wiring
import ClearwaterFv.S4Clients
