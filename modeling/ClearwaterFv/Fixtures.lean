import ClearwaterFv.Construction

/-!
# Fixtures — the two test fixtures and their static objects

What `BaseMemcachedSolutionTest` and `BaseS4SolutionTest` do to the deployment: they keep the
sites and the dnsmasq instance in static `shared_ptr`s, which `SetUpTestCase` fills and
`TearDownTestCase` resets.
-/

open Reasoning Reasoning.Prog

namespace ClearwaterFv

/-! ## The static `shared_ptr`s -/

-- what a `shared_ptr` held when it goes away
def dropSite : Option Site → Harness Unit
  | none => return ()
  | some old => old.destroy

def dropDnsmasq : Option Inst → Harness Unit
  | none => return ()
  | some old => releaseInstance old

-- `operator=` and `reset`: the new pointer is in place before the old object is destroyed.
def assignSite (v : SiteVar) (new : Option Site) : Harness Unit := do
  dropSite (← sys (.swapSite v new))

def assignDnsmasq (f : Fixture) (new : Option Inst) : Harness Unit := do
  dropDnsmasq (← sys (.swapDnsmasq f new))

-- Nothing that follows the use of a null pointer is modelled.
def withSite (method : Site → Harness Unit) : Option Site → Harness Unit
  | none => return ()
  | some site => method site

/-- A method call through a static pointer. -/
def onSite (v : SiteVar) (method : Site → Harness Unit) : Harness Unit := do
  withSite method (← sys (.readSite v))

def startIfAny : Option Inst → Harness Unit
  | none => return ()
  | some dnsmasq => do
    let _ ← startInstance dnsmasq

/-- `_dnsmasq_instance->start_instance()`. -/
def startDnsmasq (f : Fixture) : Harness Unit := do
  startIfAny (← sys (.readDnsmasq f))

/-- `DnsmasqInstance::DnsmasqInstance`. -/
def newDnsmasqInstance (ip : String) (port : Int) (aRecords : OrderedMap String (List String)) :
    Harness Inst := do
  let cfgfile := dnsmasqCfgfile ip port
  let config := dnsmasqConfig ip port aRecords
  sys (.writeFile cfgfile config)
  sys (.newInstance { ip := ip, port := port, kind := .dnsmasq cfgfile } [(cfgfile, config)])

-- the part that the two `create_and_start_dns` have in common
def createAndStartDnsFor (f : Fixture) (aRecords : OrderedMap String (List String)) :
    Harness Unit := do
  let dnsmasq ← newDnsmasqInstance "127.0.0.1" 5353 aRecords
  assignDnsmasq f (some dnsmasq)
  startDnsmasq f

def createAndStartSite (v : SiteVar) (args : SiteArgs) : Harness Unit := do
  let site ← newSite args
  assignSite v (some site)
  onSite v Site.start

/-- The handlers that `SetUpTestCase` registers and `TearDownTestCase` takes back. -/
def setHandlers (handler : Bool) : Harness Unit := do
  sys (.signal .sigsegv handler)
  sys (.signal .sigint handler)

def waitForSite? : Option Site → Harness Bool
  | none => return false
  | some site => site.waitForInstances

/-- `_site->wait_for_instances()`, through a static pointer. -/
def waitForSite (v : SiteVar) : Harness Bool := do
  waitForSite? (← sys (.readSite v))

def waitForDnsmasq? : Option Inst → Harness Bool
  | none => return true
  | some dnsmasq => waitForInstance dnsmasq

/-- What `wait_for_instances` does once the sites are found to be up. -/
def waitForDnsmasq (f : Fixture) : Harness Bool := do
  waitForDnsmasq? (← sys (.readDnsmasq f))

/-! ## The fixture of the memcached tests -/

namespace BaseMemcachedSolutionTest

def tplg : Topology := { ipAddrPrefix := "127.0.1." }

/-- The arguments of the one site. -/
def dbsArgs (numMemcacheds numRogers : Int) : SiteArgs where
  index := 1
  name := "site1"
  dir := "tmp/site1"
  deploymentTopology := OrderedMap.empty.insert "site1" tplg
  numMemcached := numMemcacheds
  numRogers := numRogers
  thisSite := tplg
  at_name := rfl

def setUpTestCase : Harness Unit := do
  setHandlers true
  sys (.createDirectory "tmp")

def createAndStartDatabases (numMemcacheds numRogers : Int) : Harness Unit :=
  createAndStartSite .dbs (dbsArgs numMemcacheds numRogers)

def createAndStartDns : Harness Unit :=
  onSite .dbs fun dbs => do
    let ips ← Site.getIps dbs.rogersInstances
    createAndStartDnsFor .memcached (OrderedMap.empty.insert "rogers.local" ips)

def tearDownTestCase : Harness Unit := do
  assignDnsmasq .memcached none
  assignSite .dbs none
  sys (.removeAll "tmp")
  setHandlers false

def waitForInstances : Harness Bool := do
  if !(← waitForSite .dbs) then
    return false
  else
    waitForDnsmasq .memcached

end BaseMemcachedSolutionTest

/-! ## The fixture of the S4 tests -/

namespace BaseS4SolutionTest

def site1Topology : Topology :=
  (({ ipAddrPrefix := "127.0.1." } : Topology).withChronos "chronos.site1").withRogers
    "rogers.site1"

def site2Topology : Topology :=
  (({ ipAddrPrefix := "127.0.2." } : Topology).withChronos "chronos.site2").withRogers
    "rogers.site2"

/-- `_deployment_topology`, as `SetUpTestCase` leaves it. -/
def deploymentTopology : OrderedMap String Topology :=
  (OrderedMap.empty.emplace "site1" site1Topology).emplace "site2" site2Topology

def site1Args : SiteArgs where
  index := 1
  name := "site1"
  dir := "tmp/site1"
  deploymentTopology := deploymentTopology
  numMemcached := 2
  numRogers := 2
  numChronos := 2
  thisSite := site1Topology
  at_name := by decide

def site2Args : SiteArgs where
  index := 2
  name := "site2"
  dir := "tmp/site2"
  deploymentTopology := deploymentTopology
  numMemcached := 2
  numRogers := 2
  numChronos := 2
  thisSite := site2Topology
  at_name := by decide

def setUpTestCase : Harness Unit := do
  setHandlers true
  sys (.createDirectory "tmp")

def createAndStartSites : Harness Unit := do
  createAndStartSite .site1 site1Args
  createAndStartSite .site2 site2Args

def createAndStartDns (aRecords : OrderedMap String (List String)) : Harness Unit :=
  createAndStartDnsFor .s4 aRecords

def tearDownTestCase : Harness Unit := do
  assignDnsmasq .s4 none
  assignSite .site1 none
  assignSite .site2 none
  sys (.removeAll "tmp")
  setHandlers false

def waitForInstances : Harness Bool := do
  if !(← waitForSite .site1) then
    return false
  else if !(← waitForSite .site2) then
    return false
  else
    waitForDnsmasq .s4

end BaseS4SolutionTest

namespace SimpleS4SolutionTest

/-- `get_rogers_ips` or `get_chronos_ips` of a static site. -/
def getIpsOf (v : SiteVar) (instances : Site → List Inst) : Harness (List String) := do
  match ← sys (.readSite v) with
  | none => return []
  | some site => Site.getIps (instances site)

def setUpTestCase : Harness Unit := do
  BaseS4SolutionTest.setUpTestCase
  BaseS4SolutionTest.createAndStartSites
  -- the DNS records for Rogers and Chronos
  let rogers1 ← getIpsOf .site1 Site.rogersInstances
  let chronos1 ← getIpsOf .site1 Site.chronosInstances
  let rogers2 ← getIpsOf .site2 Site.rogersInstances
  let chronos2 ← getIpsOf .site2 Site.chronosInstances
  BaseS4SolutionTest.createAndStartDns
    ((((OrderedMap.empty.insert BaseS4SolutionTest.site1Topology.rogersDomain rogers1).insert
      BaseS4SolutionTest.site1Topology.chronosDomain chronos1).insert
      BaseS4SolutionTest.site2Topology.rogersDomain rogers2).insert
      BaseS4SolutionTest.site2Topology.chronosDomain chronos2)

end SimpleS4SolutionTest

/-! ## What the fixtures have in common -/

/-- The static sites of a fixture, in the order in which `TearDownTestCase` resets them. -/
def Fixture.sites : Fixture → List SiteVar
  | .memcached => [.dbs]
  | .s4 => [.site1, .site2]

def Fixture.tearDownTestCase : Fixture → Harness Unit
  | .memcached => BaseMemcachedSolutionTest.tearDownTestCase
  | .s4 => BaseS4SolutionTest.tearDownTestCase

theorem Fixture.tearDownTestCase_eq (f : Fixture) :
    f.tearDownTestCase =
      (assignDnsmasq f none).bind fun _ =>
        (forEach f.sites fun v => assignSite v none).bind fun _ =>
          (sys (.removeAll "tmp")).bind fun _ => setHandlers false := by
  cases f with
  | memcached =>
    simp only [tearDownTestCase, BaseMemcachedSolutionTest.tearDownTestCase, sites, bind_eq_bind,
      forEach_cons, forEach_nil, bind_assoc, ret_bind]
  | s4 =>
    simp only [tearDownTestCase, BaseS4SolutionTest.tearDownTestCase, sites, bind_eq_bind,
      forEach_cons, forEach_nil, bind_assoc, ret_bind]

def Fixture.waitForInstances : Fixture → Harness Bool
  | .memcached => BaseMemcachedSolutionTest.waitForInstances
  | .s4 => BaseS4SolutionTest.waitForInstances

-- the sites in order, and then dnsmasq
def waitForAll (f : Fixture) : List SiteVar → Harness Bool
  | [] => waitForDnsmasq f
  | v :: vs => do
    if !(← waitForSite v) then
      return false
    else
      waitForAll f vs

theorem Fixture.waitForInstances_eq (f : Fixture) : f.waitForInstances = waitForAll f f.sites := by
  cases f <;> rfl

/-- The instances that a static site holds. -/
def World.instancesAt (w : World) (v : SiteVar) : List Inst :=
  ((w.site v).map Site.instances).getD []

/-- The instances that a fixture's static pointers lead to. -/
def World.published (w : World) (f : Fixture) : List Inst :=
  (w.dnsmasq f).toList ++ f.sites.flatMap w.instancesAt

/-- The world after a static pointer has been assigned. -/
def World.putSite (w : World) (v : SiteVar) (s : Site) : World :=
  { w with site := Function.update w.site v (some s) }

def World.putDnsmasq (w : World) (f : Fixture) (i : Inst) : World :=
  { w with dnsmasq := Function.update w.dnsmasq f (some i) }

theorem World.instancesAt_putSite (w : World) (v : SiteVar) (s : Site) :
    (w.putSite v s).instancesAt = Function.update w.instancesAt v s.instances := by
  funext v'
  change ((Function.update w.site v (some s) v').map Site.instances).getD [] = _
  by_cases hv : v' = v
  · rw [hv, Function.update_self, Function.update_self]
    rfl
  · rw [Function.update_of_ne hv, Function.update_of_ne hv]
    rfl

theorem Site.destroy_eq (s : Site) :
    s.destroy = (forEach s.instances releaseInstance).bind fun _ =>
      sys (.removeAll s.args.dir) := by
  unfold destroy instances
  rw [forEach_append, forEach_append]
  simp only [bind_eq_bind, bind_assoc]

section

variable (K : Kernel) (v : SiteVar) (args : SiteArgs) (m : Machine)

theorem run_createAndStartSite :
    K.run (createAndStartSite v args) m =
      K.run (onSite v Site.start)
        (K.run (assignSite v (some (K.run (newSite args) m).1)) (K.run (newSite args) m).2).2 := by
  simp only [createAndStartSite, bind_eq_bind, Kernel.run, run_bind]

theorem trace_createAndStartSite :
    (createAndStartSite v args).trace K.step m =
      (newSite args).trace K.step m ++
        ((assignSite v (some (K.run (newSite args) m).1)).trace K.step
          (K.run (newSite args) m).2 ++
        (onSite v Site.start).trace K.step
          (K.run (assignSite v (some (K.run (newSite args) m).1))
            (K.run (newSite args) m).2).2) := by
  simp only [createAndStartSite, bind_eq_bind, Kernel.run, trace_bind]

theorem run_createAndStartDnsFor (f : Fixture) (aRecords : OrderedMap String (List String)) :
    K.run (createAndStartDnsFor f aRecords) m =
      K.run (startDnsmasq f)
        (K.run (assignDnsmasq f (some (K.run (newDnsmasqInstance "127.0.0.1" 5353 aRecords) m).1))
          (K.run (newDnsmasqInstance "127.0.0.1" 5353 aRecords) m).2).2 := by
  simp only [createAndStartDnsFor, bind_eq_bind, Kernel.run, run_bind]

theorem trace_createAndStartDnsFor (f : Fixture) (aRecords : OrderedMap String (List String)) :
    (createAndStartDnsFor f aRecords).trace K.step m =
      (newDnsmasqInstance "127.0.0.1" 5353 aRecords).trace K.step m ++
        ((assignDnsmasq f
            (some (K.run (newDnsmasqInstance "127.0.0.1" 5353 aRecords) m).1)).trace K.step
          (K.run (newDnsmasqInstance "127.0.0.1" 5353 aRecords) m).2 ++
        (startDnsmasq f).trace K.step
          (K.run (assignDnsmasq f
              (some (K.run (newDnsmasqInstance "127.0.0.1" 5353 aRecords) m).1))
            (K.run (newDnsmasqInstance "127.0.0.1" 5353 aRecords) m).2).2) := by
  simp only [createAndStartDnsFor, bind_eq_bind, Kernel.run, trace_bind]

end

end ClearwaterFv
