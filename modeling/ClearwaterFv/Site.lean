import ClearwaterFv.ProcessInstance

/-!
# Site — creating, driving and destroying the processes of a site

The constructor, the methods and the destructor of `Site` as harness programs.
-/

open Reasoning Reasoning.Prog

namespace ClearwaterFv

/-! ## The constructor -/

/-- The files and the text in them that every Chronos instance of a site is passed besides its
own. -/
def SiteArgs.chronosFiles (a : SiteArgs) : List (String × String) :=
  [(chronosDir a.dir ++ "/chronos_cluster.conf",
      (chronosLoop a.ipAddrPrefix a.dir a.numChronos).1),
    (chronosDir a.dir ++ "/chronos_shared.conf", sharedConf a.name a.deploymentTopology)]

def SiteArgs.clusterSettings (a : SiteArgs) : String :=
  (memcachedLoop a.ipAddrPrefix a.numMemcached).1

def createMemcachedInstances (a : SiteArgs) : Harness (List Inst) := do
  -- the stream is opened, and closed after the loop
  sys (.writeFile (a.dir ++ "/cluster_settings") "")
  let instances ← mapEach (memcachedLoop a.ipAddrPrefix a.numMemcached).2 fun args =>
    sys (.newInstance args [])
  sys (.writeFile (a.dir ++ "/cluster_settings") a.clusterSettings)
  return instances

def createRogersInstances (a : SiteArgs) : Harness (List Inst) :=
  mapEach (rogersLoop a.ipAddrPrefix a.dir a.numRogers) fun args =>
    sys (.newInstance args [(a.dir ++ "/cluster_settings", a.clusterSettings)])

/-- `ChronosInstance::ChronosInstance`. -/
def newChronosInstance (args : InstanceArgs) (dnsIp : String) (dnsPort : Int)
    (siteFiles : List (String × String)) : Harness Inst := do
  match args.kind with
  | .chronos instanceDir logDir confDir localConfFile _ _ =>
    sys (.createDirectory instanceDir)
    sys (.createDirectory logDir)
    sys (.createDirectory confDir)
    let noisy ← sys .getenvNoisy
    let config := chronosConf (getLogLevel noisy) logDir args.ip args.port dnsIp dnsPort
    sys (.writeFile localConfFile config)
    sys (.newInstance args ((localConfFile, config) :: siteFiles))
  | _ => sys (.newInstance args [])

def createChronosInstances (a : SiteArgs) : Harness (List Inst) := do
  sys (.createDirectory (chronosDir a.dir))
  sys (.writeFile (chronosDir a.dir ++ "/chronos_shared.conf")
    (sharedConf a.name a.deploymentTopology))
  sys (.writeFile (chronosDir a.dir ++ "/chronos_cluster.conf") "")
  let instances ← mapEach (chronosLoop a.ipAddrPrefix a.dir a.numChronos).2 fun args =>
    newChronosInstance args a.thisSite.dnsIp a.thisSite.dnsPort a.chronosFiles
  sys (.writeFile (chronosDir a.dir ++ "/chronos_cluster.conf")
    (chronosLoop a.ipAddrPrefix a.dir a.numChronos).1)
  return instances

/-- `Site::Site`. -/
def newSite (a : SiteArgs) : Harness Site := do
  sys (.createDirectory a.dir)
  let memcached ← createMemcachedInstances a
  let rogers ← createRogersInstances a
  let chronos ← createChronosInstances a
  return { args := a, memcachedInstances := memcached, rogersInstances := rogers,
           chronosInstances := chronos }

/-! ## The methods and the destructor -/

namespace Site

/-- `for_each_instance`.  The function takes its `shared_ptr` by value. -/
def forEachInstance (s : Site) (fn : Inst → Harness Bool) : Harness Unit :=
  forEach s.instances fun inst => do
    let _ ← viaCopy inst (fn inst)

def start (s : Site) : Harness Unit := s.forEachInstance startInstance

def restart (s : Site) : Harness Unit := s.forEachInstance restartInstance

def kill (s : Site) : Harness Unit := s.forEachInstance killInstance

-- the instances in order, with `ok` as it was after the ones before
def waitLoop : List Inst → Bool → Harness Bool
  | [], ok => return ok
  | inst :: rest, ok => do
    if ← viaCopy inst (waitForInstance inst) then
      waitLoop rest ok
    else
      waitLoop rest false

def waitForInstances (s : Site) : Harness Bool := waitLoop s.instances true

/-- `get_chronos_ips` and `get_rogers_ips`, from the instances asked about. -/
def getIps : List Inst → Harness (List String) := fun instances =>
  mapEach instances fun inst => do
    let args ← sys (.readArgs inst)
    return args.ip

/-- `~Site`. -/
def destroy (s : Site) : Harness Unit := do
  forEach s.memcachedInstances releaseInstance
  forEach s.rogersInstances releaseInstance
  forEach s.chronosInstances releaseInstance
  sys (.removeAll s.args.dir)

end Site

/-- The vector that a `get_first_*` accessor of `Site` looks at. -/
inductive Role where
  | memcached
  | rogers
  | chronos
deriving DecidableEq

def Site.instancesOf (s : Site) : Role → List Inst
  | .memcached => s.memcachedInstances
  | .rogers => s.rogersInstances
  | .chronos => s.chronosInstances

/-- `get_first_memcached`, `get_first_rogers` and `get_first_chronos`: the back of the vector,
which must not be empty. -/
def Site.getFirst? (s : Site) (r : Role) : Option Inst := (s.instancesOf r).getLast?

/-- The methods that a test calls on an instance to change what it runs. -/
inductive Method where
  | start
  | kill
  | restart
deriving DecidableEq

def Method.body : Method → Inst → Harness Bool
  | .start => startInstance
  | .kill => killInstance
  | .restart => restartInstance

/-- The calls that a test makes on a site: on all of it, or on an instance obtained through
`get_first_*`. -/
inductive SiteCall where
  | all (method : Method)
  | first (role : Role) (method : Method)

def Site.call (s : Site) : SiteCall → Harness Unit
  | .all .start => s.start
  | .all .kill => s.kill
  | .all .restart => s.restart
  | .first role method =>
    -- the back of an empty vector is no instance, and no test asks for it
    match s.getFirst? role with
    | none => return ()
    | some inst => do
      let _ ← viaCopy inst (method.body inst)

theorem Site.mem_instances_of_getFirst? {s : Site} {r : Role} {i : Inst}
    (h : s.getFirst? r = some i) : i ∈ s.instances := by
  have hmem : i ∈ s.instancesOf r := List.mem_of_getLast? h
  unfold Site.instances
  cases r with
  | memcached => exact List.mem_append_left _ (List.mem_append_left _ hmem)
  | rogers => exact List.mem_append_left _ (List.mem_append_right _ hmem)
  | chronos => exact List.mem_append_right _ hmem

-- What holds of the calls of `start_instance` and of `kill_instance` holds of all methods.
theorem Method.body_only {P : Sys → Prop} (method : Method) (self : Inst)
    (hstart : ∀ op, Sys.Starts self op → P op) (hkill : ∀ op, Sys.Kills self op → P op) :
    Only P (method.body self) := by
  have hs : Only P (startInstance self) := (startInstance_only self).mono hstart
  have hk : Only P (killInstance self) := (killInstance_only self).mono hkill
  cases method with
  | start => exact hs
  | kill => exact hk
  | restart =>
    refine Only.bind hk fun killed => ?_
    by_cases hkilled : killed = true
    · rw [if_pos hkilled]
      exact hs
    · rw [if_neg hkilled]
      exact Only.ret _

/-- One call of a method on one instance, through a temporary `shared_ptr`. -/
def callOnce (c : Method × Inst) : Harness Unit := do
  let _ ← viaCopy c.2 (c.1.body c.2)

/-- The calls on single instances that a call on a site comes to. -/
def Site.targets (s : Site) : SiteCall → List (Method × Inst)
  | .all method => s.instances.map fun inst => (method, inst)
  | .first role method => (s.getFirst? role).toList.map fun inst => (method, inst)

theorem Site.call_eq_targets (s : Site) (c : SiteCall) :
    s.call c = forEach (s.targets c) callOnce := by
  cases c with
  | all method =>
    unfold targets
    rw [forEach_map]
    cases method <;> rfl
  | first role method =>
    change (match s.getFirst? role with
      | none => ret ()
      | some inst => callOnce (method, inst)) =
        forEach ((s.getFirst? role).toList.map fun inst => (method, inst)) callOnce
    cases s.getFirst? role with
    | none => rfl
    | some inst =>
      change callOnce (method, inst) = (callOnce (method, inst)).bind fun _ => ret ()
      unfold callOnce
      rw [bind_eq_bind, bind_assoc]
      rfl

theorem Site.calls_eq_targets (s : Site) (cs : List SiteCall) :
    forEach cs s.call = forEach (cs.flatMap s.targets) callOnce := by
  rw [forEach_flatMap]
  exact congrArg (forEach cs) (funext s.call_eq_targets)

theorem Site.mem_instances_of_targets {s : Site} {c : SiteCall} {t : Method × Inst}
    (h : t ∈ s.targets c) : t.2 ∈ s.instances := by
  cases c with
  | all method =>
    obtain ⟨i, hi, rfl⟩ := List.mem_map.mp h
    exact hi
  | first role method =>
    obtain ⟨i, hi, rfl⟩ := List.mem_map.mp h
    exact mem_instances_of_getFirst? (Option.mem_toList.mp hi)

section

variable (K : Kernel) (m : Machine)

theorem Method.body_sameHeap (method : Method) (self : Inst) :
    SameHeap m.world (K.run (method.body self) m).2.world := by
  cases method with
  | start => exact startInstance_sameHeap K m self
  | kill => exact killInstance_sameHeap K m self
  | restart => exact restartInstance_sameHeap K m self

-- The calls of a call on one instance: the method's, between taking and giving up a
-- `shared_ptr`.
theorem trace_callOnce (c : Method × Inst) :
    (callOnce c).trace K.step m = (m, .addOwner c.2) ::
      ((c.1.body c.2).trace K.step (K.step m (.addOwner c.2)).2 ++
        (releaseInstance c.2).trace K.step
          (K.run (c.1.body c.2) (K.step m (.addOwner c.2)).2).2) := by
  unfold callOnce viaCopy
  simp only [bind_eq_bind, trace_bind, trace_perform, pure_eq_ret, trace_ret, List.append_nil,
    List.singleton_append, run_perform]

-- The world after a call on one instance, in terms of the method's own run.
theorem run_callOnce (method : Method) (self : Inst) (hown : 0 < m.world.owners self) :
    (K.run (callOnce (method, self)) m).2.world =
      { (K.run (method.body self) (K.step m (.addOwner self)).2).2.world with
        owners := m.world.owners } := by
  have hkeep : ∀ m', (K.run (method.body self) m').2.world.owners = m'.world.owners :=
    fun m' => (method.body_sameHeap K m' self).owners
  have hcopy := (run_viaCopy K m self (method.body self) hown hkeep).2
  unfold callOnce
  rw [bind_eq_bind, Kernel.run, run_bind]
  exact hcopy

-- A call on one instance leaves the heap as it was.
theorem callOnce_sameHeap (c : Method × Inst) (hown : 0 < m.world.owners c.2) :
    SameHeap m.world (K.run (callOnce c) m).2.world := by
  have hframe := c.1.body_sameHeap K (K.step m (.addOwner c.2)).2 c.2
  rw [run_callOnce K m c.1 c.2 hown]
  exact ⟨hframe.next, hframe.objects, rfl, hframe.confs, hframe.site, hframe.dnsmasq,
    hframe.files, hframe.cwd⟩

end

end ClearwaterFv
