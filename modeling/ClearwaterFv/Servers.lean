import ClearwaterFv.ClusterFiles
import ClearwaterFv.Orphans

/-!
# Servers — which servers run, at which addresses, and whose files they are

A server that is started at the address of one that still runs cannot bind it, and a test that
connects there talks to the wrong process.  While every instance is started only when its process
before has been reaped, and the instances that exist have addresses of their own, no two processes
ever share one.  The same instances say which files the harness removes.
-/

open Reasoning Reasoning.Paths Reasoning.Prog

namespace ClearwaterFv

/-- Every process that has not been reaped belongs to an instance that exists, and no two have the
same address. -/
structure OneServerPerAddress (w : World) : Prop where
  live : ∀ c ∈ w.children, (w.objects c.inst).isSome = true
  addresses : (w.children.map fun c => w.address c.inst).Nodup

theorem OneServerPerAddress.congr {w w' : World} (h : OneServerPerAddress w)
    (hchildren : w'.children.Sublist w.children)
    (hobjects : ∀ c ∈ w'.children, w'.objects c.inst = w.objects c.inst) :
    OneServerPerAddress w' where
  live c hc := by
    rw [hobjects c hc]
    exact h.live c (hchildren.subset hc)
  addresses := by
    have hsame : (w'.children.map fun c => w'.address c.inst) =
        w'.children.map fun c => w.address c.inst :=
      List.map_congr_left fun c hc => by
        unfold World.address
        rw [hobjects c hc]
    rw [hsame]
    exact h.addresses.sublist (hchildren.map _)

/-! ## Where the harness writes -/

/-- The configuration files of the dnsmasq instances: that of the fixtures, and that of the DNS
test. -/
def fixtureCfgfile : String := dnsmasqCfgfile "127.0.0.1" 5353
def dnsTestCfgfile : String := dnsmasqCfgfile "127.0.0.201" 5353

/-- The paths that a part of the tests may write, and its working directory. -/
structure Area where
  cwd : Path
  inside : Path → Prop

/-- A fixture writes at and below `tmp`, and the configuration file of its dnsmasq instance. -/
def fixtureArea (cwd : Path) : Area where
  cwd := cwd
  inside q := resolve cwd "tmp" <+: q ∨ q = resolve cwd fixtureCfgfile

/-- The DNS test writes a configuration file. -/
def dnsTestArea (cwd : Path) : Area where
  cwd := cwd
  inside q := q = resolve cwd dnsTestCfgfile

/-- A call that creates, writes and removes nothing outside the area. -/
def Sys.Confined (area : Area) : Sys → Prop
  | .createDirectory path | .writeFile path _ | .freopen path | .remove path =>
    area.inside (resolve area.cwd path)
  | .removeAll path => ∀ q, resolve area.cwd path <+: q → area.inside q
  | _ => True

/-- Outside the area the files are as given. -/
def SameOutside (area : Area) (files : FileTree) (m : Machine) : Prop :=
  m.world.cwd = area.cwd ∧ ∀ q, ¬ area.inside q → m.world.files q = files q

theorem createDirectory_other {t : FileTree} {p q : Path} (h : q ≠ p) :
    (t.createDirectory p) q = t q := by
  unfold FileTree.createDirectory
  cases t p with
  | some _ => rfl
  | none => exact Function.update_of_ne h ..

theorem touch_other {t : FileTree} {p q : Path} (h : q ≠ p) : (t.touch p) q = t q := by
  unfold FileTree.touch
  cases t p with
  | some _ => rfl
  | none => exact Function.update_of_ne h ..

theorem SameOutside.step {area : Area} {files : FileTree} (K : Kernel) {m : Machine} {op : Sys}
    (h : SameOutside area files m) (hop : op.Confined area) :
    SameOutside area files (K.step m op).2 := by
  have hne : ∀ {p q : Path}, area.inside p → ¬ area.inside q → q ≠ p := by
    rintro p q hp hq rfl
    exact hq hp
  obtain ⟨cwd, inside⟩ := area
  obtain ⟨hcwd, hfiles⟩ := h
  cases hcwd
  cases op with
  | createDirectory path =>
    exact ⟨rfl, fun q hq => (createDirectory_other (hne hop hq)).trans (hfiles q hq)⟩
  | writeFile path text =>
    exact ⟨rfl, fun q hq => (FileTree.writeFile_other (hne hop hq)).trans (hfiles q hq)⟩
  | freopen path => exact ⟨rfl, fun q hq => (touch_other (hne hop hq)).trans (hfiles q hq)⟩
  | remove path =>
    exact ⟨rfl, fun q hq => (FileTree.remove_other (hne hop hq)).trans (hfiles q hq)⟩
  | removeAll path =>
    refine ⟨rfl, fun q hq => Eq.trans ?_ (hfiles q hq)⟩
    exact FileTree.removeAll_elsewhere fun hpre => hq (hop q hpre)
  | fork self =>
    have hheap := m.world.forked_sameHeap self (K.fork m self)
    exact ⟨hheap.cwd, fun q hq => (congrFun hheap.files q).trans (hfiles q hq)⟩
  | kill self pid =>
    have hheap := m.world.killed_sameHeap self pid (K.kill m pid)
    exact ⟨hheap.cwd, fun q hq => (congrFun hheap.files q).trans (hfiles q hq)⟩
  | waitpid self pid =>
    have hheap := m.world.waited_sameHeap pid (K.waitpid m pid)
    exact ⟨hheap.cwd, fun q hq => (congrFun hheap.files q).trans (hfiles q hq)⟩
  | _ => exact ⟨rfl, hfiles⟩

/-! ## What the constructors write -/

section

variable {area : Area} {a : SiteArgs}

/-- All that is at and below the directory of the site is in the area. -/
structure SiteArgs.Inside (a : SiteArgs) (area : Area) : Prop where
  dir_ne_empty : a.dir ≠ ""
  dir : ∀ q, resolve area.cwd a.dir <+: q → area.inside q

theorem SiteArgs.Inside.below (h : a.Inside area) (p : Path) :
    area.inside (resolve area.cwd (a.dir ++ "/") ++ p) := by
  apply h.dir
  rw [resolve_append_slash area.cwd h.dir_ne_empty]
  exact List.prefix_append _ _

theorem newChronosInstance_confined (h : a.Inside area) (ii : Nat) (dnsIp : String) (dnsPort : Int)
    (siteFiles : List (String × String)) :
    Only (Sys.Confined area) (newChronosInstance (a.chronosAt ii) dnsIp dnsPort siteFiles) := by
  have hinstance : area.inside (resolve area.cwd (chronosInstanceDir a.dir (ii + 1))) := by
    rw [resolve_chronosInstanceDir]
    exact h.below _
  have hentry : ∀ {s c : String}, s = "/" ++ c → Plain c →
      area.inside (resolve area.cwd (chronosInstanceDir a.dir (ii + 1) ++ s)) := by
    intro s c hs hc
    rw [resolve_entry area.cwd (chronosInstanceDir_ne_empty a.dir (ii + 1)) hs hc,
      resolve_chronosInstanceDir, List.append_assoc]
    exact h.below _
  have hconf : area.inside (resolve area.cwd
      (chronosInstanceDir a.dir (ii + 1) ++ "/conf" ++ "/chronos.conf")) := by
    rw [resolve_localConf]
    exact h.below _
  refine Only.bind (Only.perform hinstance) fun _ => ?_
  refine Only.bind (Only.perform ?_) fun _ => ?_
  · exact hentry (s := "/log") (c := "log") rfl ⟨by decide, by decide, by decide, by decide⟩
  refine Only.bind (Only.perform ?_) fun _ => ?_
  · exact hentry (s := "/conf") (c := "conf") rfl ⟨by decide, by decide, by decide, by decide⟩
  refine Only.bind (Only.perform trivial) fun _ => ?_
  exact Only.bind (Only.perform hconf) fun _ => Only.perform trivial

theorem newSite_confined (h : a.Inside area) : Only (Sys.Confined area) (newSite a) := by
  have hsettings : area.inside (resolve area.cwd (a.dir ++ "/cluster_settings")) := by
    rw [resolve_clusterSettings]
    exact h.below _
  have hchronosDir : area.inside (resolve area.cwd (chronosDir a.dir)) := by
    rw [resolve_chronosDir]
    exact h.below _
  have hshared : area.inside (resolve area.cwd (chronosDir a.dir ++ "/chronos_shared.conf")) := by
    rw [resolve_sharedConf]
    exact h.below _
  have hcluster : area.inside
      (resolve area.cwd (chronosDir a.dir ++ "/chronos_cluster.conf")) := by
    rw [resolve_clusterConf]
    exact h.below _
  have hmemcached : Only (Sys.Confined area) (createMemcachedInstances a) := by
    refine Only.bind (Only.perform hsettings) fun _ => ?_
    refine Only.bind (Only.mapEach fun _ _ => Only.perform trivial) fun _ => ?_
    exact Only.bind (Only.perform hsettings) fun _ => Only.ret _
  have hrogers : Only (Sys.Confined area) (createRogersInstances a) :=
    Only.mapEach fun _ _ => Only.perform trivial
  have hchronos : Only (Sys.Confined area) (createChronosInstances a) := by
    refine Only.bind (Only.perform hchronosDir) fun _ => ?_
    refine Only.bind (Only.perform hshared) fun _ => ?_
    refine Only.bind (Only.perform hcluster) fun _ => ?_
    refine Only.bind ?_ fun _ => Only.bind (Only.perform hcluster) fun _ => Only.ret _
    rw [chronosLoop_eq_chronosAt, mapEach_map]
    exact Only.mapEach fun ii _ => newChronosInstance_confined h ii _ _ _
  refine Only.bind (Only.perform (h.dir _ (List.prefix_refl _))) fun _ => ?_
  refine Only.bind hmemcached fun _ => ?_
  refine Only.bind hrogers fun _ => ?_
  exact Only.bind hchronos fun _ => Only.ret _

-- The destructors of a site's instances remove nothing else.
theorem newInstances_confined (h : a.Inside area) {noisy : Option String} {x : InstanceArgs}
    (hx : x ∈ (a.newInstances noisy).map Prod.fst) :
    Only (Sys.Confined area) (removeFiles x) := by
  rw [newInstances_args, memcachedLoop_instances, rogersLoop_eq] at hx
  rcases List.mem_append.mp hx with hx | hx
  · rcases List.mem_append.mp hx with hx | hx
    · obtain ⟨ii, -, rfl⟩ := List.mem_map.mp hx
      exact Only.ret _
    · obtain ⟨ii, -, rfl⟩ := List.mem_map.mp hx
      exact Only.ret _
  · obtain ⟨ii, -, rfl⟩ := List.mem_map.mp hx
    refine Only.perform fun q hq => ?_
    rw [resolve_chronosInstanceDir] at hq
    obtain ⟨below, rfl⟩ := hq
    rw [List.append_assoc]
    exact h.below _

end

/-! ## Guarded calls -/

/-- A call that forks finds the address of its instance free; one that deletes an instance finds
it without a process; one that creates an instance does not do so in the place of one with a
process; and all write where they may. -/
structure Guarded (area : Area) (m : Machine) (op : Sys) : Prop where
  forks : ∀ i, op.forks? = some i → (m.world.objects i).isSome = true ∧
    ∀ c ∈ m.world.children, m.world.address c.inst ≠ m.world.address i
  deletes : ∀ i, op = .deleteInstance i → ∀ c ∈ m.world.children, c.inst ≠ i
  creates : ∀ args confs, op = .newInstance args confs →
    ∀ c ∈ m.world.children, c.inst ≠ m.world.next
  confined : op.Confined area

/-- A call that none of this is about. -/
def Sys.Unguarded : Sys → Prop
  | .fork _ | .deleteInstance _ | .newInstance .. | .createDirectory _ | .writeFile ..
  | .freopen _ | .remove _ | .removeAll _ => False
  | _ => True

theorem Sys.Unguarded.guarded {op : Sys} (hop : op.Unguarded) (area : Area) (m : Machine) :
    Guarded area m op where
  forks i hi := by cases op <;> first | exact absurd hop id | cases hi
  deletes i hi := by
    rw [hi] at hop
    exact absurd hop id
  creates args confs hnew := by
    rw [hnew] at hop
    exact absurd hop id
  confined := by cases op <;> first | exact trivial | exact absurd hop id

theorem OneServerPerAddress.step {area : Area} (K : Kernel) {m : Machine} {op : Sys}
    (h : OneServerPerAddress m.world) (hop : Guarded area m op) :
    OneServerPerAddress (K.step m op).2.world := by
  have hsame : ∀ {w : World}, w.children = m.world.children → w.objects = m.world.objects →
      OneServerPerAddress w := by
    intro w hchildren hobjects
    refine h.congr ?_ fun c _ => congrFun hobjects _
    rw [hchildren]
  cases op with
  | fork self =>
    obtain ⟨hlive, hfree⟩ := hop.forks self rfl
    change OneServerPerAddress (m.world.forked self (K.fork m self))
    unfold World.forked
    by_cases hfail : K.fork m self = -1
    · rw [if_pos hfail]
      exact h
    · rw [if_neg hfail]
      refine ⟨List.forall_mem_cons.mpr ⟨hlive, h.live⟩, List.nodup_cons.mpr ⟨?_, h.addresses⟩⟩
      intro hmem
      obtain ⟨c, hc, hsame⟩ := List.mem_map.mp hmem
      exact hfree c hc hsame
  | newInstance args confs =>
    refine h.congr (List.Sublist.refl _) fun c hc => ?_
    exact Function.update_of_ne (hop.creates args confs rfl c hc) ..
  | deleteInstance self =>
    refine h.congr (List.Sublist.refl _) fun c hc => ?_
    exact Function.update_of_ne (hop.deletes self rfl c hc) ..
  | kill self pid =>
    change OneServerPerAddress (m.world.killed self pid (K.kill m pid))
    unfold World.killed
    by_cases hsent : K.kill m pid = 0
    · rw [if_pos hsent]
      exact hsame rfl rfl
    · rw [if_neg hsent]
      exact h
  | waitpid self pid =>
    change OneServerPerAddress (m.world.waited pid (K.waitpid m pid))
    cases K.waitpid m pid with
    | failed status => exact h
    | reaped status => exact h.congr List.filter_sublist fun _ _ => rfl
  | _ => exact hsame rfl rfl

theorem Unguarded.always {α : Type} {p : Harness α} (hp : Only Sys.Unguarded p) (area : Area)
    (K : Kernel) (m : Machine) : Always K.step (Guarded area) p m :=
  hp.always_of (fun m _ hop => hop.guarded area m) m

/-! ## Between two methods -/

/-- Between two methods: the instances `insts` are all that there are, at addresses of their own;
the processes are the ones that they have recorded; and what their destructors remove is in the
footprint. -/
structure Fleet (area : Area) (insts : List Inst) (w : World) : Prop where
  sound : PidsSound w
  known : ChildrenKnown w
  live : ∀ i, (w.objects i).isSome = true ↔ i ∈ insts
  old : ∀ i ∈ insts, i < w.next
  children : ∀ c ∈ w.children, c.inst ∈ insts
  apart : (insts.map w.address).Nodup
  contained : ∀ i args, w.objects i = some args → Only (Sys.Confined area) (removeFiles args)
  unused : ∀ i, w.next ≤ i → w.objects i = none
  cwd : w.cwd = area.cwd

namespace Fleet

variable {area : Area} {insts : List Inst} {w w' : World}

theorem handles (h : Fleet area insts w) : insts.Nodup := h.apart.of_map

-- A process at the address of an instance is a process of this instance.
theorem inst_eq (h : Fleet area insts w) {i j : Inst} (hi : i ∈ insts) (hj : j ∈ insts)
    (heq : w.address i = w.address j) : i = j :=
  List.inj_on_of_nodup_map h.apart hi hj heq

-- An instance that is not running has no process.
theorem no_child (h : Fleet area insts w) {i : Inst} (hstopped : w.running i = false) :
    ∀ c ∈ w.children, c.inst ≠ i := by
  rintro c hc rfl
  obtain ⟨hrun, -⟩ := h.known c hc
  rw [hstopped] at hrun
  cases hrun

theorem oneServer (h : Fleet area insts w) : OneServerPerAddress w where
  live c hc := (h.live _).mpr (h.children c hc)
  addresses := by
    have hchildren : w.children.Nodup := h.sound.nodup.of_map
    refine hchildren.map_on fun c hc d hd heq => ?_
    have hinst := h.inst_eq (h.children c hc) (h.children d hd) heq
    obtain ⟨-, hpc⟩ := h.known c hc
    obtain ⟨-, hpd⟩ := h.known d hd
    refine child_unique h.sound.nodup hc hd ?_
    rw [← hpc, ← hpd, hinst]

theorem perm (h : Fleet area insts w) {insts' : List Inst} (hperm : insts.Perm insts') :
    Fleet area insts' w where
  sound := h.sound
  known := h.known
  live i := (h.live i).trans hperm.mem_iff
  old i hi := h.old i (hperm.mem_iff.mpr hi)
  children c hc := hperm.mem_iff.mp (h.children c hc)
  apart := (hperm.map _).nodup_iff.mp h.apart
  contained := h.contained
  unused := h.unused
  cwd := h.cwd

theorem congr (h : Fleet area insts w) (hchildren : w'.children = w.children)
    (hpid : w'.pid = w.pid) (hrunning : w'.running = w.running) (hobjects : w'.objects = w.objects)
    (hnext : w'.next = w.next) (hcwd : w'.cwd = w.cwd) : Fleet area insts w' where
  sound := h.sound.congr hchildren hpid hrunning
  known := by
    unfold ChildrenKnown
    rw [hchildren, hpid, hrunning]
    exact h.known
  live := by
    rw [hobjects]
    exact h.live
  old := by
    rw [hnext]
    exact h.old
  children := by
    rw [hchildren]
    exact h.children
  apart := by
    unfold World.address
    rw [hobjects]
    exact h.apart
  contained := by
    rw [hobjects]
    exact h.contained
  unused := by
    rw [hnext, hobjects]
    exact h.unused
  cwd := hcwd.trans h.cwd

-- A method keeps the heap; what it does to the processes is for its own lemmas.
theorem of_sameHeap (h : Fleet area insts w) (hheap : SameHeap w w') (hsound : PidsSound w')
    (hknown : ChildrenKnown w') (hchildren : ∀ c ∈ w'.children, c.inst ∈ insts) :
    Fleet area insts w' where
  sound := hsound
  known := hknown
  live := by
    rw [hheap.objects]
    exact h.live
  old := by
    rw [hheap.next]
    exact h.old
  children := hchildren
  apart := by
    unfold World.address
    rw [hheap.objects]
    exact h.apart
  contained := by
    rw [hheap.objects]
    exact h.contained
  unused := by
    rw [hheap.next, hheap.objects]
    exact h.unused
  cwd := hheap.cwd.trans h.cwd

end Fleet

/-! ## The methods -/

theorem killInstance_unguarded (self : Inst) : Only Sys.Unguarded (killInstance self) :=
  (killInstance_only self).mono fun op hop => by
    cases op <;> first | exact trivial | exact absurd hop id

-- In the process that forks, what follows is the writes of `_pid` and `_running`.
theorem afterFork_parent (self : Inst) {pid : Int} (hpid : pid ≠ 0) :
    Only Sys.Unguarded (afterFork self pid) := by
  unfold afterFork
  by_cases hfail : pid = -1
  · rw [if_pos hfail]
    exact Only.ret _
  · rw [if_neg hfail, if_neg hpid]
    exact Only.call trivial fun _ => Only.call trivial fun _ => Only.ret _

-- The calls of a method called through a temporary `shared_ptr`.
theorem always_viaCopy {α : Type} {Φ : Machine → Sys → Prop} (K : Kernel) {m : Machine}
    {self : Inst} {method : Harness α} (hadd : ∀ m, Φ m (.addOwner self))
    (hdrop : ∀ m, Φ m (.dropOwner self))
    (hmethod : Always K.step Φ method (K.step m (.addOwner self)).2)
    (hkeep : (K.run method (K.step m (.addOwner self)).2).2.world.owners =
      (K.step m (.addOwner self)).2.world.owners)
    (hown : 0 < m.world.owners self) : Always K.step Φ (viaCopy self method) m := by
  have hmore : 1 < (K.run method (K.step m (.addOwner self)).2).2.world.owners self := by
    rw [hkeep]
    change 1 < Function.update m.world.owners self (m.world.owners self + 1) self
    rw [Function.update_self]
    omega
  have hrelease : Always K.step Φ (releaseInstance self)
      (K.run method (K.step m (.addOwner self)).2).2 := by
    intro e he
    rw [trace_releaseInstance_of_lt K _ self hmore] at he
    rw [List.mem_singleton.mp he]
    exact hdrop _
  refine Always.bind (Always.perform (hadd m)) (Always.bind hmethod ?_)
  exact Always.bind hrelease (Always.ret _ _)

namespace Fleet

variable {area : Area} {insts : List Inst} {m : Machine} {self : Inst}

theorem killInstance (K : ReapingKernel) (h : Fleet area insts m.world) (self : Inst) :
    Fleet area insts (K.run (ClearwaterFv.killInstance self) m).2.world := by
  refine h.of_sameHeap (killInstance_sameHeap K.toKernel m self)
    (h.sound.killInstance K.toKernel self) (h.known.killInstance K h.sound self) ?_
  rcases K.killInstance_cases h.sound self with ⟨-, -, hw⟩ | ⟨-, hw⟩ | ⟨-, hw⟩
  · rw [hw]
    exact h.children
  · rw [hw]
    exact h.children
  · rw [hw]
    exact fun c hc => h.children c (List.mem_of_mem_filter hc)

theorem startInstance (K : Kernel) (h : Fleet area insts m.world) (hself : self ∈ insts)
    (hstopped : m.world.running self = false) :
    Always K.step (Guarded area) (ClearwaterFv.startInstance self) m ∧
      Fleet area insts (K.run (ClearwaterFv.startInstance self) m).2.world := by
  constructor
  · have hfork : Guarded area m (.fork self) := by
      refine ⟨fun i hi => ?_, fun _ hop => (nomatch hop), fun _ _ hop => (nomatch hop), trivial⟩
      cases hi
      refine ⟨(h.live self).mpr hself, fun c hc heq => ?_⟩
      exact h.no_child hstopped c hc (h.inst_eq (h.children c hc) hself heq)
    refine Always.call hfork (Unguarded.always (afterFork_parent self ?_) area K _)
    rcases K.fork_pid m self with hfail | ⟨hpos, -⟩
    · change K.fork m self ≠ 0
      omega
    · exact ne_of_gt hpos
  · refine h.of_sameHeap (startInstance_sameHeap K m self) (h.sound.startInstance K self) ?_ ?_
    · exact (childrenKnown_startInstance_iff K h.sound h.known self).mpr fun _ => hstopped
    · rcases startInstance_cases K m self with ⟨-, -, hw⟩ | ⟨pid, -, -, -, -, hw⟩
      · rw [hw]
        exact h.children
      · rw [hw]
        exact List.forall_mem_cons.mpr ⟨hself, h.children⟩

theorem method (K : ReapingKernel) (h : Fleet area insts m.world) {c : Method × Inst}
    (hc : c.2 ∈ insts) (hstopped : c.1 = .start → m.world.running c.2 = false) :
    Always K.step (Guarded area) (c.1.body c.2) m ∧
      Fleet area insts (K.run (c.1.body c.2) m).2.world := by
  obtain ⟨method, i⟩ := c
  have hkill : Always K.step (Guarded area) (ClearwaterFv.killInstance i) m :=
    Unguarded.always (killInstance_unguarded i) area K.toKernel m
  cases method with
  | start => exact h.startInstance K.toKernel hc (hstopped rfl)
  | kill => exact ⟨hkill, h.killInstance K i⟩
  | restart =>
    have h₁ := h.killInstance K i
    rw [Method.body, run_restartInstance]
    by_cases hkilled : (K.run (ClearwaterFv.killInstance i) m).1 = true
    · obtain ⟨hstart, hfleet⟩ := h₁.startInstance K.toKernel hc
        (K.not_running_of_killed h.sound i hkilled)
      rw [if_pos hkilled]
      refine ⟨Always.bind hkill ?_, hfleet⟩
      rw [if_pos hkilled]
      exact hstart
    · rw [if_neg hkilled]
      refine ⟨Always.bind hkill ?_, h₁⟩
      rw [if_neg hkilled]
      exact Always.ret _ _

-- Through a temporary `shared_ptr`.
theorem callOnce (K : ReapingKernel) (h : Fleet area insts m.world) {c : Method × Inst}
    (hc : c.2 ∈ insts) (hown : 0 < m.world.owners c.2)
    (hstopped : c.1 = .start → m.world.running c.2 = false) :
    Always K.step (Guarded area) (ClearwaterFv.callOnce c) m ∧
      Fleet area insts (K.run (ClearwaterFv.callOnce c) m).2.world := by
  have h₁ : Fleet area insts (K.step m (.addOwner c.2)).2.world := h.congr rfl rfl rfl rfl rfl rfl
  obtain ⟨hbody, h₂⟩ := h₁.method K hc hstopped
  constructor
  · have hshare : ∀ op : Sys, op.Unguarded → ∀ m, Guarded area m op := fun _ hop m =>
      hop.guarded area m
    refine Always.bind (always_viaCopy K.toKernel (hshare (.addOwner c.2) trivial)
      (hshare (.dropOwner c.2) trivial) hbody ?_ hown) (Always.ret _ _)
    exact (c.1.body_sameHeap K.toKernel _ c.2).owners
  · rw [run_callOnce K.toKernel m c.1 c.2 hown]
    exact h₂.congr rfl rfl rfl rfl rfl rfl

end Fleet

/-! ## Sequences of calls -/

/-- A call that leaves `_running` of an instance as it is. -/
def Sys.SparesRunning (i : Inst) : Sys → Prop
  | .writeRunning self _ => self ≠ i
  | .newInstance .. => False
  | _ => True

theorem Sys.SparesRunning.step {i : Inst} {op : Sys} (hop : op.SparesRunning i) (K : Kernel)
    (m : Machine) : (K.step m op).2.world.running i = m.world.running i := by
  cases op with
  | writeRunning self running => exact Function.update_of_ne (Ne.symm hop) ..
  | newInstance args confs => exact absurd hop id
  | fork self =>
    change (m.world.forked self (K.fork m self)).running i = _
    unfold World.forked
    by_cases hfail : K.fork m self = -1
    · rw [if_pos hfail]
    · rw [if_neg hfail]
  | kill self pid =>
    change (m.world.killed self pid (K.kill m pid)).running i = _
    unfold World.killed
    by_cases hsent : K.kill m pid = 0
    · rw [if_pos hsent]
    · rw [if_neg hsent]
  | waitpid self pid =>
    change (m.world.waited pid (K.waitpid m pid)).running i = _
    cases K.waitpid m pid <;> rfl
  | _ => rfl

-- A method changes `_running` of its own instance alone.
theorem running_callOnce_other (K : Kernel) {m : Machine} {c : Method × Inst} {i : Inst}
    (hi : c.2 ≠ i) (hown : 0 < m.world.owners c.2) :
    (K.run (callOnce c) m).2.world.running i = m.world.running i := by
  have hbody : Only (Sys.SparesRunning i) (c.1.body c.2) := by
    refine c.1.body_only c.2 (fun op hop => ?_) fun op hop => ?_
    · cases op <;>
        first | exact trivial | exact fun h => hi (hop.symm.trans h) | exact absurd hop id
    · cases op <;>
        first | exact trivial | exact fun h => hi (hop.symm.trans h) | exact absurd hop id
  rw [run_callOnce K m c.1 c.2 hown]
  exact hbody.run_inv (I := fun m' : Machine => m'.world.running i = m.world.running i)
    (fun m' _ hop hm' => (hop.step K m').trans hm') rfl

namespace Fleet

variable {area : Area} {insts : List Inst} {m : Machine}

-- Calls on different instances, those that are to be started being stopped before.
theorem calls (K : ReapingKernel) {cs : List (Method × Inst)} (h : Fleet area insts m.world)
    (hown : ∀ i ∈ insts, 0 < m.world.owners i) (hnodup : (cs.map Prod.snd).Nodup)
    (hcs : ∀ c ∈ cs, c.2 ∈ insts)
    (hstopped : ∀ c ∈ cs, c.1 = .start → m.world.running c.2 = false) :
    Always K.step (Guarded area) (forEach cs ClearwaterFv.callOnce) m ∧
      Fleet area insts (K.run (forEach cs ClearwaterFv.callOnce) m).2.world ∧
      SameHeap m.world (K.run (forEach cs ClearwaterFv.callOnce) m).2.world := by
  induction cs generalizing m with
  | nil => exact ⟨Always.ret _ _, h, SameHeap.refl _⟩
  | cons c cs ih =>
    have hc : c.2 ∈ insts := hcs c List.mem_cons_self
    obtain ⟨hnot, hnodup'⟩ := List.nodup_cons.mp hnodup
    let m₁ := (K.run (ClearwaterFv.callOnce c) m).2
    have hheap : SameHeap m.world m₁.world := callOnce_sameHeap K.toKernel m c (hown _ hc)
    obtain ⟨hfirst, h₁⟩ := h.callOnce K hc (hown _ hc) (hstopped c List.mem_cons_self)
    have hown' : ∀ i ∈ insts, 0 < m₁.world.owners i := by
      rw [hheap.owners]
      exact hown
    have hstopped' : ∀ d ∈ cs, d.1 = .start → m₁.world.running d.2 = false := by
      intro d hd hstart
      have hne : c.2 ≠ d.2 := fun heq => hnot (heq ▸ List.mem_map_of_mem hd)
      rw [running_callOnce_other K.toKernel hne (hown _ hc)]
      exact hstopped d (List.mem_cons_of_mem _ hd) hstart
    obtain ⟨hrest, h₂, hheap'⟩ := ih h₁ hown' hnodup'
      (fun d hd => hcs d (List.mem_cons_of_mem _ hd)) hstopped'
    rw [forEach_cons, Kernel.run, run_bind]
    exact ⟨Always.bind hfirst hrest, h₂, hheap.trans hheap'⟩

/-! ## Constructing and destroying -/

-- Constructors write their files where they may, and their instances are new.
theorem constructs {α : Type} (K : Kernel) {p : Harness α}
    (hp : Only (fun op => op.Constructs ∧ op.Confined area) p) (h : Fleet area insts m.world) :
    Always K.step (Guarded area) p m := by
  have hinv : Always K.step (fun m' op => (∀ c ∈ m'.world.children, c.inst < m'.world.next) ∧
      op.Constructs ∧ op.Confined area) p m := by
    refine hp.always (I := fun m' : Machine => ∀ c ∈ m'.world.children, c.inst < m'.world.next)
      (fun m' op hop hm' => ?_) fun c hc => h.old _ (h.children c hc)
    cases op <;> first
      | exact hm'
      | exact fun c hc => Nat.lt_succ_of_lt (hm' c hc)
      | exact absurd hop.1 id
  refine hinv.mono fun m' op hop => ⟨fun i hi => ?_, fun i hi => ?_, fun _ _ _ c hc => ?_, hop.2.2⟩
  · cases op <;> first | exact absurd hop.2.1 id | cases hi
  · rw [hi] at hop
    exact absurd hop.2.1 id
  · exact Nat.ne_of_lt (hop.1 c hc)

theorem unused_constructs {α : Type} (K : Kernel) {p : Harness α} (hp : Only Sys.Constructs p)
    (h : ∀ i, m.world.next ≤ i → m.world.objects i = none) :
    ∀ i, (K.run p m).2.world.next ≤ i → (K.run p m).2.world.objects i = none := by
  refine hp.run_inv (I := fun m' : Machine => ∀ i, m'.world.next ≤ i → m'.world.objects i = none)
    (fun m' op hop hm' => ?_) h
  cases op with
  | newInstance args confs =>
    intro i hi
    have hne : i ≠ m'.world.next := Nat.ne_of_gt hi
    exact (Function.update_of_ne hne ..).trans (hm' i (Nat.le_of_succ_le hi))
  | getenvNoisy => exact hm'
  | createDirectory path => exact hm'
  | writeFile path text => exact hm'
  | _ => exact absurd hop id

-- What constructors create joins the fleet.
theorem creates {α : Type} (K : Kernel) {p : Harness α} (hp : Only Sys.Constructs p)
    (h : Fleet area insts m.world) {objs : List NewObject}
    (hcreates : Creates m.world (K.run p m).2.world objs)
    (hapart : ((objs.map fun o => some (o.args.ip, o.args.port)) ++
      insts.map m.world.address).Nodup)
    (hcontained : ∀ o ∈ objs, Only (Sys.Confined area) (removeFiles o.args)) :
    Fleet area (objs.map NewObject.inst ++ insts) (K.run p m).2.world := by
  have hunused := unused_constructs K hp h.unused
  have hsound : PidsSound (K.run p m).2.world := (keepsPidsSound_constructs K hp).final m h.sound
  generalize K.run p m = after at *
  have hold : ∀ i ∈ insts, after.2.world.objects i = m.world.objects i :=
    fun i hi => (hcreates.old i (h.old i hi)).1
  -- what exists is new, or has been there before
  have hmem : ∀ i, (after.2.world.objects i).isSome = true →
      i ∈ objs.map NewObject.inst ++ insts := by
    intro i hi
    by_cases hlow : i < m.world.next
    · rw [(hcreates.old i hlow).1] at hi
      exact List.mem_append_right _ ((h.live i).mp hi)
    · have hhigh : i < after.2.world.next := by
        by_contra hnot
        rw [hunused i (Nat.not_lt.mp hnot)] at hi
        cases hi
      rw [hcreates.next] at hhigh
      rw [hcreates.insts]
      exact List.mem_append_left _ (List.mem_range'_1.mpr ⟨Nat.not_lt.mp hlow, hhigh⟩)
  refine ⟨hsound, fun c hc => ?_, fun i => ?_, fun i hi => ?_, fun c hc => ?_, ?_,
    fun i args hargs => ?_, hunused, hcreates.cwd.trans h.cwd⟩
  · rw [hcreates.children] at hc
    obtain ⟨-, -, hrunning, -⟩ := hcreates.old c.inst (h.old _ (h.children c hc))
    rw [hrunning, hcreates.pid]
    exact h.known c hc
  · refine ⟨hmem i, fun hi => ?_⟩
    rcases List.mem_append.mp hi with hi | hi
    · obtain ⟨o, ho, rfl⟩ := List.mem_map.mp hi
      rw [(hcreates.new o ho).1]
      rfl
    · rw [hold i hi]
      exact (h.live i).mpr hi
  · rcases List.mem_append.mp hi with hi | hi
    · obtain ⟨o, ho, rfl⟩ := List.mem_map.mp hi
      exact (hcreates.inst_lt ho).2
    · rw [hcreates.next]
      exact Nat.lt_of_lt_of_le (h.old i hi) (Nat.le_add_right _ _)
  · rw [hcreates.children] at hc
    exact List.mem_append_right _ (h.children c hc)
  · have hnew : (objs.map NewObject.inst).map after.2.world.address =
        objs.map fun o => some (o.args.ip, o.args.port) := by
      rw [List.map_map]
      refine List.map_congr_left fun o ho => ?_
      change (after.2.world.objects o.inst).map _ = _
      rw [(hcreates.new o ho).1]
      rfl
    have hsame : insts.map after.2.world.address = insts.map m.world.address :=
      List.map_congr_left fun i hi => congrArg _ (hold i hi)
    rw [List.map_append, hnew, hsame]
    exact hapart
  · rcases List.mem_append.mp (hmem i (by rw [hargs]; rfl)) with hi | hi
    · obtain ⟨o, ho, rfl⟩ := List.mem_map.mp hi
      rw [(hcreates.new o ho).1] at hargs
      cases hargs
      exact hcontained o ho
    · rw [hold i hi] at hargs
      exact h.contained i args hargs

-- An instance with a `kill(2)` and a `waitpid` that succeed is stopped.
theorem stopped_killInstance (H : CleanKernel) (h : Fleet area insts m.world) (self : Inst) :
    (H.run (ClearwaterFv.killInstance self) m).2.world.running self = false := by
  refine H.not_running_of_killed h.sound self ?_
  rcases killInstance_cases H.toKernel m self with ⟨-, hvalue, -⟩ | ⟨-, ⟨m', hkill⟩, -⟩ |
    ⟨hrun, m', status, exited, hwait, hchildren, -, -⟩ | ⟨-, -, hvalue, -⟩
  · exact hvalue
  · exact absurd (H.kills m' _) hkill
  · have hmem : m.world.pid self ∈ m'.world.unreaped := by
      rw [World.unreaped, hchildren]
      exact mem_unreaped (h.sound.running self hrun)
    obtain ⟨status', hreaped⟩ := H.reaps m' _ hmem
    rw [hwait] at hreaped
    cases hreaped
  · exact hvalue

-- An instance without a process leaves the fleet.
theorem delete (h : Fleet area insts m.world) {self : Inst}
    (hstopped : m.world.running self = false) (K : Kernel) :
    Fleet area (insts.erase self) (K.step m (.deleteInstance self)).2.world := by
  have hother : ∀ i, i ≠ self →
      (K.step m (.deleteInstance self)).2.world.objects i = m.world.objects i :=
    fun i hi => Function.update_of_ne hi ..
  have hself : (K.step m (.deleteInstance self)).2.world.objects self = none :=
    Function.update_self ..
  have hmem : ∀ i, i ∈ insts.erase self ↔ i ≠ self ∧ i ∈ insts := fun i => h.handles.mem_erase_iff
  refine ⟨h.sound.congr rfl rfl rfl, h.known, fun i => ?_, fun i hi => ?_, fun c hc => ?_, ?_,
    fun i args hargs => ?_, fun i hi => ?_, h.cwd⟩
  · rw [hmem]
    by_cases hi : i = self
    · rw [hi, hself]
      exact ⟨fun hsome => (nomatch hsome), fun hboth => absurd rfl hboth.1⟩
    · rw [hother i hi, h.live]
      exact ⟨fun hin => ⟨hi, hin⟩, fun hboth => hboth.2⟩
  · exact h.old i ((hmem i).mp hi).2
  · exact (hmem _).mpr ⟨h.no_child hstopped c hc, h.children c hc⟩
  · have hsame : (insts.erase self).map (K.step m (.deleteInstance self)).2.world.address =
        (insts.erase self).map m.world.address :=
      List.map_congr_left fun i hi => congrArg _ (hother i ((hmem i).mp hi).1)
    rw [hsame]
    exact h.apart.sublist (List.erase_sublist.map _)
  · by_cases hi : i = self
    · rw [hi, hself] at hargs
      cases hargs
    · rw [hother i hi] at hargs
      exact h.contained i args hargs
  · by_cases hi' : i = self
    · rw [hi']
      exact hself
    · rw [hother i hi']
      exact h.unused i hi

theorem destroyInstance (H : CleanKernel) (h : Fleet area insts m.world) {self : Inst}
    (hself : self ∈ insts) :
    Always H.step (Guarded area) (ClearwaterFv.destroyInstance self) m ∧
      Fleet area (insts.erase self) (H.run (ClearwaterFv.destroyInstance self) m).2.world := by
  obtain ⟨args, hargs⟩ := Option.isSome_iff_exists.mp ((h.live self).mpr hself)
  have hanswer : H.answer m (.readArgs self) = args := by
    change (m.world.objects self).getD default = args
    rw [hargs]
    rfl
  let m₁ := (H.step m (.readArgs self)).2
  let m₂ := (H.run (removeFiles args) m₁).2
  let m₃ := (H.run (ClearwaterFv.killInstance self) m₂).2
  obtain ⟨t, hfiles⟩ := run_removeFiles H.toKernel args m₁
  have h₂ : Fleet area insts m₂.world := by
    change m₂.world = _ at hfiles
    rw [hfiles]
    exact h.congr rfl rfl rfl rfl rfl rfl
  have h₃ : Fleet area insts m₃.world := h₂.killInstance H.toReapingKernel self
  have hstopped : m₃.world.running self = false := stopped_killInstance H h₂ self
  -- the destructor removes files alone
  have hremove : Always H.step (Guarded area) (removeFiles args) m₁ := by
    intro e he
    have hconfined := (h.contained self args hargs).always_of (Φ := fun _ op => op.Confined area)
      (fun _ _ hop => hop) m₁ e he
    have hremoves := (removeFiles_only args).always_of (Φ := fun _ op => op.Removes)
      (fun _ _ hop => hop) m₁ e he
    obtain ⟨m', op⟩ := e
    refine ⟨fun i hi => ?_, fun i hi => ?_, fun _ _ hop => ?_, hconfined⟩
    · cases op <;> first | exact absurd hremoves id | cases hi
    · cases op <;> first | exact absurd hremoves id | cases hi
    · cases op <;> first | exact absurd hremoves id | cases hop
  have hkill : Always H.step (Guarded area) (ClearwaterFv.killInstance self) m₂ :=
    Unguarded.always (killInstance_unguarded self) area H.toKernel m₂
  have hdelete : Guarded area m₃ (.deleteInstance self) := by
    refine ⟨fun _ hi => (nomatch hi), fun i hi => ?_, fun _ _ hop => (nomatch hop), trivial⟩
    cases hi
    exact h₃.no_child hstopped
  have hread : Guarded area m (.readArgs self) :=
    @Sys.Unguarded.guarded (.readArgs self) trivial area m
  unfold ClearwaterFv.destroyInstance
  simp only [bind_eq_bind]
  constructor
  · refine Always.call hread ?_
    change Always H.step _ ((removeFiles (H.answer m (.readArgs self))).bind _) m₁
    rw [hanswer]
    exact Always.bind hremove (Always.bind hkill (Always.perform hdelete))
  · have hrun : (H.run ((sys (.readArgs self)).bind fun args => (removeFiles args).bind fun _ =>
        (ClearwaterFv.killInstance self).bind fun _ => sys (.deleteInstance self)) m).2 =
          (H.step m₃ (.deleteInstance self)).2 := by
      simp only [Kernel.run, run_bind, run_perform, Kernel.step_answer, hanswer]
      rfl
    rw [hrun]
    exact h₃.delete hstopped H.toKernel

-- The last `shared_ptr` to an instance goes away.
theorem releaseInstance (H : CleanKernel) (h : Fleet area insts m.world) {self : Inst}
    (hself : self ∈ insts) (hown : m.world.owners self = 1) :
    Always H.step (Guarded area) (ClearwaterFv.releaseInstance self) m ∧
      Fleet area (insts.erase self) (H.run (ClearwaterFv.releaseInstance self) m).2.world := by
  let m₁ := (H.step m (.dropOwner self)).2
  have h₁ : Fleet area insts m₁.world := h.congr rfl rfl rfl rfl rfl rfl
  obtain ⟨hdestroy, h₂⟩ := h₁.destroyInstance H hself
  have hlast : m.world.owners self - 1 = 0 := by rw [hown]
  have hdrop : Guarded area m (.dropOwner self) :=
    @Sys.Unguarded.guarded (.dropOwner self) trivial area m
  have hrun : H.run (ClearwaterFv.releaseInstance self) m =
      H.run (if m.world.owners self - 1 = 0 then ClearwaterFv.destroyInstance self else ret ())
        m₁ := rfl
  rw [hrun, if_pos hlast]
  refine ⟨Always.call hdrop ?_, h₂⟩
  change Always H.step _
    (if m.world.owners self - 1 = 0 then ClearwaterFv.destroyInstance self else ret ()) m₁
  rw [if_pos hlast]
  exact hdestroy

-- A vector of `shared_ptr`s is cleared.
theorem releaseAll (H : CleanKernel) {targets : List Inst} (hnodup : targets.Nodup)
    (hsub : ∀ i ∈ targets, i ∈ insts) (h : Fleet area insts m.world)
    (hown : ∀ i ∈ insts, m.world.owners i = 1) :
    Always H.step (Guarded area) (forEach targets ClearwaterFv.releaseInstance) m ∧
      ∃ insts', (∀ i, i ∈ insts' ↔ i ∈ insts ∧ i ∉ targets) ∧
        Fleet area insts' (H.run (forEach targets ClearwaterFv.releaseInstance) m).2.world ∧
        ∀ i ∈ insts',
          (H.run (forEach targets ClearwaterFv.releaseInstance) m).2.world.owners i = 1 := by
  induction targets generalizing m insts with
  | nil =>
    refine ⟨Always.ret _ _, insts, fun i => ⟨fun hi => ⟨hi, List.not_mem_nil⟩, fun hi => hi.1⟩, h,
      hown⟩
  | cons self targets ih =>
    obtain ⟨hnot, hnodup'⟩ := List.nodup_cons.mp hnodup
    have hself : self ∈ insts := hsub self List.mem_cons_self
    let m₁ := (H.run (ClearwaterFv.releaseInstance self) m).2
    obtain ⟨hfirst, h₁⟩ := h.releaseInstance H hself (hown self hself)
    have hmem : ∀ i, i ∈ insts.erase self ↔ i ≠ self ∧ i ∈ insts :=
      fun i => h.handles.mem_erase_iff
    have hreleases : Releases m.world [self] m₁.world := by
      refine H.releases_releaseInstance self m ?_
      rw [hown self hself]
      exact Nat.one_pos
    have hown₁ : ∀ i ∈ insts.erase self, m₁.world.owners i = 1 := by
      intro i hi
      obtain ⟨hne, hi⟩ := (hmem i).mp hi
      rw [(hreleases.others i fun hin => hne (List.mem_singleton.mp hin)).2]
      exact hown i hi
    have hsub' : ∀ i ∈ targets, i ∈ insts.erase self := by
      intro i hi
      refine (hmem i).mpr ⟨?_, hsub i (List.mem_cons_of_mem _ hi)⟩
      rintro rfl
      exact hnot hi
    obtain ⟨hrest, insts', hmem', h₂, hown₂⟩ := ih hnodup' hsub' h₁ hown₁
    rw [forEach_cons, Kernel.run, run_bind]
    refine ⟨Always.bind hfirst hrest, insts', fun i => ?_, h₂, hown₂⟩
    rw [hmem', hmem, List.mem_cons, not_or]
    tauto

end Fleet

end ClearwaterFv
