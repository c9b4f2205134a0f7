import ClearwaterFv.ClusterFiles
import ClearwaterFv.Confinement
import ClearwaterFv.SetUp

/-!
# Furnishing — the objects and the files that a set-up leaves for the tests

The constructors write the configuration files of a site one after the other, and sites and dnsmasq
are made one after the other.  None of them undoes what one before it has done, and no test does,
so that at every point of the tests the instances have the files that they were made with.
-/

open Reasoning Reasoning.Paths Reasoning.Prog

namespace ClearwaterFv

/-! ## What is written for a site -/

/-- The instances of the site, and the files that they are started with, are as the constructor
left them. -/
structure Furnished (a : SiteArgs) (noisy : Option String) (s : Site) (w : World) : Prop where
  args : s.args = a
  memcached : s.memcachedInstances.map w.objects =
    (memcachedLoop a.ipAddrPrefix a.numMemcached).2.map some
  rogers : s.rogersInstances.map w.objects =
    (rogersLoop a.ipAddrPrefix a.dir a.numRogers).map some
  chronos : s.chronosInstances.map w.objects =
    (List.range a.numChronos.toNat).map fun ii => some (a.chronosAt ii)
  clusterSettings : Holds w (a.dir ++ "/cluster_settings", a.clusterSettings)
  chronosFiles : ∀ c ∈ a.chronosFiles, Holds w c
  localConfs : ∀ ii < a.numChronos.toNat, Holds w (a.localConfAt ii, a.localConfTextAt noisy ii)

section

variable {a : SiteArgs} {noisy : Option String} {s : Site} {w w' : World}

theorem newSite_furnished (K : Kernel) (a : SiteArgs) (m : Machine) :
    Furnished a m.world.noisy (K.run (newSite a) m).1 (K.run (newSite a) m).2.world := by
  obtain ⟨hmemcached, hrogers, hchronos⟩ := newSite_map_objects K a m id
  obtain ⟨hsettings, hshared, hlocal⟩ := newSite_files K a m
  rw [chronosLoop_eq_chronosAt, List.map_map] at hchronos
  exact ⟨newSite_args K a m, hmemcached, hrogers, hchronos, hsettings, hshared, hlocal⟩

-- All the files are below the directory of the site.
theorem Furnished.frame (h : Furnished a noisy s w) (hdir : a.dir ≠ "")
    (hobjects : ∀ i ∈ s.instances, w'.objects i = w.objects i)
    (hfiles : ∀ c : String × String, resolve w.cwd a.dir <+: resolve w.cwd c.1 →
      Holds w c → Holds w' c) : Furnished a noisy s w' := by
  have hbelow : ∀ (path : String) (below : Path),
      resolve w.cwd path = resolve w.cwd (a.dir ++ "/") ++ below →
      resolve w.cwd a.dir <+: resolve w.cwd path := by
    intro path below hpath
    rw [hpath, resolve_append_slash _ hdir]
    exact List.prefix_append _ _
  have hsame : ∀ {insts : List Inst}, (∀ i ∈ insts, i ∈ s.instances) →
      insts.map w'.objects = insts.map w.objects :=
    fun hsub => List.map_congr_left fun i hi => hobjects i (hsub i hi)
  refine ⟨h.args, ?_, ?_, ?_, ?_, fun c hc => ?_, fun ii hii => ?_⟩
  · rw [hsame fun i hi => List.mem_append_left _ (List.mem_append_left _ hi)]
    exact h.memcached
  · rw [hsame fun i hi => List.mem_append_left _ (List.mem_append_right _ hi)]
    exact h.rogers
  · rw [hsame fun i hi => List.mem_append_right _ hi]
    exact h.chronos
  · exact hfiles _ (hbelow _ _ (resolve_clusterSettings w.cwd a.dir)) h.clusterSettings
  · have hpath : resolve w.cwd a.dir <+: resolve w.cwd c.1 := by
      rcases List.mem_cons.mp hc with rfl | hc
      · exact hbelow _ _ (resolve_clusterConf w.cwd a.dir)
      · rw [List.mem_singleton.mp hc]
        exact hbelow _ _ (resolve_sharedConf w.cwd a.dir)
    exact hfiles c hpath (h.chronosFiles c hc)
  · exact hfiles _ (hbelow _ _ (resolve_localConf w.cwd a.dir (ii + 1))) (h.localConfs ii hii)

theorem Holds.of_files {c : String × String} (h : Holds w c) (hcwd : w'.cwd = w.cwd)
    (hfiles : w'.files (resolve w.cwd c.1) = w.files (resolve w.cwd c.1)) : Holds w' c := by
  unfold Holds at h ⊢
  rw [hcwd, hfiles]
  exact h

end

/-- The objects, the static pointers and the files are the same. -/
structure SamePlaces (w w' : World) : Prop where
  next : w'.next = w.next
  objects : w'.objects = w.objects
  site : w'.site = w.site
  dnsmasq : w'.dnsmasq = w.dnsmasq
  files : w'.files = w.files
  cwd : w'.cwd = w.cwd
  noisy : w'.noisy = w.noisy

theorem SameHeap.samePlaces {w w' : World} (h : SameHeap w w') (hnoisy : w'.noisy = w.noisy) :
    SamePlaces w w' :=
  ⟨h.next, h.objects, h.site, h.dnsmasq, h.files, h.cwd, hnoisy⟩

theorem Sys.Lasting.samePlaces (K : Kernel) (m : Machine) (op : Sys) (hop : op.Lasting) :
    SamePlaces m.world (K.step m op).2.world := by
  cases op with
  | fork self =>
    change SamePlaces m.world (m.world.forked self (K.fork m self))
    unfold World.forked
    split <;> exact ⟨rfl, rfl, rfl, rfl, rfl, rfl, rfl⟩
  | kill self pid =>
    change SamePlaces m.world (m.world.killed self pid (K.kill m pid))
    unfold World.killed
    split <;> exact ⟨rfl, rfl, rfl, rfl, rfl, rfl, rfl⟩
  | waitpid self pid =>
    change SamePlaces m.world (m.world.waited pid (K.waitpid m pid))
    cases K.waitpid m pid <;> exact ⟨rfl, rfl, rfl, rfl, rfl, rfl, rfl⟩
  | newInstance args confs => exact absurd hop id
  | _ => first | exact ⟨rfl, rfl, rfl, rfl, rfl, rfl, rfl⟩ | exact absurd hop id

/-! ## During the set-up -/

-- No call changes the environment.
theorem noisy_run (K : Kernel) {α : Type} (p : Harness α) (m : Machine) :
    (K.run p m).2.world.noisy = m.world.noisy := by
  refine run_inv (I := fun m' : Machine => m'.world.noisy = m.world.noisy)
    (fun m' op h => ?_) p rfl
  cases op with
  | fork self => exact (Sys.Lasting.samePlaces K m' (.fork self) trivial).noisy.trans h
  | kill self pid => exact (Sys.Lasting.samePlaces K m' (.kill self pid) trivial).noisy.trans h
  | waitpid self pid =>
    exact (Sys.Lasting.samePlaces K m' (.waitpid self pid) trivial).noisy.trans h
  | _ => exact h

/-- The sites that have been made so far are behind their pointers, and furnished. -/
structure Fitted (cwd : Path) (noisy : Option String) (made : List (SiteVar × SiteArgs))
    (w : World) : Prop where
  cwd : w.cwd = cwd
  environment : w.noisy = noisy
  dirs : ∀ x ∈ made, x.2.dir ≠ ""
  sites : ∀ x ∈ made, ∃ s, w.site x.1 = some s ∧ Furnished x.2 noisy s w ∧
    ∀ i ∈ s.instances, i < w.next

section

variable {cwd : Path} {noisy : Option String} {made : List (SiteVar × SiteArgs)} {w w' : World}
  {f : Fixture}

-- The objects and the pointers to the sites are the same, and no file is lost.
theorem Fitted.frame (h : Fitted cwd noisy made w) (hcwd : w'.cwd = w.cwd)
    (hnoisy : w'.noisy = w.noisy) (hnext : w'.next = w.next) (hobjects : w'.objects = w.objects)
    (hsites : w'.site = w.site) (hfiles : ∀ c, Holds w c → Holds w' c) :
    Fitted cwd noisy made w' where
  cwd := hcwd.trans h.cwd
  environment := hnoisy.trans h.environment
  dirs := h.dirs
  sites x hx := by
    obtain ⟨s, hsite, hfurnished, hold⟩ := h.sites x hx
    rw [hsites, hnext]
    refine ⟨s, hsite, ?_, hold⟩
    exact hfurnished.frame (h.dirs x hx) (fun i _ => congrFun hobjects i) fun c _ => hfiles c

theorem Fitted.congr (h : Fitted cwd noisy made w) (hsame : SamePlaces w w') :
    Fitted cwd noisy made w' :=
  h.frame hsame.cwd hsame.noisy hsame.next hsame.objects hsame.site fun _ hc =>
    hc.of_files hsame.cwd (congrFun hsame.files _)

-- A furnished site joins the others when it is assigned to a pointer that is vacant.
theorem Fitted.putSite (h : Fitted cwd noisy made w) {v : SiteVar} (hvacant : w.site v = none)
    {a : SiteArgs} (hdir : a.dir ≠ "") {s : Site} (hnew : Furnished a noisy s w)
    (hold : ∀ i ∈ s.instances, i < w.next) :
    Fitted cwd noisy ((v, a) :: made) (w.putSite v s) where
  cwd := h.cwd
  environment := h.environment
  dirs := List.forall_mem_cons.mpr ⟨hdir, h.dirs⟩
  sites x hx := by
    have hsame : ∀ {a' : SiteArgs} {s' : Site}, a'.dir ≠ "" → Furnished a' noisy s' w →
        Furnished a' noisy s' (w.putSite v s) :=
      fun hdir' hs' => hs'.frame hdir' (fun _ _ => rfl) fun _ _ => id
    rcases List.mem_cons.mp hx with rfl | hx
    · exact ⟨s, Function.update_self .., hsame hdir hnew, hold⟩
    · obtain ⟨s', hsite, hfurnished, hold'⟩ := h.sites x hx
      have hne : x.1 ≠ v := by
        rintro rfl
        rw [hvacant] at hsite
        cases hsite
      exact ⟨s', (Function.update_of_ne hne ..).trans hsite, hsame (h.dirs x hx) hfurnished, hold'⟩

-- What the constructors write elsewhere, and the objects that they make, change nothing of it.
theorem Fitted.creates (h : Fitted cwd noisy made w) {objs : List NewObject}
    (hcreates : Creates w w' objs)
    (hfiles : ∀ x ∈ made, ∀ q, resolve cwd x.2.dir <+: q → w'.files q = w.files q) :
    Fitted cwd noisy made w' where
  cwd := hcreates.cwd.trans h.cwd
  environment := hcreates.noisy.trans h.environment
  dirs := h.dirs
  sites x hx := by
    obtain ⟨s, hsite, hfurnished, hold⟩ := h.sites x hx
    refine ⟨s, (congrFun hcreates.site x.1).trans hsite, ?_, fun i hi => ?_⟩
    · refine hfurnished.frame (h.dirs x hx) (fun i hi => (hcreates.old i (hold i hi)).1) ?_
      intro c hc hholds
      rw [h.cwd] at hc
      refine hholds.of_files hcreates.cwd ?_
      rw [h.cwd]
      exact hfiles x hx _ hc
    · rw [hcreates.next]
      exact Nat.lt_add_right _ (hold i hi)

-- Calls that read, register handlers, or make a directory.
theorem Fitted.idle (K : Kernel) {m : Machine} (h : Fitted cwd noisy made m.world) {α : Type}
    {p : Harness α} (hp : Only Sys.Idle p) : Fitted cwd noisy made (K.run p m).2.world := by
  have hstep : ∀ (m' : Machine) (op : Sys), op.Idle → Fitted cwd noisy made m'.world →
      Fitted cwd noisy made (K.step m' op).2.world := by
    intro m' op hop h'
    cases op with
    | createDirectory path =>
      exact h'.frame rfl rfl rfl rfl rfl fun c hc => FileTree.createDirectory_file hc
    | signal sig handler => exact h'.frame rfl rfl rfl rfl rfl fun _ => id
    | _ => first | exact absurd hop id | exact h'
  exact hp.run_inv (I := fun m' : Machine => Fitted cwd noisy made m'.world) hstep h

-- Starting the instances of a site.
theorem onSite_sameHeap (K : Kernel) {insts : List Inst} {m : Machine} (h : Held f insts m.world)
    (v : SiteVar) (c : SiteCall) :
    SameHeap m.world (K.run (onSite v fun s => s.call c) m).2.world := by
  let m₁ := (K.step m (.readSite v)).2
  change SameHeap m.world (K.run (withSite (fun s => s.call c) (m.world.site v)) m₁).2.world
  cases hsite : m.world.site v with
  | none => exact SameHeap.refl _
  | some s =>
    change SameHeap m.world (K.run (s.call c) m₁).2.world
    rw [s.call_eq_targets]
    refine run_forEach_inv (I := fun m' : Machine => SameHeap m.world m'.world)
      (fun t ht m' hm' => hm'.trans ?_) (SameHeap.refl _)
    apply callOnce_sameHeap
    rw [hm'.owners]
    exact h.owned _ (h.mem_of_site hsite (Site.mem_instances_of_targets ht))

theorem startDnsmasq_sameHeap (K : Kernel) (f : Fixture) (m : Machine) :
    SameHeap m.world (K.run (startDnsmasq f) m).2.world := by
  let m₁ := (K.step m (.readDnsmasq f)).2
  change SameHeap m.world (K.run (startIfAny (m.world.dnsmasq f)) m₁).2.world
  cases m.world.dnsmasq f with
  | none => exact SameHeap.refl _
  | some d =>
    have hstart := startInstance_sameHeap K m₁ d
    change SameHeap m.world (K.run ((startInstance d).bind fun _ => ret ()) m₁).2.world
    rw [Kernel.run, run_bind]
    exact hstart

-- A constructor of a site writes below the directory of the site alone.
theorem files_newSite (K : Kernel) {a : SiteArgs} (hdir : a.dir ≠ "") {m : Machine} {q : Path}
    (hq : ¬ resolve m.world.cwd a.dir <+: q) :
    (K.run (newSite a) m).2.world.files q = m.world.files q := by
  let area : Area := ⟨m.world.cwd, fun q => resolve m.world.cwd a.dir <+: q⟩
  have hinside : a.Inside area := ⟨hdir, fun _ hq => hq⟩
  have hsame : SameOutside area m.world.files (K.run (newSite a) m).2 :=
    (newSite_confined hinside).run_inv (fun _ _ hop h => h.step K hop) ⟨rfl, fun _ _ => rfl⟩
  exact hsame.2 q hq

-- A site that is made in a directory apart from the others is furnished, and they stay so.
theorem Fitted.createAndStartSite (K : Kernel) {m : Machine} (h : Fitted cwd noisy made m.world)
    {v : SiteVar} {vs : List SiteVar} (hv : v ∈ f.sites) (hvacant : Vacant f (v :: vs) m)
    {a : SiteArgs} (hdir : a.dir ≠ "")
    (hapart : ∀ x ∈ made, Separate (resolve cwd a.dir) (resolve cwd x.2.dir)) :
    Fitted cwd noisy ((v, a) :: made) (K.run (createAndStartSite v a) m).2.world := by
  obtain ⟨insts, hheld⟩ := hvacant.kept
  obtain ⟨objs, hcreates, hinst, -⟩ := newSite_creates K a m
  have hempty : m.world.site v = none := hvacant.sites v List.mem_cons_self
  have hnew : Furnished a noisy (K.run (newSite a) m).1 (K.run (newSite a) m).2.world := by
    have hmade := newSite_furnished K a m
    rw [h.environment] at hmade
    exact hmade
  have hheld₁ : Held f insts (K.run (newSite a) m).2.world :=
    (keepsHeld_constructs K (newSite_only a)).final m hheld
  have h₁ : Fitted cwd noisy made (K.run (newSite a) m).2.world := by
    refine h.creates hcreates fun x hx q hq => files_newSite K hdir fun hq' => ?_
    rw [h.cwd] at hq'
    rcases List.prefix_or_prefix_of_prefix hq' hq with hpre | hpre
    · exact (hapart x hx).1 hpre
    · exact (hapart x hx).2 hpre
  rw [run_createAndStartSite]
  generalize K.run (newSite a) m = built at *
  have hvacant₁ : built.2.world.site v = none := by
    rw [hcreates.site]
    exact hempty
  obtain ⟨hrun, -⟩ := run_assignSite_vacant K hvacant₁ (some built.1)
  obtain ⟨insts', -, hheld₂⟩ := Held.putSite hv hempty hheld hcreates hheld₁ hinst
  let m₂ := (K.step built.2 (.swapSite v (some built.1))).2
  have hold : ∀ i ∈ built.1.instances, i < built.2.world.next := by
    intro i hi
    rw [← hinst] at hi
    obtain ⟨o, ho, rfl⟩ := List.mem_map.mp hi
    exact (hcreates.inst_lt ho).2
  have h₂ : Fitted cwd noisy ((v, a) :: made) m₂.world := h₁.putSite hvacant₁ hdir hnew hold
  have hstart := onSite_sameHeap K (m := m₂) hheld₂ v (.all .start)
  rw [hrun]
  exact h₂.congr (hstart.samePlaces (noisy_run K (onSite v Site.start) m₂))

/-- The dnsmasq instance of the fixture is there, and its file lists the records. -/
structure Named (f : Fixture) (aRecords : OrderedMap String (List String)) (w : World) (d : Inst) :
    Prop where
  dnsmasq : w.dnsmasq f = some d
  object : w.objects d = some (dnsmasqArgs "127.0.0.1" 5353)
  file : Holds w (fixtureCfgfile, dnsmasqConfig "127.0.0.1" 5353 aRecords)

theorem Named.congr {aRecords : OrderedMap String (List String)} {d : Inst}
    (h : Named f aRecords w d) (hsame : SamePlaces w w') : Named f aRecords w' d where
  dnsmasq := (congrFun hsame.dnsmasq f).trans h.dnsmasq
  object := (congrFun hsame.objects d).trans h.object
  file := h.file.of_files hsame.cwd (congrFun hsame.files _)

theorem Fitted.createAndStartDnsFor (K : Kernel) {m : Machine}
    (h : Fitted cwd noisy made m.world) (hvacant : m.world.dnsmasq f = none)
    (hapart : ∀ x ∈ made, ¬ resolve cwd x.2.dir <+: resolve cwd fixtureCfgfile)
    (aRecords : OrderedMap String (List String)) :
    Fitted cwd noisy made (K.run (createAndStartDnsFor f aRecords) m).2.world ∧
      ∃ d, Named f aRecords (K.run (createAndStartDnsFor f aRecords) m).2.world d := by
  have hcreates := newDnsmasqInstance_creates K "127.0.0.1" 5353 aRecords m
  have hfiles : (K.run (newDnsmasqInstance "127.0.0.1" 5353 aRecords) m).2.world.files =
      m.world.files.writeFile (resolve m.world.cwd fixtureCfgfile)
        (dnsmasqConfig "127.0.0.1" 5353 aRecords) := files_newDnsmasqInstance K m
  rw [run_createAndStartDnsFor]
  generalize K.run (newDnsmasqInstance "127.0.0.1" 5353 aRecords) m = built at *
  have hvacant₁ : built.2.world.dnsmasq f = none := by
    rw [hcreates.dnsmasq]
    exact hvacant
  have h₁ : Fitted cwd noisy made built.2.world := by
    refine h.creates hcreates fun x hx q hq => ?_
    rw [hfiles]
    refine FileTree.writeFile_other ?_
    rintro rfl
    rw [h.cwd] at hq
    exact hapart x hx hq
  let m₂ := (K.step built.2 (.swapDnsmasq f (some built.1))).2
  obtain ⟨hrun, -⟩ := run_assignDnsmasq_vacant K hvacant₁ (some built.1)
  have h₂ : Fitted cwd noisy made m₂.world := h₁.frame rfl rfl rfl rfl rfl fun _ => id
  have hheap := startDnsmasq_sameHeap K f m₂
  rw [hrun]
  have hsame := hheap.samePlaces (noisy_run K (startDnsmasq f) m₂)
  have hnamed : Named f aRecords m₂.world built.1 := by
    refine ⟨Function.update_self .., (hcreates.new _ List.mem_cons_self).1, ?_⟩
    change built.2.world.files (resolve built.2.world.cwd fixtureCfgfile) = _
    rw [hfiles, hcreates.cwd]
    exact FileTree.writeFile_self
  exact ⟨h₂.congr hsame, built.1, hnamed.congr hsame⟩

end

/-! ## The two set-ups -/

/-- The arguments of the sites that a set-up makes. -/
def SetUp.sites : SetUp → List (SiteVar × SiteArgs)
  | .memcached numMemcacheds numRogers =>
    [(.dbs, BaseMemcachedSolutionTest.dbsArgs numMemcacheds numRogers)]
  | .s4 => [(.site2, BaseS4SolutionTest.site2Args), (.site1, BaseS4SolutionTest.site1Args)]

-- the records of the S4 tests
def s4Records (rogers1 chronos1 rogers2 chronos2 : List String) :
    OrderedMap String (List String) :=
  (((OrderedMap.empty.insert BaseS4SolutionTest.site1Topology.rogersDomain rogers1).insert
    BaseS4SolutionTest.site1Topology.chronosDomain chronos1).insert
    BaseS4SolutionTest.site2Topology.rogersDomain rogers2).insert
    BaseS4SolutionTest.site2Topology.chronosDomain chronos2

/-- The records of its dnsmasq instance. -/
def SetUp.aRecords : SetUp → OrderedMap String (List String)
  | .memcached _ numRogers =>
    OrderedMap.empty.insert "rogers.local"
      (siteIps BaseMemcachedSolutionTest.tplg.ipAddrPrefix numRogers)
  | .s4 =>
    s4Records
      (siteIps BaseS4SolutionTest.site1Args.ipAddrPrefix BaseS4SolutionTest.site1Args.numRogers)
      (siteIps BaseS4SolutionTest.site1Args.ipAddrPrefix BaseS4SolutionTest.site1Args.numChronos)
      (siteIps BaseS4SolutionTest.site2Args.ipAddrPrefix BaseS4SolutionTest.site2Args.numRogers)
      (siteIps BaseS4SolutionTest.site2Args.ipAddrPrefix BaseS4SolutionTest.site2Args.numChronos)

/-- The set-up has made everything that it makes. -/
structure Equipped (setUp : SetUp) (cwd : Path) (noisy : Option String) (w : World) : Prop where
  fitted : Fitted cwd noisy setUp.sites w
  named : ∃ d, Named setUp.fixture setUp.aRecords w d

/-- During the set-up: the sites `vs` are still to be made. -/
structure Fitting (f : Fixture) (vs : List SiteVar) (cwd : Path) (noisy : Option String)
    (made : List (SiteVar × SiteArgs)) (m : Machine) : Prop where
  vacant : Vacant f vs m
  fitted : Fitted cwd noisy made m.world

section

variable {f : Fixture} {v : SiteVar} {vs : List SiteVar} {cwd : Path} {noisy : Option String}
  {made : List (SiteVar × SiteArgs)} {a : SiteArgs} {m : Machine}

-- The accessors read the addresses that the constructor has been given.
theorem Furnished.getIps {s : Site} (h : Furnished a noisy s m.world) (K : Kernel) :
    (K.run (Site.getIps s.rogersInstances) m).1 = siteIps a.ipAddrPrefix a.numRogers ∧
      (K.run (Site.getIps s.chronosInstances) m).1 = siteIps a.ipAddrPrefix a.numChronos := by
  have hrogers := congrArg (List.map fun object => (object.getD default).ip) h.rogers
  have hchronos := congrArg (List.map fun object => (object.getD default).ip) h.chronos
  rw [rogersLoop_eq, List.map_map, List.map_map, List.map_map] at hrogers
  rw [List.map_map, List.map_map] at hchronos
  rw [run_getIps, run_getIps]
  exact ⟨hrogers, hchronos⟩

theorem Fitting.idle (K : Kernel) (h : Fitting f vs cwd noisy made m) {α : Type} {p : Harness α}
    (hp : Only Sys.Idle p) : Fitting f vs cwd noisy made (K.run p m).2 :=
  ⟨(leadsTo_idle K vs hp).final m h.vacant, h.fitted.idle K hp⟩

theorem Fitting.getIpsOf (K : Kernel) (h : Fitting f vs cwd noisy made m) (ha : (v, a) ∈ made) :
    (K.run (SimpleS4SolutionTest.getIpsOf v Site.rogersInstances) m).1 =
        siteIps a.ipAddrPrefix a.numRogers ∧
      (K.run (SimpleS4SolutionTest.getIpsOf v Site.chronosInstances) m).1 =
        siteIps a.ipAddrPrefix a.numChronos := by
  obtain ⟨s, hsite, hfurnished, -⟩ := h.fitted.sites (v, a) ha
  let m₁ := (K.step m (.readSite v)).2
  have hread : Furnished a noisy s m₁.world := hfurnished
  have hrun : ∀ instances : Site → List Inst,
      K.run (SimpleS4SolutionTest.getIpsOf v instances) m =
        K.run (Site.getIps (instances s)) m₁ := by
    intro instances
    have hanswer : (K.step m (.readSite v)).1 = some s := hsite
    unfold SimpleS4SolutionTest.getIpsOf
    rw [bind_eq_bind, Kernel.run, run_bind, run_perform, hanswer]
  rw [hrun, hrun]
  exact hread.getIps K

theorem Fitting.createAndStartSite (K : Kernel) (h : Fitting f (v :: vs) cwd noisy made m)
    (hv : v ∈ f.sites) (hvs : v ∉ vs) (hdir : a.dir ≠ "")
    (hapart : ∀ x ∈ made, Separate (resolve cwd a.dir) (resolve cwd x.2.dir)) :
    Fitting f vs cwd noisy ((v, a) :: made) (K.run (createAndStartSite v a) m).2 :=
  ⟨(leadsTo_createAndStartSite K hv hvs a).final m h.vacant,
    h.fitted.createAndStartSite K hv h.vacant hdir hapart⟩

theorem Fitting.equipped (K : Kernel) (setUp : SetUp)
    (h : Fitting setUp.fixture [] cwd noisy setUp.sites m)
    (hapart : ∀ x ∈ setUp.sites, ¬ resolve cwd x.2.dir <+: resolve cwd fixtureCfgfile) :
    Equipped setUp cwd noisy
      (K.run (createAndStartDnsFor setUp.fixture setUp.aRecords) m).2.world := by
  obtain ⟨hfitted, hnamed⟩ :=
    h.fitted.createAndStartDnsFor K h.vacant.dnsmasq hapart setUp.aRecords
  exact ⟨hfitted, hnamed⟩

end

section

variable (cwd : Path)

theorem resolve_site1 : resolve cwd "tmp/site1" = resolve cwd "tmp" ++ ["site1"] :=
  resolve_child cwd (s := "tmp") (c := "site1") (by decide)
    ⟨by decide, by decide, by decide, by decide⟩

theorem resolve_site2 : resolve cwd "tmp/site2" = resolve cwd "tmp" ++ ["site2"] :=
  resolve_child cwd (s := "tmp") (c := "site2") (by decide)
    ⟨by decide, by decide, by decide, by decide⟩

theorem sites_separate : Separate (resolve cwd "tmp/site2") (resolve cwd "tmp/site1") := by
  rw [resolve_site1, resolve_site2]
  exact separate_entries (resolve cwd "tmp") (by decide) [] []

-- The file of the dnsmasq instance is in none of their directories.
theorem SetUp.sites_apart (setUp : SetUp) :
    ∀ x ∈ setUp.sites, ¬ resolve cwd x.2.dir <+: resolve cwd fixtureCfgfile := by
  have hcfgfile : resolve cwd fixtureCfgfile = cwd ++ [fixtureCfgfile] :=
    resolve_plain cwd (dnsmasqCfgfile_plain (by decide) 5353)
  have htmp : resolve cwd "tmp" = cwd ++ ["tmp"] :=
    resolve_plain cwd ⟨by decide, by decide, by decide, by decide⟩
  have hlong : ∀ name : String, ¬ resolve cwd "tmp" ++ [name] <+: resolve cwd fixtureCfgfile := by
    intro name hpre
    have hlength := hpre.length_le
    rw [hcfgfile, htmp] at hlength
    simp only [List.length_append, List.length_singleton] at hlength
    omega
  have hsite1 : ¬ resolve cwd "tmp/site1" <+: resolve cwd fixtureCfgfile := by
    rw [resolve_site1]
    exact hlong "site1"
  have hsite2 : ¬ resolve cwd "tmp/site2" <+: resolve cwd fixtureCfgfile := by
    rw [resolve_site2]
    exact hlong "site2"
  cases setUp with
  | memcached numMemcacheds numRogers => exact List.forall_mem_singleton.mpr hsite1
  | s4 => exact List.forall_mem_cons.mpr ⟨hsite2, List.forall_mem_singleton.mpr hsite1⟩

variable (K : Kernel) (pid : Inst → Int) (files : FileTree) (noisy : Option String)

theorem fitting_initial (f : Fixture) :
    Fitting f f.sites cwd noisy [] (Machine.initial pid files cwd noisy) :=
  ⟨vacant_initial f pid files cwd noisy, rfl, rfl, fun _ hx => absurd hx List.not_mem_nil,
    fun _ hx => absurd hx List.not_mem_nil⟩

-- The addresses that are read from the one site are those that its records are made of.
theorem Fitting.createAndStartDns {numMemcacheds numRogers : Int} {m : Machine}
    (h : Fitting .memcached [] cwd noisy (SetUp.memcached numMemcacheds numRogers).sites m) :
    Equipped (.memcached numMemcacheds numRogers) cwd noisy
      (K.run BaseMemcachedSolutionTest.createAndStartDns m).2.world := by
  obtain ⟨s, hsite, hfurnished, -⟩ := h.fitted.sites _ List.mem_cons_self
  let m₁ := (K.step m (.readSite .dbs)).2
  let ips := K.run (Site.getIps s.rogersInstances) m₁
  have h₁ : Fitting .memcached [] cwd noisy (SetUp.memcached numMemcacheds numRogers).sites m₁ :=
    ⟨⟨h.vacant.kept, h.vacant.dnsmasq, h.vacant.sites⟩, h.fitted⟩
  have h₂ := h₁.idle K (getIps_idle s.rogersInstances)
  have hips : ips.1 = siteIps BaseMemcachedSolutionTest.tplg.ipAddrPrefix numRogers := by
    have hread : Furnished _ noisy s m₁.world := hfurnished
    exact (hread.getIps K).1
  have hrun : K.run BaseMemcachedSolutionTest.createAndStartDns m =
      K.run (createAndStartDnsFor .memcached (OrderedMap.empty.insert "rogers.local" ips.1))
        ips.2 := by
    have hanswer : (K.step m (.readSite .dbs)).1 = some s := hsite
    unfold BaseMemcachedSolutionTest.createAndStartDns onSite
    rw [bind_eq_bind, Kernel.run, run_bind, run_perform, hanswer]
    simp only [withSite, bind_eq_bind, run_bind]
    rfl
  rw [hrun, hips]
  exact h₂.equipped K (.memcached numMemcacheds numRogers) (SetUp.sites_apart cwd _)

theorem Fitting.createAndStartDnsS4 {m : Machine} (h : Fitting .s4 [] cwd noisy SetUp.s4.sites m) :
    Equipped .s4 cwd noisy
      (K.run ((SimpleS4SolutionTest.getIpsOf .site1 Site.rogersInstances).bind fun rogers1 =>
        (SimpleS4SolutionTest.getIpsOf .site1 Site.chronosInstances).bind fun chronos1 =>
        (SimpleS4SolutionTest.getIpsOf .site2 Site.rogersInstances).bind fun rogers2 =>
        (SimpleS4SolutionTest.getIpsOf .site2 Site.chronosInstances).bind fun chronos2 =>
        createAndStartDnsFor .s4 (s4Records rogers1 chronos1 rogers2 chronos2)) m).2.world := by
  have hsite2 : (SiteVar.site2, BaseS4SolutionTest.site2Args) ∈ SetUp.s4.sites :=
    List.mem_cons_self
  have hsite1 : (SiteVar.site1, BaseS4SolutionTest.site1Args) ∈ SetUp.s4.sites :=
    List.mem_cons_of_mem _ List.mem_cons_self
  have h₁ := h.idle K (getIpsOf_idle .site1 Site.rogersInstances)
  have h₂ := h₁.idle K (getIpsOf_idle .site1 Site.chronosInstances)
  have h₃ := h₂.idle K (getIpsOf_idle .site2 Site.rogersInstances)
  have h₄ := h₃.idle K (getIpsOf_idle .site2 Site.chronosInstances)
  rw [Kernel.run, run_bind, run_bind, run_bind, run_bind, (h.getIpsOf K hsite1).1,
    (h₁.getIpsOf K hsite1).2, (h₂.getIpsOf K hsite2).1, (h₃.getIpsOf K hsite2).2]
  exact h₄.equipped K .s4 (SetUp.s4.sites_apart cwd)

-- From nothing to everything that a set-up makes.
theorem fits_setUp (setUp : SetUp) :
    Ends K.step (Fitting setUp.fixture setUp.fixture.sites cwd noisy [])
      (fun m => Equipped setUp cwd noisy m.world) setUp.program := by
  have hnone : ∀ {dir : Path}, ∀ x ∈ ([] : List (SiteVar × SiteArgs)),
      Separate dir (resolve cwd x.2.dir) := fun _ hx => absurd hx List.not_mem_nil
  have hne : ("tmp/site1" : String) ≠ "" := by decide
  cases setUp with
  | memcached numMemcacheds numRogers =>
    have hset : Only Sys.Idle BaseMemcachedSolutionTest.setUpTestCase :=
      Only.bind (setHandlers_idle true) fun _ => Only.perform trivial
    refine Leads.bind (Ends.of_final fun m h => h.idle K hset) fun _ => ?_
    refine Leads.bind (Ends.of_final fun m h =>
      h.createAndStartSite K List.mem_cons_self List.not_mem_nil hne hnone) fun _ => ?_
    exact Ends.of_final fun m h => h.createAndStartDns cwd K noisy
  | s4 =>
    have hset : Only Sys.Idle BaseS4SolutionTest.setUpTestCase :=
      Only.bind (setHandlers_idle true) fun _ => Only.perform trivial
    refine Leads.bind (Ends.of_final fun m h => h.idle K hset) fun _ => ?_
    refine Leads.bind (Leads.bind (Ends.of_final fun m h =>
      h.createAndStartSite K (by decide) (by decide) hne hnone) fun _ =>
      Ends.of_final fun m h => h.createAndStartSite K (by decide) List.not_mem_nil (by decide)
        (List.forall_mem_singleton.mpr (sites_separate cwd))) fun _ => ?_
    exact Ends.of_final fun m h => h.createAndStartDnsS4 cwd K noisy

end

/-! ## During the tests -/

theorem Equipped.congr {setUp : SetUp} {cwd : Path} {noisy : Option String} {w w' : World}
    (h : Equipped setUp cwd noisy w) (hsame : SamePlaces w w') : Equipped setUp cwd noisy w' where
  fitted := h.fitted.congr hsame
  named := by
    obtain ⟨d, hnamed⟩ := h.named
    exact ⟨d, hnamed.congr hsame⟩

-- Every call of the tests leaves what the set-up has made.
theorem equipped_tests (K : Kernel) (tc : TestCase) (ts : List tc.Test) (pid : Inst → Int)
    (files : FileTree) (cwd : Path) (noisy : Option String) :
    ∀ m ∈ (forEach ts tc.runTest).visits K.step
        (K.run tc.setUp.program (Machine.initial pid files cwd noisy)).2,
      Equipped tc.setUp cwd noisy m.world := by
  have hkept := (leadsTo_setUp K tc.setUp).final _ (vacant_initial _ pid files cwd noisy)
  have hequipped := (fits_setUp cwd K noisy tc.setUp).final _
    (fitting_initial cwd pid files noisy tc.setUp.fixture)
  have hcalls : Always K.step (Touches fun _ => True) (forEach ts tc.runTest) _ :=
    touches_tests K tc hkept fun _ _ _ _ => trivial
  have hkeeps := hcalls.keeps (I := fun m : Machine => Equipped tc.setUp cwd noisy m.world)
    (fun m op h hop => h.congr (Sys.Lasting.samePlaces K m op hop.lasting)) hequipped
  exact forall_visits hkeeps.1 hkeeps.2

end ClearwaterFv
