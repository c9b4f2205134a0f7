import ClearwaterFv.Site

/-!
# Construction — what the constructors leave behind

A constructor allocates its instances at new, consecutive addresses.  Each starts with one owner,
not running, and with the configuration files recorded that its process will be passed; the
processes, the static variables and every older object stay as they are.
-/

open Reasoning Reasoning.Paths Reasoning.Prog

namespace ClearwaterFv

structure NewObject where
  inst : Inst
  args : InstanceArgs
  confs : List (String × String)

/-- The world `w'` is `w` with the objects `objs` created and files written. -/
structure Creates (w w' : World) (objs : List NewObject) : Prop where
  insts : objs.map NewObject.inst = List.range' w.next objs.length
  next : w'.next = w.next + objs.length
  new : ∀ o ∈ objs, w'.objects o.inst = some o.args ∧ w'.confs o.inst = o.confs ∧
    w'.running o.inst = false ∧ w'.owners o.inst = 1
  old : ∀ i < w.next, w'.objects i = w.objects i ∧ w'.confs i = w.confs i ∧
    w'.running i = w.running i ∧ w'.owners i = w.owners i
  pid : w'.pid = w.pid
  site : w'.site = w.site
  dnsmasq : w'.dnsmasq = w.dnsmasq
  children : w'.children = w.children
  signals : w'.signals = w.signals
  cwd : w'.cwd = w.cwd
  noisy : w'.noisy = w.noisy

namespace Creates

variable {w w₁ w₂ : World} {objs objs' : List NewObject}

theorem refl (w : World) : Creates w w [] :=
  ⟨rfl, rfl, fun _ ho => absurd ho List.not_mem_nil, fun _ _ => ⟨rfl, rfl, rfl, rfl⟩,
    rfl, rfl, rfl, rfl, rfl, rfl, rfl⟩

theorem inst_lt (h : Creates w w₁ objs) {o : NewObject} (ho : o ∈ objs) :
    w.next ≤ o.inst ∧ o.inst < w₁.next := by
  have hmem : o.inst ∈ objs.map NewObject.inst := List.mem_map_of_mem ho
  rw [h.insts, List.mem_range'_1] at hmem
  rw [h.next]
  exact hmem

theorem trans (h₁ : Creates w w₁ objs) (h₂ : Creates w₁ w₂ objs') :
    Creates w w₂ (objs ++ objs') where
  insts := by
    rw [List.map_append, h₁.insts, h₂.insts, h₁.next, List.length_append,
      ← List.range'_append_1]
  next := by
    rw [h₂.next, h₁.next, List.length_append, Nat.add_assoc]
  new o ho := by
    rcases List.mem_append.mp ho with ho | ho
    · obtain ⟨hobj, hconfs, hrun, hown⟩ := h₂.old o.inst (h₁.inst_lt ho).2
      rw [hobj, hconfs, hrun, hown]
      exact h₁.new o ho
    · exact h₂.new o ho
  old i hi := by
    have hi₁ : i < w₁.next := by
      rw [h₁.next]
      exact Nat.lt_of_lt_of_le hi (Nat.le_add_right _ _)
    obtain ⟨hobj, hconfs, hrun, hown⟩ := h₂.old i hi₁
    rw [hobj, hconfs, hrun, hown]
    exact h₁.old i hi
  pid := h₂.pid.trans h₁.pid
  site := h₂.site.trans h₁.site
  dnsmasq := h₂.dnsmasq.trans h₁.dnsmasq
  children := h₂.children.trans h₁.children
  signals := h₂.signals.trans h₁.signals
  cwd := h₂.cwd.trans h₁.cwd
  noisy := h₂.noisy.trans h₁.noisy

-- What is read of new objects is read of the arguments they were created with.
theorem map_objects {β : Type} (h : Creates w w₁ objs) {sub : List NewObject}
    (hsub : ∀ o ∈ sub, o ∈ objs) (f : Option InstanceArgs → β) :
    (sub.map NewObject.inst).map (fun i => f (w₁.objects i)) =
      (sub.map NewObject.args).map fun x => f (some x) := by
  rw [List.map_map, List.map_map]
  exact List.map_congr_left fun o ho => congrArg f (h.new o (hsub o ho)).1

-- Writing files creates no object.
theorem files (h : Creates w w₁ objs) (t : FileTree) :
    Creates w { w₁ with files := t } objs :=
  ⟨h.insts, h.next, h.new, h.old, h.pid, h.site, h.dnsmasq, h.children, h.signals, h.cwd,
    h.noisy⟩

end Creates

theorem World.apply_newInstance_creates (w : World) (args : InstanceArgs)
    (confs : List (String × String)) :
    Creates w (w.apply (.newInstance args confs) w.next) [⟨w.next, args, confs⟩] where
  insts := rfl
  next := rfl
  new o ho := by
    rw [List.mem_singleton.mp ho]
    simp only [World.apply, Function.update_self, and_self]
  old i hi := by
    have hne : i ≠ w.next := Nat.ne_of_lt hi
    simp only [World.apply, Function.update_of_ne hne, and_self]
  pid := rfl
  site := rfl
  dnsmasq := rfl
  children := rfl
  signals := rfl
  cwd := rfl
  noisy := rfl

/-! ## The constructors -/

/-- The calls that constructors make. -/
def Sys.Constructs : Sys → Prop
  | .newInstance .. | .createDirectory _ | .writeFile .. | .getenvNoisy => True
  | _ => False

theorem createMemcachedInstances_only (a : SiteArgs) :
    Only Sys.Constructs (createMemcachedInstances a) := by
  refine Only.bind (Only.perform trivial) fun _ => ?_
  refine Only.bind (Only.mapEach fun _ _ => Only.perform trivial) fun _ => ?_
  exact Only.bind (Only.perform trivial) fun _ => Only.ret _

theorem createRogersInstances_only (a : SiteArgs) :
    Only Sys.Constructs (createRogersInstances a) :=
  Only.mapEach fun _ _ => Only.perform trivial

theorem newChronosInstance_only (args : InstanceArgs) (dnsIp : String) (dnsPort : Int)
    (siteFiles : List (String × String)) :
    Only Sys.Constructs (newChronosInstance args dnsIp dnsPort siteFiles) := by
  unfold newChronosInstance
  cases args.kind with
  | chronos instanceDir logDir confDir localConfFile clusterConfFile sharedConfFile =>
    refine Only.bind (Only.perform trivial) fun _ => ?_
    refine Only.bind (Only.perform trivial) fun _ => ?_
    refine Only.bind (Only.perform trivial) fun _ => ?_
    refine Only.bind (Only.perform trivial) fun noisy => ?_
    exact Only.bind (Only.perform trivial) fun _ => Only.perform trivial
  | memcached => exact Only.perform trivial
  | rogers clusterSettingsFile => exact Only.perform trivial
  | dnsmasq cfgfile => exact Only.perform trivial

theorem createChronosInstances_only (a : SiteArgs) :
    Only Sys.Constructs (createChronosInstances a) := by
  refine Only.bind (Only.perform trivial) fun _ => ?_
  refine Only.bind (Only.perform trivial) fun _ => ?_
  refine Only.bind (Only.perform trivial) fun _ => ?_
  refine Only.bind (Only.mapEach fun _ _ => newChronosInstance_only _ _ _ _) fun _ => ?_
  exact Only.bind (Only.perform trivial) fun _ => Only.ret _

theorem newSite_only (a : SiteArgs) : Only Sys.Constructs (newSite a) := by
  refine Only.bind (Only.perform trivial) fun _ => ?_
  refine Only.bind (createMemcachedInstances_only a) fun _ => ?_
  refine Only.bind (createRogersInstances_only a) fun _ => ?_
  exact Only.bind (createChronosInstances_only a) fun _ => Only.ret _

/-- The configuration files of a Chronos instance: its own, which is logged at the level that
`NOISY` says, and those of its site. -/
def chronosConfs (noisy : Option String) (dnsIp : String) (dnsPort : Int)
    (siteFiles : List (String × String)) (args : InstanceArgs) : List (String × String) :=
  match args.kind with
  | .chronos _ logDir _ localConfFile _ _ =>
    (localConfFile, chronosConf (getLogLevel noisy) logDir args.ip args.port dnsIp dnsPort) ::
      siteFiles
  | _ => []

/-- The instances that the constructor of a site creates, each with the configuration files it
is passed. -/
def SiteArgs.newInstances (a : SiteArgs) (noisy : Option String) :
    List (InstanceArgs × List (String × String)) :=
  ((memcachedLoop a.ipAddrPrefix a.numMemcached).2.map fun args => (args, []))
    ++ ((rogersLoop a.ipAddrPrefix a.dir a.numRogers).map fun args =>
      (args, [(a.dir ++ "/cluster_settings", a.clusterSettings)]))
    ++ ((chronosLoop a.ipAddrPrefix a.dir a.numChronos).2.map fun args =>
      (args, chronosConfs noisy a.thisSite.dnsIp a.thisSite.dnsPort a.chronosFiles args))

section

variable (K : Kernel)

-- A loop over constructors that each create one instance creates one for each of its arguments,
-- in order.
theorem mapEach_creates (noisy : Option String) {f : InstanceArgs → Harness Inst}
    {confs : InstanceArgs → List (String × String)} (args : List InstanceArgs)
    (hf : ∀ arg ∈ args, ∀ m : Machine, m.world.noisy = noisy →
      Creates m.world (K.run (f arg) m).2.world [⟨(K.run (f arg) m).1, arg, confs arg⟩])
    (m : Machine) (hnoisy : m.world.noisy = noisy) :
    ∃ objs, Creates m.world (K.run (mapEach args f) m).2.world objs ∧
      objs.map NewObject.inst = (K.run (mapEach args f) m).1 ∧
      objs.map (fun o => (o.args, o.confs)) = args.map fun arg => (arg, confs arg) := by
  induction args generalizing m with
  | nil => exact ⟨[], Creates.refl _, rfl, rfl⟩
  | cons arg args ih =>
    have hhead := hf arg List.mem_cons_self m hnoisy
    obtain ⟨objs, hobjs, hinst, hargs⟩ := ih
      (fun arg' h' => hf arg' (List.mem_cons_of_mem _ h'))
      (K.run (f arg) m).2 (hhead.noisy.trans hnoisy)
    refine ⟨⟨(K.run (f arg) m).1, arg, confs arg⟩ :: objs, ?_, ?_, ?_⟩
    · have hboth := hhead.trans hobjs
      simpa only [mapEach, Kernel.run, run_bind, run_ret, List.singleton_append] using hboth
    · simp only [mapEach, Kernel.run, run_bind, run_ret, List.map_cons]
      exact congrArg _ hinst
    · simp only [List.map_cons]
      exact congrArg _ hargs

theorem newInstance_creates (args : InstanceArgs) (confs : List (String × String))
    (m : Machine) :
    Creates m.world (K.run (sys (.newInstance args confs)) m).2.world
      [⟨(K.run (sys (.newInstance args confs)) m).1, args, confs⟩] :=
  m.world.apply_newInstance_creates args confs

/-- The files once a Chronos instance has been given its directories and its own file. -/
def chronosFileTree (w : World) (instanceDir logDir confDir localConfFile config : String) :
    FileTree :=
  let made := ((w.files.createDirectory (resolve w.cwd instanceDir)).createDirectory
    (resolve w.cwd logDir)).createDirectory (resolve w.cwd confDir)
  made.writeFile (resolve w.cwd localConfFile) config

-- The last call of the constructor allocates the object; those before it only write files.
theorem run_newChronosInstance (args : InstanceArgs) {instanceDir logDir confDir localConfFile
    clusterConfFile sharedConfFile : String}
    (hkind : args.kind = .chronos instanceDir logDir confDir localConfFile clusterConfFile
      sharedConfFile)
    (dnsIp : String) (dnsPort : Int) (siteFiles : List (String × String)) (m : Machine) :
    ∃ m' : Machine,
      K.run (newChronosInstance args dnsIp dnsPort siteFiles) m =
        K.step m' (.newInstance args
          (chronosConfs m.world.noisy dnsIp dnsPort siteFiles args)) ∧
      m'.world = { m.world with
        files := chronosFileTree m.world instanceDir logDir confDir localConfFile
          (chronosConf (getLogLevel m.world.noisy) logDir args.ip args.port dnsIp dnsPort) } := by
  unfold newChronosInstance chronosConfs
  rw [hkind]
  let m₁ := (K.step m (.createDirectory instanceDir)).2
  let m₂ := (K.step m₁ (.createDirectory logDir)).2
  let m₃ := (K.step m₂ (.createDirectory confDir)).2
  let m₄ := (K.step m₃ .getenvNoisy).2
  let m₅ := (K.step m₄ (.writeFile localConfFile
    (chronosConf (getLogLevel m.world.noisy) logDir args.ip args.port dnsIp dnsPort))).2
  refine ⟨m₅, rfl, ?_⟩
  simp only [m₅, m₄, m₃, m₂, m₁, Kernel.step_world, World.apply, chronosFileTree]

theorem newChronosInstance_creates (args : InstanceArgs) (dnsIp : String) (dnsPort : Int)
    (siteFiles : List (String × String)) (m : Machine) :
    Creates m.world (K.run (newChronosInstance args dnsIp dnsPort siteFiles) m).2.world
      [⟨(K.run (newChronosInstance args dnsIp dnsPort siteFiles) m).1, args,
        chronosConfs m.world.noisy dnsIp dnsPort siteFiles args⟩] := by
  cases hkind : args.kind with
  | chronos instanceDir logDir confDir localConfFile clusterConfFile sharedConfFile =>
    obtain ⟨m', hrun, hworld⟩ := run_newChronosInstance K args hkind dnsIp dnsPort siteFiles m
    have hfiles : Creates m.world m'.world [] := by
      rw [hworld]
      exact (Creates.refl m.world).files _
    rw [hrun]
    exact hfiles.trans (World.apply_newInstance_creates _ _ _)
  | _ =>
    unfold newChronosInstance chronosConfs
    rw [hkind]
    exact newInstance_creates K args [] m

-- A constructor that writes files, creates instances in a loop and writes files creates the
-- instances of the loop.
theorem Creates.around {w : World} {m m' : Machine} {objs : List NewObject} {t t' : FileTree}
    (hbefore : m.world = { w with files := t })
    (hcreates : Creates m.world m'.world objs) :
    Creates w { m'.world with files := t' } objs := by
  have hfirst : Creates w m.world [] := by
    rw [hbefore]
    exact (Creates.refl w).files t
  exact (hfirst.trans hcreates).files t'

theorem createMemcachedInstances_creates (a : SiteArgs) (m : Machine) :
    ∃ objs, Creates m.world (K.run (createMemcachedInstances a) m).2.world objs ∧
      objs.map NewObject.inst = (K.run (createMemcachedInstances a) m).1 ∧
      objs.map (fun o => (o.args, o.confs)) =
        (memcachedLoop a.ipAddrPrefix a.numMemcached).2.map fun args => (args, []) := by
  let m₁ := (K.step m (.writeFile (a.dir ++ "/cluster_settings") "")).2
  obtain ⟨objs, hobjs, hinst, hargs⟩ := mapEach_creates K m.world.noisy
    (memcachedLoop a.ipAddrPrefix a.numMemcached).2
    (fun args _ m _ => newInstance_creates K args [] m) m₁ rfl
  refine ⟨objs, ?_, ?_, hargs⟩
  · simp only [createMemcachedInstances, bind_eq_bind, Kernel.run, run_bind]
    exact Creates.around (m := m₁) rfl hobjs
  · simp only [createMemcachedInstances, bind_eq_bind, Kernel.run, run_bind]
    exact hinst

theorem createRogersInstances_creates (a : SiteArgs) (m : Machine) :
    ∃ objs, Creates m.world (K.run (createRogersInstances a) m).2.world objs ∧
      objs.map NewObject.inst = (K.run (createRogersInstances a) m).1 ∧
      objs.map (fun o => (o.args, o.confs)) =
        (rogersLoop a.ipAddrPrefix a.dir a.numRogers).map fun args =>
          (args, [(a.dir ++ "/cluster_settings", a.clusterSettings)]) :=
  mapEach_creates K m.world.noisy _ (fun args _ m _ => newInstance_creates K args _ m) m rfl

theorem createChronosInstances_creates (a : SiteArgs) (m : Machine) :
    ∃ objs, Creates m.world (K.run (createChronosInstances a) m).2.world objs ∧
      objs.map NewObject.inst = (K.run (createChronosInstances a) m).1 ∧
      objs.map (fun o => (o.args, o.confs)) =
        (chronosLoop a.ipAddrPrefix a.dir a.numChronos).2.map fun args =>
          (args, chronosConfs m.world.noisy a.thisSite.dnsIp a.thisSite.dnsPort
            a.chronosFiles args) := by
  let m₁ := (K.step m (.createDirectory (chronosDir a.dir))).2
  let m₂ := (K.step m₁ (.writeFile (chronosDir a.dir ++ "/chronos_shared.conf")
    (sharedConf a.name a.deploymentTopology))).2
  let m₃ := (K.step m₂ (.writeFile (chronosDir a.dir ++ "/chronos_cluster.conf") "")).2
  have hloop : ∀ args ∈ (chronosLoop a.ipAddrPrefix a.dir a.numChronos).2, ∀ m' : Machine,
      m'.world.noisy = m.world.noisy →
      Creates m'.world (K.run (newChronosInstance args a.thisSite.dnsIp a.thisSite.dnsPort
          a.chronosFiles) m').2.world
        [⟨(K.run (newChronosInstance args a.thisSite.dnsIp a.thisSite.dnsPort
            a.chronosFiles) m').1, args,
          chronosConfs m.world.noisy a.thisSite.dnsIp a.thisSite.dnsPort a.chronosFiles args⟩] := by
    intro args _ m' hnoisy
    rw [← hnoisy]
    exact newChronosInstance_creates K args _ _ _ m'
  obtain ⟨objs, hobjs, hinst, hargs⟩ := mapEach_creates K m.world.noisy _ hloop m₃ rfl
  refine ⟨objs, ?_, ?_, hargs⟩
  · simp only [createChronosInstances, bind_eq_bind, Kernel.run, run_bind]
    exact Creates.around (m := m₃) rfl hobjs
  · simp only [createChronosInstances, bind_eq_bind, Kernel.run, run_bind]
    exact hinst

-- The constructor of a site creates the instances of its three loops.
theorem newSite_creates_roles (a : SiteArgs) (m : Machine) :
    ∃ memcached rogers chronos,
      Creates m.world (K.run (newSite a) m).2.world (memcached ++ rogers ++ chronos) ∧
      (memcached.map NewObject.inst = (K.run (newSite a) m).1.memcachedInstances ∧
        rogers.map NewObject.inst = (K.run (newSite a) m).1.rogersInstances ∧
        chronos.map NewObject.inst = (K.run (newSite a) m).1.chronosInstances) ∧
      (memcached.map fun o => (o.args, o.confs)) =
        ((memcachedLoop a.ipAddrPrefix a.numMemcached).2.map fun args => (args, [])) ∧
      (rogers.map fun o => (o.args, o.confs)) =
        ((rogersLoop a.ipAddrPrefix a.dir a.numRogers).map fun args =>
          (args, [(a.dir ++ "/cluster_settings", a.clusterSettings)])) ∧
      (chronos.map fun o => (o.args, o.confs)) =
        (chronosLoop a.ipAddrPrefix a.dir a.numChronos).2.map fun args =>
          (args, chronosConfs m.world.noisy a.thisSite.dnsIp a.thisSite.dnsPort
            a.chronosFiles args) := by
  let m₁ := (K.step m (.createDirectory a.dir)).2
  have hdir : Creates m.world m₁.world [] := (Creates.refl m.world).files _
  obtain ⟨memcached, hm, hmi, hma⟩ := createMemcachedInstances_creates K a m₁
  let m₂ := (K.run (createMemcachedInstances a) m₁).2
  obtain ⟨rogers, hr, hri, hra⟩ := createRogersInstances_creates K a m₂
  let m₃ := (K.run (createRogersInstances a) m₂).2
  obtain ⟨chronos, hc, hci, hca⟩ := createChronosInstances_creates K a m₃
  have hnoisy : m₃.world.noisy = m.world.noisy :=
    (hr.noisy.trans hm.noisy).trans hdir.noisy
  rw [hnoisy] at hca
  refine ⟨memcached, rogers, chronos, ?_, ?_, hma, hra, hca⟩
  · simp only [newSite, bind_eq_bind, Kernel.run, run_bind]
    exact ((hdir.trans hm).trans hr).trans hc
  · simp only [newSite, bind_eq_bind, Kernel.run, run_bind]
    exact ⟨hmi, hri, hci⟩

-- The constructor of a site creates its instances, in the order of `for_each_instance`.
theorem newSite_creates (a : SiteArgs) (m : Machine) :
    ∃ objs, Creates m.world (K.run (newSite a) m).2.world objs ∧
      objs.map NewObject.inst = (K.run (newSite a) m).1.instances ∧
      objs.map (fun o => (o.args, o.confs)) = a.newInstances m.world.noisy := by
  obtain ⟨memcached, rogers, chronos, hcreates, ⟨hmi, hri, hci⟩, hma, hra, hca⟩ :=
    newSite_creates_roles K a m
  refine ⟨memcached ++ rogers ++ chronos, hcreates, ?_, ?_⟩
  · rw [List.map_append, List.map_append, hmi, hri, hci]
    rfl
  · rw [List.map_append, List.map_append, hma, hra, hca]
    rfl

-- What is read of the instances of a new site, in the order of its vectors.
theorem newSite_map_objects {β : Type} (a : SiteArgs) (m : Machine)
    (f : Option InstanceArgs → β) :
    ((K.run (newSite a) m).1.memcachedInstances.map fun i =>
        f ((K.run (newSite a) m).2.world.objects i)) =
      ((memcachedLoop a.ipAddrPrefix a.numMemcached).2.map fun x => f (some x)) ∧
    ((K.run (newSite a) m).1.rogersInstances.map fun i =>
        f ((K.run (newSite a) m).2.world.objects i)) =
      ((rogersLoop a.ipAddrPrefix a.dir a.numRogers).map fun x => f (some x)) ∧
    ((K.run (newSite a) m).1.chronosInstances.map fun i =>
        f ((K.run (newSite a) m).2.world.objects i)) =
      (chronosLoop a.ipAddrPrefix a.dir a.numChronos).2.map fun x => f (some x) := by
  obtain ⟨memcached, rogers, chronos, hcreates, ⟨hmi, hri, hci⟩, hma, hra, hca⟩ :=
    newSite_creates_roles K a m
  -- the arguments alone, without the files
  have hargs : ∀ {objs : List NewObject} {args : List InstanceArgs}
      {confs : InstanceArgs → List (String × String)},
      (objs.map fun o => (o.args, o.confs)) = args.map (fun arg => (arg, confs arg)) →
        objs.map NewObject.args = args := by
    intro objs args confs h
    have hfst := congrArg (List.map Prod.fst) h
    simpa only [List.map_map, Function.comp_def, List.map_id'] using hfst
  rw [← hmi, ← hri, ← hci, ← hargs hma, ← hargs hra, ← hargs hca]
  refine ⟨hcreates.map_objects ?_ f, hcreates.map_objects ?_ f, hcreates.map_objects ?_ f⟩
  · exact fun o ho => List.mem_append_left _ (List.mem_append_left _ ho)
  · exact fun o ho => List.mem_append_left _ (List.mem_append_right _ ho)
  · exact fun o ho => List.mem_append_right _ ho

theorem newSite_instances_nodup (a : SiteArgs) (m : Machine) :
    (K.run (newSite a) m).1.instances.Nodup := by
  obtain ⟨objs, hcreates, hinst, _⟩ := newSite_creates K a m
  rw [← hinst, hcreates.insts]
  exact List.nodup_range'

end

end ClearwaterFv
