import ClearwaterFv.CleanUp
import ClearwaterFv.Layout

/-!
# ConfigFiles — the configuration files of a process, when it starts

The constructors write the files and the destructors remove them, by path.  A new object is
constructed before the one it replaces in a static `shared_ptr` is destroyed, and both use the
same paths.
-/

open Reasoning Reasoning.Prog Reasoning.Paths

namespace ClearwaterFv

/-- The file is there, with the text. -/
def Holds (w : World) (c : String × String) : Prop :=
  w.files (resolve w.cwd c.1) = some (.file c.2)

/-- Every configuration file whose path is passed to the process of the instance is there, with
the text that a constructor wrote. -/
def Configured (w : World) (i : Inst) : Prop :=
  ∀ args, w.objects i = some args → ∀ path ∈ args.kind.configFiles,
    ∃ text, (path, text) ∈ w.confs i ∧ Holds w (path, text)

/-- A call that forks does so for an instance that is configured. -/
def ForksConfigured (m : Machine) (op : Sys) : Prop :=
  ∀ i, op.forks? = some i → Configured m.world i

theorem forksConfigured_of_none {m : Machine} {op : Sys} (hop : op.forks? = none) :
    ForksConfigured m op := by
  intro i hi
  rw [hop] at hi
  cases hi

-- Each of these paths is an argument of the instance's `execlp`.
theorem executeOverride_configFiles (K : Kernel) (self : Inst) (inst : InstanceArgs)
    (m : Machine) {path : String} (hpath : path ∈ inst.kind.configFiles) :
    ∃ m' file args, (m', .execlp self file args) ∈ (executeOverride self inst).trace K.step m ∧
      path ∈ args := by
  unfold executeOverride
  cases hkind : inst.kind with
  | memcached =>
    rw [hkind] at hpath
    cases hpath
  | rogers clusterSettingsFile =>
    rw [hkind] at hpath
    refine ⟨_, _, _, List.mem_cons_of_mem _ List.mem_cons_self, ?_⟩
    rw [List.mem_singleton.mp hpath]
    simp only [List.mem_cons, true_or, or_true]
  | dnsmasq cfgfile =>
    rw [hkind] at hpath
    refine ⟨_, _, _, List.mem_cons_self, ?_⟩
    rw [List.mem_singleton.mp hpath]
    simp only [List.mem_cons, true_or, or_true]
  | chronos instanceDir logDir confDir localConfFile clusterConfFile sharedConfFile =>
    rw [hkind] at hpath
    refine ⟨_, _, _, List.mem_cons_of_mem _ (List.mem_cons_of_mem _ List.mem_cons_self), ?_⟩
    simp only [Kind.configFiles, List.mem_cons, List.not_mem_nil, or_false] at hpath
    rcases hpath with rfl | rfl | rfl <;> simp only [List.mem_cons, true_or, or_true]

/-! ## Calls that leave a file as it is -/

section

variable (K : Kernel) {m : Machine} {cwd q : Path} {text : String}

/-- The calls that leave the file at `q` as it is. -/
def Sys.Spares (cwd q : Path) : Sys → Prop
  | .writeFile path _ | .remove path => resolve cwd path ≠ q
  | .removeAll path => ¬ resolve cwd path <+: q
  | _ => True

/-- The file at `q` holds the text. -/
def HasFile (cwd q : Path) (text : String) (m : Machine) : Prop :=
  m.world.cwd = cwd ∧ m.world.files q = some (.file text)

theorem HasFile.step {op : Sys} (h : HasFile cwd q text m) (hop : op.Spares cwd q) :
    HasFile cwd q text (K.step m op).2 := by
  obtain ⟨hcwd, hfile⟩ := h
  cases op with
  | writeFile path _ =>
    refine ⟨hcwd, (FileTree.writeFile_other ?_).trans hfile⟩
    rw [hcwd]
    exact Ne.symm hop
  | remove path =>
    refine ⟨hcwd, (Function.update_of_ne ?_ _ _).trans hfile⟩
    rw [hcwd]
    exact Ne.symm hop
  | removeAll path =>
    refine ⟨hcwd, (FileTree.removeAll_elsewhere ?_).trans hfile⟩
    rw [hcwd]
    exact hop
  | createDirectory path => exact ⟨hcwd, FileTree.createDirectory_file hfile⟩
  | freopen path => exact ⟨hcwd, FileTree.touch_file hfile⟩
  | fork self =>
    have hheap := m.world.forked_sameHeap self (K.fork m self)
    exact ⟨hheap.cwd.trans hcwd, (congrFun hheap.files q).trans hfile⟩
  | kill self pid =>
    have hheap := m.world.killed_sameHeap self pid (K.kill m pid)
    exact ⟨hheap.cwd.trans hcwd, (congrFun hheap.files q).trans hfile⟩
  | waitpid self pid =>
    have hheap := m.world.waited_sameHeap pid (K.waitpid m pid)
    exact ⟨hheap.cwd.trans hcwd, (congrFun hheap.files q).trans hfile⟩
  | _ => exact ⟨hcwd, hfile⟩

theorem HasFile.run {α : Type} {p : Harness α} (hp : Only (Sys.Spares cwd q) p)
    (h : HasFile cwd q text m) : HasFile cwd q text (K.run p m).2 :=
  hp.run_inv (I := HasFile cwd q text) (fun _ _ hop hm => hm.step K hop) h

/-! ## The constructors -/

variable (a : SiteArgs)

theorem createRogersInstances_spares : Only (Sys.Spares cwd q) (createRogersInstances a) :=
  Only.mapEach fun _ _ => Only.perform trivial

theorem newChronosInstance_spares (ip : String) (port : Int) (instanceDir clusterConf sharedConf
    dnsIp : String) (dnsPort : Int) (siteFiles : List (String × String))
    (hq : resolve cwd (instanceDir ++ "/conf" ++ "/chronos.conf") ≠ q) :
    Only (Sys.Spares cwd q)
      (newChronosInstance (chronosArgs ip port instanceDir clusterConf sharedConf) dnsIp dnsPort
        siteFiles) := by
  refine Only.bind (Only.perform trivial) fun _ => ?_
  refine Only.bind (Only.perform trivial) fun _ => ?_
  refine Only.bind (Only.perform trivial) fun _ => ?_
  refine Only.bind (Only.perform trivial) fun _ => ?_
  exact Only.bind (Only.perform hq) fun _ => Only.perform trivial

/-- The path of the configuration file that a Chronos instance has of its own. -/
def SiteArgs.localConfAt (ii : Nat) : String :=
  chronosInstanceDir a.dir (ii + 1) ++ "/conf" ++ "/chronos.conf"

def SiteArgs.localConfTextAt (noisy : Option String) (ii : Nat) : String :=
  chronosConf (getLogLevel noisy) (chronosInstanceDir a.dir (ii + 1) ++ "/log")
    (siteIp a.ipAddrPrefix (ii + 1)) chronosPort a.thisSite.dnsIp a.thisSite.dnsPort

variable {a}

theorem localConf_ne {ii jj : Nat} (hne : ii ≠ jj) :
    resolve cwd (a.localConfAt ii) ≠ resolve cwd (a.localConfAt jj) := by
  unfold SiteArgs.localConfAt
  rw [resolve_localConf, resolve_localConf]
  have hindex : ii + 1 ≠ jj + 1 := by omega
  exact (chronosInstances_separate _ hindex _ _).ne

-- The loop of `create_chronos_instances` writes the file of each instance.
theorem chronosLoop_hasFile {noisy : Option String}
    (hcwd : m.world.cwd = cwd) (hnoisy : m.world.noisy = noisy) {ii : Nat}
    (hii : ii < a.numChronos.toNat) :
    HasFile cwd (resolve cwd (a.localConfAt ii)) (a.localConfTextAt noisy ii)
      (K.run (mapEach (chronosLoop a.ipAddrPrefix a.dir a.numChronos).2 fun args =>
        newChronosInstance args a.thisSite.dnsIp a.thisSite.dnsPort a.chronosFiles) m).2 := by
  rw [chronosLoop_eq_chronosAt, mapEach_map]
  refine run_mapEach_each (I := fun m : Machine => m.world.cwd = cwd ∧ m.world.noisy = noisy)
    (P := fun ii => HasFile cwd (resolve cwd (a.localConfAt ii)) (a.localConfTextAt noisy ii))
    (fun ii _ m h => ?_) (fun ii _ m h => ?_) ?_ ⟨hcwd, hnoisy⟩ ii (List.mem_range.mpr hii)
  · have hcreates := newChronosInstance_creates K (a.chronosAt ii) a.thisSite.dnsIp
      a.thisSite.dnsPort a.chronosFiles m
    exact ⟨hcreates.cwd.trans h.1, hcreates.noisy.trans h.2⟩
  · obtain ⟨rfl, rfl⟩ := h
    obtain ⟨m', hrun, hworld⟩ := run_newChronosInstance K (a.chronosAt ii) rfl
      a.thisSite.dnsIp a.thisSite.dnsPort a.chronosFiles m
    rw [Kernel.run] at hrun
    unfold HasFile
    rw [hrun]
    rw [Kernel.step_world, hworld]
    exact ⟨rfl, FileTree.writeFile_self⟩
  · refine List.Pairwise.imp (fun hne m _ h => ?_) List.nodup_range
    exact h.run K (newChronosInstance_spares _ _ _ _ _ _ _ _ (localConf_ne hne.symm))

theorem chronosLoop_spares (hq : ∀ ii, resolve cwd (a.localConfAt ii) ≠ q) :
    Only (Sys.Spares cwd q)
      (mapEach (chronosLoop a.ipAddrPrefix a.dir a.numChronos).2 fun args =>
        newChronosInstance args a.thisSite.dnsIp a.thisSite.dnsPort a.chronosFiles) := by
  rw [chronosLoop_eq_chronosAt, mapEach_map]
  exact Only.mapEach fun ii _ => newChronosInstance_spares _ _ _ _ _ _ _ _ (hq ii)

-- Two paths below the directory of the site differ when what follows it differs.
theorem below_ne {base a b : Path} (hne : a ≠ b) : base ++ a ≠ base ++ b :=
  fun h => hne (List.append_cancel_left h)

theorem localConf_ne_of_length {below : Path} (hlen : below.length ≠ 4)
    (ii : Nat) : resolve cwd (a.localConfAt ii) ≠ resolve cwd (a.dir ++ "/") ++ below := by
  unfold SiteArgs.localConfAt
  rw [resolve_localConf cwd a.dir]
  refine below_ne fun h => hlen ?_
  rw [← h]
  rfl

theorem createChronosInstances_spares :
    Only (Sys.Spares cwd (resolve cwd (a.dir ++ "/") ++ ["cluster_settings"]))
      (createChronosInstances a) := by
  have hshared : resolve cwd (chronosDir a.dir ++ "/chronos_shared.conf") ≠
      resolve cwd (a.dir ++ "/") ++ ["cluster_settings"] := by
    rw [resolve_sharedConf cwd a.dir]
    exact below_ne (by decide)
  have hcluster : resolve cwd (chronosDir a.dir ++ "/chronos_cluster.conf") ≠
      resolve cwd (a.dir ++ "/") ++ ["cluster_settings"] := by
    rw [resolve_clusterConf cwd a.dir]
    exact below_ne (by decide)
  refine Only.bind (Only.perform trivial) fun _ => ?_
  refine Only.bind (Only.perform hshared) fun _ => ?_
  refine Only.bind (Only.perform hcluster) fun _ => ?_
  refine Only.bind (chronosLoop_spares (localConf_ne_of_length (by decide))) fun _ => ?_
  exact Only.bind (Only.perform hcluster) fun _ => Only.ret _

-- `create_chronos_instances` leaves the shared files and the file of each instance.
theorem createChronosInstances_hasFile (hcwd : m.world.cwd = cwd) :
    (∀ c ∈ a.chronosFiles,
      HasFile cwd (resolve cwd c.1) c.2 (K.run (createChronosInstances a) m).2) ∧
    ∀ ii < a.numChronos.toNat,
      HasFile cwd (resolve cwd (a.localConfAt ii)) (a.localConfTextAt m.world.noisy ii)
        (K.run (createChronosInstances a) m).2 := by
  let shared := resolve cwd (chronosDir a.dir ++ "/chronos_shared.conf")
  let cluster := resolve cwd (chronosDir a.dir ++ "/chronos_cluster.conf")
  have hshared : shared = resolve cwd (a.dir ++ "/") ++ ["chronos", "chronos_shared.conf"] :=
    resolve_sharedConf cwd a.dir
  have hcluster : cluster = resolve cwd (a.dir ++ "/") ++ ["chronos", "chronos_cluster.conf"] :=
    resolve_clusterConf cwd a.dir
  have hne : cluster ≠ shared := by
    rw [hshared, hcluster]
    exact below_ne (by decide)
  let m₂ := (K.step (K.step m (.createDirectory (chronosDir a.dir))).2
    (.writeFile (chronosDir a.dir ++ "/chronos_shared.conf")
      (sharedConf a.name a.deploymentTopology))).2
  let m₃ := (K.step m₂ (.writeFile (chronosDir a.dir ++ "/chronos_cluster.conf") "")).2
  let m₄ := (K.run (mapEach (chronosLoop a.ipAddrPrefix a.dir a.numChronos).2 fun args =>
    newChronosInstance args a.thisSite.dnsIp a.thisSite.dnsPort a.chronosFiles) m₃).2
  have hrun : (K.run (createChronosInstances a) m).2 =
      (K.step m₄ (.writeFile (chronosDir a.dir ++ "/chronos_cluster.conf")
        (chronosLoop a.ipAddrPrefix a.dir a.numChronos).1)).2 := by
    simp only [createChronosInstances, bind_eq_bind, Kernel.run, run_bind]
    rfl
  have hloop : ∀ {q : Path} {text : String}, (∀ ii, resolve cwd (a.localConfAt ii) ≠ q) →
      HasFile cwd q text m₃ → HasFile cwd q text m₄ :=
    fun hq h => h.run K (chronosLoop_spares hq)
  rw [hrun]
  subst hcwd
  refine ⟨fun c hc => ?_, fun ii hii => ?_⟩
  · have h₂ : HasFile m.world.cwd shared (sharedConf a.name a.deploymentTopology) m₂ :=
      ⟨rfl, FileTree.writeFile_self⟩
    have h₄ : HasFile m.world.cwd shared (sharedConf a.name a.deploymentTopology) m₄ := by
      refine hloop ?_ (h₂.step K hne)
      rw [hshared]
      exact localConf_ne_of_length (by decide)
    rcases List.mem_cons.mp hc with rfl | hc
    · refine ⟨h₄.1, ?_⟩
      change m₄.world.files.writeFile (resolve m₄.world.cwd _) _ _ = _
      rw [h₄.1]
      exact FileTree.writeFile_self
    · rw [List.mem_singleton.mp hc]
      exact h₄.step K hne
  · have h₄ : HasFile m.world.cwd (resolve m.world.cwd (a.localConfAt ii))
        (a.localConfTextAt m.world.noisy ii) m₄ := chronosLoop_hasFile K rfl rfl hii
    exact h₄.step K fun h => localConf_ne_of_length (by decide) ii (h.symm.trans hcluster)

theorem createMemcachedInstances_hasFile (hcwd : m.world.cwd = cwd) :
    HasFile cwd (resolve cwd (a.dir ++ "/cluster_settings")) a.clusterSettings
      (K.run (createMemcachedInstances a) m).2 := by
  obtain ⟨objs, hcreates, -, -⟩ := createMemcachedInstances_creates K a m
  refine ⟨hcreates.cwd.trans hcwd, ?_⟩
  simp only [createMemcachedInstances, bind_eq_bind, Kernel.run, run_bind] at hcreates ⊢
  rw [← hcwd, ← hcreates.cwd]
  exact FileTree.writeFile_self

-- The constructor of a site leaves the files that it writes.
theorem newSite_files (a : SiteArgs) (m : Machine) :
    Holds (K.run (newSite a) m).2.world (a.dir ++ "/cluster_settings", a.clusterSettings) ∧
    (∀ c ∈ a.chronosFiles, Holds (K.run (newSite a) m).2.world c) ∧
    ∀ ii < a.numChronos.toNat, Holds (K.run (newSite a) m).2.world
      (a.localConfAt ii, a.localConfTextAt m.world.noisy ii) := by
  let m₁ := (K.step m (.createDirectory a.dir)).2
  let m₂ := (K.run (createMemcachedInstances a) m₁).2
  let m₃ := (K.run (createRogersInstances a) m₂).2
  obtain ⟨_, hm, -, -⟩ := createMemcachedInstances_creates K a m₁
  obtain ⟨_, hr, -, -⟩ := createRogersInstances_creates K a m₂
  have hcwd : m₃.world.cwd = m.world.cwd := hr.cwd.trans hm.cwd
  have hnoisy : m₃.world.noisy = m.world.noisy := hr.noisy.trans hm.noisy
  have hrun : (K.run (newSite a) m).2 = (K.run (createChronosInstances a) m₃).2 := by
    simp only [newSite, bind_eq_bind, Kernel.run, run_bind]
    rfl
  obtain ⟨hsite, hlocal⟩ := createChronosInstances_hasFile K hcwd
  rw [hnoisy] at hlocal
  have hholds : ∀ {c : String × String},
      HasFile m.world.cwd (resolve m.world.cwd c.1) c.2 (K.run (createChronosInstances a) m₃).2 →
        Holds (K.run (newSite a) m).2.world c := by
    intro c h
    rw [hrun]
    unfold Holds
    rw [h.1]
    exact h.2
  refine ⟨hholds ?_, fun c hc => hholds (hsite c hc), fun ii hii => hholds (hlocal ii hii)⟩
  have h₂ := createMemcachedInstances_hasFile K (m := m₁) (a := a) rfl
  have h₃ := h₂.run K (createRogersInstances_spares a)
  refine h₃.run K ?_
  change Only (Sys.Spares m.world.cwd (resolve m.world.cwd _)) _
  rw [resolve_clusterSettings _ a.dir]
  exact createChronosInstances_spares

-- The constructor of a site leaves the configuration files of all its instances.
theorem newSite_holds (a : SiteArgs) (m : Machine) :
    ∀ x ∈ a.newInstances m.world.noisy, ∀ c ∈ x.2, Holds (K.run (newSite a) m).2.world c := by
  obtain ⟨hsettings, hsite, hlocal⟩ := newSite_files K a m
  intro x hx c hc
  rcases List.mem_append.mp hx with hx | hx
  · rcases List.mem_append.mp hx with hx | hx
    · -- memcached has no configuration file
      obtain ⟨args, -, rfl⟩ := List.mem_map.mp hx
      cases hc
    · obtain ⟨args, -, rfl⟩ := List.mem_map.mp hx
      rw [List.mem_singleton.mp hc]
      exact hsettings
  · obtain ⟨args, hargs, rfl⟩ := List.mem_map.mp hx
    rw [chronosLoop_eq_chronosAt] at hargs
    obtain ⟨ii, hii, rfl⟩ := List.mem_map.mp hargs
    rcases List.mem_cons.mp hc with rfl | hc
    · exact hlocal ii (List.mem_range.mp hii)
    · exact hsite c hc

-- The files recorded for a new instance are those whose paths its process is passed.
theorem newInstances_configFiles (noisy : Option String) :
    ∀ x ∈ a.newInstances noisy, x.2.map Prod.fst = x.1.kind.configFiles := by
  intro x hx
  rcases List.mem_append.mp hx with hx | hx
  · rcases List.mem_append.mp hx with hx | hx
    · obtain ⟨args, hargs, rfl⟩ := List.mem_map.mp hx
      rw [memcachedLoop_instances] at hargs
      obtain ⟨ii, -, rfl⟩ := List.mem_map.mp hargs
      rfl
    · obtain ⟨args, hargs, rfl⟩ := List.mem_map.mp hx
      rw [rogersLoop_eq] at hargs
      obtain ⟨ii, -, rfl⟩ := List.mem_map.mp hargs
      rfl
  · obtain ⟨args, hargs, rfl⟩ := List.mem_map.mp hx
    rw [chronosLoop_eq_chronosAt] at hargs
    obtain ⟨ii, -, rfl⟩ := List.mem_map.mp hargs
    rfl

-- The constructor of a site leaves all its instances configured.
theorem newSite_configured (a : SiteArgs) (m : Machine) :
    ∀ i ∈ (K.run (newSite a) m).1.instances,
      (K.run (newSite a) m).2.world.owners i = 1 ∧ Configured (K.run (newSite a) m).2.world i := by
  obtain ⟨objs, hcreates, hinst, hobjs⟩ := newSite_creates K a m
  have hholds := newSite_holds K a m
  intro i hi
  rw [← hinst] at hi
  obtain ⟨o, ho, rfl⟩ := List.mem_map.mp hi
  obtain ⟨hobject, hconfs, -, hown⟩ := hcreates.new o ho
  have hmem : (o.args, o.confs) ∈ a.newInstances m.world.noisy := by
    rw [← hobjs]
    exact List.mem_map_of_mem ho
  refine ⟨hown, fun args hargs path hpath => ?_⟩
  rw [hobject] at hargs
  cases hargs
  rw [← newInstances_configFiles _ _ hmem] at hpath
  obtain ⟨c, hc, rfl⟩ := List.mem_map.mp hpath
  rw [hconfs]
  exact ⟨c.2, hc, hholds _ hmem c hc⟩

end

/-! ## Starting -/

section

variable (K : Kernel) {insts : List Inst}

/-- The instances are owned and configured. -/
def Startable (insts : List Inst) (w : World) : Prop :=
  ∀ i ∈ insts, 0 < w.owners i ∧ Configured w i

theorem Configured.of_sameHeap {w w' : World} {i : Inst} (h : Configured w i)
    (hheap : SameHeap w w') : Configured w' i := by
  unfold Configured Holds at h ⊢
  rw [hheap.objects, hheap.confs, hheap.files, hheap.cwd]
  exact h

theorem Startable.of_sameHeap {w w' : World} (h : Startable insts w) (hheap : SameHeap w w') :
    Startable insts w' := by
  intro i hi
  rw [hheap.owners]
  exact ⟨(h i hi).1, (h i hi).2.of_sameHeap hheap⟩

theorem startInstance_forksConfigured {self : Inst} {m : Machine} (h : Configured m.world self) :
    Always K.step ForksConfigured (startInstance self) m := by
  refine Always.call (fun i hi => ?_) ?_
  · cases hi
    exact h
  · exact (afterFork_no_fork self _).always_of (fun _ _ hop => forksConfigured_of_none hop) _

theorem keeps_startable {self : Inst} (hself : self ∈ insts) :
    Keeps K.step (fun m => Startable insts m.world) ForksConfigured (callOnce (.start, self)) where
  calls m h := by
    let m₁ := (K.step m (.addOwner self)).2
    have hconfigured : Configured m₁.world self := (h self hself).2
    have hmore : 1 < (K.run (startInstance self) m₁).2.world.owners self := by
      have hown := (h self hself).1
      rw [(startInstance_sameHeap K m₁ self).owners]
      change 1 < Function.update m.world.owners self (m.world.owners self + 1) self
      rw [Function.update_self]
      omega
    intro e he
    rw [trace_callOnce] at he
    rcases List.mem_cons.mp he with rfl | he
    · exact forksConfigured_of_none rfl
    rcases List.mem_append.mp he with he | he
    · exact startInstance_forksConfigured K hconfigured e he
    · change e ∈ (releaseInstance self).trace K.step (K.run (startInstance self) m₁).2 at he
      rw [trace_releaseInstance_of_lt K _ self hmore, List.mem_singleton] at he
      rw [he]
      exact forksConfigured_of_none rfl
  final m h := h.of_sameHeap (callOnce_sameHeap K m (.start, self) (h self hself).1)

/-- No instance has a configuration file. -/
def Fileless (insts : List Inst) (w : World) : Prop :=
  ∀ i ∈ insts, ∀ args, w.objects i = some args → args.kind.configFiles = []

/-- A call that creates no instance, and forks for none but these. -/
def Sys.Reuses (insts : List Inst) : Sys → Prop
  | .newInstance .. => False
  | .fork i => i ∈ insts
  | _ => True

theorem Fileless.step {m : Machine} (h : Fileless insts m.world) {op : Sys}
    (hop : op.Reuses insts) : Fileless insts (K.step m op).2.world := by
  cases op with
  | newInstance args confs => exact absurd hop id
  | deleteInstance self =>
    intro i hi args hargs
    change Function.update m.world.objects self none i = some args at hargs
    by_cases hself : i = self
    · rw [hself, Function.update_self] at hargs
      cases hargs
    · rw [Function.update_of_ne hself] at hargs
      exact h i hi args hargs
  | fork self =>
    intro i hi
    change ∀ args, (m.world.forked self (K.fork m self)).objects i = some args → _
    rw [(m.world.forked_sameHeap self _).objects]
    exact h i hi
  | kill self pid =>
    intro i hi
    change ∀ args, (m.world.killed self pid (K.kill m pid)).objects i = some args → _
    rw [(m.world.killed_sameHeap self pid _).objects]
    exact h i hi
  | waitpid self pid =>
    intro i hi
    change ∀ args, (m.world.waited pid (K.waitpid m pid)).objects i = some args → _
    rw [(m.world.waited_sameHeap pid _).objects]
    exact h i hi
  | _ => exact h

theorem Fileless.forksConfigured {m : Machine} (h : Fileless insts m.world) {op : Sys}
    (hop : op.Reuses insts) : ForksConfigured m op := by
  intro i hi args hargs path hpath
  cases op with
  | fork self =>
    cases hi
    rw [h i hop args hargs] at hpath
    cases hpath
  | _ => cases hi

theorem keeps_fileless {α : Type} {p : Harness α} (hp : Only (Sys.Reuses insts) p) :
    Keeps K.step (fun m => Fileless insts m.world) ForksConfigured p :=
  hp.keeps (fun _ _ hop h => h.step K hop) fun _ _ hop h => h.forksConfigured hop

theorem releaseInstance_reuses (self : Inst) : Only (Sys.Reuses insts) (releaseInstance self) :=
  (releaseInstance_only self).mono fun op hop => by
    cases op <;> first
      | exact trivial
      | exact absurd hop (by rintro (h | h) <;> exact h)

theorem startOnce_reuses {self : Inst} (hself : self ∈ insts) :
    Only (Sys.Reuses insts) (callOnce (.start, self)) := by
  have hstart : Only (Sys.Reuses insts) (startInstance self) :=
    (startInstance_only self).mono fun op hop => by
      cases op with
      | fork i =>
        cases hop
        exact hself
      | _ => first | exact trivial | exact absurd hop id
  refine Only.bind (Only.bind (Only.perform trivial) fun _ => ?_) fun _ => Only.ret _
  refine Only.bind hstart fun result => ?_
  exact Only.bind (releaseInstance_reuses self) fun _ => Only.ret _

theorem dropSite_reuses (old : Option Site) : Only (Sys.Reuses insts) (dropSite old) := by
  cases old with
  | none => exact Only.ret ()
  | some s =>
    change Only (Sys.Reuses insts) s.destroy
    rw [s.destroy_eq]
    exact Only.bind (Only.forEach fun i _ => releaseInstance_reuses i) fun _ => Only.perform trivial

theorem dropDnsmasq_reuses (old : Option Inst) : Only (Sys.Reuses insts) (dropDnsmasq old) := by
  cases old with
  | none => exact Only.ret ()
  | some i => exact releaseInstance_reuses i

-- A method call through a static pointer that is not null.
theorem always_onSite {v : SiteVar} {s : Site} {method : Site → Harness Unit} {m : Machine}
    (hsite : m.world.site v = some s)
    (hmethod : Always K.step ForksConfigured (method s) (K.step m (.readSite v)).2) :
    Always K.step ForksConfigured (onSite v method) m := by
  refine Always.call (forksConfigured_of_none rfl) ?_
  change Always K.step ForksConfigured (withSite method (m.world.site v)) _
  rw [hsite]
  exact hmethod

theorem start_eq_forEach (s : Site) :
    s.start = forEach (s.instances.map fun i => (Method.start, i)) callOnce :=
  s.call_eq_targets (.all .start)

theorem start_forksConfigured {s : Site} {m : Machine}
    (h : Startable s.instances m.world ∨ Fileless s.instances m.world) :
    Always K.step ForksConfigured s.start m := by
  rw [start_eq_forEach]
  rcases h with h | h
  · have hloop : Keeps K.step (fun m => Startable s.instances m.world) ForksConfigured
        (forEach (s.instances.map fun i => (Method.start, i)) callOnce) := by
      refine Keeps.forEach fun c hc => ?_
      obtain ⟨i, hi, rfl⟩ := List.mem_map.mp hc
      exact keeps_startable K hi
    exact hloop.calls m h
  · have hloop : Only (Sys.Reuses s.instances)
        (forEach (s.instances.map fun i => (Method.start, i)) callOnce) := by
      refine Only.forEach fun c hc => ?_
      obtain ⟨i, hi, rfl⟩ := List.mem_map.mp hc
      exact startOnce_reuses hi
    exact (keeps_fileless K hloop).calls m h

theorem always_constructs {α : Type} {p : Harness α} (hp : Only Sys.Constructs p) (m : Machine) :
    Always K.step ForksConfigured p m := by
  refine hp.always_of (fun _ op hop => forksConfigured_of_none ?_) m
  cases op <;> first | rfl | exact absurd hop id

theorem newSite_startable (a : SiteArgs) (m : Machine) :
    Startable (K.run (newSite a) m).1.instances (K.run (newSite a) m).2.world := by
  intro i hi
  obtain ⟨hown, hconf⟩ := newSite_configured K a m i hi
  have hpos : 0 < (K.run (newSite a) m).2.world.owners i := by
    rw [hown]
    exact Nat.one_pos
  exact ⟨hpos, hconf⟩

-- A site whose arguments ask for no configuration file creates instances without any.
theorem newSite_fileless (a : SiteArgs) (m : Machine)
    (hfileless : ∀ x ∈ a.newInstances m.world.noisy, x.2 = []) :
    Fileless (K.run (newSite a) m).1.instances (K.run (newSite a) m).2.world := by
  obtain ⟨objs, hcreates, hinst, hobjs⟩ := newSite_creates K a m
  intro i hi args hargs
  rw [← hinst] at hi
  obtain ⟨o, ho, rfl⟩ := List.mem_map.mp hi
  obtain ⟨hobject, -, -, -⟩ := hcreates.new o ho
  rw [hobject] at hargs
  cases hargs
  have hmem : (o.args, o.confs) ∈ a.newInstances m.world.noisy := by
    rw [← hobjs]
    exact List.mem_map_of_mem ho
  rw [← newInstances_configFiles _ _ hmem, hfileless _ hmem]
  rfl

-- A site that replaces none, or that has no configuration files, is started with its
-- configuration files in place.
theorem createAndStartSite_forksConfigured {v : SiteVar} {a : SiteArgs}
    {m : Machine} (hfresh : m.world.site v = none ∨
      ∀ x ∈ a.newInstances m.world.noisy, x.2 = []) :
    Always K.step ForksConfigured (createAndStartSite v a) m := by
  obtain ⟨objs, hcreates, -, -⟩ := newSite_creates K a m
  have hstartable := newSite_startable K a m
  have hnofiles := newSite_fileless K a m
  refine Always.bind (always_constructs K (newSite_only a) m) ?_
  change Always K.step ForksConfigured
    ((assignSite v (some (K.run (newSite a) m).1)).bind fun _ => onSite v Site.start)
    (K.run (newSite a) m).2
  generalize K.run (newSite a) m = built at *
  let m₂ := (K.step built.2 (.swapSite v (some built.1))).2
  have hsite₂ : m₂.world.site v = some built.1 := Function.update_self _ _ _
  rcases hfresh with hvacant | hfileless
  · have hvacant₁ : built.2.world.site v = none := by
      rw [hcreates.site]
      exact hvacant
    obtain ⟨hrun, htrace⟩ := run_assignSite_vacant K hvacant₁ (some built.1)
    refine Always.bind (fun e he => ?_) ?_
    · rw [htrace, List.mem_singleton] at he
      rw [he]
      exact forksConfigured_of_none rfl
    · change Always K.step ForksConfigured (onSite v Site.start)
        (K.run (assignSite v (some built.1)) built.2).2
      rw [hrun]
      exact always_onSite K hsite₂ (start_forksConfigured K (Or.inl hstartable))
  · -- the site that is replaced may take any file with it
    have hfileless₂ : Fileless built.1.instances m₂.world := hnofiles hfileless
    have hreuses : Only (Sys.Reuses built.1.instances) (dropSite (built.2.world.site v)) :=
      dropSite_reuses _
    have hdrop := keeps_fileless K hreuses
    let m₃ := (K.run (dropSite (built.2.world.site v)) m₂).2
    have hsite₃ : m₃.world.site v = some built.1 := by
      rw [(statics_of_only (dropSite_keepsStatics _) K m₂).1]
      exact hsite₂
    have hfileless₃ : Fileless built.1.instances m₃.world := hdrop.final m₂ hfileless₂
    refine Always.bind (Always.call (forksConfigured_of_none rfl) (hdrop.calls m₂ hfileless₂)) ?_
    exact always_onSite K (m := m₃) hsite₃ (start_forksConfigured K (Or.inr hfileless₃))

-- So with the dnsmasq instance.
theorem createAndStartDnsFor_forksConfigured {f : Fixture} {m : Machine}
    (hvacant : m.world.dnsmasq f = none) (aRecords : OrderedMap String (List String)) :
    Always K.step ForksConfigured (createAndStartDnsFor f aRecords) m := by
  let self := m.world.next
  let m₁ := (K.run (newDnsmasqInstance "127.0.0.1" 5353 aRecords) m).2
  let m₂ := (K.step m₁ (.swapDnsmasq f (some self))).2
  have hconfigured : Configured m₂.world self := by
    intro args hargs path hpath
    have hobject : m₁.world.objects self =
        some ⟨"127.0.0.1", 5353, .dnsmasq (dnsmasqCfgfile "127.0.0.1" 5353)⟩ :=
      Function.update_self _ _ _
    have hconfs : m₁.world.confs self =
        [(dnsmasqCfgfile "127.0.0.1" 5353, dnsmasqConfig "127.0.0.1" 5353 aRecords)] :=
      Function.update_self _ _ _
    change m₁.world.objects self = some args at hargs
    rw [hobject] at hargs
    cases hargs
    rw [List.mem_singleton.mp hpath]
    refine ⟨dnsmasqConfig "127.0.0.1" 5353 aRecords, ?_, FileTree.writeFile_self⟩
    change _ ∈ m₁.world.confs self
    rw [hconfs]
    exact List.mem_cons_self
  have hdnsmasq : m₂.world.dnsmasq f = some self := Function.update_self _ _ _
  obtain ⟨hrun, htrace⟩ := run_assignDnsmasq_vacant K (m := m₁) hvacant (some self)
  refine Always.bind (always_constructs K (newDnsmasqInstance_only _ _ _) m) ?_
  change Always K.step ForksConfigured
    ((assignDnsmasq f (some self)).bind fun _ => startDnsmasq f) m₁
  refine Always.bind (fun e he => ?_) ?_
  · rw [htrace, List.mem_singleton] at he
    rw [he]
    exact forksConfigured_of_none rfl
  · change Always K.step ForksConfigured (startDnsmasq f)
      (K.run (assignDnsmasq f (some self)) m₁).2
    rw [hrun]
    refine Always.call (forksConfigured_of_none rfl) ?_
    change Always K.step ForksConfigured (startIfAny (m₂.world.dnsmasq f)) _
    rw [hdnsmasq]
    refine Always.bind (startInstance_forksConfigured K ?_) (Always.ret _ _)
    exact hconfigured

end

/-! ## Sequences of calls on the fixtures -/

/-- What the test cases call on the two fixtures to create and destroy the deployment. -/
inductive FixtureCall where
  | createAndStartDatabases (numMemcacheds numRogers : Int)
  | createAndStartDatabasesDns
  | createAndStartSites
  | createAndStartSitesDns (aRecords : OrderedMap String (List String))
  | tearDownTestCase (f : Fixture)

namespace FixtureCall

def body : FixtureCall → Harness Unit
  | createAndStartDatabases numMemcacheds numRogers =>
    BaseMemcachedSolutionTest.createAndStartDatabases numMemcacheds numRogers
  | createAndStartDatabasesDns => BaseMemcachedSolutionTest.createAndStartDns
  | createAndStartSites => BaseS4SolutionTest.createAndStartSites
  | createAndStartSitesDns aRecords => BaseS4SolutionTest.createAndStartDns aRecords
  | tearDownTestCase f => f.tearDownTestCase

/-- The static pointers that the call assigns a new object to are null, or the new object has no
configuration files. -/
def fresh (w : World) : FixtureCall → Bool
  | createAndStartDatabases _ numRogers => (w.site .dbs).isNone || decide (numRogers ≤ 0)
  | createAndStartDatabasesDns => (w.dnsmasq .memcached).isNone
  | createAndStartSites => (w.site .site1).isNone && (w.site .site2).isNone
  | createAndStartSitesDns _ => (w.dnsmasq .s4).isNone
  | tearDownTestCase _ => true

end FixtureCall

/-- Every call of the sequence is fresh when it is made. -/
def freshRun (K : Kernel) : List FixtureCall → Machine → Bool
  | [], _ => true
  | c :: cs, m => c.fresh m.world && freshRun K cs (K.run c.body m).2

section

variable (K : Kernel)

theorem tearDownTestCase_reuses (f : Fixture) : Only (Sys.Reuses []) f.tearDownTestCase := by
  rw [f.tearDownTestCase_eq]
  refine Only.bind (Only.bind (Only.perform trivial) dropDnsmasq_reuses) fun _ => ?_
  refine Only.bind (Only.forEach fun v _ => Only.bind (Only.perform trivial) dropSite_reuses)
    fun _ => ?_
  refine Only.bind (Only.perform trivial) fun _ => ?_
  exact Only.bind (Only.perform trivial) fun _ => Only.perform trivial

theorem dbsArgs_newInstances {numMemcacheds numRogers : Int} (hrogers : numRogers ≤ 0)
    (noisy : Option String) :
    ∀ x ∈ (BaseMemcachedSolutionTest.dbsArgs numMemcacheds numRogers).newInstances noisy,
      x.2 = [] := by
  intro x hx
  rcases List.mem_append.mp hx with hx | hx
  · rcases List.mem_append.mp hx with hx | hx
    · obtain ⟨args, -, rfl⟩ := List.mem_map.mp hx
      rfl
    · have hnone : rogersLoop "127.0.1." "tmp/site1" numRogers = [] := by
        rw [rogersLoop_eq, Int.toNat_of_nonpos hrogers]
        rfl
      obtain ⟨args, hargs, rfl⟩ := List.mem_map.mp hx
      change args ∈ rogersLoop "127.0.1." "tmp/site1" numRogers at hargs
      rw [hnone] at hargs
      cases hargs
  · cases hx

theorem always_idle {α : Type} {p : Harness α} (hp : Only Sys.Idle p) (m : Machine) :
    Always K.step ForksConfigured p m := by
  refine hp.always_of (fun _ op hop => forksConfigured_of_none ?_) m
  cases op <;> first | rfl | exact absurd hop id

theorem statics_of_idle {α : Type} {p : Harness α} (hp : Only Sys.Idle p) (m : Machine) :
    (K.run p m).2.world.site = m.world.site ∧
      (K.run p m).2.world.dnsmasq = m.world.dnsmasq := by
  refine statics_of_only (hp.mono fun op hop => ?_) K m
  cases op <;> first | exact trivial | exact absurd hop id

theorem createAndStartDns_forksConfigured {m : Machine}
    (hvacant : m.world.dnsmasq .memcached = none) :
    Always K.step ForksConfigured BaseMemcachedSolutionTest.createAndStartDns m := by
  cases hsite : m.world.site .dbs with
  | none =>
    refine Always.call (forksConfigured_of_none rfl) ?_
    change Always K.step ForksConfigured (withSite _ (m.world.site .dbs)) _
    rw [hsite]
    exact Always.ret _ _
  | some s =>
    refine always_onSite K hsite ?_
    refine Always.bind (always_idle K (getIps_idle _) _) ?_
    refine createAndStartDnsFor_forksConfigured K ?_ _
    exact (congrFun (statics_of_idle K (getIps_idle _) _).2 _).trans hvacant

-- Creating a site assigns one static pointer.
theorem statics_createAndStartSite (v : SiteVar) (a : SiteArgs) (m : Machine) :
    (K.run (createAndStartSite v a) m).2.world.site =
        Function.update m.world.site v (some (K.run (newSite a) m).1) ∧
      (K.run (createAndStartSite v a) m).2.world.dnsmasq = m.world.dnsmasq := by
  obtain ⟨objs, hcreates, -, -⟩ := newSite_creates K a m
  rw [run_createAndStartSite]
  generalize K.run (newSite a) m = built at *
  let m₂ := (K.run (assignSite v (some built.1)) built.2).2
  have hassign := statics_assignSite K v (some built.1) built.2
  have hstart := statics_of_only (onSite_keepsStatics v fun s =>
    call_keepsStatics s (.all .start)) K m₂
  rw [hcreates.site, hcreates.dnsmasq] at hassign
  exact ⟨hstart.1.trans hassign.1, hstart.2.trans hassign.2⟩

-- A fresh call forks only what is configured.
theorem FixtureCall.forksConfigured (c : FixtureCall) {m : Machine}
    (hfresh : c.fresh m.world = true) : Always K.step ForksConfigured c.body m := by
  cases c with
  | createAndStartDatabases numMemcacheds numRogers =>
    refine createAndStartSite_forksConfigured K ?_
    rcases (Bool.or_eq_true _ _).mp hfresh with hvacant | hrogers
    · exact Or.inl (Option.isNone_iff_eq_none.mp hvacant)
    · exact Or.inr (dbsArgs_newInstances (of_decide_eq_true hrogers) _)
  | createAndStartDatabasesDns =>
    exact createAndStartDns_forksConfigured K (Option.isNone_iff_eq_none.mp hfresh)
  | createAndStartSites =>
    obtain ⟨hvacant₁, hvacant₂⟩ := (Bool.and_eq_true _ _).mp hfresh
    refine Always.bind (createAndStartSite_forksConfigured K
      (Or.inl (Option.isNone_iff_eq_none.mp hvacant₁))) ?_
    refine createAndStartSite_forksConfigured K (Or.inl ?_)
    have hsite := (statics_createAndStartSite K .site1 BaseS4SolutionTest.site1Args m).1
    exact (congrFun hsite .site2).trans (Option.isNone_iff_eq_none.mp hvacant₂)
  | createAndStartSitesDns aRecords =>
    exact createAndStartDnsFor_forksConfigured K (Option.isNone_iff_eq_none.mp hfresh) aRecords
  | tearDownTestCase f =>
    exact (keeps_fileless K (tearDownTestCase_reuses f)).calls m
      fun i hi => absurd hi List.not_mem_nil

theorem forksConfigured_of_freshRun {cs : List FixtureCall} {m : Machine}
    (hfresh : freshRun K cs m = true) :
    Always K.step ForksConfigured (forEach cs FixtureCall.body) m := by
  induction cs generalizing m with
  | nil => exact Always.ret _ _
  | cons c cs ih =>
    obtain ⟨hfirst, hrest⟩ := (Bool.and_eq_true _ _).mp hfresh
    exact Always.bind (c.forksConfigured K hfirst) (ih hrest)

end

end ClearwaterFv
