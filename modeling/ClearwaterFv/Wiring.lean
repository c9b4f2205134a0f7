import ClearwaterFv.ChronosFiles
import ClearwaterFv.Furnishing
import ClearwaterFv.MemcachedRuns

/-!
# Wiring — how the servers of a deployment find each other

A test reaches a Rogers through a domain, which dnsmasq resolves with the records in its file; the
Rogers finds its Memcached servers in a file, and so does a Chronos its cluster, its name server
and the other sites.  The constructors write these files long before the tests, and from different
arguments.  They agree at every point of the tests.
-/

open Reasoning Reasoning.Ini Reasoning.Paths Reasoning.Prog

namespace ClearwaterFv

/-! ## What the servers read -/

/-- The texts of the files that an instance is started with. -/
def World.configTexts (w : World) (i : Inst) : List (Option String) :=
  ((w.objects i).map fun x => x.kind.configFiles.map w.fileText).getD []

/-- The address of the dnsmasq instance of a fixture. -/
def World.dnsAddress (w : World) (f : Fixture) : Option (String × Int) :=
  (w.dnsmasq f).bind w.address

/-- The addresses that this instance has for a name. -/
def World.lookUp (w : World) (f : Fixture) (name : String) : List String :=
  (w.dnsmasq f).toList.flatMap fun d =>
    (w.configTexts d).flatMap fun text => (text.map (addressesOf name)).getD []

/-- The Memcached servers that a Rogers is told of. -/
def World.servers (w : World) (i : Inst) : List (Option (List (String × Int))) :=
  (w.configTexts i).map fun text => text.bind readServers

/-- The values that a Chronos has for a setting. -/
def World.settingsOf (w : World) (i : Inst) (group key : String) : List String :=
  valuesOf ((w.settings i).flatMap fun settings => settings.getD []) group key

/-- The domain that the tests give a store of a site. -/
def Fixture.rogersDomain : Fixture → Site → String
  | .memcached, _ => "rogers.local"
  | .s4, s => s.args.thisSite.rogersDomain

/-- The value that names another site to a Chronos. -/
def remoteSite (name chronosDomain : String) : String := name ++ "=" ++ chronosDomain

/-- The servers of a site are found by its domains, and are told of each other. -/
structure Linked (f : Fixture) (w : World) (s : Site) : Prop where
  rogers : s.rogersInstances.map w.address =
    (w.lookUp f (f.rogersDomain s)).map fun ip => some (ip, rogersPort)
  chronos : s.chronosInstances.map w.address =
    (w.lookUp f s.args.thisSite.chronosDomain).map fun ip => some (ip, chronosPort)
  -- a Rogers is told of the Memcached servers of its site, in their order
  servers : ∀ i ∈ s.rogersInstances, ∃ servers, w.servers i = [some servers] ∧
    s.memcachedInstances.map w.address = servers.map some
  -- a Chronos of itself and of its cluster, of the DNS server, and of every other site
  localhost : ∀ i ∈ s.chronosInstances,
    (w.settingsOf i "cluster" "localhost").map some = [(w.address i).map addressText]
  nodes : ∀ i ∈ s.chronosInstances, (w.settingsOf i "cluster" "node").map some =
    s.chronosInstances.map fun j => (w.address j).map addressText
  dns : ∀ i ∈ s.chronosInstances, ∃ ip port, w.dnsAddress f = some (ip, port) ∧
    w.settingsOf i "dns" "servers" = [ip] ∧ w.settingsOf i "dns" "port" = [port.repr]
  remotes : ∀ i ∈ s.chronosInstances, w.settingsOf i "sites" "remote_site" =
    ((f.sites.filterMap w.site).filter fun other => other.args.name ≠ s.args.name).map
      fun other => remoteSite other.args.name other.args.thisSite.chronosDomain

/-- Every site of the fixture is linked, and dnsmasq listens where it is looked for. -/
structure Wired (f : Fixture) (w : World) : Prop where
  dnsmasq : ∃ d ip port text, w.dnsmasq f = some d ∧ w.address d = some (ip, port) ∧
    w.configTexts d = [some text] ∧ listenAddresses text = [ip] ∧ listenPorts text = [port]
  sites : ∀ v ∈ f.sites, ∃ s, w.site v = some s ∧ Linked f w s

/-! ## Reading what was written -/

section

variable {w : World} {a : SiteArgs} {noisy : Option String} {s : Site} {i : Inst} {ii : Nat}

theorem settingsOf_chronosSettings
    (hsettings : w.settings i = (a.chronosSettings noisy ii).map some) (group key : String) :
    w.settingsOf i group key = valuesOf (a.chronosSettings noisy ii).flatten group key := by
  unfold World.settingsOf
  rw [hsettings, List.flatMap_map, ← List.flatMap_id]
  rfl

-- The settings of the other sites.
theorem valuesOf_remotes (name : String) (items : List (String × Topology)) :
    valuesOf (items.map fun item =>
        if item.1 = name then (⟨"sites", "local_site", item.1⟩ : Setting)
        else ⟨"sites", "remote_site", item.1 ++ "=" ++ item.2.chronosDomain⟩)
      "sites" "remote_site" =
      (items.filter fun item => item.1 ≠ name).map fun item =>
        remoteSite item.1 item.2.chronosDomain := by
  induction items with
  | nil => rfl
  | cons item items ih =>
    rw [List.map_cons, ← List.singleton_append, valuesOf_append, ih]
    by_cases hlocal : item.1 = name
    · rw [if_pos hlocal, List.filter_cons_of_neg (by simpa using hlocal)]
      rfl
    · rw [if_neg hlocal, List.filter_cons_of_pos (by simpa using hlocal)]
      rfl

/-- What a Chronos has for the settings that lead to other servers. -/
structure Directions (a : SiteArgs) (ii : Nat) (values : String → String → List String) :
    Prop where
  localhost : values "cluster" "localhost" =
    [addressText (siteIp a.ipAddrPrefix (ii + 1), chronosPort)]
  nodes : values "cluster" "node" =
    (rolePlaces a.ipAddrPrefix chronosPort a.numChronos.toNat).map addressText
  servers : values "dns" "servers" = [a.thisSite.dnsIp]
  port : values "dns" "port" = [a.thisSite.dnsPort.repr]
  remotes : values "sites" "remote_site" = (others a.name a.deploymentTopology).map
    fun item => remoteSite item.1 item.2.chronosDomain

theorem chronosSettings_directions (a : SiteArgs) (noisy : Option String) (ii : Nat) :
    Directions a ii (valuesOf (a.chronosSettings noisy ii).flatten) := by
  let own := (a.chronosSettings noisy ii).head!
  let nodes : List Setting := (rolePlaces a.ipAddrPrefix chronosPort a.numChronos.toNat).map
    fun x => ⟨"cluster", "node", addressText x⟩
  let sites : List Setting := a.deploymentTopology.entries.map fun item =>
    if item.1 = a.name then ⟨"sites", "local_site", item.1⟩
    else ⟨"sites", "remote_site", item.1 ++ "=" ++ item.2.chronosDomain⟩
  -- each of the three files has its own settings
  have hfiles : ∀ group key, valuesOf (a.chronosSettings noisy ii).flatten group key =
      valuesOf own group key ++ (valuesOf nodes group key ++ valuesOf sites group key) := by
    intro group key
    rw [← valuesOf_append, ← valuesOf_append, ← List.append_nil sites]
    rfl
  have hnodes : ∀ group key, ¬ ("cluster" = group ∧ "node" = key) →
      valuesOf nodes group key = [] := by
    intro group key hother
    refine valuesOf_eq_nil fun s hs => ?_
    obtain ⟨x, -, rfl⟩ := List.mem_map.mp hs
    exact hother
  have hsites : ∀ group key, "sites" ≠ group → valuesOf sites group key = [] := by
    intro group key hother
    refine valuesOf_eq_nil fun s hs => ?_
    obtain ⟨item, -, rfl⟩ := List.mem_map.mp hs
    split <;> exact fun heq => hother heq.1
  constructor
  · rw [hfiles, hnodes _ _ (by decide), hsites _ _ (by decide)]
    rfl
  · rw [hfiles, hsites _ _ (by decide), valuesOf_map, List.append_nil]
    rfl
  · rw [hfiles, hnodes _ _ (by decide), hsites _ _ (by decide)]
    rfl
  · rw [hfiles, hnodes _ _ (by decide), hsites _ _ (by decide)]
    rfl
  · rw [hfiles, hnodes _ _ (by decide), valuesOf_remotes]
    rfl

theorem Furnished.addresses (h : Furnished a noisy s w) :
    s.memcachedInstances.map w.address =
        (rolePlaces a.ipAddrPrefix memcachedPort a.numMemcached.toNat).map some ∧
      s.rogersInstances.map w.address =
        (rolePlaces a.ipAddrPrefix rogersPort a.numRogers.toNat).map some ∧
      s.chronosInstances.map w.address =
        (rolePlaces a.ipAddrPrefix chronosPort a.numChronos.toNat).map some := by
  let place : Option InstanceArgs → Option (String × Int) := Option.map fun x => (x.ip, x.port)
  have hmemcached := congrArg (List.map place) h.memcached
  have hrogers := congrArg (List.map place) h.rogers
  have hchronos := congrArg (List.map place) h.chronos
  rw [memcachedLoop_instances, List.map_map, List.map_map, List.map_map] at hmemcached
  rw [rogersLoop_eq, List.map_map, List.map_map, List.map_map] at hrogers
  rw [List.map_map, List.map_map] at hchronos
  unfold rolePlaces
  rw [List.map_map, List.map_map, List.map_map]
  exact ⟨hmemcached, hrogers, hchronos⟩

theorem Furnished.servers (h : Furnished a noisy s w) (hsafe : PrefixSafe a.ipAddrPrefix)
    (hi : i ∈ s.rogersInstances) :
    w.servers i = [some (rolePlaces a.ipAddrPrefix memcachedPort a.numMemcached.toNat)] := by
  have hobject : w.objects i ∈ s.rogersInstances.map w.objects := List.mem_map_of_mem hi
  rw [h.rogers, rogersLoop_eq, List.map_map] at hobject
  obtain ⟨ii, -, hii⟩ := List.mem_map.mp hobject
  unfold World.servers World.configTexts
  rw [← hii]
  change [(w.fileText (a.dir ++ "/cluster_settings")).bind readServers] = _
  rw [h.clusterSettings.fileText]
  exact congrArg (fun servers => [servers]) (readServers_memcachedLoop hsafe)

-- Every Chronos of the site has the settings that were written for it.
theorem Furnished.directions (h : Furnished a noisy s w) (ha : a.Printable)
    (hi : i ∈ s.chronosInstances) :
    ∃ ii, w.address i = some (siteIp a.ipAddrPrefix (ii + 1), chronosPort) ∧
      Directions a ii (w.settingsOf i) := by
  have hobject : w.objects i ∈ s.chronosInstances.map w.objects := List.mem_map_of_mem hi
  rw [h.chronos] at hobject
  obtain ⟨ii, hrange, hii⟩ := List.mem_map.mp hobject
  have hsettings := settings_of_holds ha hii.symm (h.localConfs ii (List.mem_range.mp hrange))
    h.chronosFiles
  have hvalues : w.settingsOf i = valuesOf (a.chronosSettings noisy ii).flatten :=
    funext fun group => funext fun key => settingsOf_chronosSettings hsettings group key
  refine ⟨ii, ?_, ?_⟩
  · unfold World.address
    rw [← hii]
    rfl
  · rw [hvalues]
    exact chronosSettings_directions a noisy ii

theorem siteIps_addresses (ipAddrPrefix : String) (port count : Int) :
    (siteIps ipAddrPrefix count).map (fun ip => some (ip, port)) =
      (rolePlaces ipAddrPrefix port count.toNat).map some := by
  unfold siteIps rolePlaces
  rw [List.map_map, List.map_map]
  rfl

end

section

variable {f : Fixture} {aRecords : OrderedMap String (List String)} {w : World} {d : Inst}

theorem Named.configTexts (h : Named f aRecords w d) :
    w.configTexts d = [some (dnsmasqConfig "127.0.0.1" 5353 aRecords)] := by
  unfold World.configTexts
  rw [h.object]
  change [w.fileText fixtureCfgfile] = _
  rw [h.file.fileText]

theorem Named.address (h : Named f aRecords w d) : w.address d = some ("127.0.0.1", 5353) := by
  unfold World.address
  rw [h.object]
  rfl

theorem Named.dnsAddress (h : Named f aRecords w d) :
    w.dnsAddress f = some ("127.0.0.1", 5353) := by
  unfold World.dnsAddress
  rw [h.dnsmasq, Option.bind_some, h.address]

theorem Named.lookUp (h : Named f aRecords w d) (hsafe : RecordsSafe aRecords) (name : String) :
    w.lookUp f name = recordsAt aRecords name := by
  unfold World.lookUp
  rw [h.dnsmasq]
  change (w.configTexts d).flatMap _ ++ [] = _
  rw [h.configTexts, List.append_nil, List.flatMap_singleton]
  exact addressesOf_dnsmasqConfig (by decide) hsafe name

/-- The arguments of a site agree with the records, and with the sites that there are. -/
structure Agrees (aRecords : OrderedMap String (List String)) (rogersDomain : String)
    (sites : List SiteArgs) (a : SiteArgs) : Prop where
  printable : a.Printable
  prefixSafe : PrefixSafe a.ipAddrPrefix
  rogers : recordsAt aRecords rogersDomain = siteIps a.ipAddrPrefix a.numRogers
  chronos : recordsAt aRecords a.thisSite.chronosDomain = siteIps a.ipAddrPrefix a.numChronos
  dns : (a.thisSite.dnsIp, a.thisSite.dnsPort) = ("127.0.0.1", 5353)
  remotes : (others a.name a.deploymentTopology).map (fun item =>
      remoteSite item.1 item.2.chronosDomain) =
    (sites.filter fun other => other.name ≠ a.name).map fun other =>
      remoteSite other.name other.thisSite.chronosDomain

theorem Furnished.linked {a : SiteArgs} {noisy : Option String} {s : Site}
    (h : Furnished a noisy s w) (hnamed : Named f aRecords w d) (hsafe : RecordsSafe aRecords)
    (hagrees : Agrees aRecords (f.rogersDomain s) ((f.sites.filterMap w.site).map Site.args) a) :
    Linked f w s := by
  obtain ⟨hmemcached, hrogers, hchronos⟩ := h.addresses
  constructor
  · rw [hrogers, hnamed.lookUp hsafe, hagrees.rogers, siteIps_addresses]
  · rw [hchronos, h.args, hnamed.lookUp hsafe, hagrees.chronos, siteIps_addresses]
  · intro i hi
    exact ⟨_, h.servers hagrees.prefixSafe hi, hmemcached⟩
  · intro i hi
    obtain ⟨ii, haddress, hdirections⟩ := h.directions hagrees.printable hi
    rw [hdirections.localhost, haddress]
    rfl
  · intro i hi
    obtain ⟨ii, -, hdirections⟩ := h.directions hagrees.printable hi
    have hnodes := congrArg (List.map (Option.map addressText)) hchronos
    rw [List.map_map, List.map_map] at hnodes
    rw [hdirections.nodes, List.map_map]
    exact hnodes.symm
  · intro i hi
    obtain ⟨ii, -, hdirections⟩ := h.directions hagrees.printable hi
    obtain ⟨hip, hport⟩ := Prod.mk.inj hagrees.dns
    refine ⟨"127.0.0.1", 5353, hnamed.dnsAddress, ?_, ?_⟩
    · rw [hdirections.servers, hip]
    · rw [hdirections.port, hport]
  · intro i hi
    obtain ⟨ii, -, hdirections⟩ := h.directions hagrees.printable hi
    rw [hdirections.remotes, hagrees.remotes, h.args, List.filter_map, List.map_map]
    rfl

end

/-! ## The tests -/

theorem SetUp.recordsSafe (setUp : SetUp) : RecordsSafe setUp.aRecords := by
  cases setUp with
  | memcached numMemcacheds numRogers =>
    have hsafe : PrefixSafe BaseMemcachedSolutionTest.tplg.ipAddrPrefix :=
      ⟨by decide, by decide, by decide⟩
    have hname : FieldSafe "rogers.local" := ⟨by decide, by decide⟩
    intro e he
    rw [List.mem_singleton.mp he]
    exact ⟨hname, fun ip hip => (fieldSafe_of_mem_siteIps hsafe hip).1⟩
  | s4 =>
    unfold RecordsSafe FieldSafe
    decide

theorem dbsArgs_agrees (numMemcacheds numRogers : Int) :
    Agrees (SetUp.memcached numMemcacheds numRogers).aRecords "rogers.local"
      [BaseMemcachedSolutionTest.dbsArgs numMemcacheds numRogers]
      (BaseMemcachedSolutionTest.dbsArgs numMemcacheds numRogers) where
  printable := by
    have hipAddrs : ValueSafe "127.0.1." := by decide
    have hdir : ValueSafe "tmp/site1" := by decide
    have hdns : ValueSafe "127.0.0.1" := by decide
    have hsites : ValueSafe "site1" ∧ ValueSafe "" := by decide
    exact ⟨hipAddrs, hdir, hdns, List.forall_mem_singleton.mpr hsites⟩
  prefixSafe := by
    have hsafe : PrefixSafe "127.0.1." := ⟨by decide, by decide, by decide⟩
    exact hsafe
  rogers := (recordsAt_rogersRecords _ _).trans (if_pos rfl)
  chronos := by
    have hne : ("" : String) ≠ "rogers.local" := by decide
    exact (recordsAt_rogersRecords _ _).trans (if_neg hne)
  dns := rfl
  remotes := rfl

theorem s4_agrees : ∀ a ∈ [BaseS4SolutionTest.site1Args, BaseS4SolutionTest.site2Args],
    Agrees SetUp.s4.aRecords a.thisSite.rogersDomain
      [BaseS4SolutionTest.site1Args, BaseS4SolutionTest.site2Args] a := by
  refine List.forall_mem_cons.mpr ⟨?_, List.forall_mem_singleton.mpr ?_⟩
  all_goals
    constructor
    · exact ⟨by decide, by decide, by decide, by decide⟩
    · exact ⟨by decide, by decide, by decide⟩
    all_goals decide

section

variable {setUp : SetUp} {cwd : Path} {noisy : Option String} {w : World}

theorem SetUp.sites_cover (setUp : SetUp) {v : SiteVar} (hv : v ∈ setUp.fixture.sites) :
    v ∈ setUp.sites.map Prod.fst := by
  cases setUp with
  | memcached numMemcacheds numRogers => exact hv
  | s4 => exact List.mem_reverse.mp hv

-- The sites that a fixture has are those that were made for it.
theorem Equipped.sites_args (h : Equipped setUp cwd noisy w) :
    (setUp.fixture.sites.filterMap w.site).map Site.args =
      (setUp.sites.map Prod.snd).reverse := by
  have hsites := h.fitted.sites
  cases setUp with
  | memcached numMemcacheds numRogers =>
    obtain ⟨s, hsite, hfurnished, -⟩ := hsites _ List.mem_cons_self
    change (List.filterMap w.site [.dbs]).map Site.args = _
    rw [List.filterMap_cons_some hsite]
    exact congrArg (fun a => [a]) hfurnished.args
  | s4 =>
    obtain ⟨s₂, hsite₂, hfurnished₂, -⟩ := hsites _ List.mem_cons_self
    obtain ⟨s₁, hsite₁, hfurnished₁, -⟩ := hsites _ (List.mem_cons_of_mem _ List.mem_cons_self)
    change (List.filterMap w.site [.site1, .site2]).map Site.args = _
    rw [List.filterMap_cons_some hsite₁, List.filterMap_cons_some hsite₂]
    exact congrArg₂ (fun a₁ a₂ => [a₁, a₂]) hfurnished₁.args hfurnished₂.args

theorem Equipped.wired (h : Equipped setUp cwd noisy w) : Wired setUp.fixture w := by
  have hargs := h.sites_args
  obtain ⟨hfitted, d, hnamed⟩ := h
  have hsafe := setUp.recordsSafe
  refine ⟨⟨d, "127.0.0.1", 5353, _, hnamed.dnsmasq, hnamed.address, hnamed.configTexts,
    listenAddresses_dnsmasqConfig (by decide) hsafe,
    listenPorts_dnsmasqConfig (by decide) hsafe⟩, ?_⟩
  -- each site agrees with the records
  have hagrees : ∀ x ∈ setUp.sites, ∀ s, Furnished x.2 noisy s w →
      Agrees setUp.aRecords (setUp.fixture.rogersDomain s)
        ((setUp.fixture.sites.filterMap w.site).map Site.args) x.2 := by
    intro x hx s hfurnished
    rw [hargs]
    cases setUp with
    | memcached numMemcacheds numRogers =>
      rw [List.mem_singleton.mp hx]
      exact dbsArgs_agrees numMemcacheds numRogers
    | s4 =>
      change Agrees _ s.args.thisSite.rogersDomain _ _
      rw [hfurnished.args]
      refine s4_agrees x.2 (List.mem_reverse.mp ?_)
      exact List.mem_map_of_mem hx
  have hlinked : ∀ x ∈ setUp.sites, ∃ s, w.site x.1 = some s ∧ Linked setUp.fixture w s := by
    intro x hx
    obtain ⟨s, hsite, hfurnished, -⟩ := hfitted.sites x hx
    exact ⟨s, hsite, hfurnished.linked hnamed hsafe (hagrees x hx s hfurnished)⟩
  intro v hv
  obtain ⟨x, hx, rfl⟩ := List.mem_map.mp (setUp.sites_cover hv)
  exact hlinked x hx

end

/-- At every point of the tests, whatever `fork`, `kill` and `waitpid` return, every server is found
where its clients look for it: the DNS records and the settings that the constructors wrote name
exactly the instances that there are. -/
theorem tests_wired (K : Kernel) (tc : TestCase) (ts : List tc.Test) (pid : Inst → Int)
    (files : FileTree) (cwd : Path) (noisy : Option String) :
    ∀ m ∈ (forEach ts tc.runTest).visits K.step
        (K.run tc.setUp.program (Machine.initial pid files cwd noisy)).2,
      Wired tc.setUp.fixture m.world :=
  fun m hm => (equipped_tests K tc ts pid files cwd noisy m hm).wired

/-- At the end of the one test that kills a site, which it leaves killed. -/
theorem tests_wired_tracerBullet :
    Wired .s4 (Kernel.obliging.run (forEach [SimpleS4SolutionTest.Test.tracerBullet]
      TestCase.simpleS4Solution.runTest) (Kernel.obliging.run SetUp.s4.program
        (Machine.initial (fun _ => 0) (fun _ => none) [] none)).2).2.world :=
  tests_wired Kernel.obliging .simpleS4Solution [.tracerBullet] _ _ _ _ _
    (List.mem_append_right _ List.mem_cons_self)

end ClearwaterFv
