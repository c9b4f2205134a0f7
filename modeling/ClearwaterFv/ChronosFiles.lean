import ClearwaterFv.ClusterFiles
import ClearwaterFv.Mesh
import ClearwaterFv.Reasoning.Ini

/-!
# ChronosFiles — what a Chronos is configured with

Each Chronos is started with three files: its own, that of its cluster, and that of the sites.  They
are written piecemeal, and are files of sections; read as such they hold the settings below, and
nothing else.
-/

open Reasoning Reasoning.Decimal Reasoning.Ini Reasoning.Lines Reasoning.Paths Reasoning.Prog

namespace ClearwaterFv

/-! ## The sections -/

/-- The sections of a `chronos.conf`. -/
def chronosGroups (logLevel logDir ip : String) (port : Int) (dnsIp : String) (dnsPort : Int) :
    List Group :=
  [⟨"logging", [("level", logLevel), ("folder", logDir)]⟩,
    ⟨"dns", [("servers", dnsIp), ("port", dnsPort.repr)]⟩,
    ⟨"http", [("bind-address", ip), ("bind-port", port.repr)]⟩,
    ⟨"throttling", [("max_tokens", "1000")]⟩,
    ⟨"cluster", [("localhost", addressText (ip, port))]⟩]

/-- The section of `chronos_cluster.conf`. -/
def clusterGroup (ipAddrPrefix : String) (count : Int) : Group where
  name := "cluster"
  entries := (rolePlaces ipAddrPrefix chronosPort count.toNat).map fun x => ("node", addressText x)

def siteSetting (siteName : String) (item : String × Topology) : String × String :=
  if item.1 = siteName then ("local_site", item.1)
  else ("remote_site", item.1 ++ "=" ++ item.2.chronosDomain)

/-- The section of `chronos_shared.conf`. -/
def sitesGroup (siteName : String) (T : OrderedMap String Topology) : Group where
  name := "sites"
  entries := T.entries.map (siteSetting siteName)

theorem chronosConf_eq_print (logLevel logDir ip : String) (port : Int) (dnsIp : String)
    (dnsPort : Int) :
    chronosConf logLevel logDir ip port dnsIp dnsPort =
      print (chronosGroups logLevel logDir ip port dnsIp dnsPort) := by
  have hlogging : ("[logging]\n" : String) = "[" ++ "logging" ++ "]" ++ "\n" := by decide
  have hlevel : ("level = " : String) = "level" ++ " = " := by decide
  have hfolder : ("folder = " : String) = "folder" ++ " = " := by decide
  have hdns : ("[dns]\n" : String) = "[" ++ "dns" ++ "]" ++ "\n" := by decide
  have hservers : ("servers = " : String) = "servers" ++ " = " := by decide
  have hport : ("port = " : String) = "port" ++ " = " := by decide
  have hhttp : ("[http]\n" : String) = "[" ++ "http" ++ "]" ++ "\n" := by decide
  have haddress : ("bind-address = " : String) = "bind-address" ++ " = " := by decide
  have hbind : ("bind-port = " : String) = "bind-port" ++ " = " := by decide
  have hthrottling : ("[throttling]\n" : String) = "[" ++ "throttling" ++ "]" ++ "\n" := by decide
  have htokens : ("max_tokens = 1000\n" : String) = "max_tokens" ++ " = " ++ "1000" ++ "\n" := by
    decide
  have hcluster : ("[cluster]\n" : String) = "[" ++ "cluster" ++ "]" ++ "\n" := by decide
  have hlocalhost : ("localhost = " : String) = "localhost" ++ " = " := by decide
  unfold chronosConf
  rw [hlogging, hlevel, hfolder, hdns, hservers, hport, hhttp, haddress, hbind, hthrottling,
    htokens, hcluster, hlocalhost]
  simp only [chronosGroups, print, Group.lines, entryLine, unlines, addressText, List.map_cons,
    List.map_nil, String.append_assoc, String.append_empty]

theorem chronosLoop_eq_print (ipAddrPrefix siteDir : String) (count : Int) :
    (chronosLoop ipAddrPrefix siteDir count).1 = print [clusterGroup ipAddrPrefix count] := by
  have hheader : ("[cluster]" : String) = "[" ++ "cluster" ++ "]" := by decide
  have hnode : ("node = " : String) = "node" ++ " = " := by decide
  rw [chronosLoop_text, hheader, hnode]
  unfold print Group.lines clusterGroup
  rw [List.map_map]
  rfl

theorem sharedConf_eq_print {siteName : String} {T : OrderedMap String Topology}
    (hT : T.isEmpty = false) :
    sharedConf siteName T = print [sitesGroup siteName T] := by
  have hheader : ("[sites]" : String) = "[" ++ "sites" ++ "]" := by decide
  have hlocal : ("local_site = " : String) = "local_site" ++ " = " := by decide
  have hremote : ("remote_site = " : String) = "remote_site" ++ " = " := by decide
  have hline : siteLine siteName = entryLine ∘ siteSetting siteName := by
    funext item
    unfold siteLine siteSetting
    rw [hlocal, hremote, Function.comp_apply]
    split
    · rfl
    · simp only [entryLine, String.append_assoc]
  rw [sharedConf_eq_unlines hT, hheader, hline]
  unfold print Group.lines sitesGroup
  rw [List.map_map]

/-! ## The fields -/

/-- What the constructor of a site is given stands on one line, with no blank at its ends. -/
structure SiteArgs.Printable (a : SiteArgs) : Prop where
  ipAddrPrefix : ValueSafe a.ipAddrPrefix
  dir : ValueSafe a.dir
  dnsIp : ValueSafe a.thisSite.dnsIp
  sites : ∀ e ∈ a.deploymentTopology.entries, ValueSafe e.1 ∧ ValueSafe e.2.chronosDomain

theorem valueSafe_repr (n : Nat) : ValueSafe n.repr :=
  .of_not_mem (not_mem_repr (by decide)) (not_mem_repr (by decide))

theorem valueSafe_int_repr (v : Int) : ValueSafe v.repr :=
  .of_not_mem (not_mem_int_repr (by decide) (by decide)) (not_mem_int_repr (by decide) (by decide))

theorem valueSafe_siteIp {ipAddrPrefix : String} (h : ValueSafe ipAddrPrefix) (index : Nat) :
    ValueSafe (siteIp ipAddrPrefix index) := h.append (valueSafe_repr index)

theorem valueSafe_addressText {x : String × Int} (hip : ValueSafe x.1) :
    ValueSafe (addressText x) :=
  (hip.append (by decide)).append (valueSafe_int_repr x.2)

theorem chronosGroups_safe {logLevel logDir ip dnsIp : String} (hlevel : ValueSafe logLevel)
    (hdir : ValueSafe logDir) (hip : ValueSafe ip) (hdns : ValueSafe dnsIp) (port dnsPort : Int) :
    ∀ g ∈ chronosGroups logLevel logDir ip port dnsIp dnsPort, g.Safe := by
  unfold chronosGroups
  simp only [List.forall_mem_cons, List.not_mem_nil, false_implies, implies_true, and_true]
  refine ⟨.of (by decide) ?_, .of (by decide) ?_, .of (by decide) ?_, .of (by decide) ?_,
    .of (by decide) ?_⟩
  all_goals
    simp only [List.forall_mem_cons, List.not_mem_nil, false_implies, implies_true, and_true]
  · exact ⟨.of (by decide) hlevel, .of (by decide) hdir⟩
  · exact ⟨.of (by decide) hdns, .of (by decide) (valueSafe_int_repr dnsPort)⟩
  · exact ⟨.of (by decide) hip, .of (by decide) (valueSafe_int_repr port)⟩
  · exact .of (by decide) (by decide)
  · exact .of (by decide) (valueSafe_addressText hip)

theorem clusterGroup_safe {ipAddrPrefix : String} (h : ValueSafe ipAddrPrefix) (count : Int) :
    (clusterGroup ipAddrPrefix count).Safe := by
  refine .of (by decide) fun e he => ?_
  obtain ⟨x, hx, rfl⟩ := List.mem_map.mp he
  obtain ⟨⟨ii, hip⟩, -⟩ := mem_rolePlaces hx
  apply EntrySafe.of (by decide)
  apply valueSafe_addressText
  rw [hip]
  exact valueSafe_siteIp h _

theorem sitesGroup_safe {T : OrderedMap String Topology}
    (hT : ∀ e ∈ T.entries, ValueSafe e.1 ∧ ValueSafe e.2.chronosDomain) (siteName : String) :
    (sitesGroup siteName T).Safe := by
  refine .of (by decide) fun e he => ?_
  obtain ⟨item, hitem, rfl⟩ := List.mem_map.mp he
  obtain ⟨hname, hdomain⟩ := hT item hitem
  unfold siteSetting
  split
  · exact .of (by decide) hname
  · exact .of (by decide) ((hname.append (by decide)).append hdomain)

-- The log level is a number, whatever `NOISY` holds.
theorem valueSafe_getLogLevel (noisy : Option String) : ValueSafe (getLogLevel noisy) :=
  valueSafe_int_repr _

theorem valueSafe_chronosInstanceDir {dir : String} (h : ValueSafe dir) (index : Nat) :
    ValueSafe (chronosInstanceDir dir index) :=
  ((h.append (by decide)).append (by decide)).append (valueSafe_repr index)

theorem SiteArgs.topology_ne_empty (a : SiteArgs) : a.deploymentTopology.isEmpty = false := by
  have hat := a.at_name
  unfold OrderedMap.isEmpty
  unfold OrderedMap.at? at hat
  cases hentries : a.deploymentTopology.entries with
  | nil =>
    rw [hentries] at hat
    cases hat
  | cons e es => rfl

/-! ## The files of an instance -/

/-- The files that an instance is started with, each read as settings. -/
def World.settings (w : World) (i : Inst) : List (Option (List Setting)) :=
  ((w.objects i).map fun x => x.kind.configFiles.map fun path =>
    (w.fileText path).map parse).getD []

/-- The settings that the `ii`-th Chronos of a site should have. -/
def SiteArgs.chronosSettings (a : SiteArgs) (noisy : Option String) (ii : Nat) :
    List (List Setting) :=
  let ip := siteIp a.ipAddrPrefix (ii + 1)
  [[⟨"logging", "level", getLogLevel noisy⟩,
      ⟨"logging", "folder", chronosInstanceDir a.dir (ii + 1) ++ "/log"⟩,
      ⟨"dns", "servers", a.thisSite.dnsIp⟩, ⟨"dns", "port", a.thisSite.dnsPort.repr⟩,
      ⟨"http", "bind-address", ip⟩, ⟨"http", "bind-port", chronosPort.repr⟩,
      ⟨"throttling", "max_tokens", "1000"⟩,
      ⟨"cluster", "localhost", addressText (ip, chronosPort)⟩],
    (rolePlaces a.ipAddrPrefix chronosPort a.numChronos.toNat).map fun x =>
      ⟨"cluster", "node", addressText x⟩,
    a.deploymentTopology.entries.map fun item =>
      if item.1 = a.name then ⟨"sites", "local_site", item.1⟩
      else ⟨"sites", "remote_site", item.1 ++ "=" ++ item.2.chronosDomain⟩]

theorem settings_sitesGroup (siteName : String) (T : OrderedMap String Topology) :
    (sitesGroup siteName T).settings = T.entries.map fun item =>
      if item.1 = siteName then (⟨"sites", "local_site", item.1⟩ : Setting)
      else ⟨"sites", "remote_site", item.1 ++ "=" ++ item.2.chronosDomain⟩ := by
  unfold Group.settings sitesGroup
  rw [List.map_map]
  apply List.map_congr_left
  intro item hitem
  rw [Function.comp_apply]
  unfold siteSetting
  split <;> rfl

-- What the texts that the constructors write are read as.
theorem parse_chronosTexts {a : SiteArgs} (ha : a.Printable) (noisy : Option String) (ii : Nat) :
    [parse (a.localConfTextAt noisy ii), parse (chronosLoop a.ipAddrPrefix a.dir a.numChronos).1,
      parse (sharedConf a.name a.deploymentTopology)] = a.chronosSettings noisy ii := by
  have hlocal := chronosGroups_safe (valueSafe_getLogLevel noisy)
    ((valueSafe_chronosInstanceDir ha.dir (ii + 1)).append (t := "/log") (by decide))
    (valueSafe_siteIp ha.ipAddrPrefix (ii + 1)) ha.dnsIp chronosPort a.thisSite.dnsPort
  have hcluster : ∀ g ∈ [clusterGroup a.ipAddrPrefix a.numChronos], g.Safe :=
    List.forall_mem_singleton.mpr (clusterGroup_safe ha.ipAddrPrefix a.numChronos)
  have hsites : ∀ g ∈ [sitesGroup a.name a.deploymentTopology], g.Safe :=
    List.forall_mem_singleton.mpr (sitesGroup_safe ha.sites a.name)
  unfold SiteArgs.localConfTextAt
  rw [chronosConf_eq_print, parse_print hlocal, chronosLoop_eq_print, parse_print hcluster,
    sharedConf_eq_print a.topology_ne_empty, parse_print hsites, List.flatMap_singleton,
    List.flatMap_singleton, settings_sitesGroup]
  unfold SiteArgs.chronosSettings clusterGroup Group.settings
  rw [List.map_map]
  rfl

-- A Chronos whose files are there, as the constructors write them.
theorem settings_of_holds {w : World} {a : SiteArgs} (ha : a.Printable) {noisy : Option String}
    {i : Inst} {ii : Nat} (hobject : w.objects i = some (a.chronosAt ii))
    (hlocal : Holds w (a.localConfAt ii, a.localConfTextAt noisy ii))
    (hshared : ∀ c ∈ a.chronosFiles, Holds w c) :
    w.settings i = (a.chronosSettings noisy ii).map some := by
  have hcluster : w.fileText (chronosDir a.dir ++ "/chronos_cluster.conf") =
      some (chronosLoop a.ipAddrPrefix a.dir a.numChronos).1 :=
    (hshared _ List.mem_cons_self).fileText
  have hsites : w.fileText (chronosDir a.dir ++ "/chronos_shared.conf") =
      some (sharedConf a.name a.deploymentTopology) :=
    (hshared _ (List.mem_cons_of_mem _ List.mem_cons_self)).fileText
  unfold World.settings
  rw [hobject]
  change [(w.fileText (a.localConfAt ii)).map parse,
    (w.fileText (chronosDir a.dir ++ "/chronos_cluster.conf")).map parse,
    (w.fileText (chronosDir a.dir ++ "/chronos_shared.conf")).map parse] = _
  rw [hlocal.fileText, hcluster, hsites, ← parse_chronosTexts ha]
  rfl

/-- The constructor of a site leaves each of its Chronos instances with three files that hold the
instance's own settings, all nodes of its cluster and all sites, and nothing else. -/
theorem newSite_chronosSettings (K : Kernel) (a : SiteArgs) (ha : a.Printable) (m : Machine) :
    (K.run (newSite a) m).1.chronosInstances.map (K.run (newSite a) m).2.world.settings =
      (List.range a.numChronos.toNat).map fun ii =>
        (a.chronosSettings m.world.noisy ii).map some := by
  obtain ⟨-, -, hchronos⟩ := newSite_map_objects K a m id
  obtain ⟨-, hshared, hlocal⟩ := newSite_files K a m
  rw [chronosLoop_eq_chronosAt, List.map_map] at hchronos
  generalize K.run (newSite a) m = built at *
  apply List.ext_getElem
  · have hlength := congrArg List.length hchronos
    rw [List.length_map, List.length_map] at hlength ⊢
    exact hlength
  · intro ii h₁ h₂
    rw [List.length_map, List.length_range] at h₂
    have hobject := List.getElem_of_eq hchronos (i := ii) (by
      rw [List.length_map] at h₁ ⊢
      exact h₁)
    rw [List.getElem_map, List.getElem_map, List.getElem_range] at hobject
    rw [List.getElem_map, List.getElem_map, List.getElem_range]
    exact settings_of_holds ha hobject (hlocal ii h₂) hshared

/-- The first site of the S4 tests. -/
theorem newSite_chronosSettings_site1 :
    let built := Kernel.obliging.run (newSite BaseS4SolutionTest.site1Args)
      (Machine.initial (fun _ => 0) (fun _ => none) [] (some "Y:5"))
    built.1.chronosInstances.map built.2.world.settings = (List.range 2).map fun ii =>
      (BaseS4SolutionTest.site1Args.chronosSettings (some "Y:5") ii).map some :=
  newSite_chronosSettings Kernel.obliging BaseS4SolutionTest.site1Args
    ⟨by decide, by decide, by decide, by decide⟩ _

end ClearwaterFv
