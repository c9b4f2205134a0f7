import ClearwaterFv.Addresses
import ClearwaterFv.ConfigFiles
import ClearwaterFv.Reasoning.Lines

/-!
# ClusterFiles — the nodes of a cluster, as its files name them

The loops of `Site` that create the instances of a cluster write its files as they go, and each
`ChronosInstance` writes one of its own.  Read back, the files name the instances that were
created, in order, and every Chronos finds itself among the nodes.
-/

open Reasoning Reasoning.Decimal Reasoning.Lines Reasoning.Paths Reasoning.Prog

namespace ClearwaterFv

/-! ## Reading the files back -/

def addressText (x : String × Int) : String := x.1 ++ ":" ++ x.2.repr

/-- An address that is printed as `ip:port`, with nothing around the port. -/
def readAddress (s : String) : Option (String × Int) :=
  (pair? ':' s).bind fun r => (decimal? r.2).map fun port => (r.1, port)

/-- The servers of `cluster_settings`: none in an empty file, and else those between the commas. -/
def readServers (text : String) : Option (List (String × Int)) :=
  if text = "" then some []
  else (after? "servers=" text).bind fun servers => (split ',' servers).mapM readAddress

/-- The nodes of `chronos_cluster.conf`. -/
def readNodes (text : String) : Option (List (String × Int)) :=
  ((lines text).filterMap (after? "node = ")).mapM readAddress

/-- The last localhost entry of a `chronos.conf`. -/
def readLocalhost (text : String) : Option (String × Int) :=
  ((lines text).filterMap (after? "localhost = ")).getLast?.bind readAddress

/-- The prefix holds no comma, no colon and no line break. -/
structure PrefixSafe (ipAddrPrefix : String) : Prop where
  no_comma : ',' ∉ ipAddrPrefix.toList
  no_colon : ':' ∉ ipAddrPrefix.toList
  no_break : '\n' ∉ ipAddrPrefix.toList

/-! ## Addresses in the files -/

theorem siteIp_not_mem {c : Char} {ipAddrPrefix : String} (hc : c ∉ ipAddrPrefix.toList)
    (hdigit : c.isDigit = false) (index : Nat) : c ∉ (siteIp ipAddrPrefix index).toList := by
  unfold siteIp
  rw [String.toList_append, List.mem_append, not_or]
  exact ⟨hc, not_mem_repr hdigit⟩

theorem rolePlaces_not_mem {c : Char} {ipAddrPrefix : String} (hc : c ∉ ipAddrPrefix.toList)
    (hdigit : c.isDigit = false) (port : Int) (count : Nat) :
    ∀ x ∈ rolePlaces ipAddrPrefix port count, c ∉ x.1.toList := by
  intro x hx
  obtain ⟨⟨ii, hii⟩, -⟩ := mem_rolePlaces hx
  rw [hii]
  exact siteIp_not_mem hc hdigit (ii + 1)

theorem addressText_not_mem {c : Char} {x : String × Int} (hip : c ∉ x.1.toList) (hcolon : c ≠ ':')
    (hdigit : c.isDigit = false) (hminus : c ≠ '-') : c ∉ (addressText x).toList := by
  unfold addressText
  simp only [String.toList_append, List.mem_append, not_or]
  exact ⟨⟨hip, fun h => hcolon (List.mem_singleton.mp h)⟩, not_mem_int_repr hdigit hminus⟩

theorem readAddress_addressText {x : String × Int} (hx : ':' ∉ x.1.toList) :
    readAddress (addressText x) = some x := by
  have hcolon : (":" : String).toList = [':'] := by decide
  have hport : ':' ∉ x.2.repr.toList := not_mem_int_repr (by decide) (by decide)
  unfold readAddress addressText
  rw [pair?_append hcolon hx hport, Option.bind_some, decimal?_repr, Option.map_some]

-- Every address of a list is read back.
theorem mapM_readAddress {xs : List (String × Int)} (hxs : ∀ x ∈ xs, ':' ∉ x.1.toList) :
    (xs.map addressText).mapM readAddress = some xs := by
  have hread : (xs.map addressText).mapM readAddress = some (xs.map id) :=
    mapM_map_of_read fun x hx => readAddress_addressText (hxs x hx)
  rw [hread, List.map_id]

/-! ## The files -/

section

variable {ipAddrPrefix : String} {count : Int}

theorem memcachedLoop_text (ipAddrPrefix : String) (count : Int) :
    (memcachedLoop ipAddrPrefix count).1 =
      if count.toNat = 0 then ""
      else "servers=" ++
        ",".intercalate ((rolePlaces ipAddrPrefix memcachedPort count.toNat).map addressText) := by
  have hfst : (memcachedLoop ipAddrPrefix count).1 = (List.range count.toNat).foldl
      (fun text ii => (if ii = 0 then text ++ "servers=" else text ++ ",") ++
        addressText (siteIp ipAddrPrefix (ii + 1), memcachedPort)) "" := by
    refine (List.foldl_hom Prod.fst fun x ii => ?_).symm
    simp only [addressText, String.append_assoc]
  rw [hfst, foldl_separated, rolePlaces, List.map_map]
  rfl

theorem chronosLoop_text (ipAddrPrefix siteDir : String) (count : Int) :
    (chronosLoop ipAddrPrefix siteDir count).1 =
      unlines ("[cluster]" :: (rolePlaces ipAddrPrefix chronosPort count.toNat).map
        fun x => "node = " ++ addressText x) := by
  have hfst : (chronosLoop ipAddrPrefix siteDir count).1 = (List.range count.toNat).foldl
      (fun text ii => text ++
        ("node = " ++ addressText (siteIp ipAddrPrefix (ii + 1), chronosPort)) ++ "\n")
      "[cluster]\n" := by
    refine (List.foldl_hom Prod.fst fun x ii => ?_).symm
    simp only [addressText, String.append_assoc]
  rw [hfst, foldl_append_line, rolePlaces, List.map_map]
  rfl

theorem memcachedLoop_text_eq_empty :
    (memcachedLoop ipAddrPrefix count).1 = "" ↔ count ≤ 0 := by
  rw [memcachedLoop_text]
  by_cases hcount : count.toNat = 0
  · rw [if_pos hcount]
    exact iff_of_true rfl (by omega)
  · rw [if_neg hcount]
    refine iff_of_false (fun h => ?_) (by omega)
    have hlist := congrArg String.toList h
    rw [String.toList_append] at hlist
    cases hlist

-- `cluster_settings` lists the Memcached instances, with nothing before, between or after.
theorem readServers_memcachedLoop (hsafe : PrefixSafe ipAddrPrefix) :
    readServers (memcachedLoop ipAddrPrefix count).1 =
      some (rolePlaces ipAddrPrefix memcachedPort count.toNat) := by
  unfold readServers
  by_cases hcount : count ≤ 0
  · have hzero : count.toNat = 0 := by omega
    rw [if_pos (memcachedLoop_text_eq_empty.mpr hcount), hzero]
    rfl
  · have hpos : count.toNat ≠ 0 := by omega
    have hcomma : ("," : String).toList = [','] := by decide
    have hne : (rolePlaces ipAddrPrefix memcachedPort count.toNat).map addressText ≠ [] := by
      simpa [rolePlaces] using hpos
    have hfields : ∀ l ∈ (rolePlaces ipAddrPrefix memcachedPort count.toNat).map addressText,
        ',' ∉ l.toList := by
      intro l hl
      obtain ⟨x, hx, rfl⟩ := List.mem_map.mp hl
      exact addressText_not_mem (rolePlaces_not_mem hsafe.no_comma (by decide) _ _ x hx)
        (by decide) (by decide) (by decide)
    rw [if_neg fun h => hcount (memcachedLoop_text_eq_empty.mp h), memcachedLoop_text,
      if_neg hpos, after?_append, Option.bind_some, split_intercalate hcomma hne hfields]
    exact mapM_readAddress (rolePlaces_not_mem hsafe.no_colon (by decide) _ _)

-- `chronos_cluster.conf` lists the Chronos instances.
theorem readNodes_chronosLoop (hsafe : PrefixSafe ipAddrPrefix) (siteDir : String) :
    readNodes (chronosLoop ipAddrPrefix siteDir count).1 =
      some (rolePlaces ipAddrPrefix chronosPort count.toNat) := by
  have hbreak : ∀ l ∈ "[cluster]" :: (rolePlaces ipAddrPrefix chronosPort count.toNat).map
      (fun x => "node = " ++ addressText x), '\n' ∉ l.toList := by
    intro l hl
    rcases List.mem_cons.mp hl with rfl | hl
    · decide
    · obtain ⟨x, hx, rfl⟩ := List.mem_map.mp hl
      rw [String.toList_append, List.mem_append, not_or]
      exact ⟨by decide, addressText_not_mem (rolePlaces_not_mem hsafe.no_break (by decide) _ _ x hx)
        (by decide) (by decide) (by decide)⟩
  have hnodes : ((rolePlaces ipAddrPrefix chronosPort count.toNat).map
      fun x => "node = " ++ addressText x).filterMap (after? "node = ") =
      (rolePlaces ipAddrPrefix chronosPort count.toNat).map addressText :=
    filterMap_map_of_read fun x _ => after?_append "node = " (addressText x)
  have hheader : after? "node = " "[cluster]" = none := by decide
  have hlast : after? "node = " "" = none := by decide
  unfold readNodes
  rw [chronosLoop_text, filterMap_lines_unlines hbreak hlast, List.filterMap_cons_none hheader,
    hnodes]
  exact mapM_readAddress (rolePlaces_not_mem hsafe.no_colon (by decide) _ _)

-- The last localhost entry of a `chronos.conf` is the one that the constructor writes last,
-- whatever stands in the lines before it.
theorem readLocalhost_chronosConf {ip : String} (hcolon : ':' ∉ ip.toList)
    (hbreak : '\n' ∉ ip.toList) (logLevel logDir : String) (port : Int) (dnsIp : String)
    (dnsPort : Int) :
    readLocalhost (chronosConf logLevel logDir ip port dnsIp dnsPort) = some (ip, port) := by
  have hline : '\n' ∉ ("localhost = " ++ addressText (ip, port)).toList := by
    rw [String.toList_append, List.mem_append, not_or]
    exact ⟨by decide, addressText_not_mem hbreak (by decide) (by decide) (by decide)⟩
  have hend : ∀ text : String,
      text ++ "[cluster]\n" ++ "localhost = " ++ ip ++ ":" ++ port.repr ++ "\n" =
        text ++ "[cluster]" ++ "\n" ++
          ("localhost = " ++ addressText (ip, port) ++ "\n" ++ "") := by
    intro text
    rw [show ("[cluster]\n" : String) = "[cluster]" ++ "\n" from rfl]
    simp only [addressText, String.append_assoc, String.append_empty]
  have hlast : (lines "").filterMap (after? "localhost = ") = [] := by decide
  unfold readLocalhost chronosConf
  rw [hend, lines_append, lines_cons hline, List.filterMap_append,
    List.filterMap_cons_some (after?_append _ _), hlast, List.getLast?_concat, Option.bind_some,
    readAddress_addressText hcolon]

end

/-! ## The instances -/

/-- `ip()` and `port()` of an instance. -/
def World.address (w : World) (i : Inst) : Option (String × Int) :=
  (w.objects i).map fun x => (x.ip, x.port)

def World.fileText (w : World) (path : String) : Option String :=
  match w.files (resolve w.cwd path) with
  | some (.file text) => some text
  | _ => none

/-- The path of a `ChronosInstance`'s own configuration file. -/
def Kind.localConfFile? : Kind → Option String
  | .chronos _ _ _ localConfFile _ _ => some localConfFile
  | _ => none

/-- The localhost entry of the file that an instance is configured with. -/
def World.localhost (w : World) (i : Inst) : Option (String × Int) :=
  (w.objects i).bind fun x => x.kind.localConfFile?.bind fun path =>
    (w.fileText path).bind readLocalhost

theorem Holds.fileText {w : World} {path text : String} (h : Holds w (path, text)) :
    w.fileText path = some text := by
  unfold World.fileText
  rw [h]

section

variable (K : Kernel) (a : SiteArgs) (m : Machine)

theorem newSite_addresses :
    (K.run (newSite a) m).1.memcachedInstances.map (K.run (newSite a) m).2.world.address =
      (rolePlaces a.ipAddrPrefix memcachedPort a.numMemcached.toNat).map some ∧
    (K.run (newSite a) m).1.chronosInstances.map (K.run (newSite a) m).2.world.address =
      (rolePlaces a.ipAddrPrefix chronosPort a.numChronos.toNat).map some := by
  obtain ⟨hmemcached, -, hchronos⟩ :=
    newSite_map_objects K a m fun object => object.map fun x => (x.ip, x.port)
  rw [memcachedLoop_instances, List.map_map] at hmemcached
  rw [chronosLoop_instances, List.map_map] at hchronos
  unfold rolePlaces
  rw [List.map_map, List.map_map]
  exact ⟨hmemcached, hchronos⟩

-- The own configuration files of the Chronos instances name the instances themselves.
theorem newSite_localhosts (hsafe : PrefixSafe a.ipAddrPrefix) :
    (K.run (newSite a) m).1.chronosInstances.map (K.run (newSite a) m).2.world.localhost =
      (rolePlaces a.ipAddrPrefix chronosPort a.numChronos.toNat).map some := by
  obtain ⟨-, -, hchronos⟩ := newSite_map_objects K a m fun object =>
    object.bind fun x => x.kind.localConfFile?.bind fun path =>
      ((K.run (newSite a) m).2.world.fileText path).bind readLocalhost
  obtain ⟨-, -, hlocal⟩ := newSite_files K a m
  rw [chronosLoop_eq_chronosAt, List.map_map] at hchronos
  unfold rolePlaces
  rw [List.map_map]
  refine hchronos.trans (List.map_congr_left fun ii hii => ?_)
  have hfile := (hlocal ii (List.mem_range.mp hii)).fileText
  change ((K.run (newSite a) m).2.world.fileText (a.localConfAt ii)).bind readLocalhost =
    some (siteIp a.ipAddrPrefix (ii + 1), chronosPort)
  rw [hfile, Option.bind_some]
  exact readLocalhost_chronosConf (siteIp_not_mem hsafe.no_colon (by decide) (ii + 1))
    (siteIp_not_mem hsafe.no_break (by decide) (ii + 1)) _ _ _ _ _

-- The accessors read the instances in the order of the vector.
theorem run_getIps (instances : List Inst) :
    (K.run (Site.getIps instances) m).1 =
      instances.map fun i => ((m.world.objects i).getD default).ip := by
  refine run_mapEach_returns (I := fun m' : Machine => m'.world.objects = m.world.objects)
    (fun i _ m' h => ?_) (fun i _ m' h => ?_) rfl
  · exact h
  · change ((m'.world.objects i).getD default).ip = _
    rw [h]

/-- `prefix+1` .. `prefix+count`. -/
def siteIps (ipAddrPrefix : String) (count : Int) : List String :=
  (List.range count.toNat).map fun ii => siteIp ipAddrPrefix (ii + 1)

theorem newSite_getIps :
    (K.run (Site.getIps (K.run (newSite a) m).1.rogersInstances) (K.run (newSite a) m).2).1 =
      siteIps a.ipAddrPrefix a.numRogers ∧
    (K.run (Site.getIps (K.run (newSite a) m).1.chronosInstances) (K.run (newSite a) m).2).1 =
      siteIps a.ipAddrPrefix a.numChronos := by
  obtain ⟨-, hrogers, hchronos⟩ :=
    newSite_map_objects K a m fun object => (object.getD default).ip
  rw [rogersLoop_eq, List.map_map] at hrogers
  rw [chronosLoop_instances, List.map_map] at hchronos
  rw [run_getIps, run_getIps]
  exact ⟨hrogers, hchronos⟩

end

/-- The cluster files of a site decode to its instances: the servers of `cluster_settings` to the
Memcached instances, and the nodes of `chronos_cluster.conf` to the Chronos instances, each of
which names itself, and so one node, in a file of its own.  The accessors return the addresses of
the Rogers and the Chronos instances. -/
structure ClusterDecodes (K : Kernel) (a : SiteArgs) (s : Site) (m : Machine) : Prop where
  servers : ∃ text, m.world.fileText (a.dir ++ "/cluster_settings") = some text ∧
    (text = "" ↔ a.numMemcached ≤ 0) ∧
    readServers text = some (rolePlaces a.ipAddrPrefix memcachedPort a.numMemcached.toNat)
  memcached : s.memcachedInstances.map m.world.address =
    (rolePlaces a.ipAddrPrefix memcachedPort a.numMemcached.toNat).map some
  nodes : ∃ text, m.world.fileText (chronosDir a.dir ++ "/chronos_cluster.conf") = some text ∧
    readNodes text = some (rolePlaces a.ipAddrPrefix chronosPort a.numChronos.toNat)
  chronos : s.chronosInstances.map m.world.address =
    (rolePlaces a.ipAddrPrefix chronosPort a.numChronos.toNat).map some
  localhosts : s.chronosInstances.map m.world.localhost =
    (rolePlaces a.ipAddrPrefix chronosPort a.numChronos.toNat).map some
  nodesDistinct : (rolePlaces a.ipAddrPrefix chronosPort a.numChronos.toNat).Nodup
  rogersIps : (K.run (Site.getIps s.rogersInstances) m).1 = siteIps a.ipAddrPrefix a.numRogers
  chronosIps : (K.run (Site.getIps s.chronosInstances) m).1 = siteIps a.ipAddrPrefix a.numChronos

theorem newSite_clusterDecodes (K : Kernel) (a : SiteArgs) (m : Machine)
    (hsafe : PrefixSafe a.ipAddrPrefix) :
    ClusterDecodes K a (K.run (newSite a) m).1 (K.run (newSite a) m).2 := by
  obtain ⟨hsettings, hshared, -⟩ := newSite_files K a m
  have hcluster := hshared _ List.mem_cons_self
  exact
    { servers := ⟨a.clusterSettings, hsettings.fileText, memcachedLoop_text_eq_empty,
        readServers_memcachedLoop hsafe⟩
      memcached := (newSite_addresses K a m).1
      nodes := ⟨_, hcluster.fileText, readNodes_chronosLoop hsafe a.dir⟩
      chronos := (newSite_addresses K a m).2
      localhosts := newSite_localhosts K a m hsafe
      nodesDistinct := rolePlaces_nodup _ _ _
      rogersIps := (newSite_getIps K a m).1
      chronosIps := (newSite_getIps K a m).2 }

/-- The first site of the S4 tests, with two instances of each kind. -/
theorem newSite_clusterDecodes_site1 :
    ClusterDecodes Kernel.obliging BaseS4SolutionTest.site1Args
      (Kernel.obliging.run (newSite BaseS4SolutionTest.site1Args)
        (Machine.initial (fun _ => 0) (fun _ => none) [] none)).1
      (Kernel.obliging.run (newSite BaseS4SolutionTest.site1Args)
        (Machine.initial (fun _ => 0) (fun _ => none) [] none)).2 ∧
    siteIps BaseS4SolutionTest.site1Args.ipAddrPrefix
      BaseS4SolutionTest.site1Args.numRogers = ["127.0.1.1", "127.0.1.2"] := by
  have hsafe : PrefixSafe BaseS4SolutionTest.site1Args.ipAddrPrefix :=
    ⟨by decide, by decide, by decide⟩
  exact ⟨newSite_clusterDecodes Kernel.obliging BaseS4SolutionTest.site1Args _ hsafe, by decide⟩

end ClearwaterFv
