import ClearwaterFv.ClusterFiles
import ClearwaterFv.S4Site
import Mathlib.Data.List.Count

/-!
# Mesh — the remotes of a site, as Chronos and as S4 see them

Two loops over the deployment topology choose the remote sites: one writes `chronos_shared.conf`,
one builds the remote S4s.  Read back, the file that the constructor of a site leaves lists the
sites for which `S4Site` has built a remote S4, in the same order.
-/

open Reasoning Reasoning.Lines

namespace ClearwaterFv

/-! ## Reading the file back -/

/-- A line of `chronos_shared.conf`. -/
inductive SiteEntry where
  | localSite (name : String)
  | remoteSite (name chronosDomain : String)
deriving DecidableEq

def readSiteLine (line : String) : Option SiteEntry :=
  match after? "local_site = " line with
  | some name => some (.localSite name)
  | none => (after? "remote_site = " line).map fun value =>
    .remoteSite (keyValue value).1 (keyValue value).2

def readSites (text : String) : List SiteEntry := (lines text).filterMap readSiteLine

def SiteEntry.local? : SiteEntry → Option String
  | localSite name => some name
  | remoteSite .. => none

def SiteEntry.remote? : SiteEntry → Option (String × String)
  | localSite _ => none
  | remoteSite name chronosDomain => some (name, chronosDomain)

/-- The local sites and the remote sites, with their domains, that a file lists. -/
def localSites (text : String) : List String := (readSites text).filterMap SiteEntry.local?

def remoteSites (text : String) : List (String × String) :=
  (readSites text).filterMap SiteEntry.remote?

section

variable {T : OrderedMap String Topology} {siteName : String}

theorem isEmpty_of_mem_keys (hmem : siteName ∈ T.keys) : T.isEmpty = false := by
  unfold OrderedMap.keys at hmem
  unfold OrderedMap.isEmpty
  cases hentries : T.entries with
  | nil =>
    rw [hentries] at hmem
    cases hmem
  | cons e es => rfl

/-- The line that is written for an entry of the topology. -/
def siteLine (siteName : String) (item : String × Topology) : String :=
  if item.1 = siteName then "local_site = " ++ item.1
  else "remote_site = " ++ item.1 ++ "=" ++ item.2.chronosDomain

def siteEntry (siteName : String) (item : String × Topology) : SiteEntry :=
  if item.1 = siteName then .localSite item.1 else .remoteSite item.1 item.2.chronosDomain

theorem sharedConf_eq_unlines (hT : T.isEmpty = false) :
    sharedConf siteName T = unlines ("[sites]" :: T.entries.map (siteLine siteName)) := by
  have hbody : (fun (text : String) (item : String × Topology) =>
      if item.1 = siteName then text ++ "local_site = " ++ item.1 ++ "\n"
      else text ++ "remote_site = " ++ item.1 ++ "=" ++ item.2.chronosDomain ++ "\n") =
      fun text item => text ++ siteLine siteName item ++ "\n" := by
    funext text item
    unfold siteLine
    by_cases hlocal : item.1 = siteName
    · rw [if_pos hlocal, if_pos hlocal]
      simp only [String.append_assoc]
    · rw [if_neg hlocal, if_neg hlocal]
      simp only [String.append_assoc]
  unfold sharedConf
  rw [hT, if_neg Bool.false_ne_true, hbody, foldl_append_line]
  rfl

/-- The names hold no equals sign and no line break, the domains no line break. -/
def LineSafe (T : OrderedMap String Topology) : Prop :=
  ∀ e ∈ T.entries,
    '=' ∉ e.1.toList ∧ '\n' ∉ e.1.toList ∧ '\n' ∉ e.2.chronosDomain.toList

theorem siteLine_no_break (hT : LineSafe T) {item : String × Topology} (hitem : item ∈ T.entries) :
    '\n' ∉ (siteLine siteName item).toList := by
  obtain ⟨-, hname, hdomain⟩ := hT item hitem
  unfold siteLine
  by_cases hlocal : item.1 = siteName
  · rw [if_pos hlocal, String.toList_append, List.mem_append, not_or]
    exact ⟨by decide, hname⟩
  · rw [if_neg hlocal]
    simp only [String.toList_append, List.mem_append, not_or]
    exact ⟨⟨⟨by decide, hname⟩, by decide⟩, hdomain⟩

theorem readSiteLine_siteLine (hT : LineSafe T) {item : String × Topology}
    (hitem : item ∈ T.entries) :
    readSiteLine (siteLine siteName item) = some (siteEntry siteName item) := by
  obtain ⟨hequals, -, -⟩ := hT item hitem
  unfold readSiteLine siteLine siteEntry
  by_cases hlocal : item.1 = siteName
  · rw [if_pos hlocal, if_pos hlocal, after?_append]
  · have hother : after? "local_site = "
        ("remote_site = " ++ (item.1 ++ "=" ++ item.2.chronosDomain)) = none :=
      after?_head_ne _ (c := 'l') (d := 'r') (by decide) (by decide) (by decide)
    have hline : "remote_site = " ++ item.1 ++ "=" ++ item.2.chronosDomain =
        "remote_site = " ++ (item.1 ++ "=" ++ item.2.chronosDomain) := by
      simp only [String.append_assoc]
    rw [if_neg hlocal, if_neg hlocal, hline, hother, after?_append]
    simp only [Option.map_some, keyValue_append hequals]

-- The file is read back as the topology.
theorem readSites_sharedConf (hT : LineSafe T) (hne : T.isEmpty = false) :
    readSites (sharedConf siteName T) = T.entries.map (siteEntry siteName) := by
  have hbreak : ∀ l ∈ "[sites]" :: T.entries.map (siteLine siteName), '\n' ∉ l.toList := by
    intro l hl
    rcases List.mem_cons.mp hl with rfl | hl
    · decide
    · obtain ⟨item, hitem, rfl⟩ := List.mem_map.mp hl
      exact siteLine_no_break hT hitem
  have hheader : readSiteLine "[sites]" = none := by decide
  have hlast : readSiteLine "" = none := by decide
  unfold readSites
  rw [sharedConf_eq_unlines hne, filterMap_lines_unlines hbreak hlast,
    List.filterMap_cons_none hheader]
  exact filterMap_map_of_read fun item hitem => readSiteLine_siteLine hT hitem

/-- The other sites of the topology, in its order. -/
def others (siteName : String) (T : OrderedMap String Topology) : List (String × Topology) :=
  T.entries.filter fun item => item.1 ≠ siteName

theorem others_names : (others siteName T).map Prod.fst = T.keys.filter (· ≠ siteName) := by
  unfold others OrderedMap.keys
  rw [List.filter_map]
  rfl

theorem count_others {B : String} (hB : B ∈ T.keys) (hne : B ≠ siteName) :
    ((others siteName T).map Prod.fst).count B = 1 := by
  have hkept : decide (B ≠ siteName) = true := decide_eq_true hne
  rw [others_names, List.count_filter (p := fun name => decide (name ≠ siteName)) hkept]
  exact List.count_eq_one_of_mem T.keys_nodup hB

theorem filterMap_local (items : List (String × Topology)) :
    (items.map (siteEntry siteName)).filterMap SiteEntry.local? =
      (items.map Prod.fst).filter (· = siteName) := by
  induction items with
  | nil => rfl
  | cons item items ih =>
    rw [List.map_cons, List.map_cons, siteEntry]
    by_cases hlocal : item.1 = siteName
    · rw [if_pos hlocal]
      simp only [List.filterMap_cons, SiteEntry.local?, ih, List.filter_cons, hlocal, decide_true,
        if_true]
    · rw [if_neg hlocal]
      simp only [List.filterMap_cons, SiteEntry.local?, ih, List.filter_cons, hlocal, decide_false,
        Bool.false_eq_true, if_false]

theorem filterMap_remote (items : List (String × Topology)) :
    (items.map (siteEntry siteName)).filterMap SiteEntry.remote? =
      (items.filter fun item => item.1 ≠ siteName).map fun item =>
        (item.1, item.2.chronosDomain) := by
  induction items with
  | nil => rfl
  | cons item items ih =>
    rw [List.map_cons, siteEntry]
    by_cases hlocal : item.1 = siteName
    · rw [if_pos hlocal]
      simp only [List.filterMap_cons, SiteEntry.remote?, ih, List.filter_cons, hlocal, ne_eq,
        not_true_eq_false, decide_false, Bool.false_eq_true, if_false]
    · rw [if_neg hlocal]
      simp only [List.filterMap_cons, SiteEntry.remote?, ih, List.filter_cons, hlocal, ne_eq,
        not_false_eq_true, decide_true, if_true, List.map_cons]

theorem localSites_sharedConf (hT : LineSafe T) (hmem : siteName ∈ T.keys) :
    localSites (sharedConf siteName T) = [siteName] := by
  have hone : T.keys.count siteName = 1 := List.count_eq_one_of_mem T.keys_nodup hmem
  unfold localSites
  rw [readSites_sharedConf hT (isEmpty_of_mem_keys hmem), filterMap_local]
  change T.keys.filter (· = siteName) = [siteName]
  rw [List.filter_eq, hone]
  rfl

theorem remoteSites_sharedConf (hT : LineSafe T) (hmem : siteName ∈ T.keys) :
    remoteSites (sharedConf siteName T) =
      (others siteName T).map fun item => (item.1, item.2.chronosDomain) := by
  unfold remoteSites
  rw [readSites_sharedConf hT (isEmpty_of_mem_keys hmem), filterMap_remote]
  rfl

end

/-! ## The two views -/

/-- The ids of the remote S4s, in the order of the vector. -/
def S4Site.remoteIds (s : S4Site) : List (Option String) :=
  s.remoteS4s.map fun (p : Ptr) =>
    match s.objects[p]? with
    | some (.remoteS4 id _) => some id
    | _ => none

/-- The id of the remote S4 of one site that talks to another. -/
def remoteId (siteName other : String) : String := siteName ++ "-remote-s4-to-" ++ other

/-- What the text of a `chronos_shared.conf` says of the other sites and what `S4Site` has built for
them. -/
structure ViewsAgree (text : String) (T : OrderedMap String Topology) (siteName : String)
    (tplg : Topology) (s : S4Site) : Prop where
  localSite : localSites text = [siteName]
  -- exactly the other sites are listed, each once
  listed : ∀ other, ((remoteSites text).map Prod.fst).count other =
    if other ∈ T.keys ∧ other ≠ siteName then 1 else 0
  lengthStores : s.remoteStores.length = (remoteSites text).length
  lengthAorStores : s.remoteAorStores.length = (remoteSites text).length
  lengthS4s : s.remoteS4s.length = (remoteSites text).length
  -- and each is there with its domains, at the same place in both
  remotes : ∀ i other domain, (remoteSites text)[i]? = some (other, domain) →
    ∃ tplgOther, T.at? other = some tplgOther ∧ domain = tplgOther.chronosDomain ∧
      RemoteAt s.objects s.remoteStores s.remoteAorStores s.remoteS4s i (remoteId siteName other)
        tplgOther.rogersDomain (siteIp tplg.ipAddrPrefix 1)
  -- so that each is a remote exactly once there as well
  built : ∀ other, s.remoteIds.count (some (remoteId siteName other)) =
    if other ∈ T.keys ∧ other ≠ siteName then 1 else 0

/-- The `chronos_shared.conf` of a site, where it is there. -/
def World.chronosShared (w : World) (a : SiteArgs) : Option String :=
  w.fileText (chronosDir a.dir ++ "/chronos_shared.conf")

section

variable {T : OrderedMap String Topology} {siteName : String} {tplg : Topology}

theorem remoteId_injective (siteName : String) :
    Function.Injective fun other => some (remoteId siteName other) := by
  intro a b h
  apply String.toList_inj.mp
  have hlist := congrArg String.toList (Option.some.inj h)
  unfold remoteId at hlist
  simp only [String.toList_append] at hlist
  exact List.append_cancel_left hlist

theorem count_others_eq (other : String) :
    ((others siteName T).map Prod.fst).count other =
      if other ∈ T.keys ∧ other ≠ siteName then 1 else 0 := by
  by_cases h : other ∈ T.keys ∧ other ≠ siteName
  · rw [if_pos h]
    exact count_others h.1 h.2
  · rw [if_neg h, List.count_eq_zero, others_names, List.mem_filter]
    exact fun hmem => h ⟨hmem.1, of_decide_eq_true hmem.2⟩

theorem remoteIds_eq {ipAddr : String} {s : S4Site}
    (h : RemotesFor siteName ipAddr (others siteName T) s.objects s.remoteStores
      s.remoteAorStores s.remoteS4s) :
    s.remoteIds = ((others siteName T).map Prod.fst).map fun other =>
      some (remoteId siteName other) := by
  apply List.ext_getElem?
  intro i
  unfold S4Site.remoteIds
  rw [List.getElem?_map, List.getElem?_map, List.getElem?_map]
  cases hitem : (others siteName T)[i]? with
  | none =>
    have hlen := List.getElem?_eq_none_iff.mp hitem
    rw [← h.lengthS4s] at hlen
    rw [List.getElem?_eq_none_iff.mpr hlen]
    rfl
  | some item =>
    obtain ⟨store, aorStore, s4, resolver, -, -, hs4, -, -, hobject⟩ := h.remotes i item hitem
    rw [hs4]
    simp only [Option.map_some, hobject]
    rfl

-- The two loops choose the same sites, in the same order.
theorem viewsAgree (hT : LineSafe T) (hat : T.at? siteName = some tplg) :
    ∃ s, newS4Site siteName T = some s ∧
      ViewsAgree (sharedConf siteName T) T siteName tplg s := by
  obtain ⟨s, hs, hremotes⟩ := newS4Site_remotes hat
  have hmem : siteName ∈ T.keys :=
    List.mem_map_of_mem ((T.at?_eq_some_iff siteName tplg).mp hat)
  have hfile := remoteSites_sharedConf hT hmem
  have hlen : (remoteSites (sharedConf siteName T)).length = (others siteName T).length := by
    rw [hfile, List.length_map]
  have hnames : (remoteSites (sharedConf siteName T)).map Prod.fst =
      (others siteName T).map Prod.fst := by
    rw [hfile, List.map_map]
    rfl
  refine ⟨s, hs, localSites_sharedConf hT hmem, fun other => ?_, ?_, ?_, ?_,
    fun i other domain hi => ?_, fun other => ?_⟩
  · rw [hnames]
    exact count_others_eq other
  · rw [hlen]
    exact hremotes.lengthStores
  · rw [hlen]
    exact hremotes.lengthAorStores
  · rw [hlen]
    exact hremotes.lengthS4s
  · rw [hfile, List.getElem?_map] at hi
    obtain ⟨item, hitem, heq⟩ := Option.map_eq_some_iff.mp hi
    obtain ⟨rfl, rfl⟩ := Prod.mk.inj heq
    have hentry : item ∈ T.entries := List.mem_of_mem_filter (List.mem_of_getElem? hitem)
    exact ⟨item.2, (T.at?_eq_some_iff item.1 item.2).mpr hentry, rfl, hremotes.remotes i item hitem⟩
  · rw [remoteIds_eq hremotes, List.count_map_of_injective _ _ (remoteId_injective siteName)]
    exact count_others_eq other

-- The constructor of a site leaves the text in its file.
theorem newSite_chronosShared (K : Kernel) (a : SiteArgs) (m : Machine) :
    (K.run (newSite a) m).2.world.chronosShared a =
      some (sharedConf a.name a.deploymentTopology) := by
  obtain ⟨-, hshared, -⟩ := newSite_files K a m
  exact (hshared _ (List.mem_cons_of_mem _ List.mem_cons_self)).fileText

end

/-- In every deployment the Chronos view, in the file that the constructor of a site leaves, and the
S4 view of each site agree, and any two sites are remotes of each other exactly once in both. -/
theorem fullMesh (K : Kernel) (T : OrderedMap String Topology) (hT : LineSafe T) :
    (∀ (a : SiteArgs) (m : Machine), a.deploymentTopology = T →
      ∃ text s, (K.run (newSite a) m).2.world.chronosShared a = some text ∧
        newS4Site a.name T = some s ∧ ViewsAgree text T a.name a.thisSite s) ∧
    ∀ (a b : SiteArgs) (m m' : Machine), a.deploymentTopology = T → b.deploymentTopology = T →
      a.name ≠ b.name →
      ∃ textA textB sA sB, (K.run (newSite a) m).2.world.chronosShared a = some textA ∧
        (K.run (newSite b) m').2.world.chronosShared b = some textB ∧
        newS4Site a.name T = some sA ∧ newS4Site b.name T = some sB ∧
        ((remoteSites textA).map Prod.fst).count b.name = 1 ∧
        ((remoteSites textB).map Prod.fst).count a.name = 1 ∧
        sA.remoteIds.count (some (remoteId a.name b.name)) = 1 ∧
        sB.remoteIds.count (some (remoteId b.name a.name)) = 1 := by
  have hviews : ∀ (a : SiteArgs) (m : Machine), a.deploymentTopology = T →
      ∃ text s, (K.run (newSite a) m).2.world.chronosShared a = some text ∧
        newS4Site a.name T = some s ∧ ViewsAgree text T a.name a.thisSite s := by
    rintro a m rfl
    obtain ⟨s, hs, hview⟩ := viewsAgree hT a.at_name
    exact ⟨_, s, newSite_chronosShared K a m, hs, hview⟩
  have hkey : ∀ a : SiteArgs, a.deploymentTopology = T → a.name ∈ T.keys := by
    rintro a rfl
    exact List.mem_map_of_mem ((a.deploymentTopology.at?_eq_some_iff _ _).mp a.at_name)
  refine ⟨hviews, fun a b m m' ha hb hne => ?_⟩
  obtain ⟨textA, sA, htextA, hsA, hviewA⟩ := hviews a m ha
  obtain ⟨textB, sB, htextB, hsB, hviewB⟩ := hviews b m' hb
  have hBA : b.name ∈ T.keys ∧ b.name ≠ a.name := ⟨hkey b hb, hne.symm⟩
  have hAB : a.name ∈ T.keys ∧ a.name ≠ b.name := ⟨hkey a ha, hne⟩
  exact ⟨textA, textB, sA, sB, htextA, htextB, hsA, hsB,
    (hviewA.listed _).trans (if_pos hBA), (hviewB.listed _).trans (if_pos hAB),
    (hviewA.built _).trans (if_pos hBA), (hviewB.built _).trans (if_pos hAB)⟩

/-- The two sites of the S4 tests, the second created after the first. -/
theorem fullMesh_twoSites :
    LineSafe BaseS4SolutionTest.deploymentTopology ∧
    ∃ text₁ text₂ s₁ s₂,
      (Kernel.obliging.run (newSite BaseS4SolutionTest.site1Args)
        (Machine.initial (fun _ => 0) (fun _ => none) [] none)).2.world.chronosShared
          BaseS4SolutionTest.site1Args = some text₁ ∧
      (Kernel.obliging.run (newSite BaseS4SolutionTest.site2Args)
        (Kernel.obliging.run (newSite BaseS4SolutionTest.site1Args)
          (Machine.initial (fun _ => 0) (fun _ => none) [] none)).2).2.world.chronosShared
            BaseS4SolutionTest.site2Args = some text₂ ∧
      newS4Site "site1" BaseS4SolutionTest.deploymentTopology = some s₁ ∧
      newS4Site "site2" BaseS4SolutionTest.deploymentTopology = some s₂ ∧
      localSites text₁ = ["site1"] ∧
      remoteSites text₁ = [("site2", "chronos.site2")] ∧
      ((remoteSites text₁).map Prod.fst).count "site2" = 1 ∧
      ((remoteSites text₂).map Prod.fst).count "site1" = 1 ∧
      s₁.remoteIds.count (some (remoteId "site1" "site2")) = 1 ∧
      s₂.remoteIds.count (some (remoteId "site2" "site1")) = 1 := by
  let m := Machine.initial (fun _ => 0) (fun _ => none) [] none
  let m₁ := (Kernel.obliging.run (newSite BaseS4SolutionTest.site1Args) m).2
  have hsafe : LineSafe BaseS4SolutionTest.deploymentTopology := by
    unfold LineSafe
    decide
  obtain ⟨hviews, hmesh⟩ := fullMesh Kernel.obliging BaseS4SolutionTest.deploymentTopology hsafe
  obtain ⟨text₁, s₁, htext₁, -, hview₁⟩ := hviews BaseS4SolutionTest.site1Args m rfl
  obtain ⟨textA, text₂, sA, s₂, htextA, htext₂, hsA, hs₂, hfile₁, hfile₂, hbuilt₁, hbuilt₂⟩ :=
    hmesh BaseS4SolutionTest.site1Args BaseS4SolutionTest.site2Args m m₁ rfl rfl (by decide)
  obtain rfl : text₁ = textA := Option.some.inj (htext₁.symm.trans htextA)
  have hwritten := Option.some.inj
    (htext₁.symm.trans (newSite_chronosShared Kernel.obliging BaseS4SolutionTest.site1Args m))
  have hremotes : remoteSites text₁ = [("site2", "chronos.site2")] := by
    rw [hwritten]
    decide
  exact ⟨hsafe, text₁, text₂, sA, s₂, htext₁, htext₂, hsA, hs₂, hview₁.localSite, hremotes, hfile₁,
    hfile₂, hbuilt₁, hbuilt₂⟩

end ClearwaterFv
