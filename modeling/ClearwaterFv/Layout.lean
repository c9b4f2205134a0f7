import ClearwaterFv.ConfigText
import ClearwaterFv.Reasoning.Paths

/-!
# Layout — where the files of a site are

The paths that the constructors build by concatenation, resolved.  Everything of a site is below
the site's directory, and everything that belongs to one Chronos instance alone is below that
instance's own directory.
-/

open Reasoning Reasoning.Decimal Reasoning.Paths

namespace ClearwaterFv

/-- The `ii`-th instance of `create_chronos_instances`. -/
def SiteArgs.chronosAt (a : SiteArgs) (ii : Nat) : InstanceArgs :=
  chronosArgs (siteIp a.ipAddrPrefix (ii + 1)) chronosPort (chronosInstanceDir a.dir (ii + 1))
    (chronosDir a.dir ++ "/chronos_cluster.conf") (chronosDir a.dir ++ "/chronos_shared.conf")

theorem chronosLoop_eq_chronosAt (a : SiteArgs) :
    (chronosLoop a.ipAddrPrefix a.dir a.numChronos).2 =
      (List.range a.numChronos.toNat).map a.chronosAt :=
  chronosLoop_instances _ _ _

theorem append_ne_of_length {s t u : String} (hlen : u.toList.length < t.toList.length) :
    s ++ t ≠ u := by
  rintro rfl
  rw [String.toList_append, List.length_append] at hlen
  omega

theorem chronosDir_ne_empty (dir : String) : chronosDir dir ≠ "" := append_ne_of_length (by decide)

theorem chronosInstanceDir_eq (dir : String) (index : Nat) :
    chronosInstanceDir dir index = chronosDir dir ++ ("/" ++ ("instance" ++ index.repr)) := by
  unfold chronosInstanceDir
  rw [String.append_assoc, show ("/instance" : String) = "/" ++ "instance" from rfl,
    String.append_assoc]

theorem chronosInstanceDir_ne_empty (dir : String) (index : Nat) :
    chronosInstanceDir dir index ≠ "" := by
  rw [chronosInstanceDir, String.append_assoc]
  refine append_ne_of_length ?_
  rw [String.toList_append, List.length_append]
  exact Nat.lt_add_right _ (by decide)

theorem instanceName_ne {u : String} (hlen : u.toList.length < 8) (index : Nat) :
    "instance" ++ index.repr ≠ u := by
  rintro rfl
  rw [String.toList_append, List.length_append,
    show ("instance" : String).toList.length = 8 by decide] at hlen
  omega

theorem instanceName_injective {i j : Nat} (h : "instance" ++ i.repr = "instance" ++ j.repr) :
    i = j := by
  apply repr_injective
  apply String.toList_inj.mp
  have hlist := congrArg String.toList h
  rw [String.toList_append, String.toList_append] at hlist
  exact List.append_cancel_left hlist

theorem instanceName_plain (index : Nat) : Plain ("instance" ++ index.repr) where
  ne_empty := instanceName_ne (by decide) index
  ne_dot := instanceName_ne (by decide) index
  ne_dotdot := instanceName_ne (by decide) index
  no_slash hmem := by
    rw [String.toList_append] at hmem
    rcases List.mem_append.mp hmem with hmem | hmem
    · exact absurd hmem (by decide)
    · exact not_mem_repr (by decide) hmem

/-! ## Resolved -/

section

variable (cwd : Path) {dir : String}

-- A name of one component, appended with its slash.
theorem resolve_entry (hdir : dir ≠ "") {s c : String} (hs : s = "/" ++ c) (hc : Plain c) :
    resolve cwd (dir ++ s) = resolve cwd dir ++ [c] := by
  rw [hs, ← String.append_assoc]
  exact resolve_child cwd hdir hc

theorem resolve_clusterSettings (dir : String) :
    resolve cwd (dir ++ "/cluster_settings") =
      resolve cwd (dir ++ "/") ++ ["cluster_settings"] := by
  rw [show ("/cluster_settings" : String) = "/" ++ "cluster_settings" from rfl,
    ← String.append_assoc]
  exact resolve_entry_slash cwd dir ⟨by decide, by decide, by decide, by decide⟩

theorem resolve_chronosDir (dir : String) :
    resolve cwd (chronosDir dir) = resolve cwd (dir ++ "/") ++ ["chronos"] := by
  rw [chronosDir, show ("/chronos" : String) = "/" ++ "chronos" from rfl, ← String.append_assoc]
  exact resolve_entry_slash cwd dir ⟨by decide, by decide, by decide, by decide⟩

theorem resolve_sharedConf (dir : String) :
    resolve cwd (chronosDir dir ++ "/chronos_shared.conf") =
      resolve cwd (dir ++ "/") ++ ["chronos", "chronos_shared.conf"] := by
  rw [resolve_entry cwd (chronosDir_ne_empty dir) (s := "/chronos_shared.conf")
      (c := "chronos_shared.conf") rfl ⟨by decide, by decide, by decide, by decide⟩,
    resolve_chronosDir cwd dir, List.append_assoc]
  rfl

theorem resolve_clusterConf (dir : String) :
    resolve cwd (chronosDir dir ++ "/chronos_cluster.conf") =
      resolve cwd (dir ++ "/") ++ ["chronos", "chronos_cluster.conf"] := by
  rw [resolve_entry cwd (chronosDir_ne_empty dir) (s := "/chronos_cluster.conf")
      (c := "chronos_cluster.conf") rfl ⟨by decide, by decide, by decide, by decide⟩,
    resolve_chronosDir cwd dir, List.append_assoc]
  rfl

theorem resolve_chronosInstanceDir (dir : String) (index : Nat) :
    resolve cwd (chronosInstanceDir dir index) =
      resolve cwd (dir ++ "/") ++ ["chronos", "instance" ++ index.repr] := by
  rw [chronosInstanceDir_eq,
    resolve_entry cwd (chronosDir_ne_empty dir) rfl (instanceName_plain index),
    resolve_chronosDir cwd dir, List.append_assoc]
  rfl

theorem resolve_localConf (dir : String) (index : Nat) :
    resolve cwd (chronosInstanceDir dir index ++ "/conf" ++ "/chronos.conf") =
      resolve cwd (dir ++ "/") ++
        ["chronos", "instance" ++ index.repr, "conf", "chronos.conf"] := by
  have hconf : chronosInstanceDir dir index ++ "/conf" ≠ "" := append_ne_of_length (by decide)
  rw [resolve_entry cwd hconf (s := "/chronos.conf") (c := "chronos.conf") rfl
      ⟨by decide, by decide, by decide, by decide⟩,
    resolve_entry cwd (chronosInstanceDir_ne_empty dir index) (s := "/conf") (c := "conf") rfl
      ⟨by decide, by decide, by decide, by decide⟩,
    resolve_chronosInstanceDir cwd dir, List.append_assoc, List.append_assoc]
  rfl

-- What belongs to two Chronos instances of a site is separate.
theorem chronosInstances_separate (base : Path) {i j : Nat} (hij : i ≠ j) (a b : Path) :
    Separate (base ++ "chronos" :: ("instance" ++ i.repr) :: a)
      (base ++ "chronos" :: ("instance" ++ j.repr) :: b) := by
  have hname : "instance" ++ i.repr ≠ "instance" ++ j.repr :=
    fun h => hij (instanceName_injective h)
  have hsep := separate_entries (base ++ ["chronos"]) hname a b
  rw [List.append_assoc, List.append_assoc] at hsep
  exact hsep

end

end ClearwaterFv
