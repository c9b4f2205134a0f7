import ClearwaterFv.Fixtures
import ClearwaterFv.Layout
import ClearwaterFv.S4Site
import Mathlib.Data.List.Nodup

/-!
# Addresses — what the instances of a deployment are told to bind, and where they keep their files

An address is the prefix of its site with the index of the instance printed after it.  Prefixes end
in a dot and indices have none, so both can be told from the address.
-/

open Reasoning Reasoning.Decimal Reasoning.Paths Reasoning.Prog

namespace ClearwaterFv

/-- What the `S4Site` of a site binds. -/
def SiteArgs.s4Addresses (a : SiteArgs) : List (String × Int) :=
  (newS4Site a.name a.deploymentTopology).toList.map fun s => (s.httpAddr, s.httpPort)

def SiteArgs.addresses (a : SiteArgs) (noisy : Option String) : List (String × Int) :=
  ((a.newInstances noisy).map fun x => (x.1.ip, x.1.port)) ++ a.s4Addresses

/-- The sites have distinct prefixes, which end in a dot, and directories apart from each other. -/
structure WellPlaced (cwd : Path) (sites : List SiteArgs) : Prop where
  prefixes : (sites.map SiteArgs.ipAddrPrefix).Nodup
  dots : ∀ a ∈ sites, a.ipAddrPrefix.toList.getLast? = some '.'
  dirs : sites.Pairwise fun a b => Separate (resolve cwd a.dir) (resolve cwd b.dir)
  dirNames : ∀ a ∈ sites, a.dir ≠ ""

/-! ## Addresses -/

section

variable {a b : SiteArgs} {noisy : Option String}

theorem s4Addresses_eq (a : SiteArgs) : a.s4Addresses = [(siteIp a.ipAddrPrefix 1, s4Port)] := by
  unfold SiteArgs.s4Addresses newS4Site
  rw [a.at_name]
  rfl

/-- The addresses of the instances that listen at one port. -/
def rolePlaces (ipAddrPrefix : String) (port : Int) (count : Nat) : List (String × Int) :=
  (List.range count).map fun ii => (siteIp ipAddrPrefix (ii + 1), port)

theorem addresses_eq (a : SiteArgs) (noisy : Option String) :
    a.addresses noisy =
      rolePlaces a.ipAddrPrefix memcachedPort a.numMemcached.toNat ++
        rolePlaces a.ipAddrPrefix rogersPort a.numRogers.toNat ++
        rolePlaces a.ipAddrPrefix chronosPort a.numChronos.toNat ++
        rolePlaces a.ipAddrPrefix s4Port 1 := by
  unfold SiteArgs.addresses SiteArgs.newInstances rolePlaces
  rw [s4Addresses_eq, memcachedLoop_instances, rogersLoop_eq, chronosLoop_instances]
  simp only [List.map_append, List.map_map]
  rfl

theorem mem_rolePlaces {ipAddrPrefix : String} {port : Int} {count : Nat} {x : String × Int}
    (hx : x ∈ rolePlaces ipAddrPrefix port count) :
    (∃ ii, x.1 = siteIp ipAddrPrefix (ii + 1)) ∧ x.2 = port := by
  obtain ⟨ii, -, rfl⟩ := List.mem_map.mp hx
  exact ⟨⟨ii, rfl⟩, rfl⟩

theorem siteIp_injective {ipAddrPrefix : String} {i j : Nat}
    (h : siteIp ipAddrPrefix i = siteIp ipAddrPrefix j) : i = j := by
  have hlist := congrArg String.toList h
  unfold siteIp at hlist
  simp only [String.toList_append] at hlist
  exact repr_injective (String.toList_inj.mp (List.append_cancel_left hlist))

theorem rolePlaces_nodup (ipAddrPrefix : String) (port : Int) (count : Nat) :
    (rolePlaces ipAddrPrefix port count).Nodup := by
  refine List.nodup_range.map fun i j h => ?_
  have hindex := siteIp_injective (Prod.mk.inj h).1
  omega

-- At different ports there is no common address.
theorem rolePlaces_disjoint {p q : String} {port port' : Int} (hport : port ≠ port')
    (count count' : Nat) :
    (rolePlaces p port count).Disjoint (rolePlaces q port' count') :=
  fun _ hx hy => hport ((mem_rolePlaces hx).2.symm.trans (mem_rolePlaces hy).2)

theorem addresses_nodup (a : SiteArgs) (noisy : Option String) : (a.addresses noisy).Nodup := by
  rw [addresses_eq]
  have hplaces := rolePlaces_nodup a.ipAddrPrefix
  have happart := @rolePlaces_disjoint a.ipAddrPrefix a.ipAddrPrefix
  simp only [List.nodup_append', List.disjoint_append_left]
  exact ⟨⟨⟨hplaces _ _, hplaces _ _, happart (by decide) _ _⟩, hplaces _ _,
    happart (by decide) _ _, happart (by decide) _ _⟩, hplaces _ _,
    ⟨happart (by decide) _ _, happart (by decide) _ _⟩, happart (by decide) _ _⟩

theorem mem_addresses {x : String × Int} (hx : x ∈ a.addresses noisy) :
    ∃ ii, x.1 = siteIp a.ipAddrPrefix (ii + 1) := by
  rw [addresses_eq] at hx
  simp only [List.mem_append] at hx
  rcases hx with ((hx | hx) | hx) | hx <;> exact (mem_rolePlaces hx).1

-- Sites with different prefixes have no common address.
theorem addresses_disjoint (ha : a.ipAddrPrefix.toList.getLast? = some '.')
    (hb : b.ipAddrPrefix.toList.getLast? = some '.') (hne : a.ipAddrPrefix ≠ b.ipAddrPrefix) :
    (a.addresses noisy).Disjoint (b.addresses noisy) := by
  intro x hxa hxb
  obtain ⟨ii, hii⟩ := mem_addresses hxa
  obtain ⟨jj, hjj⟩ := mem_addresses hxb
  exact hne (append_repr_inj ha hb (by decide) (by decide) (hii.symm.trans hjj)).1

theorem WellPlaced.addresses_nodup {cwd : Path} {sites : List SiteArgs}
    (h : WellPlaced cwd sites) (noisy : Option String) :
    (sites.flatMap fun a => a.addresses noisy).Nodup := by
  have hpairwise : sites.Pairwise fun a b => (a.addresses noisy).Disjoint (b.addresses noisy) := by
    have hprefixes := List.pairwise_map.mp h.prefixes
    refine List.Pairwise.imp_of_mem (fun ha hb hne => ?_) hprefixes
    exact addresses_disjoint (h.dots _ ha) (h.dots _ hb) hne
  exact List.nodup_flatMap.mpr ⟨fun a _ => ClearwaterFv.addresses_nodup a noisy, hpairwise⟩

end

/-! ## Directories -/

/-- The directory that `~ChronosInstance` removes. -/
def Kind.instanceDir? : Kind → Option String
  | .chronos instanceDir .. => some instanceDir
  | _ => none

/-- Neither of the instance directories is the other or below it. -/
def DirsSeparate (cwd : Path) (x y : InstanceArgs) : Prop :=
  ∀ dx ∈ x.kind.instanceDir?, ∀ dy ∈ y.kind.instanceDir?,
    Separate (resolve cwd dx) (resolve cwd dy)

section

variable {cwd : Path} {a b : SiteArgs} {noisy : Option String} {x y : InstanceArgs}

theorem DirsSeparate.symm (h : DirsSeparate cwd x y) : DirsSeparate cwd y x :=
  fun dy hdy dx hdx => (h dx hdx dy hdy).symm

theorem newInstances_args (a : SiteArgs) (noisy : Option String) :
    (a.newInstances noisy).map Prod.fst =
      ((memcachedLoop a.ipAddrPrefix a.numMemcached).2 ++
          rogersLoop a.ipAddrPrefix a.dir a.numRogers) ++
        (List.range a.numChronos.toNat).map a.chronosAt := by
  unfold SiteArgs.newInstances
  rw [chronosLoop_eq_chronosAt]
  simp only [List.map_append, List.map_map, Function.comp_def, List.map_id']

end

end ClearwaterFv
