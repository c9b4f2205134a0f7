import ClearwaterFv.Wiring

/-!
# S4Clients — what the S4s of a site reach

An S4 comes to a Rogers through four objects: its AoR store, the store below, the resolver of that,
and the DNS client of the resolver.  To a Chronos it comes through a connection, an HTTP client and
a resolver.  At the end stand a domain and a DNS server, and with the records of dnsmasq these lead
to the instances of the right site.
-/

open Reasoning Reasoning.Paths Reasoning.Prog

namespace ClearwaterFv

/-! ## From object to object -/

namespace S4Object

def aorStore? : S4Object → Option Ptr
  | remoteS4 _ aorStore | localS4 _ _ _ aorStore _ => some aorStore
  | _ => none

def store? : S4Object → Option Ptr
  | astaireAoRStore store => some store
  | _ => none

def target? : S4Object → Option (String × Ptr)
  | topologyNeutralMemcachedStore targetDomain resolver _ _ => some (targetDomain, resolver)
  | _ => none

def chronosConnection? : S4Object → Option Ptr
  | localS4 _ connection _ _ _ => some connection
  | _ => none

def connection? : S4Object → Option (String × Ptr)
  | chronosConnection callbackHost connection => some (callbackHost, connection)
  | _ => none

def server? : S4Object → Option (String × Ptr)
  | httpConnection server client => some (server, client)
  | _ => none

def resolver? : S4Object → Option Ptr
  | httpClient resolver _ => some resolver
  | _ => none

def dnsClient? : S4Object → Option Ptr
  | httpResolver dnsClient | astaireResolver dnsClient => some dnsClient
  | _ => none

def dnsServer? : S4Object → Option (String × Int)
  | dnsCachedResolver server port => some (server, port)
  | _ => none

end S4Object

namespace S4Site

variable (s : S4Site)

/-- A member of the object that a pointer leads to. -/
def member? {β : Type} (view : S4Object → Option β) (p : Ptr) : Option β :=
  (s.objects[p]?).bind view

/-- The DNS server that a resolver asks. -/
def dnsServer? (resolver : Ptr) : Option (String × Int) :=
  (s.member? S4Object.dnsClient? resolver).bind (s.member? S4Object.dnsServer?)

/-- The domain by which an S4 looks for Rogers, and the DNS server that it asks. -/
def rogersQuery? (s4 : Ptr) : Option (String × String × Int) := do
  let aorStore ← s.member? S4Object.aorStore? s4
  let store ← s.member? S4Object.store? aorStore
  let (targetDomain, resolver) ← s.member? S4Object.target? store
  let dnsServer ← s.dnsServer? resolver
  return (targetDomain, dnsServer)

/-- The domain and the port by which the local S4 looks for Chronos, and the DNS server that it
asks. -/
def chronosQuery? : Option ((String × Int) × String × Int) := do
  let chronosConnection ← s.member? S4Object.chronosConnection? s.s4
  let (_, connection) ← s.member? S4Object.connection? chronosConnection
  let (server, client) ← s.member? S4Object.server? connection
  let resolver ← s.member? S4Object.resolver? client
  let dnsServer ← s.dnsServer? resolver
  let address ← readAddress server
  return (address, dnsServer)

/-- Where Chronos calls back to. -/
def callbackHost? : Option String :=
  ((s.member? S4Object.chronosConnection? s.s4).bind (s.member? S4Object.connection?)).map Prod.fst

end S4Site

/-- The records of a name in the file of the dnsmasq instance, if it is that instance that is asked.
How dnsmasq comes from its file to an answer is left out. -/
def World.answer (w : World) (dnsServer : String × Int) (name : String) : List String :=
  if w.dnsAddress .s4 = some dnsServer then w.lookUp .s4 name else []

/-- The Rogers that an S4 finds. -/
def World.rogersFound (w : World) (query : Option (String × String × Int)) : List String :=
  query.elim [] fun q => w.answer q.2 q.1

/-- The Chronos instances that it finds. -/
def World.chronosFound (w : World) (query : Option ((String × Int) × String × Int)) :
    List (String × Int) :=
  query.elim [] fun q => (w.answer q.2 q.1.1).map fun ip => (ip, q.1.2)

def World.ips (w : World) (instances : List Inst) : List (Option String) :=
  instances.map fun i => (w.address i).map Prod.fst

/-- The S4s of a site reach what they should. -/
structure Reached (w : World) (site : Site) (s : S4Site) : Prop where
  -- the local S4 the Rogers and the Chronos instances of its own site
  rogers : (w.rogersFound (s.rogersQuery? s.s4)).map some = w.ips site.rogersInstances
  chronos : (w.chronosFound s.chronosQuery?).map some = site.chronosInstances.map w.address
  -- and the remote ones the Rogers of the other sites
  remotes : (s.remoteS4s.map fun s4 => (w.rogersFound (s.rogersQuery? s4)).map some) =
    ((Fixture.s4.sites.filterMap w.site).filter fun other =>
      other.args.name ≠ site.args.name).map fun other => w.ips other.rogersInstances
  -- Chronos calls back to where the HTTP stack of the site listens
  callback : s.callbackHost? = some (addressText (s.httpAddr, s.httpPort))

/-- The `S4Site`s of both sites do. -/
def AllReached (w : World) : Prop :=
  ∀ v ∈ Fixture.s4.sites, ∃ site s, w.site v = some site ∧
    newS4Site site.args.name BaseS4SolutionTest.deploymentTopology = some s ∧ Reached w site s

/-! ## The two sites -/

/-- The queries of the S4s of a site, where there are these sites. -/
structure Queries (sites : List SiteArgs) (a : SiteArgs) (s : S4Site) : Prop where
  rogers : s.rogersQuery? s.s4 = some (a.thisSite.rogersDomain, "127.0.0.1", 5353)
  chronos : s.chronosQuery? = some ((a.thisSite.chronosDomain, chronosPort), "127.0.0.1", 5353)
  remotes : s.remoteS4s.map s.rogersQuery? =
    (sites.filter fun other => other.name ≠ a.name).map fun other =>
      some (other.thisSite.rogersDomain, "127.0.0.1", 5353)
  callback : s.callbackHost? = some (addressText (s.httpAddr, s.httpPort))

instance (sites : List SiteArgs) (a : SiteArgs) (s : S4Site) : Decidable (Queries sites a s) :=
  decidable_of_iff (_ ∧ _ ∧ _ ∧ _)
    ⟨fun h => ⟨h.1, h.2.1, h.2.2.1, h.2.2.2⟩, fun h => ⟨h.rogers, h.chronos, h.remotes, h.callback⟩⟩

theorem s4_queries : ∀ a ∈ [BaseS4SolutionTest.site1Args, BaseS4SolutionTest.site2Args],
    ∃ s, newS4Site a.name BaseS4SolutionTest.deploymentTopology = some s ∧
      Queries [BaseS4SolutionTest.site1Args, BaseS4SolutionTest.site2Args] a s := by
  have hall : ∀ a ∈ [BaseS4SolutionTest.site1Args, BaseS4SolutionTest.site2Args],
      (newS4Site a.name BaseS4SolutionTest.deploymentTopology).any (fun s =>
        Queries [BaseS4SolutionTest.site1Args, BaseS4SolutionTest.site2Args] a s) = true := by
    refine List.forall_mem_cons.mpr ⟨?_, List.forall_mem_singleton.mpr ?_⟩ <;> decide
  intro a ha
  obtain ⟨s, hs, hqueries⟩ := (Option.any_eq_true _ _).mp (hall a ha)
  exact ⟨s, hs, of_decide_eq_true hqueries⟩

/-! ## During the tests -/

section

variable {w : World} {site : Site} {s : S4Site}

theorem answer_dnsmasq (hdns : w.dnsAddress .s4 = some ("127.0.0.1", 5353)) (name : String) :
    w.answer ("127.0.0.1", 5353) name = w.lookUp .s4 name := if_pos hdns

-- Where the addresses are known, so are the IPs.
theorem ips_of_addresses {instances : List Inst} {ips : List String} {port : Int}
    (h : instances.map w.address = ips.map fun ip => some (ip, port)) :
    w.ips instances = ips.map some := by
  have hips := congrArg (List.map (Option.map Prod.fst)) h
  rw [List.map_map, List.map_map] at hips
  exact hips

theorem Queries.reached {a : SiteArgs} {sites : List SiteArgs} (h : Queries sites a s)
    (hwired : Wired .s4 w) (hdns : w.dnsAddress .s4 = some ("127.0.0.1", 5353))
    (hsites : (Fixture.s4.sites.filterMap w.site).map Site.args = sites)
    (hlinked : Linked .s4 w site) (hargs : site.args = a) : Reached w site s := by
  have hothers : ∀ other ∈ Fixture.s4.sites.filterMap w.site, Linked .s4 w other := by
    intro other hother
    obtain ⟨v, hv, hsite⟩ := List.mem_filterMap.mp hother
    obtain ⟨s', hsite', hlinked'⟩ := hwired.sites v hv
    rw [hsite] at hsite'
    rw [Option.some.inj hsite']
    exact hlinked'
  constructor
  · rw [h.rogers, ips_of_addresses hlinked.rogers, ← hargs]
    exact congrArg (List.map some) (answer_dnsmasq hdns _)
  · rw [h.chronos, hlinked.chronos, ← hargs]
    change ((w.answer ("127.0.0.1", 5353) site.args.thisSite.chronosDomain).map fun ip =>
      (ip, chronosPort)).map some = _
    rw [answer_dnsmasq hdns, List.map_map]
    rfl
  · have hremotes := congrArg (List.map fun query => (w.rogersFound query).map some) h.remotes
    rw [List.map_map, ← hsites, List.filter_map, List.map_map, List.map_map, ← hargs] at hremotes
    refine hremotes.trans (List.map_congr_left fun other hother => ?_)
    have hlinked' := hothers other (List.mem_of_mem_filter hother)
    rw [ips_of_addresses hlinked'.rogers]
    exact congrArg (List.map some) (answer_dnsmasq hdns _)
  · exact h.callback

end

/-- At every point of the S4 tests, whatever `fork`, `kill` and `waitpid` return, the objects of
each `S4Site` lead its local S4 to exactly the Rogers and the Chronos instances of its own site, its
remote S4s to exactly the Rogers of the other site, and Chronos back to its HTTP stack. -/
theorem s4Tests_reached (K : Kernel) (ts : List SimpleS4SolutionTest.Test) (pid : Inst → Int)
    (files : FileTree) (cwd : Path) (noisy : Option String) :
    ∀ m ∈ (forEach ts TestCase.simpleS4Solution.runTest).visits K.step
        (K.run SetUp.s4.program (Machine.initial pid files cwd noisy)).2,
      AllReached m.world := by
  intro m hm v hv
  have hequipped : Equipped .s4 cwd noisy m.world :=
    equipped_tests K .simpleS4Solution ts pid files cwd noisy m hm
  have hargs : (Fixture.s4.sites.filterMap m.world.site).map Site.args =
      [BaseS4SolutionTest.site1Args, BaseS4SolutionTest.site2Args] := hequipped.sites_args
  have hwired := hequipped.wired
  obtain ⟨d, hnamed⟩ := hequipped.named
  obtain ⟨site, hsite, hlinked⟩ := hwired.sites v hv
  have hmem : site.args ∈ [BaseS4SolutionTest.site1Args, BaseS4SolutionTest.site2Args] := by
    have hsites : site ∈ Fixture.s4.sites.filterMap m.world.site :=
      List.mem_filterMap.mpr ⟨v, hv, hsite⟩
    have hin := List.mem_map_of_mem (f := Site.args) hsites
    rw [hargs] at hin
    exact hin
  obtain ⟨s, hs, hqueries⟩ := s4_queries site.args hmem
  exact ⟨site, s, hsite, hs, hqueries.reached hwired hnamed.dnsAddress hargs hlinked rfl⟩

/-- Site 1 has been killed. -/
theorem s4Tests_reached_tracerBullet :
    AllReached (Kernel.obliging.run (forEach [SimpleS4SolutionTest.Test.tracerBullet]
      TestCase.simpleS4Solution.runTest) (Kernel.obliging.run SetUp.s4.program
        (Machine.initial (fun _ => 0) (fun _ => none) [] none)).2).2.world :=
  s4Tests_reached Kernel.obliging [.tracerBullet] _ _ _ _ _
    (List.mem_append_right _ List.mem_cons_self)

end ClearwaterFv
