import ClearwaterFv.Topology

/-!
# S4Site — the S4 instances of a site

The constructor of `S4Site` builds one S4 for the local site, and one for each other site that
talks to the databases there.  The objects it makes are kept in the order of their construction,
and a pointer to one is its place among them.
-/

open Reasoning

namespace ClearwaterFv

/-- A pointer to one of the objects. -/
abbrev Ptr := Nat

/-- The objects that the constructor makes, with the arguments that it passes. -/
inductive S4Object where
  | dnsCachedResolver (server : String) (port : Int)
  | httpResolver (dnsClient : Ptr)
  | astaireResolver (dnsClient : Ptr)
  | topologyNeutralMemcachedStore (targetDomain : String) (resolver : Ptr) (remoteStore : Bool)
      (bindAddr : String)
  | astaireAoRStore (store : Ptr)
  | httpClient (resolver : Ptr) (bindAddr : String)
  | httpConnection (server : String) (client : Ptr)
  | chronosConnection (callbackHost : String) (connection : Ptr)
  -- an S4 that only talks to the databases of one site
  | remoteS4 (id : String) (aorStore : Ptr)
  | localS4 (id : String) (chronosConnection : Ptr) (callbackUri : String) (aorStore : Ptr)
      (remoteS4s : List Ptr)
deriving DecidableEq

/-- `new`: the object is put after those there are. -/
def construct (o : S4Object) (objects : List S4Object) : Ptr × List S4Object :=
  (objects.length, objects ++ [o])

/-- The loop variables of the constructor: the objects, and the three vectors of pointers. -/
structure Remotes where
  objects : List S4Object
  remoteStores : List Ptr := []
  remoteAorStores : List Ptr := []
  remoteS4s : List Ptr := []

/-- The body of the loop over the deployment topology.  The `back()` of a vector is what was just
pushed. -/
def Remotes.add (siteName : String) (astaireResolver : Ptr) (ipAddr : String) (r : Remotes)
    (item : String × Topology) : Remotes :=
  if item.1 ≠ siteName then
    let (store, objects) := construct
      (.topologyNeutralMemcachedStore item.2.rogersDomain astaireResolver true ipAddr) r.objects
    let (aorStore, objects) := construct (.astaireAoRStore store) objects
    let (s4, objects) := construct
      (.remoteS4 (siteName ++ "-remote-s4-to-" ++ item.1) aorStore) objects
    { objects := objects
      remoteStores := r.remoteStores ++ [store]
      remoteAorStores := r.remoteAorStores ++ [aorStore]
      remoteS4s := r.remoteS4s ++ [s4] }
  else r

structure S4Site where
  objects : List S4Object
  remoteStores : List Ptr
  remoteAorStores : List Ptr
  remoteS4s : List Ptr
  s4 : Ptr
  -- what the HTTP stack is bound to
  httpAddr : String
  httpPort : Int

def s4Port : Int := 8088

/-- `S4Site::S4Site`.  A name that is not in the topology throws. -/
def newS4Site (siteName : String) (deploymentTopology : OrderedMap String Topology) :
    Option S4Site := do
  let thisSite ← deploymentTopology.at? siteName
  let (dnsClient, objects) := construct (.dnsCachedResolver "127.0.0.1" 5353) []
  let (httpResolver, objects) := construct (.httpResolver dnsClient) objects
  let (astaireResolver, objects) := construct (.astaireResolver dnsClient) objects
  let ipAddr := thisSite.ipAddrPrefix ++ "1"
  let remotes := deploymentTopology.entries.foldl (Remotes.add siteName astaireResolver ipAddr)
    { objects := objects }
  let (store, objects) := construct
    (.topologyNeutralMemcachedStore thisSite.rogersDomain astaireResolver false ipAddr)
    remotes.objects
  let (aorStore, objects) := construct (.astaireAoRStore store) objects
  let (chronosHttpClient, objects) := construct (.httpClient httpResolver ipAddr) objects
  let (chronosHttpConnection, objects) := construct
    (.httpConnection (thisSite.chronosDomain ++ ":7253") chronosHttpClient) objects
  let (chronosConnection, objects) := construct
    (.chronosConnection (ipAddr ++ ":8088") chronosHttpConnection) objects
  let (s4, objects) := construct
    (.localS4 (siteName ++ "-local-s4") chronosConnection "/timers" aorStore remotes.remoteS4s)
    objects
  return {
    objects := objects
    remoteStores := remotes.remoteStores
    remoteAorStores := remotes.remoteAorStores
    remoteS4s := remotes.remoteS4s
    s4 := s4
    httpAddr := ipAddr
    httpPort := s4Port }

/-! ## The three vectors -/

/-- The `i`-th remote S4 has the name, and is built over the `i`-th AoR store, which is built over
the `i`-th memcached store, which has the domain and the local address. -/
def RemoteAt (objects : List S4Object) (stores aorStores s4s : List Ptr) (i : Nat)
    (id targetDomain bindAddr : String) : Prop :=
  ∃ store aorStore s4 resolver,
    stores[i]? = some store ∧ aorStores[i]? = some aorStore ∧ s4s[i]? = some s4 ∧
    objects[store]? =
      some (.topologyNeutralMemcachedStore targetDomain resolver true bindAddr) ∧
    objects[aorStore]? = some (.astaireAoRStore store) ∧
    objects[s4]? = some (.remoteS4 id aorStore)

theorem getElem?_append_of_some {α : Type} {xs : List α} {i : Nat} {x : α} (h : xs[i]? = some x)
    (ys : List α) : (xs ++ ys)[i]? = some x := by
  obtain ⟨hi, -⟩ := List.getElem?_eq_some_iff.mp h
  rw [List.getElem?_append_left hi]
  exact h

-- What is pushed or constructed later changes nothing of it.
theorem RemoteAt.append {objects : List S4Object} {stores aorStores s4s : List Ptr} {i : Nat}
    {id targetDomain bindAddr : String}
    (h : RemoteAt objects stores aorStores s4s i id targetDomain bindAddr)
    (objects' : List S4Object) (stores' aorStores' s4s' : List Ptr) :
    RemoteAt (objects ++ objects') (stores ++ stores') (aorStores ++ aorStores') (s4s ++ s4s') i
      id targetDomain bindAddr := by
  obtain ⟨store, aorStore, s4, resolver, hstore, haor, hs4, ho₁, ho₂, ho₃⟩ := h
  exact ⟨store, aorStore, s4, resolver, getElem?_append_of_some hstore _,
    getElem?_append_of_some haor _, getElem?_append_of_some hs4 _,
    getElem?_append_of_some ho₁ _, getElem?_append_of_some ho₂ _, getElem?_append_of_some ho₃ _⟩

/-- There is one remote for each of the items, in their order. -/
structure RemotesFor (siteName ipAddr : String) (items : List (String × Topology))
    (objects : List S4Object) (stores aorStores s4s : List Ptr) : Prop where
  lengthStores : stores.length = items.length
  lengthAorStores : aorStores.length = items.length
  lengthS4s : s4s.length = items.length
  remotes : ∀ i item, items[i]? = some item →
    RemoteAt objects stores aorStores s4s i (siteName ++ "-remote-s4-to-" ++ item.1)
      item.2.rogersDomain ipAddr

def Remotes.For (r : Remotes) (siteName ipAddr : String) (items : List (String × Topology)) :
    Prop :=
  RemotesFor siteName ipAddr items r.objects r.remoteStores r.remoteAorStores r.remoteS4s

variable {siteName ipAddr : String} {items : List (String × Topology)} {r : Remotes}

theorem Remotes.For.add (h : r.For siteName ipAddr items) (resolver : Ptr)
    {item : String × Topology} (hitem : item.1 ≠ siteName) :
    (r.add siteName resolver ipAddr item).For siteName ipAddr (items ++ [item]) := by
  let n := r.objects.length
  have hadd : r.add siteName resolver ipAddr item =
      { objects := r.objects ++
          [.topologyNeutralMemcachedStore item.2.rogersDomain resolver true ipAddr,
            .astaireAoRStore n, .remoteS4 (siteName ++ "-remote-s4-to-" ++ item.1) (n + 1)]
        remoteStores := r.remoteStores ++ [n]
        remoteAorStores := r.remoteAorStores ++ [n + 1]
        remoteS4s := r.remoteS4s ++ [n + 2] } := by
    unfold Remotes.add construct
    rw [if_pos hitem]
    simp only [List.length_append, List.length_singleton, List.append_assoc]
    rfl
  rw [hadd]
  refine ⟨?_, ?_, ?_, fun i item' hitem' => ?_⟩
  · rw [List.length_append, List.length_append, h.lengthStores]
    rfl
  · rw [List.length_append, List.length_append, h.lengthAorStores]
    rfl
  · rw [List.length_append, List.length_append, h.lengthS4s]
    rfl
  · by_cases hi : i < items.length
    · rw [List.getElem?_append_left hi] at hitem'
      exact (h.remotes i item' hitem').append _ _ _ _
    · -- the new one
      obtain ⟨hlt, heq⟩ := List.getElem?_eq_some_iff.mp hitem'
      rw [List.length_append, List.length_singleton] at hlt
      have hlast : i = items.length := by omega
      subst hlast
      have hsame : item' = item := by
        rw [← heq]
        exact List.getElem_concat_length rfl _
      have hstore : (r.remoteStores ++ [n])[items.length]? = some n := by
        rw [← h.lengthStores]
        exact List.getElem?_concat_length
      have haor : (r.remoteAorStores ++ [n + 1])[items.length]? = some (n + 1) := by
        rw [← h.lengthAorStores]
        exact List.getElem?_concat_length
      have hs4 : (r.remoteS4s ++ [n + 2])[items.length]? = some (n + 2) := by
        rw [← h.lengthS4s]
        exact List.getElem?_concat_length
      have hobject : ∀ (os : List S4Object) (k : Nat), (r.objects ++ os)[n + k]? = os[k]? := by
        intro os k
        rw [List.getElem?_append_right (Nat.le_add_right n k), Nat.add_sub_cancel_left]
      rw [hsame]
      exact ⟨n, n + 1, n + 2, resolver, hstore, haor, hs4, hobject _ 0, hobject _ 1, hobject _ 2⟩

theorem Remotes.For.foldl (h : r.For siteName ipAddr items) (resolver : Ptr)
    (more : List (String × Topology)) :
    (more.foldl (Remotes.add siteName resolver ipAddr) r).For siteName ipAddr
      (items ++ more.filter fun item => item.1 ≠ siteName) := by
  induction more generalizing r items with
  | nil =>
    rw [List.filter_nil, List.append_nil]
    exact h
  | cons item more ih =>
    rw [List.foldl_cons]
    by_cases hlocal : item.1 = siteName
    · have hskip : r.add siteName resolver ipAddr item = r := by
        unfold Remotes.add
        rw [if_neg (not_not_intro hlocal)]
      have hfilter : (item :: more).filter (fun item => decide (item.1 ≠ siteName)) =
          more.filter fun item => item.1 ≠ siteName := by
        simp only [List.filter_cons, hlocal, ne_eq, not_true_eq_false, decide_false,
          Bool.false_eq_true, if_false]
      rw [hskip, hfilter]
      exact ih h
    · have hfilter : (item :: more).filter (fun item => decide (item.1 ≠ siteName)) =
          [item] ++ more.filter fun item => item.1 ≠ siteName := by
        simp only [List.filter_cons, hlocal, ne_eq, not_false_eq_true, decide_true, if_true,
          List.singleton_append]
      rw [hfilter, ← List.append_assoc]
      exact ih (h.add resolver hlocal)

theorem RemotesFor.append {objects : List S4Object} {stores aorStores s4s : List Ptr}
    (h : RemotesFor siteName ipAddr items objects stores aorStores s4s)
    (objects' : List S4Object) :
    RemotesFor siteName ipAddr items (objects ++ objects') stores aorStores s4s where
  lengthStores := h.lengthStores
  lengthAorStores := h.lengthAorStores
  lengthS4s := h.lengthS4s
  remotes i item hitem := by
    have hmore := (h.remotes i item hitem).append objects' [] [] []
    simp only [List.append_nil] at hmore
    exact hmore

-- The constructor builds one remote for each other site, in the order of the topology, bound to
-- the first address of its own site.
theorem newS4Site_remotes {T : OrderedMap String Topology} {tplg : Topology}
    (hat : T.at? siteName = some tplg) :
    ∃ s, newS4Site siteName T = some s ∧
      RemotesFor siteName (tplg.ipAddrPrefix ++ "1")
        (T.entries.filter fun item => item.1 ≠ siteName)
        s.objects s.remoteStores s.remoteAorStores s.remoteS4s := by
  let first : Remotes := { objects := [.dnsCachedResolver "127.0.0.1" 5353, .httpResolver 0,
    .astaireResolver 0] }
  have hfirst : first.For siteName (tplg.ipAddrPrefix ++ "1") [] :=
    ⟨rfl, rfl, rfl, fun i item hitem => by cases hitem⟩
  have hloop := hfirst.foldl 2 T.entries
  rw [List.nil_append] at hloop
  unfold newS4Site
  rw [hat]
  refine ⟨_, rfl, ?_⟩
  -- the objects of the local S4 come after those of the remote ones
  iterate 6 apply RemotesFor.append
  exact hloop

end ClearwaterFv
