import ClearwaterFv.Standing

/-!
# SetUp — from nothing to a deployment that stands

A set-up creates its sites one by one, starts each, and then the dnsmasq instance.  The instances
that are created have addresses that none of those before them has, and the constructors write
in `tmp` and the configuration file of the dnsmasq instance alone.
-/

open Reasoning Reasoning.Paths Reasoning.Prog

namespace ClearwaterFv

/-- During the set-up: the sites `vs` and the dnsmasq instance are still to be created, and the
instances that there are have the addresses of the sites `made`. -/
structure Building (area : Area) (f : Fixture) (vs : List SiteVar) (made : List SiteArgs)
    (w : World) : Prop extends Standing area f none w where
  vacant : ∀ v ∈ vs, w.site v = none
  built : ∀ v ∈ f.sites, v ∉ vs → (w.site v).isSome = true
  placed : ∀ i ∈ w.published f, ∃ a ∈ made, ∃ x ∈ a.addresses none, w.address i = some x

section

variable {area : Area} {f : Fixture} {vs : List SiteVar} {made : List SiteArgs} {w w' : World}

theorem Building.of_sameHeap (h : Building area f vs made w) (hheap : SameHeap w w')
    (hstanding : Standing area f none w') : Building area f vs made w' where
  toStanding := hstanding
  vacant := by
    rw [hheap.site]
    exact h.vacant
  built := by
    rw [hheap.site]
    exact h.built
  placed := by
    unfold World.address
    rw [published_congr f hheap.site hheap.dnsmasq, hheap.objects]
    exact h.placed

theorem addresses_noisy (a : SiteArgs) (noisy : Option String) :
    a.addresses noisy = a.addresses none := by
  rw [addresses_eq, addresses_eq]

theorem mem_addresses_of_newInstances {a : SiteArgs} {noisy : Option String} {x : InstanceArgs}
    (hx : x ∈ (a.newInstances noisy).map Prod.fst) : (x.ip, x.port) ∈ a.addresses none := by
  obtain ⟨y, hy, rfl⟩ := List.mem_map.mp hx
  rw [← addresses_noisy a noisy]
  exact List.mem_append_left _ (List.mem_map.mpr ⟨y, hy, rfl⟩)

-- No instance of a site listens where dnsmasq does.
theorem port_ne_of_mem_addresses {a : SiteArgs} {x : String × Int} (hx : x ∈ a.addresses none) :
    x.2 ≠ 5353 := by
  rw [addresses_eq] at hx
  simp only [List.mem_append] at hx
  rcases hx with ((hx | hx) | hx) | hx
  all_goals
    rw [(mem_rolePlaces hx).2]
    decide

theorem newSite_args (K : Kernel) (a : SiteArgs) (m : Machine) :
    (K.run (newSite a) m).1.args = a := by
  simp only [newSite, bind_eq_bind, Kernel.run, run_bind, pure_eq_ret, run_ret]

-- The addresses of the instances of a new site.
theorem addresses_newObjects {a : SiteArgs} {noisy : Option String} {objs : List NewObject}
    (hobjs : objs.map (fun o => (o.args, o.confs)) = a.newInstances noisy) :
    (objs.map fun o => (o.args.ip, o.args.port)).Sublist (a.addresses none) := by
  have hmap : (objs.map fun o => (o.args.ip, o.args.port)) =
      (a.newInstances noisy).map fun x => (x.1.ip, x.1.port) := by
    rw [← hobjs, List.map_map]
    rfl
  rw [hmap, ← addresses_noisy a noisy]
  exact List.sublist_append_left _ _

theorem args_newObjects {a : SiteArgs} {noisy : Option String} {objs : List NewObject}
    (hobjs : objs.map (fun o => (o.args, o.confs)) = a.newInstances noisy) {o : NewObject}
    (ho : o ∈ objs) : o.args ∈ (a.newInstances noisy).map Prod.fst := by
  rw [← hobjs, List.map_map]
  exact List.mem_map.mpr ⟨o, ho, rfl⟩

-- A site with addresses of its own joins the fleet when it has been constructed.
theorem Building.newSite (K : Kernel) {m : Machine} (h : Building area f vs made m.world)
    {a : SiteArgs} (hinside : a.Inside area)
    (hapart : ∀ b ∈ made, (a.addresses none).Disjoint (b.addresses none)) :
    Always K.step (Guarded area) (ClearwaterFv.newSite a) m ∧
      Fleet area ((K.run (ClearwaterFv.newSite a) m).1.instances ++ m.world.published f)
        (K.run (ClearwaterFv.newSite a) m).2.world := by
  obtain ⟨objs, hcreates, hinst, hobjs⟩ := newSite_creates K a m
  refine ⟨h.fleet.constructs K ((newSite_only a).and (newSite_confined hinside)), ?_⟩
  rw [← hinst]
  refine h.fleet.creates K (newSite_only a) hcreates ?_ fun o ho => ?_
  · have hnew : ((objs.map fun o => (o.args.ip, o.args.port)).map some).Nodup :=
      ((addresses_nodup a none).sublist (addresses_newObjects hobjs)).map
        (Option.some_injective _)
    have hsame : (objs.map fun o => some (o.args.ip, o.args.port)) =
        (objs.map fun o => (o.args.ip, o.args.port)).map some := by
      rw [List.map_map]
      rfl
    rw [hsame]
    refine hnew.append h.fleet.apart ?_
    intro x hx hx'
    obtain ⟨y, hy, rfl⟩ := List.mem_map.mp hx
    obtain ⟨i, hi, heq⟩ := List.mem_map.mp hx'
    obtain ⟨b, hb, z, hz, hplaced⟩ := h.placed i hi
    rw [hplaced] at heq
    cases heq
    exact hapart b hb ((addresses_newObjects hobjs).subset hy) hz
  · exact newInstances_confined hinside (args_newObjects hobjs ho)

-- It is published, and none of its instances runs yet.
theorem Building.putSite (K : Kernel) {m : Machine} {v : SiteVar} (hv : v ∈ f.sites)
    (h : Building area f (v :: vs) made m.world) (hvs : v ∉ vs) {a : SiteArgs}
    (hinside : a.Inside area)
    (hapart : ∀ b ∈ made, (a.addresses none).Disjoint (b.addresses none)) :
    Building area f vs (a :: made)
        ((K.run (ClearwaterFv.newSite a) m).2.world.putSite v
          (K.run (ClearwaterFv.newSite a) m).1) ∧
      ∀ i ∈ (K.run (ClearwaterFv.newSite a) m).1.instances,
        (K.run (ClearwaterFv.newSite a) m).2.world.running i = false := by
  obtain ⟨-, hfleet⟩ := h.newSite K hinside hapart
  obtain ⟨objs, hcreates, hinst, hobjs⟩ := newSite_creates K a m
  have hargs := newSite_args K a m
  generalize K.run (ClearwaterFv.newSite a) m = new at *
  have hvacant : new.2.world.site v = none := by
    rw [hcreates.site]
    exact h.vacant v List.mem_cons_self
  have hold : new.2.world.published f = m.world.published f :=
    published_congr f hcreates.site hcreates.dnsmasq
  have hperm := published_putSite hv hvacant new.1
  rw [hold] at hperm
  -- an instance that is published is one of the new ones, or was published before
  have hcases : ∀ i ∈ (new.2.world.putSite v new.1).published f,
      (∃ o ∈ objs, o.inst = i) ∨ i ∈ m.world.published f := by
    intro i hi
    rcases List.mem_append.mp (hperm.mem_iff.mp hi) with hi | hi
    · rw [← hinst] at hi
      obtain ⟨o, ho, hoi⟩ := List.mem_map.mp hi
      exact Or.inl ⟨o, ho, hoi⟩
    · exact Or.inr hi
  have hsites : ∀ v', v' ≠ v → (new.2.world.putSite v new.1).site v' = m.world.site v' := by
    intro v' hne
    change Function.update new.2.world.site v (some new.1) v' = _
    rw [Function.update_of_ne hne, hcreates.site]
  have hsite : (new.2.world.putSite v new.1).site v = some new.1 := Function.update_self ..
  refine ⟨⟨⟨?_, fun i hi => ?_, fun v' hv' => ?_, fun f' hf' => ?_, fun v' s hs => ?_, ?_, ?_⟩,
    fun v' hv' => ?_, fun v' hv' hnot => ?_, fun i hi => ?_⟩, fun i hi => ?_⟩
  · have hput : Fleet area (new.1.instances ++ m.world.published f)
        (new.2.world.putSite v new.1) := hfleet.congr rfl rfl rfl rfl rfl rfl
    exact hput.perm hperm.symm
  · rcases hcases i hi with ⟨o, ho, rfl⟩ | hi
    · exact (hcreates.new o ho).2.2.2
    · obtain ⟨-, -, -, howners⟩ := hcreates.old i (h.fleet.old i hi)
      exact howners.trans (h.owned i hi)
  · have hne : v' ≠ v := fun heq => hv' (heq ▸ hv)
    rw [hsites v' hne]
    exact h.sites v' hv'
  · exact (congrFun hcreates.dnsmasq f').trans (h.dnsmasqs f' hf')
  · by_cases heq : v' = v
    · rw [heq, hsite] at hs
      cases hs
      rw [hargs]
      exact hinside.dir
    · rw [hsites v' heq] at hs
      exact h.dirs v' s hs
  · exact (congrFun hcreates.dnsmasq f).trans h.dnsmasq
  · exact fun i hi => (nomatch hi)
  · have hne : v' ≠ v := fun heq => hvs (heq ▸ hv')
    rw [hsites v' hne]
    exact h.vacant v' (List.mem_cons_of_mem _ hv')
  · by_cases heq : v' = v
    · rw [heq, hsite]
      rfl
    · rw [hsites v' heq]
      exact h.built v' hv' fun hmem => hnot ((List.mem_cons.mp hmem).resolve_left heq)
  · rcases hcases i hi with ⟨o, ho, rfl⟩ | hi
    · refine ⟨a, List.mem_cons_self, _,
        mem_addresses_of_newInstances (args_newObjects hobjs ho), ?_⟩
      change (new.2.world.objects o.inst).map _ = _
      rw [(hcreates.new o ho).1]
      rfl
    · obtain ⟨b, hb, x, hx, hplaced⟩ := h.placed i hi
      refine ⟨b, List.mem_cons_of_mem _ hb, x, hx, ?_⟩
      change (new.2.world.objects i).map _ = _
      rw [(hcreates.old i (h.fleet.old i hi)).1]
      exact hplaced
  · rw [← hinst] at hi
    obtain ⟨o, ho, rfl⟩ := List.mem_map.mp hi
    exact (hcreates.new o ho).2.2.1

end

section

variable (H : CleanKernel) {area : Area} {f : Fixture} {vs : List SiteVar} {made : List SiteArgs}

/-- Every call is guarded on the way from `P` to `Q`. -/
abbrev LeadsGuarded {α : Type} (H : CleanKernel) (area : Area) (P Q : World → Prop)
    (p : Harness α) : Prop :=
  Leads H.step (fun m => P m.world) (Guarded area) (fun m => Q m.world) p

theorem leadsGuarded_createAndStartSite {v : SiteVar} (hv : v ∈ f.sites) (hvs : v ∉ vs)
    {a : SiteArgs} (hinside : a.Inside area)
    (hapart : ∀ b ∈ made, (a.addresses none).Disjoint (b.addresses none)) :
    LeadsGuarded H area (Building area f (v :: vs) made) (Building area f vs (a :: made))
      (createAndStartSite v a) := by
  have hstart : ∀ m : Machine, Building area f (v :: vs) made m.world →
      Always H.step (Guarded area) (onSite v Site.start)
          (H.step (H.run (newSite a) m).2 (.swapSite v (some (H.run (newSite a) m).1))).2 ∧
        Building area f vs (a :: made) (H.run (onSite v Site.start) (H.step (H.run (newSite a) m).2
          (.swapSite v (some (H.run (newSite a) m).1))).2).2.world := by
    intro m h
    obtain ⟨hput, hstopped⟩ := h.putSite H.toKernel hv hvs hinside hapart
    let m₂ := (H.step (H.run (newSite a) m).2 (.swapSite v (some (H.run (newSite a) m).1))).2
    have h₂ : Building area f vs (a :: made) m₂.world := hput
    obtain ⟨hcalls, hafter, hheap⟩ := h₂.toStanding.onSite H (v := v) (c := .all .start)
      fun s hs t ht _ => by
        have hsite : m₂.world.site v = some (H.run (newSite a) m).1 := Function.update_self ..
        rw [hsite] at hs
        cases hs
        exact hstopped _ (Site.mem_instances_of_targets ht)
    exact ⟨hcalls, h₂.of_sameHeap hheap hafter⟩
  have hvacant : ∀ m : Machine, Building area f (v :: vs) made m.world →
      (H.run (newSite a) m).2.world.site v = none := by
    intro m h
    obtain ⟨objs, hcreates, -, -⟩ := newSite_creates H.toKernel a m
    rw [hcreates.site]
    exact h.vacant v List.mem_cons_self
  constructor
  · intro m h
    obtain ⟨hnew, -⟩ := h.newSite H.toKernel hinside hapart
    obtain ⟨hrun, htrace⟩ := run_assignSite_vacant H.toKernel (hvacant m h)
      (some (H.run (newSite a) m).1)
    refine Always.bind hnew (Always.bind (fun e he => ?_) ?_)
    · rw [htrace] at he
      rw [List.mem_singleton.mp he]
      exact @Sys.Unguarded.guarded (.swapSite v (some (H.run (newSite a) m).1)) trivial _ _
    · change Always H.step _ (onSite v Site.start) (H.run (assignSite v _) _).2
      rw [hrun]
      exact (hstart m h).1
  · intro m h
    obtain ⟨hrun, -⟩ := run_assignSite_vacant H.toKernel (hvacant m h)
      (some (H.run (newSite a) m).1)
    change Building area f vs (a :: made) (H.run (createAndStartSite v a) m).2.world
    rw [run_createAndStartSite, hrun]
    exact (hstart m h).2

theorem Building.aside {w : World} (h : Building area f vs made w) (t : FileTree)
    (handler : Signal → Bool) :
    Building area f vs made { w with files := t, handler := handler } :=
  ⟨⟨h.fleet.congr rfl rfl rfl rfl rfl rfl, h.owned, h.sites, h.dnsmasqs, h.dirs, h.dnsmasq,
    h.cfgfile⟩, h.vacant, h.built, h.placed⟩

-- Reads, and what registers a handler or makes a directory.
theorem leadsGuarded_idle {α : Type} {p : Harness α}
    (hp : Only (fun op => op.Idle ∧ op.Confined area) p) :
    LeadsGuarded H area (Building area f vs made) (Building area f vs made) p := by
  refine hp.keeps (fun m op hop hm => ?_) fun m op hop _ =>
    ⟨fun i hi => ?_, fun i hi => ?_, ?_, hop.2⟩
  · have hworld : (H.step m op).2.world =
        { m.world with
          files := (H.step m op).2.world.files, handler := (H.step m op).2.world.handler } := by
      cases op <;> first | rfl | exact absurd hop.1 id
    rw [hworld]
    exact hm.aside _ _
  · cases op <;> first | exact absurd hop.1 id | cases hi
  · cases op <;> first | exact absurd hop.1 id | cases hi
  · intro args confs hnew
    rw [hnew] at hop
    exact absurd hop.1 id

theorem newDnsmasqInstance_confined {ip : String} {port : Int}
    {aRecords : OrderedMap String (List String)}
    (hcfgfile : area.inside (resolve area.cwd (dnsmasqCfgfile ip port))) :
    Only (Sys.Confined area) (newDnsmasqInstance ip port aRecords) :=
  Only.bind (Only.perform hcfgfile) fun _ => Only.perform trivial

-- The dnsmasq instance completes the deployment.
theorem Building.putDnsmasq (K : Kernel) {m : Machine} (h : Building area f [] made m.world)
    (hcfgfile : area.inside (resolve area.cwd fixtureCfgfile))
    (aRecords : OrderedMap String (List String)) :
    Always K.step (Guarded area) (newDnsmasqInstance "127.0.0.1" 5353 aRecords) m ∧
      Standing area f (some (K.run (newDnsmasqInstance "127.0.0.1" 5353 aRecords) m).1)
        ((K.run (newDnsmasqInstance "127.0.0.1" 5353 aRecords) m).2.world.putDnsmasq f
          (K.run (newDnsmasqInstance "127.0.0.1" 5353 aRecords) m).1) ∧
      (K.run (newDnsmasqInstance "127.0.0.1" 5353 aRecords) m).2.world.running
        (K.run (newDnsmasqInstance "127.0.0.1" 5353 aRecords) m).1 = false := by
  have honly := newDnsmasqInstance_only "127.0.0.1" 5353 aRecords
  have hcreates := newDnsmasqInstance_creates K "127.0.0.1" 5353 aRecords m
  have hguarded := h.fleet.constructs K (honly.and (newDnsmasqInstance_confined hcfgfile))
  have hfleet := h.fleet.creates K honly hcreates
  generalize K.run (newDnsmasqInstance "127.0.0.1" 5353 aRecords) m = new at *
  obtain ⟨hobject, -, hrunning, howners⟩ := hcreates.new _ List.mem_cons_self
  have hpublished : (new.2.world.putDnsmasq f new.1).published f =
      new.1 :: m.world.published f := by
    have hsites : f.sites.flatMap new.2.world.instancesAt = m.world.published f := by
      rw [← published_congr f hcreates.site hcreates.dnsmasq, World.published, hcreates.dnsmasq,
        h.dnsmasq]
      rfl
    unfold World.published at hsites ⊢
    rw [← hsites]
    change (Function.update new.2.world.dnsmasq f (some new.1) f).toList ++ _ = _
    rw [Function.update_self]
    rfl
  have hput : Fleet area (new.1 :: m.world.published f) new.2.world := by
    refine hfleet (List.nodup_cons.mpr ⟨fun hmem => ?_, h.fleet.apart⟩) fun o ho => ?_
    · obtain ⟨i, hi, heq⟩ := List.mem_map.mp hmem
      obtain ⟨a, -, x, hx, hplaced⟩ := h.placed i hi
      rw [hplaced] at heq
      cases heq
      exact port_ne_of_mem_addresses hx rfl
    · rw [List.mem_singleton.mp ho]
      exact Only.perform hcfgfile
  refine ⟨hguarded, ⟨?_, fun i hi => ?_, fun v hv => ?_, fun f' hf' => ?_, fun v s hs => ?_, ?_,
    fun i hi => ?_⟩, hrunning⟩
  · rw [hpublished]
    exact hput.congr rfl rfl rfl rfl rfl rfl
  · rw [hpublished] at hi
    rcases List.mem_cons.mp hi with rfl | hi
    · exact howners
    · obtain ⟨-, -, -, hold⟩ := hcreates.old i (h.fleet.old i hi)
      exact hold.trans (h.owned i hi)
  · exact (congrFun hcreates.site v).trans (h.sites v hv)
  · have hother : (new.2.world.putDnsmasq f new.1).dnsmasq f' = new.2.world.dnsmasq f' :=
      Function.update_of_ne hf' ..
    rw [hother, hcreates.dnsmasq]
    exact h.dnsmasqs f' hf'
  · have hsite : (new.2.world.putDnsmasq f new.1).site v = m.world.site v :=
      congrFun hcreates.site v
    rw [hsite] at hs
    exact h.dirs v s hs
  · exact Function.update_self ..
  · cases hi
    exact hobject

/-- The set-up is done. -/
def SetUpStands (area : Area) (f : Fixture) (w : World) : Prop :=
  ∃ d, Standing area f (some d) w

theorem leadsGuarded_createAndStartDnsFor
    (hcfgfile : area.inside (resolve area.cwd fixtureCfgfile))
    (aRecords : OrderedMap String (List String)) :
    LeadsGuarded H area (Building area f [] made) (SetUpStands area f)
      (createAndStartDnsFor f aRecords) := by
  have hstart : ∀ {m : Machine} {d : Inst}, Standing area f (some d) m.world →
      m.world.running d = false →
      Always H.step (Guarded area) (startDnsmasq f) m ∧
        Standing area f (some d) (H.run (startDnsmasq f) m).2.world := by
    intro m d h hstopped
    let m₁ := (H.step m (.readDnsmasq f)).2
    have hd : d ∈ m.world.published f := by
      rw [World.published, h.dnsmasq]
      exact List.mem_append_left _ (List.mem_singleton.mpr rfl)
    have hfleet : Fleet area (m.world.published f) m₁.world := h.fleet
    obtain ⟨hcalls, hafter⟩ := hfleet.startInstance H.toKernel hd hstopped
    have hrun : H.run (startDnsmasq f) m = H.run (startIfAny (m.world.dnsmasq f)) m₁ := rfl
    have hread : Guarded area m (.readDnsmasq f) :=
      @Sys.Unguarded.guarded (.readDnsmasq f) trivial area m
    have hany : startIfAny (some d) = (startInstance d).bind fun _ => ret () := rfl
    constructor
    · refine Always.call hread ?_
      change Always H.step _ (startIfAny (m.world.dnsmasq f)) m₁
      rw [h.dnsmasq, hany]
      exact Always.bind hcalls (Always.ret _ _)
    · rw [hrun, h.dnsmasq, hany, Kernel.run, run_bind, run_ret]
      exact h.of_sameHeap (startInstance_sameHeap H.toKernel m₁ d) hafter
  have hpublished : ∀ m : Machine, Building area f [] made m.world →
      let new := H.run (newDnsmasqInstance "127.0.0.1" 5353 aRecords) m
      let m₂ := (H.step new.2 (.swapDnsmasq f (some new.1))).2
      H.run (assignDnsmasq f (some new.1)) new.2 = ((), m₂) ∧
        (assignDnsmasq f (some new.1)).trace H.step new.2 =
          [(new.2, .swapDnsmasq f (some new.1))] ∧
        Always H.step (Guarded area) (startDnsmasq f) m₂ ∧
        SetUpStands area f (H.run (startDnsmasq f) m₂).2.world := by
    intro m h new m₂
    have hvacant : new.2.world.dnsmasq f = none := by
      rw [(newDnsmasqInstance_creates H.toKernel "127.0.0.1" 5353 aRecords m).dnsmasq]
      exact h.dnsmasq
    obtain ⟨-, hput, hstopped⟩ := h.putDnsmasq H.toKernel hcfgfile aRecords
    have h₂ : Standing area f (some new.1) m₂.world := hput
    obtain ⟨hrun, htrace⟩ := run_assignDnsmasq_vacant H.toKernel hvacant (some new.1)
    obtain ⟨hcalls, hafter⟩ := hstart h₂ hstopped
    exact ⟨hrun, htrace, hcalls, new.1, hafter⟩
  constructor
  · intro m h
    obtain ⟨hrun, htrace, hcalls, -⟩ := hpublished m h
    refine Always.bind (h.putDnsmasq H.toKernel hcfgfile aRecords).1
      (Always.bind (fun e he => ?_) ?_)
    · rw [htrace] at he
      rw [List.mem_singleton.mp he]
      exact @Sys.Unguarded.guarded (.swapDnsmasq f
        (some (H.run (newDnsmasqInstance "127.0.0.1" 5353 aRecords) m).1)) trivial _ _
    · change Always H.step _ (startDnsmasq f) (H.run (assignDnsmasq f _) _).2
      rw [hrun]
      exact hcalls
  · intro m h
    obtain ⟨hrun, -, -, hafter⟩ := hpublished m h
    change SetUpStands area f (H.run (createAndStartDnsFor f aRecords) m).2.world
    rw [run_createAndStartDnsFor, hrun]
    exact hafter

end

/-- Nothing is there: so it is before a test case, and should be after it. -/
structure Cleared (w : World) : Prop where
  sound : PidsSound w
  children : w.children = []
  objects : ∀ i, w.objects i = none
  site : ∀ v, w.site v = none
  dnsmasq : ∀ f, w.dnsmasq f = none
  handler : ∀ sig, w.handler sig = false

theorem Cleared.fleet {area : Area} {w : World} (h : Cleared w) (hcwd : w.cwd = area.cwd) :
    Fleet area [] w where
  sound := h.sound
  known c hc := by
    rw [h.children] at hc
    cases hc
  live i := by
    rw [h.objects]
    exact ⟨fun hsome => (nomatch hsome), fun hi => (nomatch hi)⟩
  old i hi := (nomatch hi)
  children c hc := by
    rw [h.children] at hc
    cases hc
  apart := List.nodup_nil
  contained i args hargs := by
    rw [h.objects] at hargs
    cases hargs
  unused i _ := h.objects i
  cwd := hcwd

theorem Cleared.published {w : World} (h : Cleared w) (f : Fixture) : w.published f = [] := by
  have hnil : ∀ v, w.instancesAt v = [] := by
    intro v
    unfold World.instancesAt
    rw [h.site]
    rfl
  unfold World.published
  rw [h.dnsmasq]
  apply List.flatMap_eq_nil_iff.mpr
  exact fun v _ => hnil v

theorem Cleared.building {area : Area} {w : World} (h : Cleared w) (hcwd : w.cwd = area.cwd)
    (f : Fixture) : Building area f f.sites [] w := by
  have hnone : ∀ i, i ∉ w.published f := by
    intro i hi
    rw [h.published] at hi
    cases hi
  refine ⟨⟨?_, fun i hi => absurd hi (hnone i), fun v _ => h.site v, fun f' _ => h.dnsmasq f',
    fun v s hs => ?_, h.dnsmasq f, fun i hi => (nomatch hi)⟩, fun v _ => h.site v,
    fun v hv hnot => absurd hv hnot, fun i hi => absurd hi (hnone i)⟩
  · rw [h.published]
    exact h.fleet hcwd
  · rw [h.site] at hs
    cases hs

/-! ## The two set-ups -/

section

variable (H : CleanKernel) (cwd : Path)

-- A directory in `tmp` is in the area of the fixtures.
theorem inside_tmp {a : SiteArgs} {name : String} (hname : Plain name)
    (hdir : a.dir = "tmp" ++ "/" ++ name) (hne : a.dir ≠ "") : a.Inside (fixtureArea cwd) where
  dir_ne_empty := hne
  dir q hq := by
    change resolve cwd a.dir <+: q at hq
    rw [hdir, resolve_child cwd (by decide) hname] at hq
    exact Or.inl ((List.prefix_append _ _).trans hq)

theorem setUpTestCase_confined :
    Only (fun op => op.Idle ∧ op.Confined (fixtureArea cwd))
      ((setHandlers true).bind fun _ => sys (.createDirectory "tmp")) := by
  refine Only.bind ?_ fun _ => Only.perform ⟨trivial, Or.inl (List.prefix_refl _)⟩
  exact Only.bind (Only.perform ⟨trivial, trivial⟩) fun _ => Only.perform ⟨trivial, trivial⟩

theorem getIps_confined {area : Area} (instances : List Inst) :
    Only (fun op => op.Idle ∧ op.Confined area) (Site.getIps instances) :=
  Only.mapEach fun _ _ => Only.bind (Only.perform ⟨trivial, trivial⟩) fun _ => Only.ret _

theorem getIpsOf_confined {area : Area} (v : SiteVar) (instances : Site → List Inst) :
    Only (fun op => op.Idle ∧ op.Confined area) (SimpleS4SolutionTest.getIpsOf v instances) := by
  refine Only.bind (Only.perform ⟨trivial, trivial⟩) fun site => ?_
  cases site with
  | none => exact Only.ret _
  | some s => exact getIps_confined _

variable {made : List SiteArgs}

theorem leadsGuarded_createAndStartDns :
    LeadsGuarded H (fixtureArea cwd) (Building (fixtureArea cwd) .memcached [] made)
      (SetUpStands (fixtureArea cwd) .memcached) BaseMemcachedSolutionTest.createAndStartDns := by
  have hdns : ∀ s : Site, LeadsGuarded H (fixtureArea cwd)
      (Building (fixtureArea cwd) .memcached [] made) (SetUpStands (fixtureArea cwd) .memcached)
      ((Site.getIps s.rogersInstances).bind fun ips =>
        createAndStartDnsFor .memcached (OrderedMap.empty.insert "rogers.local" ips)) := fun s =>
    Leads.bind (leadsGuarded_idle H (getIps_confined _)) fun ips =>
      leadsGuarded_createAndStartDnsFor H (Or.inr rfl) _
  have hread : ∀ m : Machine, Building (fixtureArea cwd) .memcached [] made m.world →
      ∃ s, m.world.site .dbs = some s := fun m h =>
    Option.isSome_iff_exists.mp (h.built .dbs List.mem_cons_self List.not_mem_nil)
  constructor
  · intro m h
    obtain ⟨s, hs⟩ := hread m h
    refine Always.call (@Sys.Unguarded.guarded (.readSite .dbs) trivial _ _) ?_
    change Always H.step _ (withSite _ (m.world.site .dbs)) _
    rw [hs]
    exact (hdns s).calls _ h
  · intro m h
    obtain ⟨s, hs⟩ := hread m h
    change SetUpStands _ _ (H.run (withSite _ (m.world.site .dbs)) _).2.world
    rw [hs]
    exact (hdns s).final _ h

-- Every set-up leaves its deployment standing.
theorem leadsGuarded_setUp (setUp : SetUp) :
    LeadsGuarded H (fixtureArea cwd)
      (Building (fixtureArea cwd) setUp.fixture setUp.fixture.sites [])
      (SetUpStands (fixtureArea cwd) setUp.fixture) setUp.program := by
  have hsite1 : Plain "site1" := ⟨by decide, by decide, by decide, by decide⟩
  have hsite2 : Plain "site2" := ⟨by decide, by decide, by decide, by decide⟩
  have hnone : ∀ {a : SiteArgs}, ∀ b ∈ ([] : List SiteArgs),
      (a.addresses none).Disjoint (b.addresses none) := fun b hb => (nomatch hb)
  cases setUp with
  | memcached numMemcacheds numRogers =>
    refine Leads.bind (leadsGuarded_idle H (setUpTestCase_confined cwd)) fun _ => ?_
    have hne : ("tmp/site1" : String) ≠ "" := by decide
    refine Leads.bind (leadsGuarded_createAndStartSite H List.mem_cons_self List.not_mem_nil
      (inside_tmp cwd hsite1 rfl hne) hnone) fun _ => ?_
    exact leadsGuarded_createAndStartDns H cwd
  | s4 =>
    have hapart : ∀ b ∈ [BaseS4SolutionTest.site1Args],
        (BaseS4SolutionTest.site2Args.addresses none).Disjoint (b.addresses none) := by
      intro b hb
      rw [List.mem_singleton.mp hb]
      exact addresses_disjoint (by decide) (by decide) (by decide)
    refine Leads.bind (leadsGuarded_idle H (setUpTestCase_confined cwd)) fun _ => ?_
    refine Leads.bind (Leads.bind (leadsGuarded_createAndStartSite H (by decide) (by decide)
      (inside_tmp cwd hsite1 rfl (by decide)) hnone) fun _ =>
      leadsGuarded_createAndStartSite H (by decide) List.not_mem_nil
        (inside_tmp cwd hsite2 rfl (by decide)) hapart) fun _ => ?_
    refine Leads.bind (leadsGuarded_idle H (getIpsOf_confined _ _)) fun rogers1 => ?_
    refine Leads.bind (leadsGuarded_idle H (getIpsOf_confined _ _)) fun chronos1 => ?_
    refine Leads.bind (leadsGuarded_idle H (getIpsOf_confined _ _)) fun rogers2 => ?_
    refine Leads.bind (leadsGuarded_idle H (getIpsOf_confined _ _)) fun chronos2 => ?_
    exact leadsGuarded_createAndStartDnsFor H (Or.inr rfl) _

end

end ClearwaterFv
