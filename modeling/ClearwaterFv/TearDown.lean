import ClearwaterFv.SetUp

/-!
# TearDown — from a deployment that stands to nothing

`TearDownTestCase` resets the static pointers one by one.  Each owner that goes is the last, so
with the pointers go the instances, their processes and their files.
-/

open Reasoning Reasoning.Paths Reasoning.Prog

namespace ClearwaterFv

/-- During the tear-down: the sites `vs` are still to be reset, and the instances that there are
are theirs. -/
structure Draining (area : Area) (vs : List SiteVar) (w : World) : Prop where
  fleet : Fleet area (vs.flatMap w.instancesAt) w
  owned : ∀ i ∈ vs.flatMap w.instancesAt, w.owners i = 1
  sites : ∀ v, v ∉ vs → w.site v = none
  dnsmasqs : ∀ f, w.dnsmasq f = none
  dirs : ∀ v s, w.site v = some s → ∀ q, resolve area.cwd s.args.dir <+: q → area.inside q

theorem Draining.aside {area : Area} {vs : List SiteVar} {w : World} (h : Draining area vs w)
    (t : FileTree) (handler : Signal → Bool) :
    Draining area vs { w with files := t, handler := handler } :=
  ⟨h.fleet.congr rfl rfl rfl rfl rfl rfl, h.owned, h.sites, h.dnsmasqs, h.dirs⟩

theorem guarded_removeAll {area : Area} {path : String}
    (hinside : ∀ q, resolve area.cwd path <+: q → area.inside q) (m : Machine) :
    Guarded area m (.removeAll path) where
  forks _ hi := (nomatch hi)
  deletes _ hop := (nomatch hop)
  creates _ _ hop := (nomatch hop)
  confined := hinside

section

variable (H : CleanKernel) {area : Area} {vs : List SiteVar}

-- `_site.reset()`: the instances of the site go, and nothing else.
theorem leadsGuarded_resetSite {v : SiteVar} (hv : v ∉ vs) :
    LeadsGuarded H area (Draining area (v :: vs)) (Draining area vs) (assignSite v none) := by
  have hreset : ∀ m : Machine, Draining area (v :: vs) m.world →
      Always H.step (Guarded area) (dropSite (m.world.site v))
          (H.step m (.swapSite v none)).2 ∧
        Draining area vs
          (H.run (dropSite (m.world.site v)) (H.step m (.swapSite v none)).2).2.world := by
    intro m h
    let m₁ := (H.step m (.swapSite v none)).2
    have hfleet : Fleet area ((v :: vs).flatMap m.world.instancesAt) m₁.world :=
      h.fleet.congr rfl rfl rfl rfl rfl rfl
    have hsites : ∀ v', v' ≠ v → m₁.world.site v' = m.world.site v' := fun v' hne =>
      Function.update_of_ne hne ..
    have hgone : m₁.world.site v = none := Function.update_self ..
    have hsame : vs.flatMap m₁.world.instancesAt = vs.flatMap m.world.instancesAt := by
      refine List.flatMap_congr fun v' hv' => ?_
      exact instancesAt_of_site (hsites v' fun heq => hv (heq ▸ hv'))
    have hafter : ∀ m₂ : Machine, m₂.world.site = m₁.world.site →
        m₂.world.dnsmasq = m₁.world.dnsmasq →
        Fleet area (vs.flatMap m.world.instancesAt) m₂.world →
        (∀ i ∈ vs.flatMap m.world.instancesAt, m₂.world.owners i = 1) →
        Draining area vs m₂.world := by
      intro m₂ hsite hdnsmasq hfleet₂ howned₂
      have hinsts : vs.flatMap m₂.world.instancesAt = vs.flatMap m.world.instancesAt := by
        rw [← hsame]
        exact List.flatMap_congr fun v' _ => instancesAt_of_site (congrFun hsite v')
      refine ⟨?_, ?_, fun v' hv' => ?_, fun f => ?_, fun v' s hs => ?_⟩
      · rw [hinsts]
        exact hfleet₂
      · rw [hinsts]
        exact howned₂
      · rw [hsite]
        by_cases heq : v' = v
        · rw [heq]
          exact hgone
        · rw [hsites v' heq]
          exact h.sites v' fun hmem => hv' ((List.mem_cons.mp hmem).resolve_left heq)
      · rw [hdnsmasq]
        exact h.dnsmasqs f
      · rw [hsite] at hs
        by_cases heq : v' = v
        · rw [heq, hgone] at hs
          cases hs
        · rw [hsites v' heq] at hs
          exact h.dirs v' s hs
    rw [List.flatMap_cons] at hfleet
    cases hsite : m.world.site v with
    | none =>
      have hnil : m.world.instancesAt v = [] := by
        unfold World.instancesAt
        rw [hsite]
        rfl
      rw [hnil] at hfleet
      refine ⟨Always.ret _ _, hafter m₁ rfl rfl hfleet fun i hi => ?_⟩
      exact h.owned i (List.mem_append_right _ hi)
    | some s =>
      have hinsts : m.world.instancesAt v = s.instances := by
        unfold World.instancesAt
        rw [hsite]
        rfl
      rw [hinsts] at hfleet
      have howned : ∀ i ∈ s.instances ++ vs.flatMap m.world.instancesAt,
          m₁.world.owners i = 1 := by
        intro i hi
        apply h.owned
        rw [List.flatMap_cons, hinsts]
        exact hi
      obtain ⟨hnodup, hrest, hdisjoint⟩ := List.nodup_append'.mp hfleet.handles
      obtain ⟨hcalls, insts', hmem, hfleet₂, howned₂⟩ := hfleet.releaseAll H hnodup
        (fun i hi => List.mem_append_left _ hi) howned
      have hperm : insts'.Perm (vs.flatMap m.world.instancesAt) := by
        refine (List.perm_ext_iff_of_nodup hfleet₂.handles hrest).mpr fun i => ?_
        rw [hmem, List.mem_append]
        exact ⟨fun hi => hi.1.resolve_left hi.2, fun hi => ⟨Or.inr hi, fun hi' => hdisjoint hi' hi⟩⟩
      let m₂ := (H.run (forEach s.instances releaseInstance) m₁).2
      have hdestroy : H.run (dropSite (some s)) m₁ = H.step m₂ (.removeAll s.args.dir) := by
        change H.run s.destroy m₁ = _
        rw [s.destroy_eq, Kernel.run, run_bind]
        rfl
      have hstatics := statics_of_only (dropSite_keepsStatics (some s)) H.toKernel m₁
      constructor
      · change Always H.step _ s.destroy m₁
        rw [s.destroy_eq]
        exact Always.bind hcalls (Always.perform (guarded_removeAll (h.dirs v s hsite) m₂))
      · rw [hdestroy] at hstatics ⊢
        refine hafter _ hstatics.1 hstatics.2 ?_ fun i hi => howned₂ i (hperm.mem_iff.mpr hi)
        exact (hfleet₂.perm hperm).congr rfl rfl rfl rfl rfl rfl
  exact ⟨fun m h => Always.call (@Sys.Unguarded.guarded (.swapSite v none) trivial _ _)
    (hreset m h).1, fun m h => (hreset m h).2⟩

-- `_dnsmasq_instance.reset()`: its configuration file goes with it.
theorem Standing.resetDnsmasq {f : Fixture} {d : Inst} {m : Machine}
    (h : Standing area f (some d) m.world) :
    Always H.step (Guarded area) (assignDnsmasq f none) m ∧
      Draining area f.sites (H.run (assignDnsmasq f none) m).2.world ∧
      (H.run (assignDnsmasq f none) m).2.world.files (resolve area.cwd fixtureCfgfile) = none := by
  let m₁ := (H.step m (.swapDnsmasq f none)).2
  have hpublished : m.world.published f = d :: f.sites.flatMap m.world.instancesAt := by
    unfold World.published
    rw [h.dnsmasq]
    rfl
  have hd : d ∈ m.world.published f := by
    rw [hpublished]
    exact List.mem_cons_self
  have hfleet : Fleet area (m.world.published f) m₁.world := h.fleet.congr rfl rfl rfl rfl rfl rfl
  have howned : m₁.world.owners d = 1 := h.owned d hd
  obtain ⟨hcalls, hafter⟩ := hfleet.releaseInstance H hd howned
  have hreleases := H.releases_releaseInstance d m₁ (by rw [howned]; exact Nat.one_pos)
  have hstatics := statics_of_only (releaseInstance_keepsStatics d) H.toKernel m₁
  have hrun : H.run (assignDnsmasq f none) m = H.run (releaseInstance d) m₁ := by
    change H.run (dropDnsmasq (m.world.dnsmasq f)) m₁ = _
    rw [h.dnsmasq]
    rfl
  have hfiles : (H.run (releaseInstance d) m₁).2.world.files =
      m.world.files.remove (resolve area.cwd fixtureCfgfile) := by
    let m₂ := (H.step m₁ (.dropOwner d)).2
    have hdestroy : H.run (releaseInstance d) m₁ =
        H.run (if m₁.world.owners d - 1 = 0 then destroyInstance d else ret ()) m₂ := rfl
    have hobject : m₂.world.objects d = some (dnsmasqArgs "127.0.0.1" 5353) := h.cfgfile d rfl
    rw [hdestroy, howned, if_pos rfl, files_destroyInstance_dnsmasq H.toKernel m₂ hobject]
    change m.world.files.remove (resolve m.world.cwd fixtureCfgfile) = _
    rw [h.fleet.cwd]
  have hinsts : f.sites.flatMap (H.run (releaseInstance d) m₁).2.world.instancesAt =
      (m.world.published f).erase d := by
    rw [hpublished, List.erase_cons_head]
    exact List.flatMap_congr fun v _ => instancesAt_of_site (congrFun hstatics.1 v)
  rw [hrun]
  refine ⟨Always.call (@Sys.Unguarded.guarded (.swapDnsmasq f none) trivial _ _) ?_,
    ⟨?_, fun i hi => ?_, fun v hv => ?_, fun f' => ?_, fun v s hs => ?_⟩, ?_⟩
  · change Always H.step _ (dropDnsmasq (m.world.dnsmasq f)) m₁
    rw [h.dnsmasq]
    exact hcalls
  · rw [hinsts]
    exact hafter
  · rw [hinsts] at hi
    have hne : i ∉ [d] := fun hin => by
      rw [List.mem_singleton.mp hin] at hi
      exact hfleet.handles.not_mem_erase hi
    rw [(hreleases.others i hne).2]
    exact h.owned i (List.mem_of_mem_erase hi)
  · rw [hstatics.1]
    exact h.sites v hv
  · rw [hstatics.2]
    by_cases heq : f' = f
    · rw [heq]
      exact Function.update_self ..
    · exact (Function.update_of_ne heq ..).trans (h.dnsmasqs f' heq)
  · rw [hstatics.1] at hs
    exact h.dirs v s hs
  · rw [hfiles]
    exact Function.update_self ..

/-- A call that leaves nothing where there was nothing. -/
def Sys.CreatesNothing : Sys → Prop
  | .createDirectory _ | .writeFile .. | .freopen _ => False
  | _ => True

theorem Sys.CreatesNothing.step {op : Sys} (hop : op.CreatesNothing) (K : Kernel) {m : Machine}
    {q : Path} (h : m.world.files q = none) : (K.step m op).2.world.files q = none := by
  cases op with
  | createDirectory path => exact absurd hop id
  | writeFile path text => exact absurd hop id
  | freopen path => exact absurd hop id
  | fork self => exact (congrFun (m.world.forked_sameHeap self (K.fork m self)).files q).trans h
  | kill self pid =>
    exact (congrFun (m.world.killed_sameHeap self pid (K.kill m pid)).files q).trans h
  | waitpid self pid =>
    exact (congrFun (m.world.waited_sameHeap pid (K.waitpid m pid)).files q).trans h
  | remove path =>
    change (m.world.files.remove (resolve m.world.cwd path)) q = none
    by_cases heq : q = resolve m.world.cwd path
    · rw [heq]
      exact Function.update_self ..
    · rw [FileTree.remove_other heq, h]
  | removeAll path =>
    change (m.world.files.removeAll (resolve m.world.cwd path)) q = none
    unfold FileTree.removeAll
    rw [h, ite_self]
  | _ => exact h

theorem absent_of_createsNothing {α : Type} {p : Harness α} (K : Kernel)
    (hp : Only Sys.CreatesNothing p) {m : Machine} {q : Path} (h : m.world.files q = none) :
    (K.run p m).2.world.files q = none :=
  hp.run_inv (I := fun m' : Machine => m'.world.files q = none)
    (fun _ _ hop hm' => hop.step K hm') h

theorem releaseInstance_createsNothing (self : Inst) :
    Only Sys.CreatesNothing (releaseInstance self) :=
  (releaseInstance_only self).mono fun op hop => by
    cases op <;> first | exact trivial | exact absurd hop (by rintro (h | h) <;> exact h)

theorem resetSite_createsNothing (v : SiteVar) :
    Only Sys.CreatesNothing (assignSite v none) := by
  refine Only.bind (Only.perform trivial) fun old => ?_
  cases old with
  | none => exact Only.ret ()
  | some s =>
    change Only Sys.CreatesNothing s.destroy
    rw [s.destroy_eq]
    refine Only.bind (Only.forEach fun i _ => releaseInstance_createsNothing i) fun _ => ?_
    exact Only.perform trivial

theorem leadsGuarded_resetSites {vs : List SiteVar} (hnodup : vs.Nodup) :
    LeadsGuarded H area (Draining area vs) (Draining area [])
      (forEach vs fun v => assignSite v none) := by
  induction vs with
  | nil => exact Keeps.ret ()
  | cons v vs ih =>
    obtain ⟨hv, hvs⟩ := List.nodup_cons.mp hnodup
    exact Leads.bind (leadsGuarded_resetSite H hv) fun _ => ih hvs

-- Where no instance is left, no process is.
theorem Fleet.cleared {w : World} (h : Fleet area [] w) (hsite : ∀ v, w.site v = none)
    (hdnsmasq : ∀ f, w.dnsmasq f = none) (hhandler : ∀ sig, w.handler sig = false) :
    Cleared w where
  sound := h.sound
  children := by
    apply List.eq_nil_iff_forall_not_mem.mpr
    exact fun c hc => (nomatch h.children c hc)
  objects i := by
    apply Option.not_isSome_iff_eq_none.mp
    exact fun hsome => (nomatch (h.live i).mp hsome)
  site := hsite
  dnsmasq := hdnsmasq
  handler := hhandler

/-- Between two test cases. -/
structure AtRest (cwd : Path) (w : World) : Prop extends Cleared w where
  cwd_eq : w.cwd = cwd

-- `TearDownTestCase` leaves nothing of what stands, and none of the files.
theorem Standing.tearDown {cwd : Path} {f : Fixture} {d : Inst} {m : Machine}
    (h : Standing (fixtureArea cwd) f (some d) m.world) :
    Always H.step (Guarded (fixtureArea cwd)) f.tearDownTestCase m ∧
      AtRest cwd (H.run f.tearDownTestCase m).2.world ∧
      ∀ q, (fixtureArea cwd).inside q →
        (H.run f.tearDownTestCase m).2.world.files q = none := by
  let m₁ := (H.run (assignDnsmasq f none) m).2
  let m₂ := (H.run (forEach f.sites fun v => assignSite v none) m₁).2
  let m₃ := (H.step m₂ (.removeAll "tmp")).2
  obtain ⟨hdnsmasq, h₁, hcfgfile⟩ := h.resetDnsmasq H
  have hreset : LeadsGuarded H (fixtureArea cwd) (Draining (fixtureArea cwd) f.sites)
      (Draining (fixtureArea cwd) []) (forEach f.sites fun v => assignSite v none) :=
    leadsGuarded_resetSites H f.sites_nodup
  have h₂ : Draining (fixtureArea cwd) [] m₂.world := hreset.final m₁ h₁
  have htmp : ∀ q, resolve cwd "tmp" <+: q → (fixtureArea cwd).inside q := fun q hq => Or.inl hq
  have hcwd : m₂.world.cwd = cwd := h₂.fleet.cwd
  have hsites : Only Sys.CreatesNothing (forEach f.sites fun v => assignSite v none) :=
    Only.forEach fun v _ => resetSite_createsNothing v
  have hhandlers : Only Sys.CreatesNothing (setHandlers false) :=
    Only.bind (Only.perform trivial) fun _ => Only.perform trivial
  have hrun : H.run f.tearDownTestCase m = H.run (setHandlers false) m₃ := by
    rw [f.tearDownTestCase_eq]
    simp only [Kernel.run, run_bind, run_perform]
    rfl
  rw [hrun]
  refine ⟨?_, ?_, fun q hq => ?_⟩
  · rw [f.tearDownTestCase_eq]
    refine Always.bind hdnsmasq (Always.bind (hreset.calls m₁ h₁) ?_)
    refine Always.bind (Always.perform (guarded_removeAll htmp m₂)) ?_
    refine Unguarded.always ?_ _ H.toKernel m₃
    exact Only.bind (Only.perform trivial) fun _ => Only.perform trivial
  · have h₃ := h₂.aside m₃.world.files (H.run (setHandlers false) m₃).2.world.handler
    refine ⟨h₃.fleet.cleared (fun v => h₃.sites v List.not_mem_nil) h₃.dnsmasqs fun sig => ?_,
      h₃.fleet.cwd⟩
    cases sig <;> rfl
  · apply absent_of_createsNothing H.toKernel hhandlers
    change (m₂.world.files.removeAll (resolve m₂.world.cwd "tmp")) q = none
    rw [hcwd]
    unfold FileTree.removeAll
    rcases hq with hq | hq
    · exact if_pos hq
    · rw [hq, show m₂.world.files (resolve cwd fixtureCfgfile) = none from
        absent_of_createsNothing H.toKernel hsites hcfgfile, ite_self]

end

end ClearwaterFv
