import ClearwaterFv.Deployment
import ClearwaterFv.Dnsmasq
import ClearwaterFv.Servers

/-!
# Standing — a deployment from the end of its set-up to its tear-down

The tests of a test case find the static pointers as the set-up left them.  Whatever the tests do
to the processes, it goes through the instances that these pointers lead to, and an instance is
started only after it has been killed.
-/

open Reasoning Reasoning.Paths Reasoning.Prog

namespace ClearwaterFv

/-- The static pointers of the fixture lead to the instances that there are, each owned once; that
to the dnsmasq instance is `d`. -/
structure Standing (area : Area) (f : Fixture) (d : Option Inst) (w : World) : Prop where
  fleet : Fleet area (w.published f) w
  owned : ∀ i ∈ w.published f, w.owners i = 1
  sites : ∀ v, v ∉ f.sites → w.site v = none
  dnsmasqs : ∀ f', f' ≠ f → w.dnsmasq f' = none
  dirs : ∀ v s, w.site v = some s → ∀ q, resolve area.cwd s.args.dir <+: q → area.inside q
  dnsmasq : w.dnsmasq f = d
  cfgfile : ∀ i, d = some i → w.objects i = some (dnsmasqArgs "127.0.0.1" 5353)

section

variable {area : Area} {f : Fixture} {d : Option Inst} {w w' : World}

theorem Standing.of_sameHeap (h : Standing area f d w) (hheap : SameHeap w w')
    (hfleet : Fleet area (w.published f) w') : Standing area f d w' where
  fleet := by
    rw [published_congr f hheap.site hheap.dnsmasq]
    exact hfleet
  owned := by
    rw [published_congr f hheap.site hheap.dnsmasq, hheap.owners]
    exact h.owned
  sites := by
    rw [hheap.site]
    exact h.sites
  dnsmasqs := by
    rw [hheap.dnsmasq]
    exact h.dnsmasqs
  dirs := by
    rw [hheap.site]
    exact h.dirs
  dnsmasq := by
    rw [hheap.dnsmasq]
    exact h.dnsmasq
  cfgfile := by
    rw [hheap.objects]
    exact h.cfgfile

theorem Standing.owned_pos (h : Standing area f d w) : ∀ i ∈ w.published f, 0 < w.owners i := by
  intro i hi
  rw [h.owned i hi]
  exact Nat.one_pos

theorem Standing.mem_of_site (h : Standing area f d w) {v : SiteVar} {s : Site}
    (hsite : w.site v = some s) {i : Inst} (hi : i ∈ s.instances) : i ∈ w.published f := by
  have hv : v ∈ f.sites := by
    by_contra hnot
    rw [h.sites v hnot] at hsite
    cases hsite
  refine List.mem_append_right _ (List.mem_flatMap.mpr ⟨v, hv, ?_⟩)
  unfold World.instancesAt
  rw [hsite]
  exact hi

theorem Standing.site_nodup (h : Standing area f d w) {v : SiteVar} {s : Site}
    (hsite : w.site v = some s) : s.instances.Nodup := by
  have hv : v ∈ f.sites := by
    by_contra hnot
    rw [h.sites v hnot] at hsite
    cases hsite
  have hall := (List.nodup_append'.mp h.fleet.handles).2.1
  have hone := (List.nodup_flatMap.mp hall).1 v hv
  unfold World.instancesAt at hone
  rw [hsite] at hone
  exact hone

end

theorem Standing.held {area : Area} {f : Fixture} {d : Option Inst} {w : World}
    (h : Standing area f d w) :
    Held f (w.published f) w where
  sound := h.fleet.sound
  published := rfl
  handles := h.fleet.handles
  old := h.fleet.old
  owned := h.owned_pos
  held := h.fleet.children
  others := h.sites

/-! ## Waiting -/

/-- The calls of `wait_for_instances`, and those on the pointers it goes through. -/
def Sys.Watches : Sys → Prop
  | .addOwner _ | .dropOwner _ | .readSite _ | .readDnsmasq _ => True
  | op => op.Waits

section

variable {area : Area} {f : Fixture} {d : Option Inst} {m : Machine} {insts : List Inst}
  {Φ : Machine → Sys → Prop}

theorem Sys.Watches.guarded {op : Sys} (hop : op.Watches) (m : Machine) : Guarded area m op := by
  have hunguarded : op.Unguarded := by
    cases op <;> first | exact trivial | exact absurd hop id
  exact hunguarded.guarded area m

theorem always_waitForInstance (hΦ : ∀ m op, op.Watches → Φ m op) (K : Kernel) (self : Inst)
    (m : Machine) : Always K.step Φ (waitForInstance self) m :=
  (waitForInstance_only self).always_of (fun m op hop => hΦ m op (by
    cases op <;> first | exact hop | exact absurd hop id)) m

theorem always_waitCopy (hΦ : ∀ m op, op.Watches → Φ m op) (K : Kernel) {self : Inst}
    (hown : 0 < m.world.owners self) :
    Always K.step Φ (viaCopy self (waitForInstance self)) m :=
  always_viaCopy K (fun m => hΦ m _ trivial) (fun m => hΦ m _ trivial)
    (always_waitForInstance hΦ K self _)
    (congrArg World.owners (world_of_waits (waitForInstance_only self) K _)) hown

theorem always_waitLoop (hΦ : ∀ m op, op.Watches → Φ m op) (K : Kernel) {targets : List Inst}
    (ok : Bool) (hown : ∀ i ∈ targets, 0 < m.world.owners i) :
    Always K.step Φ (Site.waitLoop targets ok) m := by
  induction targets generalizing m ok with
  | nil => exact Always.ret _ _
  | cons i rest ih =>
    have hi : 0 < m.world.owners i := hown i List.mem_cons_self
    have hrest : ∀ ok', Always K.step Φ (Site.waitLoop rest ok')
        (K.run (viaCopy i (waitForInstance i)) m).2 := by
      intro ok'
      apply ih
      rw [(run_waitCopy K hi).2]
      exact fun j hj => hown j (List.mem_cons_of_mem _ hj)
    refine Always.bind (always_waitCopy hΦ K hi) ?_
    split
    · exact hrest ok
    · exact hrest false

-- The calls that waiting for all instances comes to.
theorem Held.always_waitForInstances (hΦ : ∀ m op, op.Watches → Φ m op) (K : Kernel)
    (h : Held f insts m.world) : Always K.step Φ f.waitForInstances m := by
  rw [f.waitForInstances_eq]
  generalize f.sites = vs
  induction vs generalizing m with
  | nil =>
    refine Always.call (hΦ m (.readDnsmasq f) trivial) ?_
    change Always K.step _ (waitForDnsmasq? (m.world.dnsmasq f)) _
    cases m.world.dnsmasq f with
    | none => exact Always.ret _ _
    | some d => exact always_waitForInstance hΦ K d _
  | cons v vs ih =>
    have hsite : Always K.step Φ (waitForSite v) m := by
      refine Always.call (hΦ m (.readSite v) trivial) ?_
      change Always K.step _ (waitForSite? (m.world.site v)) _
      cases hsome : m.world.site v with
      | none => exact Always.ret _ _
      | some s =>
        refine always_waitLoop hΦ K true fun i hi => ?_
        exact h.owned i (h.mem_of_site hsome hi)
    refine Always.bind hsite ?_
    split
    · exact Always.ret _ _
    · apply ih
      rw [world_of_waitForSite K h v]
      exact h

theorem Held.always_waitFirst (hΦ : ∀ m op, op.Watches → Φ m op) (K : Kernel)
    (h : Held f insts m.world) (role : Role) :
    Always K.step Φ (onSite .dbs fun dbs => dbs.waitFirst role) m := by
  refine Always.call (hΦ m (.readSite .dbs) trivial) ?_
  change Always K.step _ (withSite (fun dbs => dbs.waitFirst role) (m.world.site .dbs)) _
  cases hsite : m.world.site .dbs with
  | none => exact Always.ret _ _
  | some s =>
    change Always K.step _ (s.waitFirst role) _
    unfold Site.waitFirst
    cases hi : s.getFirst? role with
    | none => exact Always.ret _ _
    | some i =>
      have hown : 0 < m.world.owners i :=
        h.owned i (h.mem_of_site hsite (Site.mem_instances_of_getFirst? hi))
      exact Always.bind (always_waitCopy hΦ K hown) (Always.ret _ _)

end

/-! ## The tests -/

/-- Every call is guarded, and the fixture stands before and after. -/
abbrev KeepsStanding {α : Type} (H : CleanKernel) (area : Area) (f : Fixture) (d : Option Inst)
    (p : Harness α) : Prop :=
  Keeps H.step (fun m => Standing area f d m.world) (Guarded area) p

section

variable (H : CleanKernel) {area : Area} {f : Fixture}

theorem targets_nodup {s : Site} (hs : s.instances.Nodup) (c : SiteCall) :
    ((s.targets c).map Prod.snd).Nodup := by
  cases c with
  | all method =>
    have hmap : (s.targets (.all method)).map Prod.snd = s.instances := by
      unfold Site.targets
      rw [List.map_map]
      exact List.map_id _
    rw [hmap]
    exact hs
  | first role method =>
    change (((s.getFirst? role).toList.map fun i => (method, i)).map Prod.snd).Nodup
    cases s.getFirst? role with
    | none => exact List.nodup_nil
    | some i => exact List.nodup_singleton i

-- A call on a static site, where nothing is started that has not been stopped before.
theorem Standing.onSite {m : Machine} (h : Standing area f d m.world) {v : SiteVar} {c : SiteCall}
    (hstopped : ∀ s, m.world.site v = some s → ∀ t ∈ s.targets c, t.1 = .start →
      m.world.running t.2 = false) :
    Always H.step (Guarded area) (onSite v fun s => s.call c) m ∧
      Standing area f d (H.run (ClearwaterFv.onSite v fun s => s.call c) m).2.world ∧
      SameHeap m.world (H.run (ClearwaterFv.onSite v fun s => s.call c) m).2.world := by
  let m₁ := (H.step m (.readSite v)).2
  have hread : Guarded area m (.readSite v) :=
    @Sys.Unguarded.guarded (.readSite v) trivial area m
  have hwith : Always H.step (Guarded area) (withSite (fun s => s.call c) (m.world.site v)) m₁ ∧
      Standing area f d (H.run (withSite (fun s => s.call c) (m.world.site v)) m₁).2.world ∧
      SameHeap m.world
        (H.run (withSite (fun s => s.call c) (m.world.site v)) m₁).2.world := by
    cases hsite : m.world.site v with
    | none => exact ⟨Always.ret _ _, h, SameHeap.refl _⟩
    | some s =>
      change Always H.step _ (s.call c) m₁ ∧ Standing area f d (H.run (s.call c) m₁).2.world ∧
        SameHeap m.world (H.run (s.call c) m₁).2.world
      rw [s.call_eq_targets]
      have hfleet : Fleet area (m.world.published f) m₁.world := h.fleet
      obtain ⟨hcalls, hafter, hheap⟩ := hfleet.calls H.toReapingKernel h.owned_pos
        (targets_nodup (h.site_nodup hsite) c)
        (fun t ht => h.mem_of_site hsite (Site.mem_instances_of_targets ht))
        (hstopped s hsite)
      exact ⟨hcalls, h.of_sameHeap hheap hafter, hheap⟩
  exact ⟨Always.call hread hwith.1, hwith.2⟩

-- A call that starts nothing.
theorem keepsStanding_onSite {v : SiteVar} {c : SiteCall}
    (hc : ∀ (s : Site), ∀ t ∈ s.targets c, t.1 ≠ .start) :
    KeepsStanding H area f d (onSite v fun s => s.call c) where
  calls _ h := (h.onSite H fun s _ t ht hstart => absurd hstart (hc s t ht)).1
  final _ h := (h.onSite H fun s _ t ht hstart => absurd hstart (hc s t ht)).2.1

theorem method_of_first {s : Site} {role : Role} {method : Method} {t : Method × Inst}
    (ht : t ∈ s.targets (.first role method)) : t.1 = method ∧ s.getFirst? role = some t.2 := by
  obtain ⟨i, hi, rfl⟩ := List.mem_map.mp ht
  exact ⟨rfl, Option.mem_toList.mp hi⟩

theorem method_of_all {s : Site} {method : Method} {t : Method × Inst}
    (ht : t ∈ s.targets (.all method)) : t.1 = method := by
  obtain ⟨i, -, rfl⟩ := List.mem_map.mp ht
  rfl

-- The instance that `killFirst` kills is stopped, and not in use.
theorem Standing.stopped_killFirst {m : Machine} (h : Standing area f d m.world) {role : Role}
    {s : Site} (hsite : m.world.site .dbs = some s) {i : Inst} (hi : s.getFirst? role = some i) :
    (H.run (killFirst role) m).2.world.running i = false := by
  have hmem : i ∈ m.world.published f :=
    h.mem_of_site hsite (Site.mem_instances_of_getFirst? hi)
  let m₁ := (H.step m (.readSite .dbs)).2
  have hrun : (H.run (killFirst role) m).2 = (H.run (callOnce (.kill, i)) m₁).2 := by
    have htargets : s.targets (.first role .kill) = [(.kill, i)] := by
      change (s.getFirst? role).toList.map (fun i => (Method.kill, i)) = _
      rw [hi]
      rfl
    change (H.run (withSite (fun dbs => dbs.call (.first role .kill)) (m.world.site .dbs)) m₁).2 = _
    rw [hsite, withSite, s.call_eq_targets, htargets, forEach_cons, forEach_nil, Kernel.run,
      run_bind, run_ret]
  have hfleet : Fleet area (m.world.published f) (H.step m₁ (.addOwner i)).2.world :=
    h.fleet.congr rfl rfl rfl rfl rfl rfl
  rw [hrun, run_callOnce H.toKernel m₁ .kill i (h.owned_pos i hmem)]
  exact hfleet.stopped_killInstance H i

theorem keepsStanding_killFirst (role : Role) : KeepsStanding H area f d (killFirst role) :=
  keepsStanding_onSite H fun s t ht hstart => by
    rw [(method_of_first ht).1] at hstart
    cases hstart

theorem keepsStanding_waitFirst (role : Role) :
    KeepsStanding H area f d (onSite .dbs fun dbs => dbs.waitFirst role) where
  calls _ h := h.held.always_waitFirst (fun m _ hop => hop.guarded m) H.toKernel role
  final m h := by
    rw [world_of_waitFirst H.toKernel h.held .dbs role]
    exact h

theorem keepsStanding_restartFirst (role : Role) :
    KeepsStanding H area f d (bringUpFirst role .restart) := by
  refine Keeps.bind (keepsStanding_onSite H fun s t ht hstart => ?_) fun _ =>
    keepsStanding_waitFirst H role
  rw [(method_of_first ht).1] at hstart
  cases hstart

-- An instance is killed, and brought up again.
theorem keepsStanding_killAndStartFirst (role : Role) :
    KeepsStanding H area f d ((killFirst role).bind fun _ => bringUpFirst role .start) := by
  have hstart : ∀ m : Machine, Standing area f d m.world →
      Always H.step (Guarded area) (bringUpFirst role .start) (H.run (killFirst role) m).2 ∧
      Standing area f d
        (H.run (bringUpFirst role .start) (H.run (killFirst role) m).2).2.world := by
    intro m h
    let m₁ := (H.run (killFirst role) m).2
    have h₁ : Standing area f d m₁.world := (keepsStanding_killFirst H role).final m h
    have hstatics : m₁.world.site = m.world.site :=
      (statics_of_only (onSite_keepsStatics .dbs fun s => call_keepsStatics s _)
        H.toKernel m).1
    obtain ⟨hcalls, h₂, -⟩ := h₁.onSite H (v := .dbs) (c := .first role .start)
      (fun s hsite t ht _ => by
        rw [hstatics] at hsite
        exact h.stopped_killFirst H hsite (method_of_first ht).2)
    refine ⟨Always.bind hcalls ((keepsStanding_waitFirst H role).calls _ h₂), ?_⟩
    unfold bringUpFirst
    rw [bind_eq_bind, Kernel.run, run_bind]
    exact (keepsStanding_waitFirst H role).final _ h₂
  constructor
  · intro m h
    exact Always.bind ((keepsStanding_killFirst H role).calls m h) (hstart m h).1
  · intro m h
    rw [run_bind]
    exact (hstart m h).2

-- A failure is triggered and fixed.
theorem keepsStanding_failure (scenario : Scenario) :
    KeepsStanding H area f d (scenario.triggerFailure.bind fun _ => scenario.fixFailure) := by
  have hrestart : ∀ role, KeepsStanding H area f d
      ((bringUpFirst role .restart).bind fun _ => ret ()) := fun role =>
    Keeps.bind (keepsStanding_restartFirst H role) fun _ => Keeps.ret ()
  cases scenario with
  | noFailures => exact Keeps.ret ()
  | memcachedFails => exact keepsStanding_killAndStartFirst H .memcached
  | memcachedRestarts => exact hrestart .memcached
  | rogersFails => exact keepsStanding_killAndStartFirst H .rogers
  | rogersRestarts => exact hrestart .rogers
  | loneRogersRestarts => exact hrestart .rogers
  | largeClusterMemcachedFails => exact keepsStanding_killAndStartFirst H .memcached
  | largeClusterMemcachedRestarts => exact hrestart .memcached

theorem keepsStanding_body (tc : TestCase) (t : tc.Test) :
    KeepsStanding H area f d (tc.body t) := by
  cases tc with
  | simpleMemcachedSolution => exact Keeps.ret ()
  | memcachedSolutionThrash scenario => exact Keeps.ret ()
  | memcachedSolutionFailure scenario =>
    have hfailure : KeepsStanding H area f d
        (scenario.triggerFailure.bind fun _ => scenario.fixFailure) :=
      keepsStanding_failure H scenario
    cases t with
    | addKillSetSetDataContentionSet => exact Keeps.forEach fun _ _ => hfailure
    | _ => exact hfailure
  | largerClustersMemcachedSolution scenario =>
    cases t with
    | addGet => exact Keeps.ret ()
    | _ => exact keepsStanding_failure H scenario
  | simpleS4Solution =>
    cases t with
    | timerTracerBullet => exact Keeps.ret ()
    | tracerBullet =>
      refine keepsStanding_onSite H (v := .site1) (c := .all .kill) fun s t ht hstart => ?_
      rw [method_of_all ht] at hstart
      cases hstart

theorem keepsStanding_runTest (tc : TestCase) (t : tc.Test) :
    KeepsStanding H area tc.setUp.fixture d (tc.runTest t) := by
  have hwait : KeepsStanding H area tc.setUp.fixture d tc.setUp.fixture.waitForInstances :=
    ⟨fun m h => h.held.always_waitForInstances (fun m _ hop => hop.guarded m) H.toKernel,
      fun m h => by
        rw [tc.setUp.fixture.waitForInstances_eq, world_of_waitForAll H.toKernel h.held]
        exact h⟩
  exact Keeps.bind hwait fun _ => keepsStanding_body H tc t

end

end ClearwaterFv
