import ClearwaterFv.ProcessTable
import ClearwaterFv.Release

/-!
# CleanUp — what the signal handler leaves behind

`signal_handler` runs `TearDownTestCase` wherever the harness happens to be.  It sees the static
pointers, and `_pid` and `_running` of the instances they lead to.  At every point of a session
this is enough to say which children it reaps: those whose instance has them in `_pid`, with
`_running` true, and is owned by nothing but its site.
-/

open Reasoning Reasoning.Prog

namespace ClearwaterFv

/-- What holds at every point of a session, also in the middle of a method. -/
structure Recoverable (f : Fixture) (w : World) : Prop where
  nodup : w.unreaped.Nodup
  handles : (w.published f).Nodup
  owned : ∀ i ∈ w.published f, 0 < w.owners i
  held : ∀ c ∈ w.children, c.inst ∈ w.published f
  recorded : ∀ i, w.running i = true → w.pid i ∈ w.unreaped → ⟨w.pid i, i⟩ ∈ w.children

/-- Between two methods: the process table is sound, the static pointers lead to the instances
`insts`, and these have all the children. -/
structure Held (f : Fixture) (insts : List Inst) (w : World) : Prop where
  sound : PidsSound w
  published : w.published f = insts
  handles : insts.Nodup
  old : ∀ i ∈ insts, i < w.next
  owned : ∀ i ∈ insts, 0 < w.owners i
  held : ∀ c ∈ w.children, c.inst ∈ insts
  others : ∀ v, v ∉ f.sites → w.site v = none

theorem published_congr {w w' : World} (f : Fixture) (hsite : w'.site = w.site)
    (hdnsmasq : w'.dnsmasq = w.dnsmasq) : w'.published f = w.published f := by
  unfold World.published World.instancesAt
  rw [hsite, hdnsmasq]

namespace Held

variable {f : Fixture} {insts : List Inst} {w w' : World}

theorem recoverable (h : Held f insts w) : Recoverable f w where
  nodup := h.sound.nodup
  handles := by
    rw [h.published]
    exact h.handles
  owned := by
    rw [h.published]
    exact h.owned
  held := by
    rw [h.published]
    exact h.held
  recorded i hrun _ := h.sound.running i hrun

-- A method that has kept the heap keeps the rest when the process table is sound again.
theorem of_sameHeap (h : Held f insts w) (hheap : SameHeap w w') (hsound : PidsSound w')
    (hheld : ∀ c ∈ w'.children, c.inst ∈ insts) : Held f insts w' where
  sound := hsound
  published := (published_congr f hheap.site hheap.dnsmasq).trans h.published
  handles := h.handles
  old := by
    rw [hheap.next]
    exact h.old
  owned := by
    rw [hheap.owners]
    exact h.owned
  held := hheld
  others := by
    rw [hheap.site]
    exact h.others

-- Just after a fork, before `_pid` is written.
theorem recoverable_forked (h : Held f insts w) {self : Inst} (hself : self ∈ insts) {pid : Int}
    (hfresh : pid ∉ w.unreaped) :
    Recoverable f { w with children := ⟨pid, self⟩ :: w.children } where
  nodup := List.nodup_cons.mpr ⟨hfresh, h.sound.nodup⟩
  handles := h.recoverable.handles
  owned := h.recoverable.owned
  held c hc := by
    rw [← h.published] at hself
    rcases List.mem_cons.mp hc with rfl | hc
    · exact hself
    · exact h.recoverable.held c hc
  recorded i hrun _ := List.mem_cons_of_mem _ (h.sound.running i hrun)

-- Between the writes of `_pid` and of `_running`.
theorem recoverable_recorded (h : Held f insts w) {self : Inst} (hself : self ∈ insts) {pid : Int}
    (hfresh : pid ∉ w.unreaped) :
    Recoverable f { w with
      children := ⟨pid, self⟩ :: w.children
      pid := Function.update w.pid self pid } where
  nodup := (h.recoverable_forked hself hfresh).nodup
  handles := h.recoverable.handles
  owned := h.recoverable.owned
  held := (h.recoverable_forked hself hfresh).held
  recorded i hrun _ := by
    change (⟨Function.update w.pid self pid i, i⟩ : Child) ∈ ⟨pid, self⟩ :: w.children
    by_cases hi : i = self
    · rw [hi, Function.update_self]
      exact List.mem_cons_self
    · rw [Function.update_of_ne hi]
      exact List.mem_cons_of_mem _ (h.sound.running i hrun)

-- Between a `waitpid` and the write of `_running`.
theorem recoverable_waited (h : Held f insts w) (pid : Int) (result : WaitResult) :
    Recoverable f (w.waited pid result) := by
  cases result with
  | failed status => exact h.recoverable
  | reaped status =>
    refine ⟨?_, h.recoverable.handles, h.recoverable.owned, fun c hc => ?_, fun i hrun hmem => ?_⟩
    · exact h.sound.nodup.sublist (List.Sublist.map _ List.filter_sublist)
    · exact h.recoverable.held c (List.mem_of_mem_filter hc)
    · -- a child with this PID is left, and before the wait it was the instance's own
      obtain ⟨c, hc, hpid⟩ := List.mem_map.mp hmem
      obtain ⟨hchild, hne⟩ := List.mem_filter.mp hc
      refine List.mem_filter.mpr ⟨h.sound.running i hrun, ?_⟩
      change decide (w.pid i ≠ pid) = true
      have hsame : c.pid = w.pid i := hpid
      rw [← hsame]
      exact hne

theorem congr (h : Held f insts w) (hchildren : w'.children = w.children) (hpid : w'.pid = w.pid)
    (hrunning : w'.running = w.running) (hsite : w'.site = w.site)
    (hdnsmasq : w'.dnsmasq = w.dnsmasq) (hnext : w'.next = w.next)
    (howned : ∀ i ∈ insts, 0 < w'.owners i) : Held f insts w' where
  sound := h.sound.congr hchildren hpid hrunning
  published := (published_congr f hsite hdnsmasq).trans h.published
  handles := h.handles
  old := by
    rw [hnext]
    exact h.old
  owned := howned
  held := by
    rw [hchildren]
    exact h.held
  others := by
    rw [hsite]
    exact h.others

end Held

/-! ## The methods -/

section Methods

variable (K : Kernel) {f : Fixture} {insts : List Inst}

/-- At every point of a program the deployment can be recovered, and at its end it is held. -/
abbrev KeepsHeld {α : Type} (f : Fixture) (insts : List Inst) (p : Harness α) : Prop :=
  Keeps K.step (fun m => Held f insts m.world) (fun m _ => Recoverable f m.world) p

theorem keepsHeld_startInstance {self : Inst} (hself : self ∈ insts) :
    KeepsHeld K f insts (startInstance self) where
  calls m h := by
    refine Always.call h.recoverable ?_
    change Always K.step _ (afterFork self (K.fork m self)) (K.step m (.fork self)).2
    unfold afterFork
    rcases K.fork_pid m self with hfail | ⟨hpos, hfresh⟩
    · rw [if_pos hfail]
      exact Always.ret _ _
    · have hne : ¬ K.fork m self = -1 := by omega
      have hworld : (K.step m (.fork self)).2.world =
          { m.world with children := ⟨K.fork m self, self⟩ :: m.world.children } := by
        change m.world.forked self (K.fork m self) = _
        unfold World.forked
        rw [if_neg hne]
      rw [if_neg hne, if_neg (by omega)]
      have hforked := h.recoverable_forked hself hfresh
      have hrecorded := h.recoverable_recorded hself hfresh
      rw [← hworld] at hforked
      refine Always.call hforked (Always.call ?_ (Always.ret _ _))
      change Recoverable f ((K.step m (.fork self)).2.world.apply
        (.writePid self (K.fork m self)) ())
      rw [hworld]
      exact hrecorded
  final m h := by
    refine h.of_sameHeap (startInstance_sameHeap K m self) (h.sound.startInstance K self) ?_
    rcases startInstance_cases K m self with ⟨-, -, hw⟩ | ⟨pid, -, -, -, -, hw⟩
    · rw [hw]
      exact h.held
    · rw [hw]
      intro c hc
      rcases List.mem_cons.mp hc with rfl | hc
      · exact hself
      · exact h.held c hc

theorem keepsHeld_killInstance (self : Inst) : KeepsHeld K f insts (killInstance self) where
  calls m h := by
    refine Always.call h.recoverable ?_
    change Always K.step _ (if m.world.running self = true then killRunning self else ret true)
      (K.step m (.readRunning self)).2
    by_cases hrun : m.world.running self = true
    · rw [if_pos hrun]
      let m₁ := (K.step m (.readRunning self)).2
      let m₂ := (K.step m₁ (.readPid self)).2
      let m₃ := (K.step m₂ (.kill self (m.world.pid self))).2
      have h₁ : Recoverable f m₁.world := h.recoverable
      have h₂ : Recoverable f m₂.world := h.recoverable
      refine Always.call h₁ (Always.call h₂ ?_)
      change Always K.step _ (if K.kill m₂ (m.world.pid self) = 0 then reap self else ret false) m₃
      by_cases hrc : K.kill m₂ (m.world.pid self) = 0
      · -- SIGTERM has been sent
        have h₃ : Held f insts m₃.world := by
          change Held f insts (m.world.killed self (m.world.pid self)
            (K.kill m₂ (m.world.pid self)))
          unfold World.killed
          rw [if_pos hrc]
          exact h.congr rfl rfl rfl rfl rfl rfl h.owned
        rw [if_pos hrc]
        let m₄ := (K.step m₃ (.readPid self)).2
        have h₄ : Recoverable f m₄.world := h₃.recoverable
        refine Always.call h₃.recoverable (Always.call h₄ (Always.call ?_ (Always.ret _ _)))
        exact h₃.recoverable_waited _ _
      · rw [if_neg hrc]
        exact Always.ret _ _
    · rw [if_neg hrun]
      exact Always.ret _ _
  final m h := by
    refine h.of_sameHeap (killInstance_sameHeap K m self) (h.sound.killInstance K self) ?_
    rcases killInstance_cases K m self with ⟨-, -, hw⟩ | ⟨-, -, -, hw⟩ |
      ⟨-, m', status, exited, -, -, -, hw⟩ | ⟨-, -, -, hw⟩
    · rw [hw]
      exact h.held
    · rw [hw]
      exact h.held
    · rw [hw]
      exact h.held
    · rw [hw]
      exact fun c hc => h.held c (List.mem_of_mem_filter hc)

theorem keepsHeld_method {c : Method × Inst} (hc : c.2 ∈ insts) :
    KeepsHeld K f insts (c.1.body c.2) := by
  obtain ⟨method, self⟩ := c
  cases method with
  | start => exact keepsHeld_startInstance K hc
  | kill => exact keepsHeld_killInstance K self
  | restart =>
    refine Keeps.bind (keepsHeld_killInstance K self) fun killed => ?_
    by_cases hkilled : killed = true
    · rw [if_pos hkilled]
      exact keepsHeld_startInstance K hc
    · rw [if_neg hkilled]
      exact Keeps.ret _

theorem Held.addOwner {m : Machine} (h : Held f insts m.world) (self : Inst) :
    Held f insts (K.step m (.addOwner self)).2.world := by
  refine h.congr rfl rfl rfl rfl rfl rfl fun i hi => ?_
  change 0 < Function.update m.world.owners self (m.world.owners self + 1) i
  by_cases hself : i = self
  · rw [hself, Function.update_self]
    exact Nat.succ_pos _
  · rw [Function.update_of_ne hself]
    exact h.owned i hi

theorem keepsHeld_callOnce {c : Method × Inst} (hc : c.2 ∈ insts) :
    KeepsHeld K f insts (callOnce c) where
  calls m h := by
    let m₁ := (K.step m (.addOwner c.2)).2
    let m₂ := (K.run (c.1.body c.2) m₁).2
    have h₁ : Held f insts m₁.world := h.addOwner K c.2
    have h₂ : Held f insts m₂.world := (keepsHeld_method K hc).final m₁ h₁
    have hmore : 1 < m₂.world.owners c.2 := by
      have hown := h.owned c.2 hc
      rw [(c.1.body_sameHeap K m₁ c.2).owners]
      change 1 < Function.update m.world.owners c.2 (m.world.owners c.2 + 1) c.2
      rw [Function.update_self]
      omega
    intro e he
    rw [trace_callOnce, trace_releaseInstance_of_lt K m₂ c.2 hmore] at he
    rcases List.mem_cons.mp he with rfl | he
    · exact h.recoverable
    · rcases List.mem_append.mp he with he | he
      · exact (keepsHeld_method K hc).calls m₁ h₁ e he
      · rw [List.mem_singleton.mp he]
        exact h₂.recoverable
  final m h := by
    have hbody := (keepsHeld_method K hc).final _ (h.addOwner K c.2)
    have hworld := run_callOnce K m c.1 c.2 (h.owned c.2 hc)
    change Held f insts (K.run (callOnce (c.1, c.2)) m).2.world
    rw [hworld]
    exact hbody.congr rfl rfl rfl rfl rfl rfl h.owned

-- A call on a site whose instances are all held.
theorem keepsHeld_call {s : Site} (hs : ∀ i ∈ s.instances, i ∈ insts) (c : SiteCall) :
    KeepsHeld K f insts (s.call c) := by
  rw [s.call_eq_targets]
  exact Keeps.forEach fun t ht =>
    keepsHeld_callOnce K (hs t.2 (Site.mem_instances_of_targets ht))

theorem Held.mem_of_site {w : World} (h : Held f insts w) {v : SiteVar} {s : Site}
    (hsite : w.site v = some s) {i : Inst} (hi : i ∈ s.instances) : i ∈ insts := by
  by_cases hv : v ∈ f.sites
  · rw [← h.published]
    refine List.mem_append_right _ (List.mem_flatMap.mpr ⟨v, hv, ?_⟩)
    unfold World.instancesAt
    rw [hsite]
    exact hi
  · rw [h.others v hv] at hsite
    cases hsite

-- A method call through a static pointer to a site.
theorem keepsHeld_onSite (v : SiteVar) {method : Site → Harness Unit}
    (hmethod : ∀ s : Site, (∀ i ∈ s.instances, i ∈ insts) → KeepsHeld K f insts (method s)) :
    KeepsHeld K f insts (onSite v method) := by
  have hwith : ∀ (m : Machine), Held f insts m.world →
      KeepsHeld K f insts (withSite method (m.world.site v)) := by
    intro m h
    cases hsite : m.world.site v with
    | none => exact Keeps.ret ()
    | some s => exact hmethod s fun i hi => h.mem_of_site hsite hi
  constructor
  · intro m h
    have hread : Held f insts (K.step m (.readSite v)).2.world := h
    exact Always.call h.recoverable ((hwith m h).calls _ hread)
  · intro m h
    have hread : Held f insts (K.step m (.readSite v)).2.world := h
    exact (hwith m h).final _ hread

/-! ## The constructors -/

theorem Held.newInstance {m : Machine} (h : Held f insts m.world) (args : InstanceArgs)
    (confs : List (String × String)) :
    Held f insts (K.step m (.newInstance args confs)).2.world where
  sound := h.sound.newInstance K args confs
  published := (published_congr f rfl rfl).trans h.published
  handles := h.handles
  old i hi := Nat.lt_succ_of_lt (h.old i hi)
  owned i hi := by
    have hne : i ≠ m.world.next := Nat.ne_of_lt (h.old i hi)
    change 0 < Function.update m.world.owners m.world.next 1 i
    rw [Function.update_of_ne hne]
    exact h.owned i hi
  held := h.held
  others := h.others

theorem keepsHeld_constructs {α : Type} {p : Harness α} (hp : Only Sys.Constructs p) :
    KeepsHeld K f insts p := by
  refine hp.keeps (fun m op hop h => ?_) fun m op _ h => h.recoverable
  cases op with
  | newInstance args confs => exact h.newInstance K args confs
  | _ => first | exact absurd hop id | exact h.congr rfl rfl rfl rfl rfl rfl h.owned

/-- A call that reads, or registers a handler, or makes a directory. -/
def Sys.Idle : Sys → Prop
  | .readArgs _ | .readSite _ | .readDnsmasq _ | .getenvNoisy | .signal .. | .createDirectory _ =>
    True
  | _ => False

theorem keepsHeld_idle {α : Type} {p : Harness α} (hp : Only Sys.Idle p) :
    KeepsHeld K f insts p := by
  refine hp.keeps (fun m op hop h => ?_) fun m op _ h => h.recoverable
  cases op <;> first | exact absurd hop id | exact h.congr rfl rfl rfl rfl rfl rfl h.owned

theorem flatMap_update_perm {vs : List SiteVar} (hnodup : vs.Nodup) {v : SiteVar} (hv : v ∈ vs)
    (g : SiteVar → List Inst) (hnil : g v = []) (new : List Inst) :
    (vs.flatMap (Function.update g v new)).Perm (new ++ vs.flatMap g) := by
  induction vs with
  | nil => exact absurd hv List.not_mem_nil
  | cons u vs ih =>
    obtain ⟨hu, hnodup'⟩ := List.nodup_cons.mp hnodup
    rw [List.flatMap_cons, List.flatMap_cons]
    by_cases huv : u = v
    · have hrest : vs.flatMap (Function.update g v new) = vs.flatMap g := by
        apply List.flatMap_congr
        intro v' hv'
        have hne : v' ≠ v := fun heq => hu (huv ▸ heq ▸ hv')
        rw [Function.update_of_ne hne]
      rw [huv, Function.update_self, hnil, List.nil_append, hrest]
    · have hv' : v ∈ vs := (List.mem_cons.mp hv).resolve_left fun heq => huv heq.symm
      rw [Function.update_of_ne huv]
      exact ((ih hnodup' hv').append_left (g u)).trans (List.perm_append_comm_assoc _ _ _)

-- Publishing a site in a static pointer that was null.
theorem published_putSite {w : World} {v : SiteVar} (hv : v ∈ f.sites)
    (hvacant : w.site v = none) (s : Site) :
    ((w.putSite v s).published f).Perm (s.instances ++ w.published f) := by
  have hnil : w.instancesAt v = [] := by
    unfold World.instancesAt
    rw [hvacant]
    rfl
  have hperm := flatMap_update_perm f.sites_nodup hv w.instancesAt hnil s.instances
  unfold World.published
  rw [World.instancesAt_putSite]
  exact (hperm.append_left _).trans (List.perm_append_comm_assoc _ _ _)

-- A new site is published.
theorem Held.putSite {w w' : World} {v : SiteVar} (hv : v ∈ f.sites)
    (hvacant : w.site v = none) (h : Held f insts w) {objs : List NewObject}
    (hcreates : Creates w w' objs) (hheld : Held f insts w') {s : Site}
    (hs : objs.map NewObject.inst = s.instances) :
    ∃ insts', insts'.Perm (s.instances ++ insts) ∧ Held f insts' (w'.putSite v s) := by
  have hvacant' : w'.site v = none := by
    rw [hcreates.site]
    exact hvacant
  have hperm := published_putSite hv hvacant' s
  rw [hheld.published] at hperm
  have hnew : ∀ i ∈ s.instances, w.next ≤ i ∧ i < w'.next ∧ 0 < w'.owners i := by
    intro i hi
    rw [← hs] at hi
    obtain ⟨o, ho, rfl⟩ := List.mem_map.mp hi
    obtain ⟨-, -, -, hown⟩ := hcreates.new o ho
    rw [hown]
    exact ⟨(hcreates.inst_lt ho).1, (hcreates.inst_lt ho).2, Nat.one_pos⟩
  have hnodup : (s.instances ++ insts).Nodup := by
    rw [List.nodup_append']
    refine ⟨?_, h.handles, fun i hi hold => ?_⟩
    · rw [← hs, hcreates.insts]
      exact List.nodup_range'
    · exact absurd (h.old i hold) (Nat.not_lt.mpr (hnew i hi).1)
  refine ⟨_, hperm, hheld.sound.congr rfl rfl rfl, rfl, hperm.nodup_iff.mpr hnodup,
    fun i hi => ?_, fun i hi => ?_, fun c hc => ?_, fun v' hv' => ?_⟩
  · rcases List.mem_append.mp (hperm.mem_iff.mp hi) with hi | hi
    · exact (hnew i hi).2.1
    · exact hheld.old i hi
  · rcases List.mem_append.mp (hperm.mem_iff.mp hi) with hi | hi
    · exact (hnew i hi).2.2
    · exact hheld.owned i hi
  · exact hperm.mem_iff.mpr (List.mem_append_right _ (hheld.held c hc))
  · have hne : v' ≠ v := fun heq => hv' (heq ▸ hv)
    change Function.update w'.site v (some s) v' = none
    rw [Function.update_of_ne hne]
    exact hheld.others v' hv'

theorem createAndStartSite_held {v : SiteVar} (hv : v ∈ f.sites) (args : SiteArgs) {m : Machine}
    (h : Held f insts m.world) (hvacant : m.world.site v = none) :
    Always K.step (fun m _ => Recoverable f m.world) (createAndStartSite v args) m ∧
      (∃ insts', insts'.Perm ((K.run (newSite args) m).1.instances ++ insts) ∧
        Held f insts' (K.run (createAndStartSite v args) m).2.world) ∧
      (K.run (createAndStartSite v args) m).2.world.dnsmasq = m.world.dnsmasq ∧
      (K.run (createAndStartSite v args) m).2.world.site =
        Function.update m.world.site v (some (K.run (newSite args) m).1) := by
  obtain ⟨objs, hcreates, hinst, -⟩ := newSite_creates K args m
  have hnew : KeepsHeld K f insts (newSite args) := keepsHeld_constructs K (newSite_only args)
  have hpoints := hnew.calls m h
  have h₁ : Held f insts (K.run (newSite args) m).2.world := hnew.final m h
  rw [run_createAndStartSite]
  unfold Always at hpoints ⊢
  rw [trace_createAndStartSite]
  -- from here on only what is known of the new site matters
  generalize K.run (newSite args) m = built at *
  have hvacant₁ : built.2.world.site v = none := by
    rw [hcreates.site]
    exact hvacant
  let m₂ := (K.step built.2 (.swapSite v (some built.1))).2
  obtain ⟨hrun, htrace⟩ := run_assignSite_vacant K hvacant₁ (some built.1)
  obtain ⟨insts', hperm, h₂⟩ := Held.putSite hv hvacant h hcreates h₁ hinst
  have hstart : KeepsHeld K f insts' (onSite v Site.start) :=
    keepsHeld_onSite K v fun s hs => keepsHeld_call K hs (.all .start)
  have hstatics := statics_of_only
    (onSite_keepsStatics v fun s => call_keepsStatics s (.all .start)) K m₂
  rw [hrun, htrace]
  refine ⟨fun e he => ?_, ⟨insts', hperm, hstart.final m₂ h₂⟩,
    hstatics.2.trans hcreates.dnsmasq, hstatics.1.trans ?_⟩
  · rcases List.mem_append.mp he with he | he
    · exact hpoints e he
    · rcases List.mem_append.mp he with he | he
      · rw [List.mem_singleton.mp he]
        exact h₁.recoverable
      · exact hstart.calls m₂ h₂ e he
  · change Function.update built.2.world.site v (some built.1) = _
    rw [hcreates.site]

theorem newDnsmasqInstance_only (ip : String) (port : Int)
    (aRecords : OrderedMap String (List String)) :
    Only Sys.Constructs (newDnsmasqInstance ip port aRecords) :=
  Only.bind (Only.perform trivial) fun _ => Only.perform trivial

theorem newDnsmasqInstance_creates (ip : String) (port : Int)
    (aRecords : OrderedMap String (List String)) (m : Machine) :
    Creates m.world (K.run (newDnsmasqInstance ip port aRecords) m).2.world
      [⟨(K.run (newDnsmasqInstance ip port aRecords) m).1,
        { ip := ip, port := port, kind := .dnsmasq (dnsmasqCfgfile ip port) },
        [(dnsmasqCfgfile ip port, dnsmasqConfig ip port aRecords)]⟩] :=
  ((Creates.refl m.world).files _).trans (World.apply_newInstance_creates _ _ _)

-- A new dnsmasq instance is published.
theorem Held.putDnsmasq {w w' : World} (hvacant : w.dnsmasq f = none) (h : Held f insts w)
    {o : NewObject} (hcreates : Creates w w' [o]) (hheld : Held f insts w') :
    Held f (o.inst :: insts) (w'.putDnsmasq f o.inst) := by
  have ho : o ∈ [o] := List.mem_singleton.mpr rfl
  obtain ⟨hlow, hhigh⟩ := hcreates.inst_lt ho
  obtain ⟨-, -, -, hown⟩ := hcreates.new o ho
  have hpublished : (w'.putDnsmasq f o.inst).published f = o.inst :: insts := by
    have hvacant' : w'.dnsmasq f = none := by
      rw [hcreates.dnsmasq]
      exact hvacant
    have hsites : f.sites.flatMap w'.instancesAt = insts := by
      rw [← hheld.published, World.published, hvacant']
      rfl
    unfold World.published
    change (Function.update w'.dnsmasq f (some o.inst) f).toList ++
      f.sites.flatMap w'.instancesAt = o.inst :: insts
    rw [Function.update_self, hsites]
    rfl
  refine ⟨hheld.sound.congr rfl rfl rfl, hpublished, ?_, fun i hi => ?_, fun i hi => ?_,
    fun c hc => List.mem_cons_of_mem _ (hheld.held c hc), hheld.others⟩
  · exact List.nodup_cons.mpr ⟨fun hold => absurd (h.old _ hold) (Nat.not_lt.mpr hlow), h.handles⟩
  · rcases List.mem_cons.mp hi with rfl | hi
    · exact hhigh
    · exact hheld.old i hi
  · rcases List.mem_cons.mp hi with rfl | hi
    · change 0 < w'.owners o.inst
      rw [hown]
      exact Nat.one_pos
    · exact hheld.owned i hi

-- Starting the dnsmasq instance through its static pointer.
theorem keepsHeld_startDnsmasq : KeepsHeld K f insts (startDnsmasq f) := by
  have hstart : ∀ (m : Machine), Held f insts m.world →
      KeepsHeld K f insts (startIfAny (m.world.dnsmasq f)) := by
    intro m h
    cases hdnsmasq : m.world.dnsmasq f with
    | none => exact Keeps.ret ()
    | some i =>
      have hi : i ∈ insts := by
        rw [← h.published, World.published, hdnsmasq]
        exact List.mem_append_left _ (List.mem_singleton.mpr rfl)
      exact Keeps.bind (keepsHeld_startInstance K hi) fun _ => Keeps.ret ()
  constructor
  · intro m h
    have hread : Held f insts (K.step m (.readDnsmasq f)).2.world := h
    exact Always.call h.recoverable ((hstart m h).calls _ hread)
  · intro m h
    have hread : Held f insts (K.step m (.readDnsmasq f)).2.world := h
    exact (hstart m h).final _ hread

theorem createAndStartDnsFor_held (aRecords : OrderedMap String (List String)) {m : Machine}
    (h : Held f insts m.world) (hvacant : m.world.dnsmasq f = none) :
    Always K.step (fun m _ => Recoverable f m.world) (createAndStartDnsFor f aRecords) m ∧
      Held f ((K.run (newDnsmasqInstance "127.0.0.1" 5353 aRecords) m).1 :: insts)
        (K.run (createAndStartDnsFor f aRecords) m).2.world ∧
      (K.run (createAndStartDnsFor f aRecords) m).2.world.dnsmasq =
        Function.update m.world.dnsmasq f
          (some (K.run (newDnsmasqInstance "127.0.0.1" 5353 aRecords) m).1) ∧
      (K.run (createAndStartDnsFor f aRecords) m).2.world.site = m.world.site := by
  have hcreates := newDnsmasqInstance_creates K "127.0.0.1" 5353 aRecords m
  have hnew : KeepsHeld K f insts (newDnsmasqInstance "127.0.0.1" 5353 aRecords) :=
    keepsHeld_constructs K (newDnsmasqInstance_only _ _ _)
  have hpoints := hnew.calls m h
  have h₁ : Held f insts (K.run (newDnsmasqInstance "127.0.0.1" 5353 aRecords) m).2.world :=
    hnew.final m h
  rw [run_createAndStartDnsFor]
  unfold Always at hpoints ⊢
  rw [trace_createAndStartDnsFor]
  generalize K.run (newDnsmasqInstance "127.0.0.1" 5353 aRecords) m = built at *
  have hvacant₁ : built.2.world.dnsmasq f = none := by
    rw [hcreates.dnsmasq]
    exact hvacant
  let m₂ := (K.step built.2 (.swapDnsmasq f (some built.1))).2
  obtain ⟨hrun, htrace⟩ := run_assignDnsmasq_vacant K hvacant₁ (some built.1)
  have h₂ : Held f (built.1 :: insts) m₂.world := Held.putDnsmasq hvacant h hcreates h₁
  have hstart : KeepsHeld K f (built.1 :: insts) (startDnsmasq f) := keepsHeld_startDnsmasq K
  have hstatics := statics_of_only (startDnsmasq_keepsStatics f) K m₂
  rw [hrun, htrace]
  refine ⟨fun e he => ?_, hstart.final m₂ h₂, hstatics.2.trans ?_, hstatics.1.trans ?_⟩
  rotate_left
  · change Function.update built.2.world.dnsmasq f (some built.1) = _
    rw [hcreates.dnsmasq]
  · exact hcreates.site
  rcases List.mem_append.mp he with he | he
  · exact hpoints e he
  · rcases List.mem_append.mp he with he | he
    · rw [List.mem_singleton.mp he]
      exact h₁.recoverable
    · exact hstart.calls m₂ h₂ e he

end Methods

/-! ## Sessions -/

/-- What a test case begins with: the two fixtures with everything that is started on them. -/
inductive SetUp where
  | memcached (numMemcacheds numRogers : Int)
  | s4

def SetUp.fixture : SetUp → Fixture
  | .memcached .. => .memcached
  | .s4 => .s4

/-- The `SetUpTestCase` of the class derived from the fixture. -/
def SetUp.program : SetUp → Harness Unit
  | .memcached numMemcacheds numRogers => do
    BaseMemcachedSolutionTest.setUpTestCase
    BaseMemcachedSolutionTest.createAndStartDatabases numMemcacheds numRogers
    BaseMemcachedSolutionTest.createAndStartDns
  | .s4 => SimpleS4SolutionTest.setUpTestCase

section Sessions

variable (K : Kernel) (f : Fixture)

/-- Between two methods, whatever instances there are. -/
def Kept (m : Machine) : Prop := ∃ insts, Held f insts m.world

/-- During the set-up: the dnsmasq instance and the sites `vs` are still to be created. -/
structure Vacant (vs : List SiteVar) (m : Machine) : Prop where
  kept : Kept f m
  dnsmasq : m.world.dnsmasq f = none
  sites : ∀ v ∈ vs, m.world.site v = none

/-- The deployment can be recovered at every point on the way from `P` to `Q`. -/
abbrev LeadsTo {α : Type} (P : Machine → Prop) (p : Harness α) (Q : Machine → Prop) : Prop :=
  Leads K.step P (fun m _ => Recoverable f m.world) Q p

variable {f}

theorem leadsTo_kept {α : Type} {p : Harness α} (hp : ∀ insts, KeepsHeld K f insts p) :
    LeadsTo K f (Kept f) p (Kept f) where
  calls m h := by
    obtain ⟨insts, hheld⟩ := h
    exact (hp insts).calls m hheld
  final m h := by
    obtain ⟨insts, hheld⟩ := h
    exact ⟨insts, (hp insts).final m hheld⟩

theorem leadsTo_idle {α : Type} {p : Harness α} (vs : List SiteVar) (hp : Only Sys.Idle p) :
    LeadsTo K f (Vacant f vs) p (Vacant f vs) where
  calls m h := (leadsTo_kept K fun _ => keepsHeld_idle K hp).calls m h.kept
  final m h := by
    have hstatics := statics_of_only (hp.mono fun op hop => by
      cases op <;> first | exact trivial | exact absurd hop id) K m
    refine ⟨(leadsTo_kept K fun _ => keepsHeld_idle K hp).final m h.kept, ?_, fun v hv => ?_⟩
    · exact (congrFun hstatics.2 f).trans h.dnsmasq
    · exact (congrFun hstatics.1 v).trans (h.sites v hv)

theorem leadsTo_createAndStartSite {v : SiteVar} {vs : List SiteVar} (hv : v ∈ f.sites)
    (hvs : v ∉ vs) (args : SiteArgs) :
    LeadsTo K f (Vacant f (v :: vs)) (createAndStartSite v args) (Vacant f vs) where
  calls m h := by
    obtain ⟨insts, hheld⟩ := h.kept
    exact (createAndStartSite_held K hv args hheld (h.sites v List.mem_cons_self)).1
  final m h := by
    obtain ⟨insts, hheld⟩ := h.kept
    obtain ⟨-, ⟨insts', -, hheld'⟩, hdnsmasq, hsite⟩ :=
      createAndStartSite_held K hv args hheld (h.sites v List.mem_cons_self)
    refine ⟨⟨insts', hheld'⟩, (congrFun hdnsmasq f).trans h.dnsmasq, fun v' hv' => ?_⟩
    have hne : v' ≠ v := fun heq => hvs (heq ▸ hv')
    rw [hsite, Function.update_of_ne hne]
    exact h.sites v' (List.mem_cons_of_mem _ hv')

theorem leadsTo_createAndStartDnsFor (vs : List SiteVar)
    (aRecords : OrderedMap String (List String)) :
    LeadsTo K f (Vacant f vs) (createAndStartDnsFor f aRecords) (Kept f) where
  calls m h := by
    obtain ⟨insts, hheld⟩ := h.kept
    exact (createAndStartDnsFor_held K aRecords hheld h.dnsmasq).1
  final m h := by
    obtain ⟨insts, hheld⟩ := h.kept
    exact ⟨_, (createAndStartDnsFor_held K aRecords hheld h.dnsmasq).2.1⟩

/-! ## The set-ups -/

theorem getIps_idle (instances : List Inst) : Only Sys.Idle (Site.getIps instances) :=
  Only.mapEach fun _ _ => Only.bind (Only.perform trivial) fun _ => Only.ret _

theorem getIpsOf_idle (v : SiteVar) (instances : Site → List Inst) :
    Only Sys.Idle (SimpleS4SolutionTest.getIpsOf v instances) := by
  refine Only.bind (Only.perform trivial) fun site => ?_
  cases site with
  | none => exact Only.ret _
  | some s => exact getIps_idle _

theorem setHandlers_idle (handler : Bool) : Only Sys.Idle (setHandlers handler) :=
  Only.bind (Only.perform trivial) fun _ => Only.perform trivial

theorem leadsTo_createAndStartDns :
    LeadsTo K .memcached (Vacant .memcached []) BaseMemcachedSolutionTest.createAndStartDns
      (Kept .memcached) := by
  refine Leads.bind (leadsTo_idle K [] (Only.perform trivial)) fun site => ?_
  cases site with
  | none => exact (leadsTo_idle K [] (Only.ret ())).imp fun _ h => h.kept
  | some s =>
    refine Leads.bind (leadsTo_idle K [] (getIps_idle _)) fun ips => ?_
    exact leadsTo_createAndStartDnsFor K [] _

theorem leadsTo_setUp (setUp : SetUp) :
    LeadsTo K setUp.fixture (Vacant setUp.fixture setUp.fixture.sites) setUp.program
      (Kept setUp.fixture) := by
  cases setUp with
  | memcached numMemcacheds numRogers =>
    have hset : Only Sys.Idle BaseMemcachedSolutionTest.setUpTestCase :=
      Only.bind (setHandlers_idle true) fun _ => Only.perform trivial
    refine Leads.bind (leadsTo_idle K _ hset) fun _ => ?_
    refine Leads.bind (leadsTo_createAndStartSite K List.mem_cons_self List.not_mem_nil _)
      fun _ => ?_
    exact leadsTo_createAndStartDns K
  | s4 =>
    have hset : Only Sys.Idle BaseS4SolutionTest.setUpTestCase :=
      Only.bind (setHandlers_idle true) fun _ => Only.perform trivial
    refine Leads.bind (leadsTo_idle K _ hset) fun _ => ?_
    refine Leads.bind (Leads.bind (leadsTo_createAndStartSite K (by decide) (by decide) _)
      fun _ => leadsTo_createAndStartSite K (by decide) List.not_mem_nil _) fun _ => ?_
    refine Leads.bind (leadsTo_idle K [] (getIpsOf_idle _ _)) fun rogers1 => ?_
    refine Leads.bind (leadsTo_idle K [] (getIpsOf_idle _ _)) fun chronos1 => ?_
    refine Leads.bind (leadsTo_idle K [] (getIpsOf_idle _ _)) fun rogers2 => ?_
    refine Leads.bind (leadsTo_idle K [] (getIpsOf_idle _ _)) fun chronos2 => ?_
    exact leadsTo_createAndStartDnsFor K [] _

theorem vacant_initial (f : Fixture) (pid : Inst → Int) (files : Paths.FileTree)
    (cwd : Paths.Path) (noisy : Option String) :
    Vacant f f.sites (Machine.initial pid files cwd noisy) where
  kept := by
    have hpublished : (Machine.initial pid files cwd noisy).world.published f = [] := by
      cases f <;> rfl
    exact ⟨[], pidsSound_initial pid files cwd noisy, hpublished, List.nodup_nil,
      fun i hi => absurd hi List.not_mem_nil, fun i hi => absurd hi List.not_mem_nil,
      fun c hc => absurd hc List.not_mem_nil, fun _ _ => rfl⟩
  dnsmasq := rfl
  sites _ _ := rfl

end Sessions

end ClearwaterFv
