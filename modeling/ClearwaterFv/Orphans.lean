import Mathlib.Data.List.Perm.Subperm
import ClearwaterFv.Fixtures
import ClearwaterFv.ProcessTable

/-!
# Orphans — children that no instance knows of

`start_instance` records the child it forks in `_pid`, over whatever was there.  While an instance
is only ever started when `_running` is false, every unreaped child is the one in its instance's
`_pid`; a start of an instance that is running loses the first child.
-/

open Reasoning Reasoning.Prog

namespace ClearwaterFv

/-- The instance has at most one child that has not been reaped, and that child is in `_pid` and
`_running` is true. -/
structure HasOnlyItsPid (w : World) (i : Inst) : Prop where
  one : (w.children.filter fun c => c.inst = i).length ≤ 1
  known : ∀ c ∈ w.children, c.inst = i → w.running i = true ∧ w.pid i = c.pid

/-- No instance has a child that it does not know of, and one for which `kill_instance` returns
true has no child left. -/
structure NoOrphan (K : Kernel) (m : Machine) : Prop where
  known : ∀ i, HasOnlyItsPid m.world i
  killed : ∀ i, (K.run (killInstance i) m).1 = true →
    ∀ c ∈ (K.run (killInstance i) m).2.world.children, c.inst ≠ i

/-- A fork that succeeds is made while `_running` is false. -/
def ForksStopped (K : Kernel) (m : Machine) (op : Sys) : Prop :=
  ∀ i, op = .fork i → K.fork m i ≠ -1 → m.world.running i = false

/-! ## The children that are known -/

/-- Every unreaped child is the one its instance has recorded. -/
def ChildrenKnown (w : World) : Prop :=
  ∀ c ∈ w.children, w.running c.inst = true ∧ w.pid c.inst = c.pid

namespace ChildrenKnown

variable {w : World} {self : Inst} {pid : Int}

theorem started (h : ChildrenKnown w) (hstopped : w.running self = false) :
    ChildrenKnown (w.started self pid) := by
  intro c hc
  change Function.update w.running self true c.inst = true ∧
    Function.update w.pid self pid c.inst = c.pid
  rcases List.mem_cons.mp hc with rfl | hc
  · rw [Function.update_self, Function.update_self]
    exact ⟨rfl, rfl⟩
  · obtain ⟨hrun, hpid⟩ := h c hc
    have hother : c.inst ≠ self := by
      intro heq
      rw [heq, hstopped] at hrun
      cases hrun
    rw [Function.update_of_ne hother, Function.update_of_ne hother]
    exact ⟨hrun, hpid⟩

theorem stopped (h : ChildrenKnown w) : ChildrenKnown (w.stopped self) := by
  intro c hc
  obtain ⟨hmem, hne⟩ := List.mem_filter.mp hc
  obtain ⟨hrun, hpid⟩ := h c hmem
  have hother : c.inst ≠ self := by
    intro heq
    rw [heq] at hpid
    exact of_decide_eq_true hne hpid.symm
  change Function.update w.running self false c.inst = true ∧ w.pid c.inst = c.pid
  rw [Function.update_of_ne hother]
  exact ⟨hrun, hpid⟩

theorem hasOnlyItsPid (h : ChildrenKnown w) (hnodup : w.unreaped.Nodup) (i : Inst) :
    HasOnlyItsPid w i where
  one := by
    have hsame : (w.children.filter fun c => c.inst = i) ⊆ [⟨w.pid i, i⟩] := by
      intro c hc
      obtain ⟨hmem, hinst⟩ := List.mem_filter.mp hc
      have hinst' : c.inst = i := of_decide_eq_true hinst
      obtain ⟨-, hpid⟩ := h c hmem
      rw [hinst'] at hpid
      rw [hpid, ← hinst', List.mem_singleton]
    have hnodup' : (w.children.filter fun c => c.inst = i).Nodup :=
      (List.Nodup.of_map _ hnodup).filter _
    exact (hnodup'.subperm hsame).length_le
  known c hc hinst := by
    rw [← hinst]
    exact h c hc

end ChildrenKnown

/-! ## One call on one instance -/

section

variable (K : ReapingKernel) {m : Machine}

-- When `waitpid` reaps, `kill_instance` either finds nothing to kill, or fails to signal, or
-- reaps.
theorem ReapingKernel.killInstance_cases (h : PidsSound m.world) (self : Inst) :
    (m.world.running self = false ∧ (K.run (killInstance self) m).1 = true ∧
      (K.run (killInstance self) m).2.world = m.world) ∨
    ((K.run (killInstance self) m).1 = false ∧
      (K.run (killInstance self) m).2.world = m.world) ∨
    ((K.run (killInstance self) m).1 = true ∧
      (K.run (killInstance self) m).2.world = m.world.stopped self) := by
  rcases ClearwaterFv.killInstance_cases K.toKernel m self with hidle | ⟨-, -, hvalue, hw⟩ |
    ⟨hrun, m', status, exited, hwait, hchildren, -, -⟩ | ⟨-, -, hvalue, hw⟩
  · exact Or.inl hidle
  · exact Or.inr (Or.inl ⟨hvalue, hw⟩)
  · -- the child is there, so that the wait cannot fail
    have hmem : m.world.pid self ∈ m'.world.unreaped := by
      rw [World.unreaped, hchildren]
      exact mem_unreaped (h.running self hrun)
    obtain ⟨status', hreaped⟩ := K.reaps m' _ hmem
    rw [hwait] at hreaped
    cases hreaped
  · exact Or.inr (Or.inr ⟨hvalue, hw⟩)

-- An instance that was killed is not running.
theorem ReapingKernel.not_running_of_killed (h : PidsSound m.world) (self : Inst)
    (hkilled : (K.run (killInstance self) m).1 = true) :
    (K.run (killInstance self) m).2.world.running self = false := by
  rcases K.killInstance_cases h self with ⟨hrun, -, hw⟩ | ⟨hvalue, -⟩ | ⟨-, hw⟩
  · rw [hw]
    exact hrun
  · rw [hkilled] at hvalue
    cases hvalue
  · rw [hw]
    exact Function.update_self ..

theorem ChildrenKnown.killInstance (h : PidsSound m.world) (hknown : ChildrenKnown m.world)
    (self : Inst) : ChildrenKnown (K.run (killInstance self) m).2.world := by
  rcases K.killInstance_cases h self with ⟨-, -, hw⟩ | ⟨-, hw⟩ | ⟨-, hw⟩
  · rw [hw]
    exact hknown
  · rw [hw]
    exact hknown
  · rw [hw]
    exact hknown.stopped

-- Where every child is known, one for which `kill_instance` returns true has none left.
theorem ChildrenKnown.noOrphan (h : PidsSound m.world) (hknown : ChildrenKnown m.world) :
    NoOrphan K.toKernel m where
  known i := hknown.hasOnlyItsPid h.nodup i
  killed i hkilled c hc hinst := by
    have hstopped := K.not_running_of_killed h i hkilled
    obtain ⟨hrun, -⟩ := hknown.killInstance K h i c hc
    rw [hinst, hstopped] at hrun
    cases hrun

theorem NoOrphan.childrenKnown (h : NoOrphan K.toKernel m) : ChildrenKnown m.world := by
  intro c hc
  exact (h.known c.inst).known c hc rfl

/-! ## One call on one instance and the forks in it -/

theorem forksStopped_of_no_fork (K : Kernel) (m : Machine) (op : Sys) (hop : op.forks? = none) :
    ForksStopped K m op := by
  intro i hfork _
  rw [hfork] at hop
  cases hop

theorem forksStopped_killInstance (K : Kernel) (self : Inst) (m : Machine) :
    Always K.step (ForksStopped K) (killInstance self) m :=
  Only.always_of ((killInstance_only self).mono fun op hop => by
    cases op <;> first | rfl | exact absurd hop id) (forksStopped_of_no_fork K) m

theorem forksStopped_startInstance_iff (K : Kernel) (self : Inst) (m : Machine) :
    Always K.step (ForksStopped K) (startInstance self) m ↔
      (K.fork m self ≠ -1 → m.world.running self = false) := by
  constructor
  · intro halways
    exact halways (m, .fork self) List.mem_cons_self self rfl
  · intro hstopped
    have hfork : ForksStopped K m (.fork self) := by
      intro i hop hok
      cases hop
      exact hstopped hok
    refine Always.call hfork ?_
    exact (afterFork_no_fork self _).always_of (forksStopped_of_no_fork K) _

-- A start through a temporary `shared_ptr` forks where the start does.
theorem forksStopped_callOnce_iff (K : Kernel) (c : Method × Inst) (m : Machine) :
    Always K.step (ForksStopped K) (callOnce c) m ↔
      Always K.step (ForksStopped K) (c.1.body c.2) (K.step m (.addOwner c.2)).2 := by
  let m₁ := (K.step m (.addOwner c.2)).2
  let m₂ := (K.run (c.1.body c.2) m₁).2
  have hrelease : Always K.step (ForksStopped K) (releaseInstance c.2) m₂ :=
    Only.always_of ((releaseInstance_only c.2).mono fun _ hop => hop.no_fork)
      (forksStopped_of_no_fork K) m₂
  constructor
  · intro h e he
    apply h
    rw [trace_callOnce]
    exact List.mem_cons_of_mem _ (List.mem_append_left _ he)
  · intro h e he
    rw [trace_callOnce] at he
    rcases List.mem_cons.mp he with rfl | he
    · exact forksStopped_of_no_fork K m _ rfl
    · rcases List.mem_append.mp he with he | he
      · exact h e he
      · exact hrelease e he

-- The child of an instance that is running is lost when the instance is started.
theorem not_childrenKnown_started {w : World} (h : PidsSound w) {self : Inst} {pid : Int}
    (hrun : w.running self = true) (hfresh : pid ∉ w.unreaped) :
    ¬ ChildrenKnown (w.started self pid) := by
  intro hknown
  have hchild : (⟨w.pid self, self⟩ : Child) ∈ w.children := h.running self hrun
  obtain ⟨-, hpid⟩ := hknown _ (List.mem_cons_of_mem (⟨pid, self⟩ : Child) hchild)
  change Function.update w.pid self pid self = w.pid self at hpid
  rw [Function.update_self] at hpid
  rw [hpid] at hfresh
  exact hfresh (mem_unreaped hchild)

theorem childrenKnown_startInstance_iff (K : Kernel) {m : Machine} (h : PidsSound m.world)
    (hknown : ChildrenKnown m.world) (self : Inst) :
    ChildrenKnown (K.run (startInstance self) m).2.world ↔
      (K.fork m self ≠ -1 → m.world.running self = false) := by
  rcases startInstance_cases K m self with ⟨hfail, -, hw⟩ | ⟨pid, hpos, hfresh, hfork, -, hw⟩
  · rw [hw]
    exact ⟨fun _ hok => absurd hfail hok, fun _ => hknown⟩
  · have hok : K.fork m self ≠ -1 := by
      rw [hfork]
      omega
    rw [hw]
    constructor
    · intro hafter _
      by_contra hrun
      exact not_childrenKnown_started h (Bool.not_eq_false _ ▸ hrun) hfresh hafter
    · intro hstopped
      exact hknown.started (hstopped hok)

-- One call on one instance leaves no unknown child if and only if its fork, if it succeeds,
-- finds the instance stopped.
theorem childrenKnown_callOnce_iff (K : ReapingKernel) {m : Machine} (h : PidsSound m.world)
    (hknown : ChildrenKnown m.world) (c : Method × Inst) (hown : 0 < m.world.owners c.2) :
    ChildrenKnown (K.run (callOnce c) m).2.world ↔
      Always K.step (ForksStopped K.toKernel) (callOnce c) m := by
  obtain ⟨method, self⟩ := c
  let m₁ := (K.step m (.addOwner self)).2
  have h₁ : PidsSound m₁.world := h.addOwner K.toKernel self
  have hknown₁ : ChildrenKnown m₁.world := hknown
  rw [forksStopped_callOnce_iff, run_callOnce K.toKernel m method self hown]
  change ChildrenKnown (K.run (method.body self) m₁).2.world ↔
    Always K.step (ForksStopped K.toKernel) (method.body self) m₁
  cases method with
  | start =>
    rw [Method.body, forksStopped_startInstance_iff, childrenKnown_startInstance_iff _ h₁ hknown₁]
  | kill =>
    exact iff_of_true (hknown₁.killInstance K h₁ self)
      (forksStopped_killInstance K.toKernel self m₁)
  | restart =>
    -- the start half is only reached with the instance stopped
    have hkill := forksStopped_killInstance K.toKernel self m₁
    have hknown₂ := hknown₁.killInstance K h₁ self
    have h₂ := h₁.killInstance K.toKernel self
    have hafter := run_restartInstance K.toKernel m₁ self
    refine iff_of_true ?_ (Always.bind hkill ?_)
    · rw [Method.body, hafter]
      by_cases hkilled : (K.run (killInstance self) m₁).1 = true
      · rw [if_pos hkilled, childrenKnown_startInstance_iff _ h₂ hknown₂]
        exact fun _ => K.not_running_of_killed h₁ self hkilled
      · rw [if_neg hkilled]
        exact hknown₂
    · by_cases hkilled : (K.run (killInstance self) m₁).1 = true
      · rw [if_pos hkilled, forksStopped_startInstance_iff]
        exact fun _ => K.not_running_of_killed h₁ self hkilled
      · rw [if_neg hkilled]
        exact Always.ret _ _

/-! ## A run of calls -/

/-- Between two calls on the instances of a site. -/
structure BetweenCalls (site : Site) (m : Machine) : Prop where
  sound : PidsSound m.world
  owned : ∀ i ∈ site.instances, 0 < m.world.owners i

theorem BetweenCalls.callOnce (K : Kernel) {site : Site} {m : Machine}
    (h : BetweenCalls site m) (c : Method × Inst) (hc : c.2 ∈ site.instances) :
    BetweenCalls site (K.run (ClearwaterFv.callOnce c) m).2 where
  sound := by
    obtain ⟨method, self⟩ := c
    rw [run_callOnce K m method self (h.owned self hc)]
    have hbody := (keepsPidsSound_method K method self).final _ (h.sound.addOwner K self)
    exact hbody.congr rfl rfl rfl
  owned i hi := by
    rw [(callOnce_sameHeap K m c (h.owned c.2 hc)).owners]
    exact h.owned i hi

theorem betweenCalls_newSite (K : Kernel) (a : SiteArgs) {m : Machine} (h : PidsSound m.world) :
    BetweenCalls (K.run (newSite a) m).1 (K.run (newSite a) m).2 where
  sound := (keepsPidsSound_constructs K (newSite_only a)).final m h
  owned i hi := by
    obtain ⟨objs, hcreates, hinst, -⟩ := newSite_creates K a m
    rw [← hinst] at hi
    obtain ⟨o, ho, rfl⟩ := List.mem_map.mp hi
    obtain ⟨-, -, -, hown⟩ := hcreates.new o ho
    rw [hown]
    exact Nat.one_pos

/-- In a run of calls on a new site no instance ever has a child that it does not know of, if and
only if every fork that succeeds is made while `_running` is false. -/
theorem noOrphan_iff (K : ReapingKernel) (a : SiteArgs) (pid : Inst → Int)
    (files : Paths.FileTree) (cwd : Paths.Path) (noisy : Option String) (cs : List SiteCall) :
    let built := K.run (newSite a) (Machine.initial pid files cwd noisy)
    (∀ m ∈ stages K.step callOnce (cs.flatMap built.1.targets) built.2, NoOrphan K.toKernel m) ↔
      Always K.step (ForksStopped K.toKernel) (forEach cs built.1.call) built.2 := by
  intro built
  have hbuilt : BetweenCalls built.1 built.2 :=
    betweenCalls_newSite K.toKernel a (pidsSound_initial pid files cwd noisy)
  have hinst : ∀ c ∈ cs.flatMap built.1.targets, c.2 ∈ built.1.instances := by
    intro c hc
    obtain ⟨call, -, hcall⟩ := List.mem_flatMap.mp hc
    exact built.1.mem_instances_of_targets hcall
  have hkeep : ∀ c ∈ cs.flatMap built.1.targets, ∀ m, BetweenCalls built.1 m →
      BetweenCalls built.1 ((callOnce c).run K.step m).2 :=
    fun c hc m h => h.callOnce K.toKernel c (hinst c hc)
  -- nothing has been started
  have hnone : ChildrenKnown built.2.world := by
    obtain ⟨objs, hcreates, -⟩ := newSite_creates K.toKernel a (Machine.initial pid files cwd noisy)
    intro c hc
    rw [hcreates.children] at hc
    exact absurd hc List.not_mem_nil
  have hiff := forall_stages_iff hkeep (fun c hc m h hknown =>
    childrenKnown_callOnce_iff K h.sound hknown c (h.owned c.2 (hinst c hc))) hbuilt hnone
  rw [built.1.calls_eq_targets, ← hiff]
  have hall := stages_inv hkeep hbuilt
  constructor
  · intro h m hm
    exact (h m hm).childrenKnown K
  · intro h m hm
    exact (h m hm).noOrphan K (hall m hm).sound

/-- A site with one memcached instance that is started twice: the first process is an orphan. -/
theorem noOrphan_started_twice :
    ¬ ∀ (K : ReapingKernel) (a : SiteArgs) (pid : Inst → Int) (files : Paths.FileTree)
      (cwd : Paths.Path) (noisy : Option String) (cs : List SiteCall),
      let built := K.run (newSite a) (Machine.initial pid files cwd noisy)
      ∀ m ∈ stages K.step callOnce (cs.flatMap built.1.targets) built.2,
        NoOrphan K.toKernel m := by
  intro hnone
  let K := obligingReaper
  let a := BaseMemcachedSolutionTest.dbsArgs 1 0
  let built := K.run (newSite a) (Machine.initial (fun _ => 0) (fun _ => none) [] none)
  let cs := [SiteCall.all .start, SiteCall.first .memcached .start]
  have hlast : ((stages K.step callOnce (cs.flatMap built.1.targets) built.2).map
      fun m => m.world.children) = [[], [⟨1, 0⟩], [⟨2, 0⟩, ⟨1, 0⟩]] := by
    decide +kernel
  have hmem : [⟨2, 0⟩, ⟨1, 0⟩] ∈
      (stages K.step callOnce (cs.flatMap built.1.targets) built.2).map
        fun m => m.world.children := by
    rw [hlast]
    decide
  obtain ⟨m, hm, hchildren⟩ := List.mem_map.mp hmem
  have hone := ((hnone K a _ _ _ _ cs m hm).known 0).one
  rw [hchildren] at hone
  exact absurd hone (by decide)

end

end ClearwaterFv
