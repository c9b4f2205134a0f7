import ClearwaterFv.Standing

/-!
# Confinement — what a failure leaves alone

A scenario stops one instance of the deployment.  Whatever `fork`, `kill` and `waitpid` do, the
processes of the others are not signalled, reaped or doubled by it, and what their instances have
recorded of them stays.
-/

open Reasoning Reasoning.Prog

namespace ClearwaterFv

/-- The instance whose process, or whose record of it, a call may change. -/
def Sys.touches? : Sys → Option Inst
  | .fork self | .kill self _ | .waitpid self _ | .writePid self _ | .writeRunning self _ =>
    some self
  | _ => none

/-- A call that makes and deletes no instance, assigns no static pointer, and writes no file. -/
def Sys.Lasting : Sys → Prop
  | .newInstance .. | .deleteInstance _ | .swapSite .. | .swapDnsmasq .. | .createDirectory _
  | .writeFile .. | .freopen _ | .remove _ | .removeAll _ => False
  | _ => True

/-- The call touches instances in `T` alone, and signals and reaps no process but the instance's
own. -/
structure Touches (T : Inst → Prop) (m : Machine) (op : Sys) : Prop where
  touched : ∀ i, op.touches? = some i → T i
  own : ∀ self pid, op = .kill self pid ∨ op = .waitpid self pid →
    ∀ c ∈ m.world.children, c.pid = pid → c.inst = self
  lasting : op.Lasting

/-- The processes of the instance are those that it had, none of them has been sent SIGTERM, and
it has the same one on record. -/
structure Unharmed (i : Inst) (w w' : World) : Prop where
  running : w'.running i = w.running i
  pid : w'.pid i = w.pid i
  children : ∀ c : Child, c.inst = i → (c ∈ w'.children ↔ c ∈ w.children)
  spared : ∃ sent, w'.signals = sent ++ w.signals ∧
    ∀ s ∈ sent, ∀ c ∈ w.children, c.inst = i → s.pid ≠ c.pid

theorem Unharmed.refl (i : Inst) (w : World) : Unharmed i w w :=
  ⟨rfl, rfl, fun _ _ => Iff.rfl, [], rfl, fun _ hs => absurd hs List.not_mem_nil⟩

/-! ## One call -/

section

variable (K : Kernel) {T : Inst → Prop} {m : Machine} {i : Inst} {w : World}

theorem Unharmed.step {op : Sys} (h : Unharmed i w m.world) (hop : Touches T m op)
    (hi : ¬ T i) : Unharmed i w (K.step m op).2.world := by
  have hne : ∀ self, op.touches? = some self → i ≠ self := fun self htouch heq =>
    hi (heq ▸ hop.touched self htouch)
  obtain ⟨hrunning, hpid, hchildren, sent, hsignals, hspared⟩ := h
  cases op with
  | fork self =>
    change Unharmed i w (m.world.forked self (K.fork m self))
    unfold World.forked
    split
    · exact ⟨hrunning, hpid, hchildren, sent, hsignals, hspared⟩
    · refine ⟨hrunning, hpid, fun c hc => ?_, sent, hsignals, hspared⟩
      rw [← hchildren c hc, List.mem_cons, or_iff_right]
      intro heq
      rw [heq] at hc
      exact hne self rfl hc.symm
  | kill self pid =>
    have hown := hop.own self pid (Or.inl rfl)
    change Unharmed i w (m.world.killed self pid (K.kill m pid))
    unfold World.killed
    split
    · refine ⟨hrunning, hpid, hchildren, ⟨pid, self⟩ :: sent, congrArg _ hsignals, ?_⟩
      intro s hs c hc hinst
      rcases List.mem_cons.mp hs with rfl | hs
      · intro heq
        exact hne self rfl
          (hinst.symm.trans (hown c ((hchildren c hinst).mpr hc) heq.symm))
      · exact hspared s hs c hc hinst
    · exact ⟨hrunning, hpid, hchildren, sent, hsignals, hspared⟩
  | waitpid self pid =>
    have hown := hop.own self pid (Or.inr rfl)
    change Unharmed i w (m.world.waited pid (K.waitpid m pid))
    cases K.waitpid m pid with
    | failed status => exact ⟨hrunning, hpid, hchildren, sent, hsignals, hspared⟩
    | reaped status =>
      refine ⟨hrunning, hpid, fun c hc => ?_, sent, hsignals, hspared⟩
      rw [← hchildren c hc]
      refine ⟨List.mem_of_mem_filter, fun hmem => List.mem_filter.mpr ⟨hmem, ?_⟩⟩
      exact decide_eq_true fun heq => hne self rfl (hc.symm.trans (hown c hmem heq))
  | writePid self pid =>
    refine ⟨hrunning, ?_, hchildren, sent, hsignals, hspared⟩
    exact (Function.update_of_ne (hne self rfl) ..).trans hpid
  | writeRunning self running =>
    refine ⟨?_, hpid, hchildren, sent, hsignals, hspared⟩
    exact (Function.update_of_ne (hne self rfl) ..).trans hrunning
  | newInstance args confs => exact absurd hop.lasting id
  | _ => exact ⟨hrunning, hpid, hchildren, sent, hsignals, hspared⟩

-- A program whose calls touch other instances leaves this one unharmed at every point.
theorem unharmed_of_touches {α : Type} {p : Harness α}
    (hcalls : Always K.step (Touches T) p m)
    (hi : ¬ T i) : ∀ m' ∈ p.visits K.step m, Unharmed i m.world m'.world := by
  have hkeeps := hcalls.keeps (I := fun m' : Machine => Unharmed i m.world m'.world)
    (fun m' op hm' hop => hm'.step K hop hi) (Unharmed.refl i m.world)
  exact forall_visits hkeeps.1 hkeeps.2

end

/-! ## The methods -/

section

variable (K : Kernel) {T : Inst → Prop} {m : Machine} {self : Inst}

theorem Sys.Quiet.touches (op : Sys) (hop : op.Quiet) (hlasting : op.Lasting) (m : Machine) :
    Touches T m op where
  touched i hi := by
    cases op <;> first
      | exact absurd hop id
      | cases hi
  own self pid h := by rcases h with rfl | rfl <;> exact absurd hop id
  lasting := hlasting

theorem Sys.Watches.touches (op : Sys) (hop : op.Watches) (m : Machine) : Touches T m op := by
  have hquiet : op.Quiet ∧ op.Lasting := by
    cases op <;> first
      | exact ⟨trivial, trivial⟩
      | exact absurd hop id
  exact Sys.Quiet.touches op hquiet.1 hquiet.2 m

-- A call on an instance in `T`, which is no `kill` or `waitpid` or is aimed at its own child.
theorem Touches.of_self {op : Sys} (hself : T self) (htouch : op.touches? = some self)
    (hown : ∀ inst pid, op = .kill inst pid ∨ op = .waitpid inst pid →
      ∀ c ∈ m.world.children, c.pid = pid → c.inst = inst) : Touches T m op where
  touched i hi := by
    rw [← Option.some.inj (htouch.symm.trans hi)]
    exact hself
  own := hown
  lasting := by
    cases op <;> first
      | exact trivial
      | cases htouch

theorem touches_startInstance (hself : T self) (m : Machine) :
    Always K.step (Touches T) (startInstance self) m := by
  have hwrites : ∀ {m : Machine} {op : Sys}, op.touches? = some self →
      (∀ inst pid, op ≠ .kill inst pid ∧ op ≠ .waitpid inst pid) → Touches T m op :=
    fun htouch hop => Touches.of_self hself htouch fun inst pid h =>
      (h.elim (hop inst pid).1 (hop inst pid).2).elim
  refine Always.call (hwrites rfl fun _ _ => ⟨nofun, nofun⟩) ?_
  change Always K.step _ (afterFork self (K.fork m self)) (K.step m (.fork self)).2
  unfold afterFork
  rcases K.fork_pid m self with hfail | ⟨hpos, -⟩
  · rw [if_pos hfail]
    exact Always.ret _ _
  · -- the parent
    rw [if_neg (by omega), if_neg (by omega)]
    refine Always.call (hwrites rfl fun _ _ => ⟨nofun, nofun⟩) ?_
    exact Always.call (hwrites rfl fun _ _ => ⟨nofun, nofun⟩) (Always.ret _ _)

-- Only an instance's own child has the PID that it has recorded.
theorem PidsSound.inst_of_pid (h : PidsSound m.world) (hrun : m.world.running self = true)
    {c : Child} (hc : c ∈ m.world.children) (hpid : c.pid = m.world.pid self) : c.inst = self :=
  congrArg Child.inst (child_unique h.nodup hc (h.running self hrun) hpid)

theorem touches_killInstance (hself : T self) (h : PidsSound m.world) :
    Always K.step (Touches T) (killInstance self) m := by
  let m₁ := (K.step m (.readRunning self)).2
  let m₂ := (K.step m₁ (.readPid self)).2
  let m₃ := (K.step m₂ (.kill self (m.world.pid self))).2
  refine Always.call (Sys.Quiet.touches (.readRunning self) trivial trivial m) ?_
  change Always K.step _ (if m.world.running self = true then killRunning self else ret true) m₁
  by_cases hrun : m.world.running self = true
  · have hkilled : m₃.world.children = m.world.children ∧ m₃.world.pid = m.world.pid := by
      change (m.world.killed self (m.world.pid self) (K.kill m₂ (m.world.pid self))).children =
          _ ∧ (m.world.killed self (m.world.pid self) (K.kill m₂ (m.world.pid self))).pid = _
      unfold World.killed
      split <;> exact ⟨rfl, rfl⟩
    rw [if_pos hrun]
    refine Always.call (Sys.Quiet.touches (.readPid self) trivial trivial m₁) ?_
    refine Always.call (Touches.of_self hself rfl ?_) ?_
    · rintro inst pid (heq | heq) c hc hpid <;> cases heq
      exact h.inst_of_pid hrun hc hpid
    change Always K.step _ (if K.kill m₂ (m.world.pid self) = 0 then reap self else ret false) m₃
    split
    · -- SIGTERM has been sent
      refine Always.call (Sys.Quiet.touches (.readPid self) trivial trivial m₃) ?_
      refine Always.call (Touches.of_self hself rfl ?_) ?_
      · rintro inst pid (heq | heq) c hc hpid <;> cases heq
        change c ∈ m₃.world.children at hc
        change c.pid = m₃.world.pid self at hpid
        rw [hkilled.1] at hc
        rw [hkilled.2] at hpid
        exact h.inst_of_pid hrun hc hpid
      refine Always.call (Touches.of_self hself rfl ?_) (Always.ret _ _)
      rintro inst pid (heq | heq) <;> cases heq
    · exact Always.ret _ _
  · rw [if_neg hrun]
    exact Always.ret _ _

theorem touches_method (method : Method) (hself : T self) (h : PidsSound m.world) :
    Always K.step (Touches T) (method.body self) m := by
  cases method with
  | start => exact touches_startInstance K hself m
  | kill => exact touches_killInstance K hself h
  | restart =>
    refine Always.bind (touches_killInstance K hself h) ?_
    split
    · exact touches_startInstance K hself _
    · exact Always.ret _ _

theorem touches_callOnce {c : Method × Inst} (hself : T c.2) (h : PidsSound m.world)
    (hown : 0 < m.world.owners c.2) : Always K.step (Touches T) (callOnce c) m := by
  refine Always.bind (always_viaCopy K (fun m => ?_) (fun m => ?_) ?_ ?_ hown) (Always.ret _ _)
  · exact Sys.Quiet.touches (.addOwner c.2) trivial trivial m
  · exact Sys.Quiet.touches (.dropOwner c.2) trivial trivial m
  · exact touches_method K c.1 hself (h.addOwner K c.2)
  · exact (c.1.body_sameHeap K _ c.2).owners

end

/-! ## The tests -/

/-- Between two methods of the tests: the static pointers lead to the instances `insts`, and those
to the sites are as in `sites`. -/
structure Posted (f : Fixture) (insts : List Inst) (sites : SiteVar → Option Site) (w : World) :
    Prop where
  held : Held f insts w
  site : w.site = sites

/-- Every call touches instances in `T` alone, and the fixture is the same before and after. -/
abbrev KeepsPosted {α : Type} (K : Kernel) (f : Fixture) (insts : List Inst)
    (sites : SiteVar → Option Site) (T : Inst → Prop) (p : Harness α) : Prop :=
  Keeps K.step (fun m => Posted f insts sites m.world) (Touches T) p

section

variable (K : Kernel) {f : Fixture} {insts : List Inst} {sites : SiteVar → Option Site}
  {T : Inst → Prop}

theorem keepsPosted_callOnce {c : Method × Inst} (hc : c.2 ∈ insts) (hself : T c.2) :
    KeepsPosted K f insts sites T (callOnce c) where
  calls _ h := touches_callOnce K hself h.held.sound (h.held.owned c.2 hc)
  final m h := by
    refine ⟨(keepsHeld_callOnce K hc).final m h.held, ?_⟩
    rw [(statics_of_only (callOnce_keepsStatics c) K m).1]
    exact h.site

-- A call on a static site touches the instances that it is aimed at.
theorem keepsPosted_onSite {v : SiteVar} {c : SiteCall}
    (hc : ∀ s, sites v = some s → ∀ t ∈ s.targets c, T t.2) :
    KeepsPosted K f insts sites T (onSite v fun s => s.call c) := by
  have hwith : ∀ m : Machine, Posted f insts sites m.world →
      KeepsPosted K f insts sites T (withSite (fun s => s.call c) (m.world.site v)) := by
    intro m h
    cases hsite : m.world.site v with
    | none => exact Keeps.ret ()
    | some s =>
      change KeepsPosted K f insts sites T (s.call c)
      rw [s.call_eq_targets]
      refine Keeps.forEach fun t ht => keepsPosted_callOnce K ?_ ?_
      · exact h.held.mem_of_site hsite (Site.mem_instances_of_targets ht)
      · rw [h.site] at hsite
        exact hc s hsite t ht
  constructor
  · intro m h
    have hread : Posted f insts sites (K.step m (.readSite v)).2.world := h
    have hop : Touches T m (.readSite v) := Sys.Watches.touches (.readSite v) trivial m
    exact Always.call hop ((hwith m h).calls _ hread)
  · intro m h
    have hread : Posted f insts sites (K.step m (.readSite v)).2.world := h
    exact (hwith m h).final _ hread

theorem keepsPosted_waitFirst (role : Role) :
    KeepsPosted K f insts sites T (onSite .dbs fun dbs => dbs.waitFirst role) where
  calls _ h := h.held.always_waitFirst (fun m op hop => Sys.Watches.touches op hop m) K role
  final m h := by
    rw [world_of_waitFirst K h.held .dbs role]
    exact h

theorem keepsPosted_waitForInstances : KeepsPosted K f insts sites T f.waitForInstances where
  calls _ h := h.held.always_waitForInstances (fun m op hop => Sys.Watches.touches op hop m) K
  final m h := by
    rw [f.waitForInstances_eq, world_of_waitForAll K h.held]
    exact h

theorem keepsPosted_first {role : Role} (method : Method)
    (hrole : ∀ s, sites .dbs = some s → ∀ i, s.getFirst? role = some i → T i) :
    KeepsPosted K f insts sites T (onSite .dbs fun dbs => dbs.call (.first role method)) :=
  keepsPosted_onSite K fun s hsite t ht => hrole s hsite t.2 (method_of_first ht).2

theorem keepsPosted_bringUpFirst {role : Role} (method : Method)
    (hrole : ∀ s, sites .dbs = some s → ∀ i, s.getFirst? role = some i → T i) :
    KeepsPosted K f insts sites T (bringUpFirst role method) :=
  Keeps.bind (keepsPosted_first K method hrole) fun _ => keepsPosted_waitFirst K role

end

/-- The role of the instance that a scenario stops. -/
def Scenario.role? : Scenario → Option Role
  | noFailures => none
  | memcachedFails | memcachedRestarts | largeClusterMemcachedFails
  | largeClusterMemcachedRestarts => some .memcached
  | rogersFails | rogersRestarts | loneRogersRestarts => some .rogers

/-- That instance, if there is one. -/
def Scenario.victims (scenario : Scenario) (sites : SiteVar → Option Site) : List Inst :=
  scenario.role?.toList.flatMap fun role =>
    (sites .dbs).toList.flatMap fun dbs => (dbs.getFirst? role).toList

/-- The instances whose processes a test stops. -/
def TestCase.victims : (tc : TestCase) → tc.Test → (SiteVar → Option Site) → List Inst
  | memcachedSolutionFailure scenario, _ => scenario.victims
  | largerClustersMemcachedSolution _, .addGet => fun _ => []
  | largerClustersMemcachedSolution scenario, _ => scenario.victims
  | simpleS4Solution, .tracerBullet => fun sites => (sites .site1).toList.flatMap Site.instances
  | _, _ => fun _ => []

theorem Scenario.mem_victims {scenario : Scenario} {sites : SiteVar → Option Site} {role : Role}
    (hrole : scenario.role? = some role) {dbs : Site} (hdbs : sites .dbs = some dbs) {i : Inst}
    (hi : dbs.getFirst? role = some i) : i ∈ scenario.victims sites := by
  refine List.mem_flatMap.mpr ⟨role, Option.mem_toList.mpr hrole, ?_⟩
  exact List.mem_flatMap.mpr ⟨dbs, Option.mem_toList.mpr hdbs, Option.mem_toList.mpr hi⟩

section

variable (K : Kernel) {f : Fixture} {insts : List Inst} {sites : SiteVar → Option Site}
  {T : Inst → Prop}

theorem keepsPosted_failure {scenario : Scenario} (hT : ∀ i ∈ scenario.victims sites, T i) :
    KeepsPosted K f insts sites T
      (scenario.triggerFailure.bind fun _ => scenario.fixFailure) := by
  have hfirst : ∀ role, scenario.role? = some role →
      ∀ s, sites .dbs = some s → ∀ i, s.getFirst? role = some i → T i :=
    fun role hrole s hsite i hi => hT i (Scenario.mem_victims hrole hsite hi)
  cases scenario with
  | noFailures => exact Keeps.ret ()
  | memcachedFails | largeClusterMemcachedFails =>
    exact Keeps.bind (keepsPosted_first K .kill (hfirst .memcached rfl)) fun _ =>
      keepsPosted_bringUpFirst K .start (hfirst .memcached rfl)
  | rogersFails =>
    exact Keeps.bind (keepsPosted_first K .kill (hfirst .rogers rfl)) fun _ =>
      keepsPosted_bringUpFirst K .start (hfirst .rogers rfl)
  | memcachedRestarts | largeClusterMemcachedRestarts =>
    exact Keeps.bind (keepsPosted_bringUpFirst K .restart (hfirst .memcached rfl)) fun _ =>
      Keeps.ret ()
  | rogersRestarts | loneRogersRestarts =>
    exact Keeps.bind (keepsPosted_bringUpFirst K .restart (hfirst .rogers rfl)) fun _ =>
      Keeps.ret ()

theorem keepsPosted_body (tc : TestCase) (t : tc.Test) (hT : ∀ i ∈ tc.victims t sites, T i) :
    KeepsPosted K f insts sites T (tc.body t) := by
  cases tc with
  | simpleMemcachedSolution => exact Keeps.ret ()
  | memcachedSolutionThrash scenario => exact Keeps.ret ()
  | memcachedSolutionFailure scenario =>
    have hfailure : KeepsPosted K f insts sites T
        (scenario.triggerFailure.bind fun _ => scenario.fixFailure) :=
      keepsPosted_failure K hT
    cases t with
    | addKillSetSetDataContentionSet => exact Keeps.forEach fun _ _ => hfailure
    | _ => exact hfailure
  | largerClustersMemcachedSolution scenario =>
    cases t with
    | addGet => exact Keeps.ret ()
    | _ => exact keepsPosted_failure K hT
  | simpleS4Solution =>
    cases t with
    | timerTracerBullet => exact Keeps.ret ()
    | tracerBullet =>
      refine keepsPosted_onSite K (v := .site1) (c := .all .kill) fun s hsite t ht => hT t.2 ?_
      exact List.mem_flatMap.mpr
        ⟨s, Option.mem_toList.mpr hsite, Site.mem_instances_of_targets ht⟩

theorem keepsPosted_runTest (tc : TestCase) (t : tc.Test)
    (hT : ∀ i ∈ tc.victims t sites, T i) :
    KeepsPosted K tc.setUp.fixture insts sites T (tc.runTest t) :=
  Keeps.bind (keepsPosted_waitForInstances K) fun _ => keepsPosted_body K tc t hT

end

/-! ## Whole runs of the tests -/

/-- The instance is recorded as running, and the process on record is there and alive. -/
structure Up (i : Inst) (m : Machine) : Prop where
  running : m.world.running i = true
  child : ⟨m.world.pid i, i⟩ ∈ m.world.children
  alive : m.world.pid i ∉ m.dead

-- After the set-up, the tests touch only the instances that they stop.
theorem touches_tests (K : Kernel) (tc : TestCase) {ts : List tc.Test} {m : Machine}
    (h : Kept tc.setUp.fixture m) {T : Inst → Prop}
    (hT : ∀ t ∈ ts, ∀ i ∈ tc.victims t m.world.site, T i) :
    Always K.step (Touches T) (forEach ts tc.runTest) m := by
  obtain ⟨insts, hheld⟩ := h
  have htests : KeepsPosted K tc.setUp.fixture insts m.world.site T (forEach ts tc.runTest) :=
    Keeps.forEach fun t ht => keepsPosted_runTest K tc t (hT t ht)
  exact htests.calls m ⟨hheld, rfl⟩

theorem touches_others (K : Kernel) (tc : TestCase) {ts : List tc.Test} {m : Machine}
    (h : Kept tc.setUp.fixture m) {i : Inst} (hi : ∀ t ∈ ts, i ∉ tc.victims t m.world.site) :
    Always K.step (Touches fun j => j ≠ i) (forEach ts tc.runTest) m :=
  touches_tests K tc h fun t ht _ hj heq => hi t ht (heq ▸ hj)

/-- However `fork`, `kill` and `waitpid` turn out, and however the tests are chosen and ordered, at
every point of them each instance that none of them stops has the processes that the set-up left it
with, and none of these has been signalled. -/
theorem tests_confine_failures (K : Kernel) (tc : TestCase) (ts : List tc.Test)
    (pid : Inst → Int) (files : Paths.FileTree) (cwd : Paths.Path) (noisy : Option String) :
    let m₀ := (K.run tc.setUp.program (Machine.initial pid files cwd noisy)).2
    ∀ i, (∀ t ∈ ts, i ∉ tc.victims t m₀.world.site) →
      ∀ m ∈ (forEach ts tc.runTest).visits K.step m₀, Unharmed i m₀.world m.world := by
  intro m₀ i hi
  have hkept : Kept tc.setUp.fixture m₀ := (leadsTo_setUp K tc.setUp).final _
    (vacant_initial tc.setUp.fixture pid files cwd noisy)
  exact unharmed_of_touches K (touches_others K tc hkept hi) fun hne => hne rfl

/-- The failing memcached is the second of the two: the first is spared. -/
theorem tests_confine_failures_first :
    let tc := TestCase.memcachedSolutionFailure .memcachedFails
    let m₀ := (Kernel.obliging.run tc.setUp.program
      (Machine.initial (fun _ => 0) (fun _ => none) [] none)).2
    Unharmed 0 m₀.world (Kernel.obliging.run
      (forEach [MemcachedSolutionFailureTest.killAddGet, .addKillSetSetDataContentionSet]
        tc.runTest) m₀).2.world :=
  tests_confine_failures Kernel.obliging (.memcachedSolutionFailure .memcachedFails) _ _ _ _ _ 0
    (fun _ _ => by
      change 0 ∉ Scenario.memcachedFails.victims _
      decide) _ (List.mem_append_right _ List.mem_cons_self)

/-- On a kernel on which nothing fails, each instance of the deployment that no test stops runs at
every point of the tests. -/
theorem tests_leave_others_up (K : BenignKernel) (tc : TestCase) (ts : List tc.Test)
    (pid : Inst → Int) (files : Paths.FileTree) (cwd : Paths.Path) (noisy : Option String) :
    let m₀ := (K.run tc.setUp.program (Machine.initial pid files cwd noisy)).2
    ∀ i ∈ m₀.world.published tc.setUp.fixture, (∀ t ∈ ts, i ∉ tc.victims t m₀.world.site) →
      ∀ m ∈ (forEach ts tc.runTest).visits K.step m₀, Up i m := by
  intro m₀ i hmem hi
  obtain ⟨p, hserving, -⟩ := (setUpDone_program K tc.setUp).final _
    (settingUp_initial tc.setUp.fixture pid files cwd noisy)
  have hrun : m₀.world.running i = true := hserving.running i hmem List.not_mem_nil
  have hcalls := touches_others K.toKernel tc hserving.held hi
  have hdead := hcalls.keeps (I := fun m : Machine => m.dead = [])
    (fun m op hm _ => K.step_dead hm op) hserving.dead
  obtain ⟨insts, hheld⟩ := hserving.held
  have hchild : ⟨m₀.world.pid i, i⟩ ∈ m₀.world.children := hheld.sound.running i hrun
  intro m hm
  have hunharmed := unharmed_of_touches K.toKernel hcalls (fun hne => hne rfl) m hm
  refine ⟨hunharmed.running.trans hrun, ?_, ?_⟩
  · rw [hunharmed.pid]
    exact (hunharmed.children _ rfl).mpr hchild
  · rw [forall_visits hdead.1 hdead.2 m hm]
    exact List.not_mem_nil

/-- While the tests kill the second memcached, the dnsmasq server stays up. -/
theorem tests_leave_others_up_dnsmasq :
    let tc := TestCase.memcachedSolutionFailure .memcachedFails
    let m₀ := (obligingBenign.run tc.setUp.program
      (Machine.initial (fun _ => 0) (fun _ => none) [] none)).2
    Up 4 (obligingBenign.run
      (forEach [MemcachedSolutionFailureTest.killAddGet] tc.runTest) m₀).2 :=
  tests_leave_others_up obligingBenign (.memcachedSolutionFailure .memcachedFails) _ _ _ _ _ 4
    (by decide) (fun _ _ => by
      change 4 ∉ Scenario.memcachedFails.victims _
      decide) _ (List.mem_append_right _ List.mem_cons_self)

end ClearwaterFv
