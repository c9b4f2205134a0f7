import ClearwaterFv.TearDown

/-!
# TestProgram — all test cases, one after the other

`RUN_ALL_TESTS` runs each test case from its `SetUpTestCase` to its `TearDownTestCase`, and the DNS
test, which has a dnsmasq instance of its own.  However the test cases and their tests are chosen
and ordered, no two servers ever share an address, and at the end nothing is left behind.
-/

open Reasoning Reasoning.Paths Reasoning.Prog

namespace ClearwaterFv

/-- `DNSTest.BasicQuery`, as far as the deployment goes: an instance on the stack, destroyed at
the end of the test also when the assertion in it fails. -/
def DNSTest.basicQuery : Harness Unit := do
  let server ← newDnsmasqInstance "127.0.0.201" 5353
    (OrderedMap.empty.insert "test.query" ["1.2.3.4", "5.6.7.8"])
  let _ ← startInstance server
  let _ ← waitForInstance server
  destroyInstance server

/-- A test case with those of its tests that are run, in their order. -/
inductive Suite where
  | fixture (tc : TestCase) (tests : List tc.Test)
  | dns (runs : Nat)

def Suite.body : Suite → Harness Unit
  | fixture tc tests => do
    tc.runTests tests
    tc.setUp.fixture.tearDownTestCase
  | dns runs => forEach (List.range runs) fun _ => DNSTest.basicQuery

/-- The paths that the tests may write. -/
def Footprint (cwd q : Path) : Prop := (fixtureArea cwd).inside q ∨ (dnsTestArea cwd).inside q

/-- A call that assigns no static pointer and registers no handler. -/
def Sys.KeepsGlobals : Sys → Prop
  | .swapSite .. | .swapDnsmasq .. | .signal .. => False
  | _ => True

theorem globals_of_only {α : Type} {p : Harness α} (hp : Only Sys.KeepsGlobals p) (K : Kernel)
    (m : Machine) :
    (K.run p m).2.world.site = m.world.site ∧ (K.run p m).2.world.dnsmasq = m.world.dnsmasq ∧
      (K.run p m).2.world.handler = m.world.handler := by
  refine hp.run_inv (I := fun m' : Machine => m'.world.site = m.world.site ∧
    m'.world.dnsmasq = m.world.dnsmasq ∧ m'.world.handler = m.world.handler)
    (fun m' op hop hm' => ?_) ⟨rfl, rfl, rfl⟩
  have hstatics : op.KeepsStatics := by
    cases op <;> first | exact trivial | exact absurd hop id
  obtain ⟨hsite, hdnsmasq⟩ := hstatics.step K m'
  refine ⟨hsite.trans hm'.1, hdnsmasq.trans hm'.2.1, Eq.trans ?_ hm'.2.2⟩
  cases op with
  | signal sig handler => exact absurd hop id
  | fork self =>
    change (m'.world.forked self (K.fork m' self)).handler = _
    unfold World.forked
    split <;> rfl
  | kill self pid =>
    change (m'.world.killed self pid (K.kill m' pid)).handler = _
    unfold World.killed
    split <;> rfl
  | waitpid self pid =>
    change (m'.world.waited pid (K.waitpid m' pid)).handler = _
    cases K.waitpid m' pid <;> rfl
  | _ => rfl

theorem basicQuery_keepsGlobals : Only Sys.KeepsGlobals DNSTest.basicQuery := by
  have hkill : ∀ i, Only Sys.KeepsGlobals (killInstance i) := fun i =>
    (killInstance_only i).mono fun op hop => by
      cases op <;> first | exact trivial | exact absurd hop id
  have hremove : ∀ args, Only Sys.KeepsGlobals (removeFiles args) := fun args =>
    (removeFiles_only args).mono fun op hop => by
      cases op <;> first | exact trivial | exact absurd hop id
  refine Only.bind ((newDnsmasqInstance_only _ _ _).mono fun op hop => ?_) fun server => ?_
  · cases op <;> first | exact trivial | exact absurd hop id
  refine Only.bind ((startInstance_only server).mono fun op hop => ?_) fun _ => ?_
  · cases op <;> first | exact trivial | exact absurd hop id
  refine Only.bind ((waitForInstance_only server).mono fun op hop => ?_) fun _ => ?_
  · cases op <;> first | exact trivial | exact absurd hop id
  refine Only.bind (Only.perform trivial) fun args => ?_
  exact Only.bind (hremove args) fun _ => Only.bind (hkill server) fun _ => Only.perform trivial

section

variable (H : CleanKernel) {cwd : Path}

theorem basicQuery_atRest {m : Machine} (h : AtRest cwd m.world) :
    Always H.step (Guarded (dnsTestArea cwd)) DNSTest.basicQuery m ∧
      AtRest cwd (H.run DNSTest.basicQuery m).2.world ∧
      (H.run DNSTest.basicQuery m).2.world.files (resolve cwd dnsTestCfgfile) = none := by
  let records : OrderedMap String (List String) :=
    OrderedMap.empty.insert "test.query" ["1.2.3.4", "5.6.7.8"]
  let new := H.run (newDnsmasqInstance "127.0.0.201" 5353 records) m
  let m₁ := (H.run (startInstance new.1) new.2).2
  let m₂ := (H.run (waitForInstance new.1) m₁).2
  have hconfined : Only (Sys.Confined (dnsTestArea cwd))
      (newDnsmasqInstance "127.0.0.201" 5353 records) := newDnsmasqInstance_confined rfl
  have honly := newDnsmasqInstance_only "127.0.0.201" 5353 records
  have hcreates := newDnsmasqInstance_creates H.toKernel "127.0.0.201" 5353 records m
  obtain ⟨hobject, -, hstopped, -⟩ := hcreates.new _ List.mem_cons_self
  have hfleet : Fleet (dnsTestArea cwd) [] m.world := h.toCleared.fleet h.cwd_eq
  have h₀ : Fleet (dnsTestArea cwd) [new.1] new.2.world := by
    refine hfleet.creates H.toKernel honly hcreates (List.nodup_singleton _) fun o ho => ?_
    rw [List.mem_singleton.mp ho]
    exact Only.perform rfl
  obtain ⟨hstart, h₁⟩ := h₀.startInstance H.toKernel List.mem_cons_self hstopped
  have hsame : m₂.world = m₁.world := world_of_waits (waitForInstance_only new.1) H.toKernel m₁
  have h₂ : Fleet (dnsTestArea cwd) [new.1] m₂.world := by
    rw [hsame]
    exact h₁
  have hobject₂ : m₂.world.objects new.1 = some (dnsmasqArgs "127.0.0.201" 5353) := by
    rw [hsame, (startInstance_sameHeap H.toKernel new.2 new.1).objects]
    exact hobject
  obtain ⟨hdestroy, h₃⟩ := h₂.destroyInstance H List.mem_cons_self
  have hrun : (H.run DNSTest.basicQuery m).2 = (H.run (destroyInstance new.1) m₂).2 := by
    unfold DNSTest.basicQuery
    simp only [bind_eq_bind, Kernel.run, run_bind]
    rfl
  obtain ⟨hsite, hdnsmasq, hhandler⟩ := globals_of_only basicQuery_keepsGlobals H.toKernel m
  rw [List.erase_cons_head] at h₃
  rw [hrun] at hsite hdnsmasq hhandler ⊢
  refine ⟨?_, ⟨h₃.cleared (fun v => ?_) (fun f => ?_) fun sig => ?_, h₃.cwd⟩, ?_⟩
  · refine Always.bind (hfleet.constructs H.toKernel (honly.and hconfined)) ?_
    have hwait : Always H.step (Guarded (dnsTestArea cwd)) (waitForInstance new.1) m₁ :=
      always_waitForInstance (fun m _ hop => hop.guarded m) H.toKernel new.1 m₁
    refine Always.bind hstart (Always.bind hwait ?_)
    exact hdestroy
  · rw [hsite]
    exact h.site v
  · rw [hdnsmasq]
    exact h.dnsmasq f
  · rw [hhandler]
    exact h.handler sig
  · have hcwd : m₂.world.cwd = cwd := h₂.cwd
    rw [files_destroyInstance_dnsmasq H.toKernel m₂ hobject₂, hcwd]
    exact Function.update_self ..

end

/-! ## All tests -/

section

variable (H : CleanKernel) {cwd : Path}

/-- Between two test cases; of the files, some in the footprint may be gone. -/
structure Resting (cwd : Path) (files : FileTree) (w : World) : Prop extends AtRest cwd w where
  files : ∀ q, w.files q = files q ∨ Footprint cwd q ∧ w.files q = none

/-- What holds at every point of a run of the tests. -/
structure Orderly (cwd : Path) (files : FileTree) (m : Machine) : Prop where
  servers : OneServerPerAddress m.world
  outside : ∀ q, ¬ Footprint cwd q → m.world.files q = files q

variable {files : FileTree}

theorem Resting.orderly {m : Machine} (h : Resting cwd files m.world) :
    Orderly cwd files m where
  servers := by
    have hnil := h.children
    refine ⟨fun c hc => ?_, ?_⟩
    · rw [hnil] at hc
      cases hc
    · rw [hnil]
      exact List.nodup_nil
  outside q hq := (h.files q).resolve_right fun hin => hq hin.1

-- A part of the tests that is guarded, and leaves none of the files in its area.
theorem Resting.part {area : Area} {p : Harness Unit} {m : Machine} (h : Resting cwd files m.world)
    (hcwd : area.cwd = cwd) (harea : ∀ q, area.inside q → Footprint cwd q)
    (hguarded : Always H.step (Guarded area) p m) (hrest : AtRest cwd (H.run p m).2.world)
    (hgone : ∀ q, area.inside q → (H.run p m).2.world.files q = none) :
    Always H.step (fun m _ => Orderly cwd files m) p m ∧
      Resting cwd files (H.run p m).2.world := by
  have hkeeps := hguarded.keeps
    (I := fun m' => OneServerPerAddress m'.world ∧ SameOutside area m.world.files m')
    (fun m' op hm' hop => ⟨hm'.1.step H.toKernel hop, hm'.2.step H.toKernel hop.confined⟩)
    ⟨h.orderly.servers, h.cwd_eq.trans hcwd.symm, fun _ _ => rfl⟩
  obtain ⟨hpoints, -, -, houtside⟩ := hkeeps
  refine ⟨hpoints.mono fun m' _ hm' => ⟨hm'.1, fun q hq => ?_⟩, hrest, fun q => ?_⟩
  · rw [hm'.2.2 q fun hin => hq (harea q hin)]
    exact h.orderly.outside q hq
  · by_cases hin : area.inside q
    · exact Or.inr ⟨harea q hin, hgone q hin⟩
    · rw [houtside q hin]
      exact h.files q

theorem Resting.fixture {m : Machine} (h : Resting cwd files m.world) (tc : TestCase)
    (tests : List tc.Test) :
    Always H.step (fun m _ => Orderly cwd files m) (Suite.fixture tc tests).body m ∧
      Resting cwd files (H.run (Suite.fixture tc tests).body m).2.world := by
  let f := tc.setUp.fixture
  let m₁ := (H.run tc.setUp.program m).2
  let m₂ := (H.run (forEach tests tc.runTest) m₁).2
  have hbuilding : Building (fixtureArea cwd) f f.sites [] m.world :=
    h.toCleared.building h.cwd_eq f
  have hsetUp := leadsGuarded_setUp H cwd tc.setUp
  obtain ⟨d, h₁⟩ := hsetUp.final m hbuilding
  have htests : KeepsStanding H (fixtureArea cwd) f (some d) (forEach tests tc.runTest) :=
    Keeps.forEach fun t _ => keepsStanding_runTest H tc t
  have h₂ : Standing (fixtureArea cwd) f (some d) m₂.world := htests.final m₁ h₁
  obtain ⟨htearDown, hrest, hgone⟩ := h₂.tearDown H
  have hbody : (Suite.fixture tc tests).body = tc.setUp.program.bind fun _ =>
      (forEach tests tc.runTest).bind fun _ => f.tearDownTestCase := by
    simp only [Suite.body, TestCase.runTests, bind_eq_bind, bind_assoc]
    rfl
  have hrun : H.run (Suite.fixture tc tests).body m = H.run f.tearDownTestCase m₂ := by
    rw [hbody]
    simp only [Kernel.run, run_bind]
    rfl
  refine h.part H rfl (fun q hq => Or.inl hq) ?_ ?_ ?_
  · rw [hbody]
    exact Always.bind (hsetUp.calls m hbuilding) (Always.bind (htests.calls m₁ h₁) htearDown)
  · rw [hrun]
    exact hrest
  · rw [hrun]
    exact hgone

theorem Resting.basicQuery {m : Machine} (h : Resting cwd files m.world) :
    Always H.step (fun m _ => Orderly cwd files m) DNSTest.basicQuery m ∧
      Resting cwd files (H.run DNSTest.basicQuery m).2.world := by
  obtain ⟨hguarded, hrest, hgone⟩ := basicQuery_atRest H h.toAtRest
  refine h.part H rfl (fun q hq => Or.inr hq) hguarded hrest fun q hq => ?_
  rw [hq]
  exact hgone

end

end ClearwaterFv
