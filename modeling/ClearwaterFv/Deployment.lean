import ClearwaterFv.Await
import ClearwaterFv.Scenarios

/-!
# Deployment — which instances run, test after test

When every call of the operating system succeeds and no process dies by itself, the only thing
about the processes that a test can change is which of them run: `_running` follows the last
method called on the instance.
-/

open Reasoning Reasoning.Prog

namespace ClearwaterFv

/-- A kernel on which every fork, kill and wait succeeds, nothing dies by itself, and an instance
with a live process can be connected to: `getaddrinfo` gives a list, there is a socket, and the
`connect` succeeds. -/
structure BenignKernel extends CleanKernel where
  forks : ∀ m self, fork m self ≠ -1
  alive : ∀ m, deaths m = []
  addresses : ∀ m self, (getaddrinfo m self).isSome = true
  sockets : ∀ m, socket m ≠ -1
  connects : ∀ m self, (∃ c ∈ m.world.children, c.inst = self ∧ c.pid ∉ m.dead) →
    connect m self = 0

/-- Whether an instance runs after the method. -/
def Method.runs : Method → Bool
  | .kill => false
  | _ => true

section

variable (K : BenignKernel)

theorem BenignKernel.step_dead {m : Machine} (hdead : m.dead = []) (op : Sys) :
    (K.step m op).2.dead = [] := by
  change (K.deaths m ++ m.dead).filter _ = []
  rw [K.alive, hdead]
  rfl

theorem BenignKernel.run_dead {α : Type} (p : Harness α) {m : Machine} (hdead : m.dead = []) :
    (K.run p m).2.dead = [] :=
  run_inv (I := fun m : Machine => m.dead = []) (fun _ op hm => K.step_dead hm op) p hdead

/-! ## One method -/

theorem BenignKernel.running_startInstance (m : Machine) (self : Inst) :
    (K.run (startInstance self) m).2.world.running =
      Function.update m.world.running self true := by
  rcases startInstance_cases K.toKernel m self with ⟨hfail, -, -⟩ | ⟨pid, -, -, -, -, hw⟩
  · exact absurd hfail (K.forks m self)
  · rw [hw]
    rfl

theorem BenignKernel.running_killInstance {m : Machine} (h : PidsSound m.world) (self : Inst) :
    (K.run (killInstance self) m).1 = true ∧
      (K.run (killInstance self) m).2.world.running =
        Function.update m.world.running self false := by
  rcases killInstance_cases K.toKernel m self with ⟨hidle, hvalue, hw⟩ | ⟨-, ⟨m', hkill⟩, -⟩ |
    ⟨hrun, m', status, exited, hwait, hchildren, -, -⟩ | ⟨-, -, hvalue, hw⟩
  · refine ⟨hvalue, ?_⟩
    rw [hw, ← hidle, Function.update_eq_self]
  · exact absurd (K.kills m' _) hkill
  · have hmem : m.world.pid self ∈ m'.world.unreaped := by
      rw [World.unreaped, hchildren]
      exact mem_unreaped (h.running self hrun)
    obtain ⟨status', hreaped⟩ := K.reaps m' _ hmem
    rw [hwait] at hreaped
    cases hreaped
  · refine ⟨hvalue, ?_⟩
    rw [hw]
    rfl

theorem BenignKernel.running_method {m : Machine} (h : PidsSound m.world) (method : Method)
    (self : Inst) : (K.run (method.body self) m).2.world.running =
      Function.update m.world.running self method.runs := by
  cases method with
  | start => exact K.running_startInstance m self
  | kill => exact (K.running_killInstance h self).2
  | restart =>
    obtain ⟨hkilled, hrunning⟩ := K.running_killInstance h self
    rw [Method.body, run_restartInstance, if_pos hkilled, K.running_startInstance, hrunning,
      Function.update_idem]
    rfl

theorem BenignKernel.running_callOnce {m : Machine} (h : PidsSound m.world) (c : Method × Inst)
    (hown : 0 < m.world.owners c.2) : (K.run (callOnce c) m).2.world.running =
      Function.update m.world.running c.2 c.1.runs := by
  have hworld := run_callOnce K.toKernel m c.1 c.2 hown
  have hbody := K.running_method (h.addOwner K.toKernel c.2) c.1 c.2
  change (K.run (callOnce (c.1, c.2)) m).2.world.running = _
  rw [hworld]
  exact hbody

/-! ## Calls on sites -/

variable {f : Fixture} {insts : List Inst}

-- A method is called on some of the instances.
theorem BenignKernel.running_targets {method : Method} {targets : List Inst}
    (htargets : ∀ i ∈ targets, i ∈ insts) {m : Machine} (h : Held f insts m.world) (i : Inst) :
    (K.run (forEach (targets.map fun i => (method, i)) callOnce) m).2.world.running i =
      if i ∈ targets then method.runs else m.world.running i := by
  induction targets generalizing m with
  | nil => rfl
  | cons j targets ih =>
    have hj : j ∈ insts := htargets j List.mem_cons_self
    let m₁ := (K.run (callOnce (method, j)) m).2
    have h₁ : Held f insts m₁.world :=
      (keepsHeld_callOnce K.toKernel (c := (method, j)) hj).final m h
    have hfirst : m₁.world.running = Function.update m.world.running j method.runs :=
      K.running_callOnce h.sound (method, j) (h.owned j hj)
    have hrest := ih (fun i hi => htargets i (List.mem_cons_of_mem _ hi)) h₁
    rw [List.map_cons, forEach_cons, Kernel.run, run_bind]
    refine hrest.trans ?_
    rw [hfirst]
    by_cases hi : i ∈ targets
    · rw [if_pos hi, if_pos (List.mem_cons_of_mem _ hi)]
    · rw [if_neg hi]
      by_cases hij : i = j
      · rw [hij, Function.update_self, if_pos List.mem_cons_self]
      · have hnot : i ∉ j :: targets := fun hmem =>
          hi ((List.mem_cons.mp hmem).resolve_left hij)
        rw [Function.update_of_ne hij, if_neg hnot]

-- A method is called through a static pointer on some of the instances of its site.
theorem BenignKernel.running_onSite {v : SiteVar} {site : Site} {m : Machine}
    (h : Held f insts m.world) (hsite : m.world.site v = some site) (c : SiteCall)
    (method : Method) (targets : List Inst)
    (hc : site.targets c = targets.map fun i => (method, i)) (i : Inst) :
    (K.run (onSite v fun s => s.call c) m).2.world.running i =
      if i ∈ targets then method.runs else m.world.running i := by
  have hread : Held f insts (K.step m (.readSite v)).2.world := h
  have htargets : ∀ i ∈ targets, i ∈ insts := by
    intro i hi
    have hmem : (method, i) ∈ site.targets c := by
      rw [hc]
      exact List.mem_map_of_mem hi
    exact h.mem_of_site hsite (Site.mem_instances_of_targets hmem)
  have hrun : K.run (onSite v fun s => s.call c) m =
      K.run (withSite (fun s => s.call c) (m.world.site v)) (K.step m (.readSite v)).2 := rfl
  rw [hrun, hsite]
  change (K.run (site.call c) (K.step m (.readSite v)).2).2.world.running i = _
  rw [site.call_eq_targets, hc]
  exact K.running_targets htargets hread i

-- A site that has been created and started runs, and nothing else has changed.
theorem BenignKernel.running_createAndStartSite {v : SiteVar} (hv : v ∈ f.sites) (args : SiteArgs)
    {m : Machine} (h : Held f insts m.world) (hvacant : m.world.site v = none) :
    (∀ i ∈ (K.run (newSite args) m).1.instances,
      (K.run (createAndStartSite v args) m).2.world.running i = true) ∧
    ∀ i ∈ insts,
      (K.run (createAndStartSite v args) m).2.world.running i = m.world.running i := by
  obtain ⟨objs, hcreates, hinst, -⟩ := newSite_creates K.toKernel args m
  have h₁ : Held f insts (K.run (newSite args) m).2.world :=
    (keepsHeld_constructs K.toKernel (newSite_only args)).final m h
  rw [run_createAndStartSite]
  generalize K.run (newSite args) m = built at *
  have hvacant₁ : built.2.world.site v = none := by
    rw [hcreates.site]
    exact hvacant
  let m₂ := (K.step built.2 (.swapSite v (some built.1))).2
  obtain ⟨insts', -, h₂⟩ := Held.putSite hv hvacant h hcreates h₁ hinst
  have hsite : m₂.world.site v = some built.1 := Function.update_self _ _ _
  rw [(run_assignSite_vacant K.toKernel hvacant₁ (some built.1)).1]
  have hstart := K.running_onSite (m := m₂) h₂ hsite (.all .start) .start built.1.instances rfl
  constructor
  · intro i hi
    exact (hstart i).trans (if_pos hi)
  · intro i hi
    have hlow := h.old i hi
    have hnew : i ∉ built.1.instances := by
      rw [← hinst, hcreates.insts, List.mem_range'_1]
      exact fun hmem => absurd hlow (Nat.not_lt.mpr hmem.1)
    obtain ⟨-, -, hrunning, -⟩ := hcreates.old i hlow
    exact ((hstart i).trans (if_neg hnew)).trans hrunning

-- So with the dnsmasq instance.
theorem BenignKernel.running_createAndStartDnsFor (aRecords : OrderedMap String (List String))
    {m : Machine} (h : Held f insts m.world) (hvacant : m.world.dnsmasq f = none) :
    (K.run (createAndStartDnsFor f aRecords) m).2.world.running
        (K.run (newDnsmasqInstance "127.0.0.1" 5353 aRecords) m).1 = true ∧
    ∀ i ∈ insts,
      (K.run (createAndStartDnsFor f aRecords) m).2.world.running i = m.world.running i := by
  have hcreates := newDnsmasqInstance_creates K.toKernel "127.0.0.1" 5353 aRecords m
  rw [run_createAndStartDnsFor]
  generalize K.run (newDnsmasqInstance "127.0.0.1" 5353 aRecords) m = built at *
  have hvacant₁ : built.2.world.dnsmasq f = none := by
    rw [hcreates.dnsmasq]
    exact hvacant
  let m₂ := (K.step built.2 (.swapDnsmasq f (some built.1))).2
  have hdnsmasq : m₂.world.dnsmasq f = some built.1 := Function.update_self _ _ _
  rw [(run_assignDnsmasq_vacant K.toKernel hvacant₁ (some built.1)).1]
  have hstart : (K.run (startDnsmasq f) m₂).2.world.running =
      Function.update m₂.world.running built.1 true := by
    have hrun : K.run (startDnsmasq f) m₂ =
        K.run (startIfAny (m₂.world.dnsmasq f)) (K.step m₂ (.readDnsmasq f)).2 := rfl
    rw [hrun, hdnsmasq, startIfAny, bind_eq_bind, Kernel.run, run_bind]
    exact K.running_startInstance _ built.1
  refine ⟨(congrFun hstart _).trans (Function.update_self _ _ _), fun i hi => ?_⟩
  have hlow := h.old i hi
  have hne : i ≠ built.1 := by
    have hhigh := (hcreates.inst_lt List.mem_cons_self).1
    exact Nat.ne_of_lt (Nat.lt_of_lt_of_le hlow hhigh)
  obtain ⟨-, -, hrunning, -⟩ := hcreates.old i hlow
  exact ((congrFun hstart i).trans (Function.update_of_ne hne _ _)).trans hrunning

/-! ## Waiting -/

/-- The calls of `wait_for_instance`. -/
def Sys.Waits : Sys → Prop
  | .getaddrinfo _ | .socket _ | .connect .. | .sleep _ | .close _ | .freeaddrinfo _ => True
  | _ => False

theorem connectLoop_only (self : Inst) (sockfd : Int) (res : Option AddrInfo) (attempts : Nat) :
    Only Sys.Waits (connectLoop self sockfd res attempts) :=
  (connectLoop_attempts self sockfd res attempts).mono fun op hop => by
    cases op <;> first | exact trivial | exact absurd hop id

theorem waitForInstance_only (self : Inst) : Only Sys.Waits (waitForInstance self) := by
  refine Only.bind (Only.perform trivial) fun res => ?_
  refine Only.bind (Only.perform trivial) fun sockfd => ?_
  by_cases hfail : sockfd = -1
  · rw [if_pos hfail]
    exact Only.ret _
  · rw [if_neg hfail]
    refine Only.bind (Only.perform trivial) fun _ => ?_
    refine Only.bind (connectLoop_only self sockfd res 5) fun connected => ?_
    refine Only.bind (Only.perform trivial) fun _ => ?_
    exact Only.bind (Only.perform trivial) fun _ => Only.ret _

-- Waiting changes nothing in the harness.
theorem world_of_waits {α : Type} {p : Harness α} (hp : Only Sys.Waits p) (K : Kernel)
    (m : Machine) : (K.run p m).2.world = m.world := by
  refine hp.run_inv (I := fun m' : Machine => m'.world = m.world) (fun m' op hop hw => ?_) rfl
  rw [← hw]
  cases op <;> first | rfl | exact absurd hop id

-- An instance that is running has a live process.
theorem exists_live_child {m : Machine} (h : PidsSound m.world) (hdead : m.dead = []) {i : Inst}
    (hrun : m.world.running i = true) :
    ∃ c ∈ m.world.children, c.inst = i ∧ c.pid ∉ m.dead := by
  refine ⟨⟨m.world.pid i, i⟩, h.running i hrun, rfl, ?_⟩
  rw [hdead]
  exact List.not_mem_nil

-- The first attempt to connect succeeds.
theorem BenignKernel.waitForInstance_eq_true {m : Machine} (h : PidsSound m.world)
    (hdead : m.dead = []) {i : Inst} (hrun : m.world.running i = true) :
    (K.run (waitForInstance i) m).1 = true := by
  let atLoop := K.atLoop m i
  have hdeadLoop : atLoop.dead = [] :=
    K.step_dead (K.step_dead (K.step_dead hdead _) _) _
  have hlive : ∃ c ∈ atLoop.world.children, c.inst = i ∧ c.pid ∉ atLoop.dead :=
    exists_live_child (m := atLoop) h hdeadLoop hrun
  obtain ⟨_, _, _, -, hresult⟩ := waitForInstance_socket (K.sockets (K.atSocket m i))
  rw [hresult]
  exact (trace_connectLoop_connected _ _ 4 (K.connects atLoop i hlive)).2

-- Waiting through a temporary `shared_ptr`.
theorem run_waitCopy (K : Kernel) {m : Machine} {i : Inst} (hown : 0 < m.world.owners i) :
    (K.run (viaCopy i (waitForInstance i)) m).1 =
        (K.run (waitForInstance i) (K.step m (.addOwner i)).2).1 ∧
      (K.run (viaCopy i (waitForInstance i)) m).2.world = m.world := by
  have hkeep : ∀ m', (K.run (waitForInstance i) m').2.world.owners = m'.world.owners :=
    fun m' => congrArg World.owners (world_of_waits (waitForInstance_only i) K m')
  obtain ⟨hvalue, hworld⟩ := run_viaCopy K m i (waitForInstance i) hown hkeep
  refine ⟨hvalue, ?_⟩
  rw [hworld, world_of_waits (waitForInstance_only i) K]
  rfl

theorem run_waitLoop_cons (K : Kernel) (i : Inst) (rest : List Inst) (ok : Bool) (m : Machine) :
    K.run (Site.waitLoop (i :: rest) ok) m =
      K.run (Site.waitLoop rest
          (if (K.run (viaCopy i (waitForInstance i)) m).1 = true then ok else false))
        (K.run (viaCopy i (waitForInstance i)) m).2 := by
  rw [Site.waitLoop, bind_eq_bind, Kernel.run, run_bind]
  by_cases hup : ((viaCopy i (waitForInstance i)).run K.step m).1 = true
  · rw [if_pos hup, if_pos hup]
  · rw [if_neg hup, if_neg hup]

theorem world_of_waitLoop (K : Kernel) {targets : List Inst} (ok : Bool) {m : Machine}
    (hown : ∀ i ∈ targets, 0 < m.world.owners i) :
    (K.run (Site.waitLoop targets ok) m).2.world = m.world := by
  induction targets generalizing m ok with
  | nil => rfl
  | cons i rest ih =>
    have hfirst := (run_waitCopy K (hown i List.mem_cons_self)).2
    rw [run_waitLoop_cons]
    refine (ih _ fun j hj => ?_).trans hfirst
    rw [hfirst]
    exact hown j (List.mem_cons_of_mem _ hj)

-- Every instance of the list runs, and waiting for all of them succeeds.
theorem BenignKernel.waitLoop_eq_true {targets : List Inst} {m : Machine}
    (h : PidsSound m.world) (hdead : m.dead = []) (hown : ∀ i ∈ targets, 0 < m.world.owners i)
    (hrun : ∀ i ∈ targets, m.world.running i = true) :
    (K.run (Site.waitLoop targets true) m).1 = true := by
  induction targets generalizing m with
  | nil => rfl
  | cons i rest ih =>
    have hi : i ∈ i :: rest := List.mem_cons_self
    obtain ⟨hvalue, hworld⟩ := run_waitCopy K.toKernel (hown i hi)
    have hup : (K.run (viaCopy i (waitForInstance i)) m).1 = true := by
      rw [hvalue]
      exact K.waitForInstance_eq_true (h.addOwner K.toKernel i) (K.step_dead hdead _) (hrun i hi)
    rw [run_waitLoop_cons, if_pos hup]
    apply ih
    · rw [hworld]
      exact h
    · exact K.run_dead _ hdead
    · rw [hworld]
      exact fun j hj => hown j (List.mem_cons_of_mem _ hj)
    · rw [hworld]
      exact fun j hj => hrun j (List.mem_cons_of_mem _ hj)

theorem world_of_waitForDnsmasq (K : Kernel) (f : Fixture) (m : Machine) :
    (K.run (waitForDnsmasq f) m).2.world = m.world := by
  have hrun : K.run (waitForDnsmasq f) m =
      K.run (waitForDnsmasq? (m.world.dnsmasq f)) (K.step m (.readDnsmasq f)).2 := rfl
  rw [hrun]
  cases m.world.dnsmasq f with
  | none => rfl
  | some d => exact world_of_waits (waitForInstance_only d) K _

theorem world_of_waitForSite (K : Kernel) {m : Machine} (h : Held f insts m.world)
    (v : SiteVar) : (K.run (waitForSite v) m).2.world = m.world := by
  have hrun : K.run (waitForSite v) m =
      K.run (waitForSite? (m.world.site v)) (K.step m (.readSite v)).2 := rfl
  rw [hrun]
  cases hsite : m.world.site v with
  | none => rfl
  | some s =>
    exact world_of_waitLoop K true (m := (K.step m (.readSite v)).2)
      fun i hi => h.owned i (h.mem_of_site hsite hi)

theorem run_waitForAll_cons (K : Kernel) (f : Fixture) (v : SiteVar) (vs : List SiteVar)
    (m : Machine) : K.run (waitForAll f (v :: vs)) m =
      K.run (if !(K.run (waitForSite v) m).1 then ret false else waitForAll f vs)
        (K.run (waitForSite v) m).2 := by
  rw [waitForAll, bind_eq_bind, Kernel.run, run_bind]
  rfl

-- Waiting for all instances changes nothing in the harness.
theorem world_of_waitForAll (K : Kernel) {m : Machine} (h : Held f insts m.world)
    (vs : List SiteVar) : (K.run (waitForAll f vs) m).2.world = m.world := by
  induction vs generalizing m with
  | nil => exact world_of_waitForDnsmasq K f m
  | cons v vs ih =>
    have hfirst := world_of_waitForSite K h v
    rw [run_waitForAll_cons]
    by_cases hup : (!(K.run (waitForSite v) m).1) = true
    · rw [if_pos hup]
      exact hfirst
    · rw [if_neg hup]
      refine (ih ?_).trans hfirst
      rw [hfirst]
      exact h

-- With everything running, waiting for all instances succeeds.
theorem BenignKernel.waitForAll_eq_true {m : Machine} (h : Held f insts m.world)
    (hdead : m.dead = []) (hrun : ∀ i ∈ insts, m.world.running i = true) {vs : List SiteVar}
    (hsites : ∀ v ∈ vs, (m.world.site v).isSome) :
    (K.run (waitForAll f vs) m).1 = true := by
  induction vs generalizing m with
  | nil =>
    have hvalue : (K.run (waitForAll f []) m).1 =
        (K.run (waitForDnsmasq? (m.world.dnsmasq f)) (K.step m (.readDnsmasq f)).2).1 := rfl
    rw [hvalue]
    cases hdnsmasq : m.world.dnsmasq f with
    | none => rfl
    | some d =>
      have hd : d ∈ insts := by
        rw [← h.published, World.published, hdnsmasq]
        exact List.mem_append_left _ (List.mem_singleton.mpr rfl)
      exact K.waitForInstance_eq_true (m := (K.step m (.readDnsmasq f)).2) h.sound
        (K.step_dead hdead _) (hrun d hd)
  | cons v vs ih =>
    obtain ⟨s, hsite⟩ := Option.isSome_iff_exists.mp (hsites v List.mem_cons_self)
    have hworld := world_of_waitForSite K.toKernel h v
    have hmem : ∀ i ∈ s.instances, i ∈ insts := fun i hi => h.mem_of_site hsite hi
    have hup : (K.run (waitForSite v) m).1 = true := by
      have hvalue : (K.run (waitForSite v) m).1 =
          (K.run (waitForSite? (m.world.site v)) (K.step m (.readSite v)).2).1 := rfl
      rw [hvalue, hsite]
      exact K.waitLoop_eq_true (m := (K.step m (.readSite v)).2) h.sound (K.step_dead hdead _)
        (fun i hi => h.owned i (hmem i hi)) (fun i hi => hrun i (hmem i hi))
    rw [run_waitForAll_cons, hup]
    apply ih
    · rw [hworld]
      exact h
    · exact K.run_dead _ hdead
    · rw [hworld]
      exact hrun
    · rw [hworld]
      exact fun v' hv' => hsites v' (List.mem_cons_of_mem _ hv')

end

/-! ## The deployment of a fixture -/

/-- All instances of the fixture's sites and its dnsmasq instance run: `_running` is true and
`_pid` is a live child. -/
def AllRunning (f : Fixture) (m : Machine) : Prop :=
  ∀ i ∈ m.world.published f,
    m.world.running i = true ∧ ⟨m.world.pid i, i⟩ ∈ m.world.children ∧ m.world.pid i ∉ m.dead

/-- What `SetUp` expects. -/
structure Ready (K : Kernel) (f : Fixture) (m : Machine) : Prop where
  dnsmasq : (m.world.dnsmasq f).isSome
  running : AllRunning f m
  waits : (K.run f.waitForInstances m).1 = true

/-- The sites and the dnsmasq instance of a fixture. -/
structure Pointers where
  sites : SiteVar → Site
  dnsmasq : Inst

/-- The fixture's static pointers are as given. -/
structure Deployed (f : Fixture) (p : Pointers) (m : Machine) : Prop where
  held : ∃ insts, Held f insts m.world
  sites : ∀ v ∈ f.sites, m.world.site v = some (p.sites v)
  dnsmasq : m.world.dnsmasq f = some p.dnsmasq
  dead : m.dead = []

/-- All instances run but those in `down`. -/
structure Serving (f : Fixture) (p : Pointers) (down : List Inst) (m : Machine) : Prop
    extends Deployed f p m where
  running : ∀ i ∈ m.world.published f, i ∉ down → m.world.running i = true

section

variable {f : Fixture} {p : Pointers} {down : List Inst} {m : Machine}

theorem Deployed.published_eq {m' : Machine} (h : Deployed f p m) (h' : Deployed f p m') :
    m'.world.published f = m.world.published f := by
  unfold World.published
  rw [h'.dnsmasq, h.dnsmasq]
  apply congrArg
  apply List.flatMap_congr
  intro v hv
  exact instancesAt_of_site ((h'.sites v hv).trans (h.sites v hv).symm)

-- What keeps the pointers and what they lead to keeps the deployment.
theorem Deployed.run (K : BenignKernel) (h : Deployed f p m) {q : Harness Unit}
    (hheld : ∀ insts, KeepsHeld K.toKernel f insts q) (hstatics : Only Sys.KeepsStatics q) :
    Deployed f p (K.run q m).2 where
  held := by
    obtain ⟨insts, hinsts⟩ := h.held
    exact ⟨insts, (hheld insts).final m hinsts⟩
  sites v hv := by
    rw [(statics_of_only hstatics K.toKernel m).1]
    exact h.sites v hv
  dnsmasq := by
    rw [(statics_of_only hstatics K.toKernel m).2]
    exact h.dnsmasq
  dead := K.run_dead q h.dead

theorem Deployed.onSite (K : BenignKernel) (h : Deployed f p m) (v : SiteVar) (c : SiteCall) :
    Deployed f p (K.run (onSite v fun s => s.call c) m).2 :=
  h.run K (fun _ => keepsHeld_onSite K.toKernel v fun _ hs => keepsHeld_call K.toKernel hs c)
    (onSite_keepsStatics v fun s => call_keepsStatics s c)

-- What changes nothing in the harness keeps the deployment and what runs in it.
theorem Serving.of_world {m' : Machine} (h : Serving f p down m) (hworld : m'.world = m.world)
    (hdead : m'.dead = []) : Serving f p down m' where
  held := by
    rw [hworld]
    exact h.held
  sites := by
    rw [hworld]
    exact h.sites
  dnsmasq := by
    rw [hworld]
    exact h.dnsmasq
  dead := hdead
  running := by
    rw [hworld]
    exact h.running

theorem Serving.imp {down' : List Inst} (h : Serving f p down m) (hdown : down ⊆ down') :
    Serving f p down' m where
  toDeployed := h.toDeployed
  running i hi hup := h.running i hi fun hmem => hup (hdown hmem)

theorem Serving.ready (K : BenignKernel) (h : Serving f p [] m) : Ready K.toKernel f m := by
  obtain ⟨insts, hheld⟩ := h.held
  have hrun : ∀ i ∈ m.world.published f, m.world.running i = true :=
    fun i hi => h.running i hi List.not_mem_nil
  refine ⟨?_, fun i hi => ⟨hrun i hi, hheld.sound.running i (hrun i hi), ?_⟩, ?_⟩
  · rw [h.dnsmasq]
    rfl
  · rw [h.dead]
    exact List.not_mem_nil
  · rw [f.waitForInstances_eq]
    apply K.waitForAll_eq_true hheld h.dead
    · rw [← hheld.published]
      exact hrun
    · intro v hv
      rw [h.sites v hv]
      rfl

theorem Serving.waitForInstances (K : BenignKernel) (h : Serving f p down m) :
    Serving f p down (K.run f.waitForInstances m).2 := by
  obtain ⟨insts, hheld⟩ := h.held
  refine h.of_world ?_ (K.run_dead _ h.dead)
  rw [f.waitForInstances_eq]
  exact world_of_waitForAll K.toKernel hheld f.sites

-- Waiting for the first instance with a role changes nothing in the harness.
theorem world_of_waitFirst (K : Kernel) {insts : List Inst} (h : Held f insts m.world)
    (v : SiteVar) (role : Role) :
    (K.run (ClearwaterFv.onSite v fun s => s.waitFirst role) m).2.world = m.world := by
  have hrun : K.run (ClearwaterFv.onSite v fun s => s.waitFirst role) m =
      K.run (withSite (fun s => s.waitFirst role) (m.world.site v)) (K.step m (.readSite v)).2 :=
    rfl
  rw [hrun]
  cases hsite : m.world.site v with
  | none => rfl
  | some s =>
    change (K.run (s.waitFirst role) (K.step m (.readSite v)).2).2.world = m.world
    unfold Site.waitFirst
    cases hfirst : s.getFirst? role with
    | none => rfl
    | some i =>
      have hi : i ∈ insts := h.mem_of_site hsite (Site.mem_instances_of_getFirst? hfirst)
      have hwait := (run_waitCopy K (m := (K.step m (.readSite v)).2) (h.owned i hi)).2
      change (K.run ((viaCopy i (waitForInstance i)).bind fun _ => ret ())
        (K.step m (.readSite v)).2).2.world = m.world
      rw [Kernel.run, run_bind]
      exact hwait

/-! ## The scenarios -/

/-- The first instance of `_dbs` with a role, if it has one. -/
def Pointers.firstOf (p : Pointers) (role : Role) : List Inst :=
  ((p.sites .dbs).getFirst? role).toList

theorem Serving.killFirst (K : BenignKernel) (h : Serving .memcached p [] m) (role : Role) :
    Serving .memcached p (p.firstOf role) (K.run (killFirst role) m).2 := by
  obtain ⟨insts, hheld⟩ := h.held
  have hafter := h.toDeployed.onSite K .dbs (.first role .kill)
  unfold ClearwaterFv.killFirst
  refine ⟨hafter, fun i hi hup => ?_⟩
  have hrunning := K.running_onSite hheld (h.sites .dbs List.mem_cons_self)
    (.first role .kill) .kill (p.firstOf role) rfl i
  rw [h.toDeployed.published_eq hafter] at hi
  exact (hrunning.trans (if_neg hup)).trans (h.running i hi List.not_mem_nil)

theorem Serving.bringUpFirst (K : BenignKernel) {role : Role}
    (h : Serving .memcached p (p.firstOf role) m) {method : Method} (hruns : method.runs = true) :
    Serving .memcached p [] (K.run (bringUpFirst role method) m).2 := by
  obtain ⟨insts, hheld⟩ := h.held
  let m₁ := (K.run (ClearwaterFv.onSite .dbs fun dbs => dbs.call (.first role method)) m).2
  have hafter : Deployed .memcached p m₁ := h.toDeployed.onSite K .dbs (.first role method)
  have hserving : Serving .memcached p [] m₁ := by
    refine ⟨hafter, fun i hi _ => ?_⟩
    have hrunning := K.running_onSite hheld (h.sites .dbs List.mem_cons_self)
      (.first role method) method (p.firstOf role) rfl i
    rw [h.toDeployed.published_eq hafter] at hi
    refine hrunning.trans ?_
    by_cases hfirst : i ∈ p.firstOf role
    · rw [if_pos hfirst]
      exact hruns
    · rw [if_neg hfirst]
      exact h.running i hi hfirst
  -- what is left is to wait for the instance
  have hwait : (K.run (ClearwaterFv.onSite .dbs fun dbs => dbs.waitFirst role) m₁).2.world =
      m₁.world := by
    obtain ⟨insts', hheld'⟩ := hafter.held
    exact world_of_waitFirst K.toKernel hheld' .dbs role
  have hrun : (K.run (ClearwaterFv.bringUpFirst role method) m).2 =
      (K.run (ClearwaterFv.onSite .dbs fun dbs => dbs.waitFirst role) m₁).2 := by
    unfold ClearwaterFv.bringUpFirst
    rw [bind_eq_bind, Kernel.run, run_bind]
  rw [hrun]
  exact hserving.of_world hwait (K.run_dead _ hserving.dead)

-- `trigger_failure` and `fix_failure`, one after the other, leave everything running.
theorem Serving.failure (K : BenignKernel) (h : Serving .memcached p [] m) (scenario : Scenario) :
    Serving .memcached p []
      (K.run (scenario.triggerFailure.bind fun _ => scenario.fixFailure) m).2 := by
  have hfails : ∀ role, Serving .memcached p []
      (K.run ((ClearwaterFv.killFirst role).bind fun _ =>
        ClearwaterFv.bringUpFirst role .start) m).2 := by
    intro role
    rw [Kernel.run, run_bind]
    exact (h.killFirst K role).bringUpFirst K rfl
  have hrestarts : ∀ role, Serving .memcached p []
      (K.run ((ClearwaterFv.bringUpFirst role .restart).bind fun _ => ret ()) m).2 := by
    intro role
    rw [Kernel.run, run_bind]
    exact (h.imp (List.nil_subset _)).bringUpFirst K rfl
  cases scenario with
  | noFailures => exact h
  | memcachedFails => exact hfails .memcached
  | largeClusterMemcachedFails => exact hfails .memcached
  | rogersFails => exact hfails .rogers
  | memcachedRestarts => exact hrestarts .memcached
  | largeClusterMemcachedRestarts => exact hrestarts .memcached
  | rogersRestarts => exact hrestarts .rogers
  | loneRogersRestarts => exact hrestarts .rogers

end

/-! ## The tests -/

def SimpleS4SolutionTest.Test.leavesSite1Killed : SimpleS4SolutionTest.Test → Bool
  | timerTracerBullet => false
  | tracerBullet => true

/-- The test that kills the instances of `_site1` and does not start them again. -/
def TestCase.leavesSite1Killed : (tc : TestCase) → tc.Test → Bool
  | .simpleS4Solution, t => SimpleS4SolutionTest.Test.leavesSite1Killed t
  | _, _ => false

section

variable {p : Pointers} {m : Machine}

-- Every other test leaves everything running.
theorem Serving.body (K : BenignKernel) (tc : TestCase) (t : tc.Test)
    (h : Serving tc.setUp.fixture p [] m) (ht : tc.leavesSite1Killed t = false) :
    Serving tc.setUp.fixture p [] (K.run (tc.body t) m).2 := by
  cases tc with
  | simpleMemcachedSolution => exact h
  | memcachedSolutionThrash scenario => exact h
  | memcachedSolutionFailure scenario =>
    cases t with
    | addKillSetSetDataContentionSet =>
      exact run_forEach_inv (I := fun m => Serving .memcached p [] m)
        (fun _ _ m hm => hm.failure K scenario) h
    | _ => exact h.failure K scenario
  | largerClustersMemcachedSolution scenario =>
    cases t with
    | addGet => exact h
    | _ => exact h.failure K scenario
  | simpleS4Solution =>
    cases t with
    | timerTracerBullet => exact h
    | tracerBullet => cases ht

theorem run_runTest (K : Kernel) (tc : TestCase) (t : tc.Test) (m : Machine) :
    (K.run (tc.runTest t) m).2 =
      (K.run (tc.body t) (K.run tc.setUp.fixture.waitForInstances m).2).2 := by
  unfold TestCase.runTest
  rw [bind_eq_bind, Kernel.run, run_bind]

-- `TracerBullet` leaves no instance of `_site1` running.
theorem not_ready_of_leavesSite1Killed (K : BenignKernel) (tc : TestCase) (t : tc.Test)
    (h : Serving tc.setUp.fixture p [] m) (ht : tc.leavesSite1Killed t = true)
    (hsite1 : tc.setUp.fixture = .s4 → (p.sites .site1).instances ≠ []) :
    ¬ Ready K.toKernel tc.setUp.fixture (K.run (tc.runTest t) m).2 := by
  cases tc with
  | simpleS4Solution =>
    cases t with
    | timerTracerBullet => cases ht
    | tracerBullet =>
      let m₁ := (K.run Fixture.s4.waitForInstances m).2
      have h₁ : Serving .s4 p [] m₁ := h.waitForInstances K
      have hafter : Deployed .s4 p (K.run (onSite .site1 Site.kill) m₁).2 :=
        h₁.toDeployed.onSite K .site1 (.all .kill)
      obtain ⟨insts, hheld⟩ := h₁.held
      obtain ⟨i, hi⟩ := List.exists_mem_of_ne_nil _ (hsite1 rfl)
      intro hready
      have hrun : (K.run (TestCase.runTest .simpleS4Solution .tracerBullet) m).2 =
          (K.run (onSite .site1 Site.kill) m₁).2 :=
        run_runTest K.toKernel .simpleS4Solution SimpleS4SolutionTest.Test.tracerBullet m
      rw [hrun] at hready
      -- an instance of the site is published but does not run
      have hpublished : i ∈ (K.run (onSite .site1 Site.kill) m₁).2.world.published .s4 := by
        refine List.mem_append_right _ (List.mem_flatMap.mpr ⟨.site1, by decide, ?_⟩)
        unfold World.instancesAt
        rw [hafter.sites .site1 (by decide)]
        exact hi
      have hstopped : (K.run (onSite .site1 Site.kill) m₁).2.world.running i = false := by
        have hrunning := K.running_onSite hheld (h₁.sites .site1 (by decide))
          (.all .kill) .kill (p.sites .site1).instances rfl i
        exact hrunning.trans (if_pos hi)
      have hrunning := (hready.running i hpublished).1
      rw [hstopped] at hrunning
      cases hrunning
  | _ => cases ht

-- What holds before each element of a list.
theorem forall_prefix_cons {α : Type} {P : List α → Prop} {x : α} {xs : List α} (hnil : P []) :
    (∀ before y after, x :: xs = before ++ y :: after → P before) ↔
      ∀ before y after, xs = before ++ y :: after → P (x :: before) := by
  constructor
  · intro hall before y after heq
    exact hall (x :: before) y after (congrArg (List.cons x) heq)
  · intro hall before y after heq
    cases before with
    | nil => exact hnil
    | cons x' before =>
      obtain ⟨rfl, hrest⟩ := List.cons.inj heq
      exact hall before y after hrest

theorem ready_before_each_iff (K : BenignKernel) (tc : TestCase) (ts : List tc.Test)
    (h : Serving tc.setUp.fixture p [] m)
    (hsite1 : tc.setUp.fixture = .s4 → (p.sites .site1).instances ≠ []) :
    (∀ before t after, ts = before ++ t :: after →
      Ready K.toKernel tc.setUp.fixture (K.run (forEach before tc.runTest) m).2) ↔
    ∀ t ∈ ts.dropLast, tc.leavesSite1Killed t = false := by
  induction ts generalizing m with
  | nil =>
    refine ⟨fun _ t ht => absurd ht List.not_mem_nil, fun _ before t after heq => ?_⟩
    exact absurd heq.symm (List.append_ne_nil_of_right_ne_nil _ (List.cons_ne_nil _ _))
  | cons t ts ih =>
    rw [forall_prefix_cons (h.ready K)]
    simp only [forEach_cons, Kernel.run, run_bind]
    cases ts with
    | nil =>
      refine ⟨fun _ t ht => absurd ht List.not_mem_nil, fun _ before t after heq => ?_⟩
      exact absurd heq.symm (List.append_ne_nil_of_right_ne_nil _ (List.cons_ne_nil _ _))
    | cons t₂ ts =>
      rw [List.dropLast_cons_cons]
      cases ht : tc.leavesSite1Killed t with
      | false =>
        have hafter : Serving tc.setUp.fixture p [] (K.run (tc.runTest t) m).2 := by
          rw [run_runTest]
          exact (h.waitForInstances K).body K tc t ht
        rw [ih hafter, List.forall_mem_cons]
        exact ⟨fun hall => ⟨ht, hall⟩, fun hall => hall.2⟩
      | true =>
        -- the next test is not set up as it should be
        refine ⟨fun hall => absurd (hall [] t₂ ts rfl) ?_, fun hall => ?_⟩
        · exact not_ready_of_leavesSite1Killed K tc t h ht hsite1
        · rw [hall t List.mem_cons_self] at ht
          cases ht

end

/-! ## The set-up -/

/-- During the set-up: the sites `vs` and the dnsmasq instance are still to be created, and what
has been created is running. -/
structure SettingUp (f : Fixture) (vs : List SiteVar) (m : Machine) : Prop extends
    Vacant f vs m where
  built : ∀ v ∈ f.sites, v ∉ vs → (m.world.site v).isSome
  running : ∀ i ∈ m.world.published f, m.world.running i = true
  dead : m.dead = []
  site1 : ∀ s, m.world.site .site1 = some s → s.instances ≠ []

theorem settingUp_initial (f : Fixture) (pid : Inst → Int) (files : Paths.FileTree)
    (cwd : Paths.Path) (noisy : Option String) :
    SettingUp f f.sites (Machine.initial pid files cwd noisy) where
  toVacant := vacant_initial f pid files cwd noisy
  built _ hv hnot := absurd hv hnot
  running i hi := by
    have hnone : (Machine.initial pid files cwd noisy).world.published f = [] := by
      cases f <;> rfl
    rw [hnone] at hi
    exact absurd hi List.not_mem_nil
  dead := rfl
  site1 _ hsite := by cases hsite

section

variable (K : BenignKernel) {f : Fixture} {vs : List SiteVar} {m : Machine}

theorem SettingUp.idle {α : Type} {q : Harness α} (hq : Only Sys.Idle q) (h : SettingUp f vs m) :
    SettingUp f vs (K.run q m).2 := by
  have hkeep : (K.run q m).2.world.running = m.world.running ∧
      (K.run q m).2.world.site = m.world.site ∧
      (K.run q m).2.world.dnsmasq = m.world.dnsmasq := by
    refine hq.run_inv (I := fun m' : Machine => m'.world.running = m.world.running ∧
      m'.world.site = m.world.site ∧ m'.world.dnsmasq = m.world.dnsmasq)
      (fun m' op hop hm' => ?_) ⟨rfl, rfl, rfl⟩
    cases op <;> first | exact hm' | exact absurd hop id
  obtain ⟨hrunning, hsite, hdnsmasq⟩ := hkeep
  refine ⟨(leadsTo_idle K.toKernel vs hq).final m h.toVacant, ?_, ?_, K.run_dead q h.dead, ?_⟩
  · rw [hsite]
    exact h.built
  · rw [published_congr f hsite hdnsmasq, hrunning]
    exact h.running
  · rw [hsite]
    exact h.site1

-- A site is created and all of its instances started.
theorem SettingUp.createAndStartSite {v : SiteVar} (hv : v ∈ f.sites) (hvs : v ∉ vs)
    {args : SiteArgs} (hargs : v = .site1 → ∀ noisy, args.newInstances noisy ≠ [])
    (h : SettingUp f (v :: vs) m) :
    SettingUp f vs (K.run (createAndStartSite v args) m).2 := by
  obtain ⟨insts, hheld⟩ := h.kept
  have hvacant := h.sites v List.mem_cons_self
  have hafter : Vacant f vs (K.run (ClearwaterFv.createAndStartSite v args) m).2 :=
    (leadsTo_createAndStartSite K.toKernel hv hvs args).final m h.toVacant
  obtain ⟨-, ⟨insts', hperm, hheld'⟩, -, hsite⟩ :=
    createAndStartSite_held K.toKernel hv args hheld hvacant
  obtain ⟨hnew, hold⟩ := K.running_createAndStartSite hv args hheld hvacant
  obtain ⟨objs, -, hinst, hobjs⟩ := newSite_creates K.toKernel args m
  have hdead := K.run_dead (ClearwaterFv.createAndStartSite v args) h.dead
  generalize K.run (ClearwaterFv.createAndStartSite v args) m = after at *
  generalize K.run (newSite args) m = built at *
  refine ⟨hafter, fun v' hv' hnot => ?_, fun i hi => ?_, hdead, fun s hs => ?_⟩
  · rw [hsite]
    by_cases heq : v' = v
    · rw [heq, Function.update_self]
      rfl
    · rw [Function.update_of_ne heq]
      exact h.built v' hv' fun hmem => hnot ((List.mem_cons.mp hmem).resolve_left heq)
  · rw [hheld'.published, hperm.mem_iff] at hi
    rcases List.mem_append.mp hi with hi | hi
    · exact hnew i hi
    · rw [hold i hi]
      rw [← hheld.published] at hi
      exact h.running i hi
  · rw [hsite] at hs
    by_cases heq : SiteVar.site1 = v
    · rw [heq, Function.update_self] at hs
      cases hs
      intro hnil
      apply hargs heq.symm m.world.noisy
      rw [hnil] at hinst
      rw [← hobjs, List.map_eq_nil_iff.mp hinst]
      rfl
    · rw [Function.update_of_ne heq] at hs
      exact h.site1 s hs

-- The dnsmasq instance is the last that a set-up creates.
theorem SettingUp.createAndStartDnsFor (h : SettingUp f [] m)
    (aRecords : OrderedMap String (List String)) :
    ∃ p, Serving f p [] (K.run (createAndStartDnsFor f aRecords) m).2 ∧
      (f = .s4 → (p.sites .site1).instances ≠ []) := by
  obtain ⟨insts, hheld⟩ := h.kept
  obtain ⟨-, hheld', hdnsmasq, hsite⟩ :=
    createAndStartDnsFor_held K.toKernel aRecords hheld h.dnsmasq
  obtain ⟨hnew, hold⟩ := K.running_createAndStartDnsFor aRecords hheld h.dnsmasq
  have hdead := K.run_dead (ClearwaterFv.createAndStartDnsFor f aRecords) h.dead
  have hbuilt : ∀ v ∈ f.sites, ∃ s, m.world.site v = some s := fun v hv =>
    Option.isSome_iff_exists.mp (h.built v hv List.not_mem_nil)
  have hfirst : ∃ v, v ∈ f.sites := by cases f <;> exact ⟨_, List.mem_cons_self⟩
  obtain ⟨v₀, hv₀⟩ := hfirst
  obtain ⟨s₀, -⟩ := hbuilt v₀ hv₀
  generalize K.run (ClearwaterFv.createAndStartDnsFor f aRecords) m = after at *
  generalize K.run (newDnsmasqInstance "127.0.0.1" 5353 aRecords) m = built at *
  have hpointers : ∀ v ∈ f.sites, m.world.site v = some ((m.world.site v).getD s₀) := by
    intro v hv
    obtain ⟨s, hs⟩ := hbuilt v hv
    rw [hs]
    rfl
  refine ⟨⟨fun v => (m.world.site v).getD s₀, built.1⟩, ⟨⟨⟨_, hheld'⟩, fun v hv => ?_, ?_, hdead⟩,
    fun i hi _ => ?_⟩, fun hs4 => ?_⟩
  · rw [hsite]
    exact hpointers v hv
  · rw [hdnsmasq, Function.update_self]
  · rw [hheld'.published] at hi
    rcases List.mem_cons.mp hi with rfl | hi
    · exact hnew
    · rw [hold i hi]
      rw [← hheld.published] at hi
      exact h.running i hi
  · refine h.site1 _ (hpointers .site1 ?_)
    rw [hs4]
    exact List.mem_cons_self

theorem site1Args_newInstances (noisy : Option String) :
    BaseS4SolutionTest.site1Args.newInstances noisy ≠ [] :=
  List.append_ne_nil_of_left_ne_nil (List.append_ne_nil_of_left_ne_nil (List.cons_ne_nil _ _) _) _

/-- What a set-up ends with. -/
def SetUpDone (f : Fixture) (m : Machine) : Prop :=
  ∃ p, Serving f p [] m ∧ (f = .s4 → (p.sites .site1).instances ≠ [])

theorem setUpDone_createAndStartDns :
    Ends K.step (SettingUp .memcached []) (SetUpDone .memcached)
      BaseMemcachedSolutionTest.createAndStartDns := by
  refine Ends.of_final fun m h => ?_
  obtain ⟨s, hsite⟩ := Option.isSome_iff_exists.mp
    (h.built .dbs List.mem_cons_self List.not_mem_nil)
  let ips := (K.run (Site.getIps s.rogersInstances) (K.step m (.readSite .dbs)).2).1
  let m₁ := (K.run (Site.getIps s.rogersInstances) (K.step m (.readSite .dbs)).2).2
  have hread : SettingUp .memcached [] (K.step m (.readSite .dbs)).2 :=
    h.idle K (q := sys (.readSite .dbs)) (Only.perform trivial)
  have h₁ : SettingUp .memcached [] m₁ := hread.idle K (getIps_idle _)
  have hrun : K.run BaseMemcachedSolutionTest.createAndStartDns m =
      K.run (withSite (fun dbs => do
        let ips ← Site.getIps dbs.rogersInstances
        ClearwaterFv.createAndStartDnsFor .memcached (OrderedMap.empty.insert "rogers.local" ips))
        (m.world.site .dbs)) (K.step m (.readSite .dbs)).2 := rfl
  change SetUpDone .memcached (K.run BaseMemcachedSolutionTest.createAndStartDns m).2
  rw [hrun, hsite, withSite, bind_eq_bind, Kernel.run, run_bind]
  exact h₁.createAndStartDnsFor K _

-- The set-up leaves everything running.
theorem setUpDone_program (setUp : SetUp) :
    Ends K.step (SettingUp setUp.fixture setUp.fixture.sites) (SetUpDone setUp.fixture)
      setUp.program := by
  have hidle : ∀ {α : Type} {q : Harness α} (f : Fixture) (vs : List SiteVar),
      Only Sys.Idle q → Ends K.step (SettingUp f vs) (SettingUp f vs) q :=
    fun f vs hq => Ends.of_final fun m h => h.idle K hq
  have hsite : ∀ {f : Fixture} {v : SiteVar} {vs : List SiteVar} {args : SiteArgs}, v ∈ f.sites →
      v ∉ vs → (v = .site1 → ∀ noisy, args.newInstances noisy ≠ []) →
      Ends K.step (SettingUp f (v :: vs)) (SettingUp f vs) (createAndStartSite v args) :=
    fun hv hvs hargs => Ends.of_final fun m h => h.createAndStartSite K hv hvs hargs
  cases setUp with
  | memcached numMemcacheds numRogers =>
    have hset : Only Sys.Idle BaseMemcachedSolutionTest.setUpTestCase :=
      Only.bind (setHandlers_idle true) fun _ => Only.perform trivial
    refine Leads.bind (hidle _ _ hset) fun _ => ?_
    refine Leads.bind (hsite List.mem_cons_self List.not_mem_nil fun hv => by cases hv)
      fun _ => ?_
    exact setUpDone_createAndStartDns K
  | s4 =>
    have hset : Only Sys.Idle BaseS4SolutionTest.setUpTestCase :=
      Only.bind (setHandlers_idle true) fun _ => Only.perform trivial
    refine Leads.bind (hidle _ _ hset) fun _ => ?_
    refine Leads.bind (Leads.bind (hsite (by decide) (by decide) fun _ => site1Args_newInstances)
      fun _ => hsite (by decide) List.not_mem_nil fun hv => by cases hv) fun _ => ?_
    refine Leads.bind (hidle _ [] (getIpsOf_idle _ _)) fun rogers1 => ?_
    refine Leads.bind (hidle _ [] (getIpsOf_idle _ _)) fun chronos1 => ?_
    refine Leads.bind (hidle _ [] (getIpsOf_idle _ _)) fun rogers2 => ?_
    refine Leads.bind (hidle _ [] (getIpsOf_idle _ _)) fun chronos2 => ?_
    exact Ends.of_final fun m h => h.createAndStartDnsFor K _

end

/-- Where every call succeeds and no process dies by itself, the deployment is as `SetUp` expects
it before each of a sequence of tests if and only if `TracerBullet` of `SimpleS4SolutionTest` is
none of them but possibly the last. -/
theorem setUp_ready_iff (K : BenignKernel) (tc : TestCase) (ts : List tc.Test) (pid : Inst → Int)
    (files : Paths.FileTree) (cwd : Paths.Path) (noisy : Option String) :
    (∀ before t after, ts = before ++ t :: after →
      Ready K.toKernel tc.setUp.fixture
        (K.run (tc.runTests before) (Machine.initial pid files cwd noisy)).2) ↔
    ∀ t ∈ ts.dropLast, tc.leavesSite1Killed t = false := by
  obtain ⟨p, hserving, hsite1⟩ := (setUpDone_program K tc.setUp).final _
    (settingUp_initial tc.setUp.fixture pid files cwd noisy)
  rw [← ready_before_each_iff K tc ts hserving hsite1]
  have hrun : ∀ before, (K.run (tc.runTests before) (Machine.initial pid files cwd noisy)).2 =
      (K.run (forEach before tc.runTest)
        (K.run tc.setUp.program (Machine.initial pid files cwd noisy)).2).2 := by
    intro before
    rw [TestCase.runTests, bind_eq_bind, Kernel.run, run_bind]
  simp only [hrun]

/-- `obliging` connects to what runs. -/
def obligingBenign : BenignKernel where
  toCleanKernel := obligingCleaner
  forks m _ := by
    have hpos := Kernel.freshPid_pos m.world.unreaped
    change Kernel.freshPid m.world.unreaped ≠ -1
    omega
  alive _ := rfl
  addresses _ _ := rfl
  sockets _ := by
    change (3 : Int) ≠ -1
    decide
  connects m self hlive := by
    obtain ⟨c, hc, hinst, -⟩ := hlive
    exact if_pos (List.any_eq_true.mpr ⟨c, hc, decide_eq_true hinst⟩)

/-- `TracerBullet` followed by any other test: the site it killed is still down. -/
theorem setUp_ready_after_tracerBullet :
    ¬ ∀ (K : BenignKernel) (tc : TestCase) (ts : List tc.Test) (pid : Inst → Int)
      (files : Paths.FileTree) (cwd : Paths.Path) (noisy : Option String),
      ∀ before t after, ts = before ++ t :: after →
        Ready K.toKernel tc.setUp.fixture
          (K.run (tc.runTests before) (Machine.initial pid files cwd noisy)).2 := by
  intro hall
  have hready := hall obligingBenign .simpleS4Solution
    [SimpleS4SolutionTest.Test.tracerBullet, SimpleS4SolutionTest.Test.timerTracerBullet]
    (fun _ => 0) (fun _ => none) [] none [SimpleS4SolutionTest.Test.tracerBullet]
    SimpleS4SolutionTest.Test.timerTracerBullet [] rfl
  have hdown : (obligingBenign.run Fixture.s4.waitForInstances
      (obligingBenign.run (TestCase.runTests .simpleS4Solution
          [SimpleS4SolutionTest.Test.tracerBullet])
        (Machine.initial (fun _ => 0) (fun _ => none) [] none)).2).1 = false := by
    decide +kernel
  have hwaits := hready.waits
  exact Bool.false_ne_true (hdown.symm.trans hwaits)

end ClearwaterFv
