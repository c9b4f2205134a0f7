import ClearwaterFv.Fixtures

/-!
# Release — giving up the owners of instances

What giving up one `shared_ptr` to each of several instances does to the processes, when every
`kill` and `waitpid` succeeds.  An instance goes away with its last owner, and then the process in
its `_pid` is killed and reaped if `_running` is true.
-/

open Reasoning Reasoning.Prog

namespace ClearwaterFv

/-- A kernel whose `kill` and `waitpid` succeed. -/
structure CleanKernel extends ReapingKernel where
  kills : ∀ m pid, kill m pid = 0

/-- `obliging` is clean. -/
def obligingCleaner : CleanKernel where
  toReapingKernel := obligingReaper
  kills _ _ := rfl

/-- The worlds have the same processes, in the hands of the same owners. -/
structure SameProcesses (w w' : World) : Prop where
  children : w'.children = w.children
  signals : w'.signals = w.signals
  pid : w'.pid = w.pid
  running : w'.running = w.running
  owners : w'.owners = w.owners

theorem SameProcesses.refl (w : World) : SameProcesses w w := ⟨rfl, rfl, rfl, rfl, rfl⟩

theorem SameProcesses.trans {w w' w'' : World} (h : SameProcesses w w')
    (h' : SameProcesses w' w'') : SameProcesses w w'' :=
  ⟨h'.children.trans h.children, h'.signals.trans h.signals, h'.pid.trans h.pid,
    h'.running.trans h.running, h'.owners.trans h.owners⟩

/-- A call that has nothing to do with processes, and gives up no owner. -/
def Sys.SparesProcesses : Sys → Prop
  | .deleteInstance _ | .swapSite .. | .swapDnsmasq .. | .signal .. | .remove _ | .removeAll _ =>
    True
  | _ => False

theorem Sys.SparesProcesses.step {op : Sys} (hop : op.SparesProcesses) (K : Kernel) (m : Machine) :
    SameProcesses m.world (K.step m op).2.world := by
  cases op <;> first | exact absurd hop id | exact ⟨rfl, rfl, rfl, rfl, rfl⟩

/-- The instance has one owner left and a process to kill. -/
def Freed (w : World) (i : Inst) : Prop := w.owners i = 1 ∧ w.running i = true

/-- What giving up one owner of each of the instances does to the processes. -/
structure Releases (w : World) (insts : List Inst) (w' : World) : Prop where
  children : ∀ c, c ∈ w'.children ↔
    c ∈ w.children ∧ ∀ i ∈ insts, Freed w i → c.pid ≠ w.pid i
  sent : ∃ sent, w'.signals = sent ++ w.signals ∧
    ∀ i ∈ insts, Freed w i → ⟨w.pid i, i⟩ ∈ sent
  pid : w'.pid = w.pid
  others : ∀ i, i ∉ insts → w'.running i = w.running i ∧ w'.owners i = w.owners i

namespace Releases

variable {w w' w'' : World} {insts insts' : List Inst}

theorem nil (hchildren : w'.children = w.children) (hsignals : w'.signals = w.signals)
    (hpid : w'.pid = w.pid) (hrunning : w'.running = w.running) (howners : w'.owners = w.owners) :
    Releases w [] w' where
  children c := by
    rw [hchildren]
    exact ⟨fun hc => ⟨hc, fun i hi => absurd hi List.not_mem_nil⟩, fun h => h.1⟩
  sent := ⟨[], hsignals, fun i hi => absurd hi List.not_mem_nil⟩
  pid := hpid
  others i _ := by
    rw [hrunning, howners]
    exact ⟨rfl, rfl⟩

theorem freed_iff (h : Releases w insts w') {i : Inst} (hi : i ∉ insts) :
    Freed w' i ↔ Freed w i := by
  unfold Freed
  rw [(h.others i hi).1, (h.others i hi).2]

theorem trans (h : Releases w insts w') (h' : Releases w' insts' w'')
    (hdisjoint : ∀ i ∈ insts', i ∉ insts) : Releases w (insts ++ insts') w'' where
  children c := by
    rw [h'.children, h.children, h.pid]
    constructor
    · rintro ⟨⟨hc, hfirst⟩, hsecond⟩
      refine ⟨hc, fun i hi hfreed => ?_⟩
      rcases List.mem_append.mp hi with hi | hi
      · exact hfirst i hi hfreed
      · exact hsecond i hi ((h.freed_iff (hdisjoint i hi)).mpr hfreed)
    · rintro ⟨hc, hall⟩
      refine ⟨⟨hc, fun i hi => hall i (List.mem_append_left _ hi)⟩, fun i hi hfreed => ?_⟩
      exact hall i (List.mem_append_right _ hi) ((h.freed_iff (hdisjoint i hi)).mp hfreed)
  sent := by
    obtain ⟨sent, hsignals, hsent⟩ := h.sent
    obtain ⟨sent', hsignals', hsent'⟩ := h'.sent
    refine ⟨sent' ++ sent, ?_, fun i hi hfreed => ?_⟩
    · rw [hsignals', hsignals, List.append_assoc]
    · rcases List.mem_append.mp hi with hi | hi
      · exact List.mem_append_right _ (hsent i hi hfreed)
      · rw [← h.pid]
        exact List.mem_append_left _
          (hsent' i hi ((h.freed_iff (hdisjoint i hi)).mpr hfreed))
  pid := h'.pid.trans h.pid
  others i hi := by
    have hfirst : i ∉ insts := fun hmem => hi (List.mem_append_left _ hmem)
    have hsecond : i ∉ insts' := fun hmem => hi (List.mem_append_right _ hmem)
    obtain ⟨hrun, hown⟩ := h'.others i hsecond
    rw [hrun, hown]
    exact h.others i hfirst

-- What happens to no process before and after does not matter.
theorem congr {v v' : World} (h : Releases w insts w') (hbefore : SameProcesses v w)
    (hafter : SameProcesses w' v') : Releases v insts v' := by
  have hfreed : ∀ i, Freed w i ↔ Freed v i := by
    intro i
    unfold Freed
    rw [hbefore.owners, hbefore.running]
  refine ⟨fun c => ?_, ?_, ?_, fun i hi => ?_⟩
  · rw [hafter.children, h.children, hbefore.children, hbefore.pid]
    simp only [hfreed]
  · obtain ⟨sent, hsignals, hsent⟩ := h.sent
    refine ⟨sent, ?_, fun i hi hi' => ?_⟩
    · rw [hafter.signals, hsignals, hbefore.signals]
    · rw [← hbefore.pid]
      exact hsent i hi ((hfreed i).mpr hi')
  · rw [hafter.pid, h.pid, hbefore.pid]
  · rw [hafter.running, hafter.owners, ← hbefore.running, ← hbefore.owners]
    exact h.others i hi

end Releases

/-- What `kill_instance` does to the processes. -/
structure KillsOwn (w : World) (inst : Inst) (w' : World) : Prop where
  children : ∀ c, c ∈ w'.children ↔
    c ∈ w.children ∧ (w.running inst = true → c.pid ≠ w.pid inst)
  sent : ∃ sent, w'.signals = sent ++ w.signals ∧
    (w.running inst = true → ⟨w.pid inst, inst⟩ ∈ sent)
  pid : w'.pid = w.pid
  running : ∀ i, i ≠ inst → w'.running i = w.running i

section

variable (H : CleanKernel) (self : Inst)

theorem CleanKernel.killInstance_killsOwn (m : Machine) :
    KillsOwn m.world self (H.run (killInstance self) m).2.world := by
  rcases killInstance_cases H.toKernel m self with ⟨hrun, -, hw⟩ | ⟨-, ⟨m', hkill⟩, -⟩ |
    ⟨hrun, m', status, exited, hwait, hchildren, -, hw⟩ | ⟨hrun, hmem, -, hw⟩
  · rw [hw]
    have hidle : ¬ m.world.running self = true := by
      rw [hrun]
      exact Bool.false_ne_true
    exact ⟨fun c => ⟨fun hc => ⟨hc, fun h => absurd h hidle⟩, fun h => h.1⟩,
      ⟨[], rfl, fun h => absurd h hidle⟩, rfl, fun _ _ => rfl⟩
  · exact absurd (H.kills m' _) hkill
  · -- a wait that fails was for no child of the harness
    have hgone : m.world.pid self ∉ m.world.unreaped := by
      intro hmem
      have hmem' : m.world.pid self ∈ m'.world.unreaped := by
        rw [World.unreaped, hchildren]
        exact hmem
      obtain ⟨status', hreaped⟩ := H.reaps m' _ hmem'
      rw [hwait] at hreaped
      cases hreaped
    rw [hw]
    refine ⟨fun c => ⟨fun hc => ⟨hc, fun _ hpid => ?_⟩, fun h => h.1⟩,
      ⟨[⟨m.world.pid self, self⟩], rfl, fun _ => List.mem_cons_self⟩, rfl, fun i hi => ?_⟩
    · have hchild : c.pid ∈ m.world.unreaped := List.mem_map_of_mem hc
      rw [hpid] at hchild
      exact hgone hchild
    · exact Function.update_of_ne hi ..
  · rw [hw]
    refine ⟨fun c => ?_, ⟨[⟨m.world.pid self, self⟩], rfl, fun _ => List.mem_cons_self⟩, rfl,
      fun i hi => Function.update_of_ne hi ..⟩
    change c ∈ m.world.children.filter (fun c => c.pid ≠ m.world.pid self) ↔ _
    rw [List.mem_filter, decide_eq_true_iff]
    exact ⟨fun h => ⟨h.1, fun _ => h.2⟩, fun h => ⟨h.1, h.2 hrun⟩⟩

-- The destructor is `kill_instance`, as far as the processes go.
theorem CleanKernel.destroyInstance_killsOwn (m : Machine) :
    KillsOwn m.world self (H.run (destroyInstance self) m).2.world ∧
      (H.run (destroyInstance self) m).2.world.owners = m.world.owners := by
  let m₁ := (H.step m (.readArgs self)).2
  let m₂ := (H.run (removeFiles (H.answer m (.readArgs self))) m₁).2
  let m₃ := (H.run (killInstance self) m₂).2
  obtain ⟨t, hfiles⟩ := run_removeFiles H.toKernel (H.answer m (.readArgs self)) m₁
  have hrun : (H.run (destroyInstance self) m).2 = (H.step m₃ (.deleteInstance self)).2 := by
    unfold destroyInstance
    simp only [bind_eq_bind, Kernel.run, run_bind, run_perform]
    rfl
  have hworld : m₂.world = { m.world with files := t } := hfiles
  have hkill := H.killInstance_killsOwn self m₂
  have howners : m₃.world.owners = m₂.world.owners :=
    (killInstance_sameHeap H.toKernel m₂ self).owners
  rw [hworld] at hkill howners
  have hdelete : (Sys.deleteInstance self).SparesProcesses := trivial
  obtain ⟨hchildren, hsignals, hpid, hrunning, howners'⟩ := hdelete.step H.toKernel m₃
  rw [hrun]
  refine ⟨⟨fun c => ?_, ?_, hpid.trans hkill.pid, fun i hi => ?_⟩, howners'.trans howners⟩
  · rw [hchildren]
    exact hkill.children c
  · rw [hsignals]
    exact hkill.sent
  · rw [hrunning]
    exact hkill.running i hi

theorem CleanKernel.releases_releaseInstance (m : Machine) (hown : 0 < m.world.owners self) :
    Releases m.world [self] (H.run (releaseInstance self) m).2.world := by
  let m₁ := (H.step m (.dropOwner self)).2
  have hrun : H.run (releaseInstance self) m =
      H.run (if m.world.owners self - 1 = 0 then destroyInstance self else ret ()) m₁ := rfl
  have howners : m₁.world.owners =
      Function.update m.world.owners self (m.world.owners self - 1) := rfl
  rw [hrun]
  by_cases hlast : m.world.owners self - 1 = 0
  · rw [if_pos hlast]
    have hone : m.world.owners self = 1 := by omega
    obtain ⟨hkills, hown'⟩ := H.destroyInstance_killsOwn self m₁
    obtain ⟨sent, hsignals, hsent⟩ := hkills.sent
    refine ⟨fun c => ?_, ⟨sent, hsignals, fun i hi hfreed => ?_⟩, hkills.pid, fun i hi => ?_⟩
    · rw [hkills.children]
      constructor
      · rintro ⟨hc, hne⟩
        refine ⟨hc, fun i hi hfreed => ?_⟩
        rw [List.mem_singleton.mp hi] at hfreed ⊢
        exact hne hfreed.2
      · rintro ⟨hc, hne⟩
        exact ⟨hc, fun hrunning => hne self List.mem_cons_self ⟨hone, hrunning⟩⟩
    · rw [List.mem_singleton.mp hi] at hfreed ⊢
      exact hsent hfreed.2
    · have hne : i ≠ self := fun heq => hi (List.mem_singleton.mpr heq)
      rw [hown', howners, Function.update_of_ne hne]
      exact ⟨hkills.running i hne, rfl⟩
  · rw [if_neg hlast]
    have hmany : ¬ Freed m.world self := by
      intro hfreed
      have hone := hfreed.1
      omega
    refine ⟨fun c => ⟨fun hc => ⟨hc, fun i hi hfreed => ?_⟩, fun h => h.1⟩,
      ⟨[], rfl, fun i hi hfreed => ?_⟩, rfl, fun i hi => ?_⟩
    · rw [List.mem_singleton.mp hi] at hfreed
      exact absurd hfreed hmany
    · rw [List.mem_singleton.mp hi] at hfreed
      exact absurd hfreed hmany
    · have hne : i ≠ self := fun heq => hi (List.mem_singleton.mpr heq)
      exact ⟨rfl, Function.update_of_ne hne ..⟩

end

/-! ## Resetting the static pointers -/

/-- A call that assigns no static pointer. -/
def Sys.KeepsStatics : Sys → Prop
  | .swapSite .. | .swapDnsmasq .. => False
  | _ => True

theorem Sys.KeepsStatics.step {op : Sys} (hop : op.KeepsStatics) (K : Kernel) (m : Machine) :
    (K.step m op).2.world.site = m.world.site ∧
      (K.step m op).2.world.dnsmasq = m.world.dnsmasq := by
  cases op with
  | fork self =>
    have h := m.world.forked_sameHeap self (K.fork m self)
    exact ⟨h.site, h.dnsmasq⟩
  | kill self pid =>
    have h := m.world.killed_sameHeap self pid (K.kill m pid)
    exact ⟨h.site, h.dnsmasq⟩
  | waitpid self pid =>
    have h := m.world.waited_sameHeap pid (K.waitpid m pid)
    exact ⟨h.site, h.dnsmasq⟩
  | swapSite v new => exact absurd hop id
  | swapDnsmasq f new => exact absurd hop id
  | _ => exact ⟨rfl, rfl⟩

theorem statics_of_only {α : Type} {p : Harness α} (hp : Only Sys.KeepsStatics p) (K : Kernel)
    (m : Machine) :
    (K.run p m).2.world.site = m.world.site ∧
      (K.run p m).2.world.dnsmasq = m.world.dnsmasq := by
  refine hp.run_inv (I := fun (m' : Machine) => m'.world.site = m.world.site ∧
    m'.world.dnsmasq = m.world.dnsmasq) (fun m' op hop h => ?_) ⟨rfl, rfl⟩
  obtain ⟨hsite, hdnsmasq⟩ := hop.step K m'
  exact ⟨hsite.trans h.1, hdnsmasq.trans h.2⟩

theorem releaseInstance_keepsStatics (self : Inst) :
    Only Sys.KeepsStatics (releaseInstance self) :=
  (releaseInstance_only self).mono fun op hop => by
    cases op <;> first
      | exact trivial
      | exact absurd hop (by rintro (h | h) <;> exact h)

theorem dropSite_keepsStatics (old : Option Site) : Only Sys.KeepsStatics (dropSite old) := by
  cases old with
  | none => exact Only.ret ()
  | some s =>
    change Only Sys.KeepsStatics s.destroy
    rw [s.destroy_eq]
    exact Only.bind (Only.forEach fun i _ => releaseInstance_keepsStatics i) fun _ =>
      Only.perform trivial

theorem dropDnsmasq_keepsStatics (old : Option Inst) :
    Only Sys.KeepsStatics (dropDnsmasq old) := by
  cases old with
  | none => exact Only.ret ()
  | some i => exact releaseInstance_keepsStatics i

theorem callOnce_keepsStatics (c : Method × Inst) : Only Sys.KeepsStatics (callOnce c) := by
  have hbody : Only Sys.KeepsStatics (c.1.body c.2) :=
    c.1.body_only c.2
      (fun op hop => by cases op <;> first | exact trivial | exact absurd hop id)
      (fun op hop => by cases op <;> first | exact trivial | exact absurd hop id)
  refine Only.bind (Only.bind (Only.perform trivial) fun _ => ?_) fun _ => Only.ret _
  refine Only.bind hbody fun result => ?_
  exact Only.bind (releaseInstance_keepsStatics c.2) fun _ => Only.ret _

theorem call_keepsStatics (s : Site) (c : SiteCall) : Only Sys.KeepsStatics (s.call c) := by
  rw [s.call_eq_targets]
  exact Only.forEach fun t _ => callOnce_keepsStatics t

theorem onSite_keepsStatics (v : SiteVar) {method : Site → Harness Unit}
    (hmethod : ∀ s, Only Sys.KeepsStatics (method s)) :
    Only Sys.KeepsStatics (onSite v method) := by
  refine Only.bind (Only.perform trivial) fun site => ?_
  cases site with
  | none => exact Only.ret ()
  | some s => exact hmethod s

theorem startDnsmasq_keepsStatics (f : Fixture) : Only Sys.KeepsStatics (startDnsmasq f) := by
  refine Only.bind (Only.perform trivial) fun dnsmasq => ?_
  cases dnsmasq with
  | none => exact Only.ret ()
  | some i =>
    refine Only.bind ((startInstance_only i).mono fun op hop => ?_) fun _ => Only.ret ()
    cases op <;> first | exact trivial | exact absurd hop id

-- An assignment changes the one static pointer.
theorem statics_assignSite (K : Kernel) (v : SiteVar) (new : Option Site) (m : Machine) :
    (K.run (assignSite v new) m).2.world.site = Function.update m.world.site v new ∧
      (K.run (assignSite v new) m).2.world.dnsmasq = m.world.dnsmasq :=
  statics_of_only (dropSite_keepsStatics (m.world.site v)) K (K.step m (.swapSite v new)).2

theorem statics_assignDnsmasq (K : Kernel) (f : Fixture) (new : Option Inst) (m : Machine) :
    (K.run (assignDnsmasq f new) m).2.world.site = m.world.site ∧
      (K.run (assignDnsmasq f new) m).2.world.dnsmasq = Function.update m.world.dnsmasq f new :=
  statics_of_only (dropDnsmasq_keepsStatics (m.world.dnsmasq f)) K
    (K.step m (.swapDnsmasq f new)).2

-- Assigning to a static pointer that is null destroys nothing.
theorem run_assignSite_vacant (K : Kernel) {m : Machine} {v : SiteVar}
    (hvacant : m.world.site v = none) (new : Option Site) :
    K.run (assignSite v new) m = ((), (K.step m (.swapSite v new)).2) ∧
      (assignSite v new).trace K.step m = [(m, .swapSite v new)] := by
  have hrun : K.run (assignSite v new) m =
      K.run (dropSite (m.world.site v)) (K.step m (.swapSite v new)).2 := rfl
  have htrace : (assignSite v new).trace K.step m = (m, .swapSite v new) ::
      (dropSite (m.world.site v)).trace K.step (K.step m (.swapSite v new)).2 := rfl
  rw [hrun, htrace, hvacant]
  exact ⟨rfl, rfl⟩

theorem run_assignDnsmasq_vacant (K : Kernel) {m : Machine} {f : Fixture}
    (hvacant : m.world.dnsmasq f = none) (new : Option Inst) :
    K.run (assignDnsmasq f new) m = ((), (K.step m (.swapDnsmasq f new)).2) ∧
      (assignDnsmasq f new).trace K.step m = [(m, .swapDnsmasq f new)] := by
  have hrun : K.run (assignDnsmasq f new) m =
      K.run (dropDnsmasq (m.world.dnsmasq f)) (K.step m (.swapDnsmasq f new)).2 := rfl
  have htrace : (assignDnsmasq f new).trace K.step m = (m, .swapDnsmasq f new) ::
      (dropDnsmasq (m.world.dnsmasq f)).trace K.step (K.step m (.swapDnsmasq f new)).2 := rfl
  rw [hrun, htrace, hvacant]
  exact ⟨rfl, rfl⟩

section

variable (H : CleanKernel)

theorem instancesAt_of_site {w w' : World} {v : SiteVar} (h : w'.site v = w.site v) :
    w'.instancesAt v = w.instancesAt v := by
  unfold World.instancesAt
  rw [h]

theorem Fixture.sites_nodup (f : Fixture) : f.sites.Nodup := by
  cases f <;> decide

end

end ClearwaterFv
