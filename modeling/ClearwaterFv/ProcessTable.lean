import Mathlib.Data.List.Nodup
import ClearwaterFv.Construction

/-!
# ProcessTable — what `_pid` and `_running` say about the process table

The only link between an instance and its process is the pair of `_pid` and `_running`.  Between
two calls of its methods, `_running` means that `_pid` is a child of this very instance that has
not been reaped, and every call keeps that, whatever `fork`, `kill` and `waitpid` do.
-/

open Reasoning Reasoning.Prog

namespace ClearwaterFv

/-- Between calls: the children have positive PIDs of their own, and `_running` means that `_pid`
is a child of the instance. -/
structure PidsSound (w : World) : Prop where
  pos : ∀ c ∈ w.children, 0 < c.pid
  nodup : w.unreaped.Nodup
  running : ∀ i, w.running i = true → ⟨w.pid i, i⟩ ∈ w.children

theorem child_unique {w : World} (hnodup : w.unreaped.Nodup) {c d : Child} (hc : c ∈ w.children)
    (hd : d ∈ w.children) (hpid : c.pid = d.pid) : c = d :=
  List.inj_on_of_nodup_map hnodup hc hd hpid

theorem mem_unreaped {w : World} {c : Child} (hc : c ∈ w.children) : c.pid ∈ w.unreaped :=
  List.mem_map_of_mem hc

namespace PidsSound

variable {w : World} {self : Inst} {pid : Int}

-- Only the children, `_pid` and `_running` matter.
theorem congr {w' : World} (h : PidsSound w) (hchildren : w'.children = w.children)
    (hpid : w'.pid = w.pid) (hrunning : w'.running = w.running) : PidsSound w' where
  pos := by
    rw [hchildren]
    exact h.pos
  nodup := by
    unfold World.unreaped
    rw [hchildren]
    exact h.nodup
  running := by
    rw [hchildren, hpid, hrunning]
    exact h.running

theorem started (h : PidsSound w) (hpos : 0 < pid) (hfresh : pid ∉ w.unreaped) :
    PidsSound (w.started self pid) where
  pos c hc := by
    rcases List.mem_cons.mp hc with rfl | hc
    · exact hpos
    · exact h.pos c hc
  nodup := List.nodup_cons.mpr ⟨hfresh, h.nodup⟩
  running i hi := by
    change Function.update w.running self true i = true at hi
    change (⟨Function.update w.pid self pid i, i⟩ : Child) ∈ ⟨pid, self⟩ :: w.children
    by_cases hself : i = self
    · rw [hself, Function.update_self]
      exact List.mem_cons_self
    · rw [Function.update_of_ne hself] at hi
      rw [Function.update_of_ne hself]
      exact List.mem_cons_of_mem _ (h.running i hi)

theorem notReaped (h : PidsSound w) (hrun : w.running self = true) (exited : Bool) :
    PidsSound (w.notReaped self exited) where
  pos := h.pos
  nodup := h.nodup
  running i hi := by
    change Function.update w.running self (!exited) i = true at hi
    by_cases hself : i = self
    · -- the child was not reaped, so that it does not matter what the status word held
      rw [hself]
      exact h.running self hrun
    · rw [Function.update_of_ne hself] at hi
      exact h.running i hi

theorem stopped (h : PidsSound w) (hrun : w.running self = true) :
    PidsSound (w.stopped self) where
  pos c hc := h.pos c (List.mem_of_mem_filter hc)
  nodup := h.nodup.sublist (List.Sublist.map _ List.filter_sublist)
  running i hi := by
    change Function.update w.running self false i = true at hi
    by_cases hself : i = self
    · rw [hself, Function.update_self] at hi
      cases hi
    · rw [Function.update_of_ne hself] at hi
      have hchild : (⟨w.pid i, i⟩ : Child) ∈ w.children := h.running i hi
      have hother : w.pid i ≠ w.pid self := by
        intro heq
        have hsame := child_unique h.nodup hchild (h.running self hrun) heq
        exact hself (congrArg Child.inst hsame)
      exact List.mem_filter.mpr ⟨hchild, decide_eq_true hother⟩

end PidsSound

section Calls

variable (K : Kernel) {m : Machine}

theorem PidsSound.startInstance (h : PidsSound m.world) (self : Inst) :
    PidsSound (K.run (startInstance self) m).2.world := by
  rcases startInstance_cases K m self with ⟨-, -, hw⟩ | ⟨pid, hpos, hfresh, -, -, hw⟩
  · rw [hw]
    exact h
  · rw [hw]
    exact h.started hpos hfresh

theorem PidsSound.killInstance (h : PidsSound m.world) (self : Inst) :
    PidsSound (K.run (killInstance self) m).2.world := by
  rcases killInstance_cases K m self with ⟨-, -, hw⟩ | ⟨-, -, -, hw⟩ |
    ⟨hrun, m', status, exited, -, -, -, hw⟩ | ⟨hrun, -, -, hw⟩
  · rw [hw]
    exact h
  · rw [hw]
    exact h
  · rw [hw]
    exact h.notReaped hrun exited
  · rw [hw]
    exact h.stopped hrun

theorem PidsSound.restartInstance (h : PidsSound m.world) (self : Inst) :
    PidsSound (K.run (restartInstance self) m).2.world := by
  rw [run_restartInstance]
  by_cases hkilled : (K.run (ClearwaterFv.killInstance self) m).1 = true
  · rw [if_pos hkilled]
    exact (h.killInstance K self).startInstance K self
  · rw [if_neg hkilled]
    exact h.killInstance K self

/-! ## Which processes are signalled -/

/-- A call that is not a `kill(2)`. -/
def Sys.Harmless : Sys → Prop
  | .kill .. => False
  | _ => True

theorem reap_harmless (self : Inst) : Only Sys.Harmless (reap self) := by
  refine Only.bind (Only.perform trivial) fun pid => ?_
  refine Only.bind (Only.perform trivial) fun result => ?_
  exact Only.bind (Only.perform trivial) fun _ => Only.ret _

theorem startInstance_harmless (self : Inst) : Only Sys.Harmless (startInstance self) :=
  (startInstance_only self).mono fun op hop => by
    cases op <;> first | exact trivial | exact hop

/-- A `kill(2)` is aimed at a child of the instance that makes it. -/
def AimsAtOwnChild (m : Machine) (op : Sys) : Prop :=
  ∀ self target, op = .kill self target → 0 < target ∧ ⟨target, self⟩ ∈ m.world.children

theorem Sys.Harmless.aims (m : Machine) (op : Sys) (hop : op.Harmless) :
    AimsAtOwnChild m op := by
  intro self target hkill
  rw [hkill] at hop
  exact absurd hop id

theorem PidsSound.aims_killInstance (h : PidsSound m.world) (self : Inst) :
    Always K.step AimsAtOwnChild (ClearwaterFv.killInstance self) m := by
  have hread : AimsAtOwnChild m (.readRunning self) := Sys.Harmless.aims m _ trivial
  refine Always.call hread ?_
  change Always K.step AimsAtOwnChild
    (if m.world.running self = true then killRunning self else ret true)
    (K.step m (.readRunning self)).2
  by_cases hrun : m.world.running self = true
  · rw [if_pos hrun]
    let m₁ := (K.step m (.readRunning self)).2
    let m₂ := (K.step m₁ (.readPid self)).2
    -- reading `_running` and `_pid` has changed nothing
    have hkill : AimsAtOwnChild m₂ (.kill self (m.world.pid self)) := by
      intro inst target hop
      cases hop
      have hchild : (⟨m.world.pid self, self⟩ : Child) ∈ m.world.children := h.running self hrun
      exact ⟨h.pos _ hchild, hchild⟩
    refine Always.call (Sys.Harmless.aims m₁ _ trivial) (Always.call hkill ?_)
    change Always K.step AimsAtOwnChild
      (if K.kill m₂ (m.world.pid self) = 0 then reap self else ret false) _
    by_cases hrc : K.kill m₂ (m.world.pid self) = 0
    · rw [if_pos hrc]
      exact (reap_harmless self).always_of Sys.Harmless.aims _
    · rw [if_neg hrc]
      exact Always.ret _ _
  · rw [if_neg hrun]
    exact Always.ret _ _

/-- From a sound process table, a program signals only its instances' own children and leaves the
table sound. -/
abbrev KeepsPidsSound {α : Type} (p : Harness α) : Prop :=
  Keeps K.step (fun m => PidsSound m.world) AimsAtOwnChild p

theorem keepsPidsSound_startInstance (self : Inst) : KeepsPidsSound K (startInstance self) where
  calls m _ := (startInstance_harmless self).always_of Sys.Harmless.aims m
  final _ h := h.startInstance K self

theorem keepsPidsSound_killInstance (self : Inst) : KeepsPidsSound K (killInstance self) where
  calls _ h := h.aims_killInstance K self
  final _ h := h.killInstance K self

theorem keepsPidsSound_restartInstance (self : Inst) :
    KeepsPidsSound K (restartInstance self) := by
  refine Keeps.bind (keepsPidsSound_killInstance K self) fun killed => ?_
  by_cases hkilled : killed = true
  · rw [if_pos hkilled]
    exact keepsPidsSound_startInstance K self
  · rw [if_neg hkilled]
    exact Keeps.ret false

/-- A call that touches neither the processes nor what is recorded of them. -/
def Sys.Quiet : Sys → Prop
  | .writePid .. | .writeRunning .. | .fork _ | .kill .. | .waitpid .. | .newInstance .. => False
  | _ => True

theorem Sys.Quiet.harmless {op : Sys} (hop : op.Quiet) : op.Harmless := by
  cases op <;> first | exact trivial | exact hop

theorem PidsSound.step_quiet {op : Sys} (hop : op.Quiet) (h : PidsSound m.world) :
    PidsSound (K.step m op).2.world := by
  cases op <;> first | exact absurd hop id | exact h.congr rfl rfl rfl

theorem PidsSound.addOwner (h : PidsSound m.world) (self : Inst) :
    PidsSound (K.step m (.addOwner self)).2.world :=
  h.congr rfl rfl rfl

theorem keepsPidsSound_quiet {α : Type} {p : Harness α} (hp : Only Sys.Quiet p) :
    KeepsPidsSound K p :=
  hp.keeps (fun _ _ hop h => h.step_quiet K hop) (fun m op hop _ => hop.harmless.aims m op)

theorem PidsSound.newInstance (h : PidsSound m.world) (args : InstanceArgs)
    (confs : List (String × String)) :
    PidsSound (K.step m (.newInstance args confs)).2.world where
  pos := h.pos
  nodup := h.nodup
  running i hi := by
    change Function.update m.world.running m.world.next false i = true at hi
    by_cases hnew : i = m.world.next
    · rw [hnew, Function.update_self] at hi
      cases hi
    · rw [Function.update_of_ne hnew] at hi
      exact h.running i hi

theorem PidsSound.step_constructs {op : Sys} (hop : op.Constructs) (h : PidsSound m.world) :
    PidsSound (K.step m op).2.world := by
  cases op with
  | newInstance args confs => exact h.newInstance K args confs
  | _ => first | exact absurd hop id | exact h.congr rfl rfl rfl

theorem Sys.Constructs.harmless {op : Sys} (hop : op.Constructs) : op.Harmless := by
  cases op <;> first | exact trivial | exact hop

theorem keepsPidsSound_constructs {α : Type} {p : Harness α} (hp : Only Sys.Constructs p) :
    KeepsPidsSound K p :=
  hp.keeps (fun _ _ hop h => h.step_constructs K hop) (fun m op hop _ => hop.harmless.aims m op)

theorem keepsPidsSound_destroyInstance (self : Inst) :
    KeepsPidsSound K (destroyInstance self) := by
  refine Keeps.bind (keepsPidsSound_quiet K (Only.perform trivial)) fun inst => ?_
  have hfiles : Only Sys.Quiet (removeFiles inst) := (removeFiles_only inst).mono fun op hop => by
    cases op <;> first | exact trivial | exact absurd hop id
  refine Keeps.bind (keepsPidsSound_quiet K hfiles) fun _ => ?_
  refine Keeps.bind (keepsPidsSound_killInstance K self) fun _ => ?_
  exact keepsPidsSound_quiet K (Only.perform trivial)

end Calls

/-- What can be done with an instance. -/
inductive InstanceCall where
  | construct (args : InstanceArgs) (confs : List (String × String))
  | call (method : Method) (self : Inst)
  | destroy (self : Inst)

def InstanceCall.body : InstanceCall → Harness Unit
  | .construct args confs => do
    let _ ← sys (.newInstance args confs)
  | .call method self => do
    let _ ← method.body self
  | .destroy self => destroyInstance self

theorem keepsPidsSound_method (K : Kernel) (method : Method) (self : Inst) :
    KeepsPidsSound K (method.body self) := by
  cases method with
  | start => exact keepsPidsSound_startInstance K self
  | kill => exact keepsPidsSound_killInstance K self
  | restart => exact keepsPidsSound_restartInstance K self

theorem keepsPidsSound_body (K : Kernel) (c : InstanceCall) : KeepsPidsSound K c.body := by
  cases c with
  | construct args confs =>
    exact Keeps.bind (keepsPidsSound_constructs K (Only.perform trivial)) fun _ => Keeps.ret _
  | call method self => exact Keeps.bind (keepsPidsSound_method K method self) fun _ => Keeps.ret _
  | destroy self => exact keepsPidsSound_destroyInstance K self

-- Nothing has been started.
theorem pidsSound_initial (pid : Inst → Int) (files : Paths.FileTree) (cwd : Paths.Path)
    (noisy : Option String) : PidsSound (Machine.initial pid files cwd noisy).world where
  pos _ hc := absurd hc List.not_mem_nil
  nodup := List.nodup_nil
  running _ hi := absurd hi Bool.false_ne_true

/-- Whatever is done with instances, and however `fork`, `kill` and `waitpid` turn out, an
instance only ever signals a positive PID that a fork of it returned and that has not been
reaped. -/
theorem instanceCalls_aim_at_own_children (K : Kernel) (pid : Inst → Int)
    (files : Paths.FileTree) (cwd : Paths.Path) (noisy : Option String)
    (cs : List InstanceCall) :
    ∀ e ∈ K.trace (forEach cs InstanceCall.body) (Machine.initial pid files cwd noisy),
      ∀ self target, e.2 = .kill self target →
        0 < target ∧ ⟨target, self⟩ ∈ e.1.world.children := by
  have hkeeps : KeepsPidsSound K (forEach cs InstanceCall.body) :=
    Keeps.forEach fun c _ => keepsPidsSound_body K c
  exact hkeeps.calls _ (pidsSound_initial pid files cwd noisy)

/-- An instance that is started twice and killed signals its second child. -/
theorem instanceCalls_aim_at_own_children_restarted :
    ∃ e ∈ Kernel.obliging.trace (forEach [.construct default [], .call .start 0, .call .start 0,
        .call .kill 0] InstanceCall.body) (Machine.initial (fun _ => 0) (fun _ => none) [] none),
      ∃ self target, e.2 = .kill self target ∧ 0 < target ∧
        ⟨target, self⟩ ∈ e.1.world.children := by
  have hkill : ∃ e ∈ Kernel.obliging.trace (forEach [.construct default [], .call .start 0,
      .call .start 0, .call .kill 0] InstanceCall.body)
        (Machine.initial (fun _ => 0) (fun _ => none) [] none),
      (match e.2 with | .kill _ target => target == 2 | _ => false) = true := by
    decide +kernel
  obtain ⟨⟨m, op⟩, he, hop⟩ := hkill
  cases op with
  | kill self target =>
    exact ⟨_, he, self, target, rfl,
      instanceCalls_aim_at_own_children Kernel.obliging _ _ _ _ _ _ he self target rfl⟩
  | _ => cases hop

end ClearwaterFv
