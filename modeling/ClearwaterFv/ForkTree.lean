import ClearwaterFv.Fixtures
import ClearwaterFv.Reasoning.Branching

/-!
# ForkTree — the processes that run harness code

`fork` copies the harness: the memory and the point at which it is called.  The child goes on
inside `start_instance`, and it is only the `execlp` in it that keeps it from running the harness
code after that.  This module runs a harness program in all the processes that come from one.
-/

open Reasoning Reasoning.Prog

namespace ClearwaterFv

/-- The forks that lead from the harness process to a process, the last one first. -/
abbrev ProcPath := List Inst

-- What becomes of the `fork` of an instance in a process, and whether the `execlp` in a process
-- replaces its image.
structure Outcomes where
  fork : ProcPath → Inst → Int
  fork_pid : ∀ path self, fork path self = -1 ∨ 0 < fork path self
  exec : ProcPath → Bool

/-- The memory of a process that has just been forked.  The processes of its parent are not its
children. -/
def Machine.inChild (m : Machine) : Machine :=
  { world := { m.world with children := [] }, time := m.time + 1 }

def Machine.inParent (m : Machine) (self : Inst) (pid : Int) : Machine :=
  { world := m.world.forked self pid, time := m.time + 1, dead := m.dead }

/-- A call that returns once, in the process that makes it. -/
def Sys.Local : Sys → Prop
  | .fork _ | .execlp .. => False
  | _ => True

theorem Sys.Local.no_fork {op : Sys} (hop : op.Local) : op.forks? = none := by
  cases op with
  | fork self => exact absurd hop id
  | _ => rfl

theorem releaseInstance_local (self : Inst) : Only Sys.Local (releaseInstance self) :=
  (releaseInstance_only self).mono fun op hop => by
    cases op <;> first
      | exact trivial
      | exact absurd hop (by rintro (h | h) <;> exact h)

namespace Kernel

variable (K : Kernel) (out : Outcomes)

/-- The processes in which a call returns. -/
def returns (s : ProcPath × Machine) (op : Sys) : List (op.Res × (ProcPath × Machine)) :=
  match op with
  | .fork self =>
    let pid := out.fork s.1 self
    let parent := (pid, (s.1, s.2.inParent self pid))
    if pid = -1 then [parent] else [parent, (0, (self :: s.1, s.2.inChild))]
  | .execlp self file args =>
    if out.exec s.1 then [] else [((), (s.1, (K.step s.2 (.execlp self file args)).2))]
  | op => [((K.step s.2 op).1, (s.1, (K.step s.2 op).2))]

/-- The processes that reach the end of a harness program. -/
def survivors {α : Type} (p : Harness α) (m : Machine) : List ProcPath :=
  (p.branch (K.returns out) ([], m)).map fun r => r.2.1

/-- How often an instance is forked, over all the processes. -/
def forksFrom {α : Type} (p : Harness α) (s : ProcPath × Machine) (inst : Inst) : Nat :=
  (p.calls (K.returns out) s).countP fun e =>
    e.2.forks? = some inst ∧ out.fork e.1.1 inst ≠ -1

/-! ## One process -/

theorem returns_local (s : ProcPath × Machine) {op : Sys} (hop : op.Local) :
    K.returns out s op = [((K.step s.2 op).1, (s.1, (K.step s.2 op).2))] := by
  cases op <;> first | rfl | exact absurd hop id

-- Code that neither forks nor executes another image stays in its process.
theorem branch_local {α : Type} {p : Harness α} (hp : Only Sys.Local p) (path : ProcPath)
    (m : Machine) : p.branch (K.returns out) (path, m) =
      [((K.run p m).1, (path, (K.run p m).2))] := by
  induction hp generalizing m with
  | ret a => rfl
  | call hop _ ih =>
    rw [branch, returns_local K out _ hop, List.flatMap_cons, List.flatMap_nil, List.append_nil,
      ih]
    rfl

theorem forksFrom_eq_zero {α : Type} {p : Harness α} (hp : Only (fun op => op.forks? = none) p)
    (s : ProcPath × Machine) (inst : Inst) : K.forksFrom out p s inst = 0 := by
  unfold forksFrom
  rw [List.countP_eq_zero]
  intro e he
  have hnone : e.2.forks? = none := hp.calls s e he
  rw [hnone]
  simp only [reduceCtorEq, false_and, decide_false, Bool.false_eq_true, not_false_eq_true]

theorem forksFrom_bind {α β : Type} (p : Harness α) (f : α → Harness β)
    (s : ProcPath × Machine) (inst : Inst) :
    K.forksFrom out (p.bind f) s inst = K.forksFrom out p s inst +
      ((p.branch (K.returns out) s).map fun r => K.forksFrom out (f r.1) r.2 inst).sum := by
  unfold forksFrom
  rw [(calls_bind p f s).countP_eq, List.countP_append, List.countP_flatMap]
  rfl

theorem forksFrom_bind_no_fork {α β : Type} (p : Harness α) {f : α → Harness β}
    (hf : ∀ a, Only (fun op => op.forks? = none) (f a)) (s : ProcPath × Machine) (inst : Inst) :
    K.forksFrom out (p.bind f) s inst = K.forksFrom out p s inst := by
  have hzero : ((p.branch (K.returns out) s).map fun r =>
      K.forksFrom out (f r.1) r.2 inst).sum = 0 := by
    apply List.sum_eq_zero_iff_forall_eq_nat.mpr
    intro n hn
    obtain ⟨r, _, rfl⟩ := List.mem_map.mp hn
    exact K.forksFrom_eq_zero out (hf r.1) r.2 inst
  rw [forksFrom_bind, hzero, Nat.add_zero]

theorem forksFrom_fork (self : Inst) (s : ProcPath × Machine) (inst : Inst) :
    K.forksFrom out (sys (.fork self)) s inst ≤ if self = inst then 1 else 0 := by
  unfold forksFrom
  rw [calls_perform]
  by_cases hself : self = inst
  · rw [if_pos hself]
    exact List.countP_le_length
  · rw [if_neg hself, Nat.le_zero, List.countP_eq_zero]
    intro e he
    rw [List.mem_singleton.mp he]
    simp only [Sys.forks?, Option.some.injEq, hself, false_and, decide_false, Bool.false_eq_true,
      not_false_eq_true]

/-! ## One start -/

theorem branch_call_local {α : Type} (s : ProcPath × Machine) (op : Sys) (hop : op.Local)
    (next : op.Res → Harness α) :
    (call op next : Harness α).branch (K.returns out) s =
      (next (K.step s.2 op).1).branch (K.returns out) (s.1, (K.step s.2 op).2) := by
  rw [branch, returns_local K out s hop, List.flatMap_cons, List.flatMap_nil, List.append_nil]

theorem branch_call_execlp {α : Type} (s : ProcPath × Machine) (self : Inst) (file : String)
    (args : List String) (next : Unit → Harness α) :
    (call (.execlp self file args) next : Harness α).branch (K.returns out) s =
      if out.exec s.1 then []
      else (next ()).branch (K.returns out)
        (s.1, (K.step s.2 (.execlp self file args)).2) := by
  have hreturns : K.returns out s (.execlp self file args) =
      if out.exec s.1 then [] else [((), (s.1, (K.step s.2 (.execlp self file args)).2))] := rfl
  rw [branch, hreturns]
  by_cases hexec : out.exec s.1 = true
  · rw [if_pos hexec, if_pos hexec]
    rfl
  · rw [if_neg hexec, if_neg hexec]
    exact List.append_nil _

theorem forksFrom_call_local {α : Type} (s : ProcPath × Machine) (op : Sys) (hop : op.Local)
    (next : op.Res → Harness α) (inst : Inst) :
    K.forksFrom out (call op next) s inst =
      K.forksFrom out (next (K.step s.2 op).1) (s.1, (K.step s.2 op).2) inst := by
  unfold forksFrom
  rw [calls, returns_local K out s hop, List.flatMap_cons, List.flatMap_nil, List.append_nil,
    List.countP_cons_of_neg]
  rw [hop.no_fork]
  simp only [reduceCtorEq, false_and, decide_false, Bool.false_eq_true, not_false_eq_true]

-- What is left of a process after `execute_process`: nothing, or the process.
theorem branch_executeProcess (self : Inst) (path : ProcPath) (m : Machine) :
    ∃ m', (executeProcess self).branch (K.returns out) (path, m) =
      if out.exec path then [] else [(false, (path, m'))] := by
  have hread : (executeProcess self).branch (K.returns out) (path, m) =
      (executeOverride self (K.answer m (.readArgs self))).branch (K.returns out)
        (path, (K.step m (.readArgs self)).2) :=
    branch_call_local K out (path, m) (.readArgs self) trivial (executeOverride self)
  rw [hread]
  unfold executeOverride
  cases (K.answer m (.readArgs self)).kind with
  | memcached => exact ⟨_, branch_call_execlp K out _ self _ _ _⟩
  | dnsmasq cfgfile => exact ⟨_, branch_call_execlp K out _ self _ _ _⟩
  | rogers clusterSettingsFile =>
    exact ⟨_, (branch_call_local K out _ .getenvNoisy trivial _).trans
      (branch_call_execlp K out _ self _ _ _)⟩
  | chronos instanceDir logDir confDir localConfFile clusterConfFile sharedConfFile =>
    -- the log files are opened in the child
    exact ⟨_, ((branch_call_local K out _ (.freopen _) trivial _).trans
      (branch_call_local K out _ (.freopen _) trivial _)).trans
      (branch_call_execlp K out _ self _ _ _)⟩

-- The processes after one start: the one that made it, and the new one if its `execlp` returned.
theorem branch_startInstance (self : Inst) (path : ProcPath) (m : Machine) :
    ∃ ok m' child, (startInstance self).branch (K.returns out) (path, m) =
      (ok, (path, m')) ::
        if out.fork path self = -1 ∨ out.exec (self :: path) then []
        else [(false, (self :: path, child))] := by
  have hreturns : K.returns out (path, m) (.fork self) =
      if out.fork path self = -1
      then [(out.fork path self, (path, m.inParent self (out.fork path self)))]
      else [(out.fork path self, (path, m.inParent self (out.fork path self))),
        (0, (self :: path, m.inChild))] := rfl
  have hstart : startInstance self = call (.fork self) fun pid =>
      if pid = -1 then ret false
      else if pid = 0 then executeProcess self
      else call (.writePid self pid) fun _ => call (.writeRunning self true) fun _ => ret true :=
    rfl
  obtain ⟨child, hchild⟩ := branch_executeProcess K out self (self :: path) m.inChild
  rw [hstart, branch, hreturns]
  rcases out.fork_pid path self with hfail | hpos
  · refine ⟨false, m.inParent self (out.fork path self), child, ?_⟩
    rw [if_pos hfail, if_pos (Or.inl hfail), List.flatMap_singleton, if_pos hfail]
    rfl
  · have hne : ¬ out.fork path self = -1 := by omega
    have hzero : ¬ out.fork path self = 0 := by omega
    have hchild' : (if (0 : Int) = -1 then (ret false : Harness Bool)
        else if (0 : Int) = 0 then executeProcess self
        else call (.writePid self 0) fun _ => call (.writeRunning self true) fun _ => ret true)
        = executeProcess self := rfl
    let recorded := (K.step (m.inParent self (out.fork path self))
      (.writePid self (out.fork path self))).2
    refine ⟨true, (K.step recorded (.writeRunning self true)).2, child, ?_⟩
    rw [if_neg hne, List.flatMap_cons, List.flatMap_singleton, if_neg hne, if_neg hzero, hchild',
      hchild]
    by_cases hexec : out.exec (self :: path) = true
    · rw [if_pos hexec, if_pos (Or.inr hexec)]
      rfl
    · rw [if_neg hexec, if_neg (not_or.mpr ⟨hne, hexec⟩)]
      rfl

-- A start forks its instance once, if at all.
theorem forksFrom_startInstance (self : Inst) (s : ProcPath × Machine) (inst : Inst) :
    K.forksFrom out (startInstance self) s inst ≤ if self = inst then 1 else 0 := by
  have hstart : K.forksFrom out (startInstance self) s inst =
      K.forksFrom out (sys (.fork self)) s inst :=
    K.forksFrom_bind_no_fork out _ (afterFork_no_fork self) s inst
  rw [hstart]
  exact K.forksFrom_fork out self s inst

/-! ## The loop of `Site::start` -/

/-- One iteration of the loop. -/
abbrev startOnce (self : Inst) : Harness Unit :=
  (viaCopy self (startInstance self)).bind fun _ => ret ()

-- The processes after an iteration: the one that runs the loop, and the new one if it was
-- forked and its `execlp` returned.
theorem branch_startOnce (self : Inst) (path : ProcPath) (m : Machine) :
    ∃ m' child, (startOnce self).branch (K.returns out) (path, m) =
      ((), (path, m')) ::
        if out.fork path self = -1 ∨ out.exec (self :: path) then []
        else [((), (self :: path, child))] := by
  obtain ⟨ok, m₁, child, hstart⟩ := K.branch_startInstance out self path
    (K.step m (.addOwner self)).2
  have hafter : ∀ (ok : Bool) (s : ProcPath × Machine),
      (((releaseInstance self).bind fun _ => (ret ok : Harness Bool)).bind fun _ =>
        (ret () : Harness Unit)).branch (K.returns out) s =
      [((), (s.1, (K.run (releaseInstance self) s.2).2))] := by
    intro ok s
    rw [branch_bind, branch_bind, K.branch_local out (releaseInstance_local self)]
    rfl
  have hiter : (startOnce self).branch (K.returns out) (path, m) =
      ((startInstance self).branch (K.returns out) (path, (K.step m (.addOwner self)).2)).flatMap
        fun r => [((), (r.2.1, (K.run (releaseInstance self) r.2.2).2))] := by
    have hcall := K.branch_call_local out (path, m) (.addOwner self) trivial fun _ =>
      (((startInstance self).bind fun ok =>
        (releaseInstance self).bind fun _ => (ret ok : Harness Bool)).bind fun _ =>
          (ret () : Harness Unit))
    refine hcall.trans ?_
    rw [bind_assoc, branch_bind]
    simp only [hafter]
  refine ⟨(K.run (releaseInstance self) m₁).2, (K.run (releaseInstance self) child).2, ?_⟩
  rw [hiter, hstart, List.flatMap_cons]
  by_cases hgone : out.fork path self = -1 ∨ out.exec (self :: path)
  · rw [if_pos hgone, if_pos hgone]
    rfl
  · rw [if_neg hgone, if_neg hgone]
    rfl

theorem forksFrom_startOnce (self : Inst) (s : ProcPath × Machine) (inst : Inst) :
    K.forksFrom out (startOnce self) s inst ≤ if self = inst then 1 else 0 := by
  have hrelease : Only (fun op => op.forks? = none) (releaseInstance self) :=
    (releaseInstance_only self).mono fun _ hop => hop.no_fork
  have hcall := K.forksFrom_call_local out s (.addOwner self) trivial
    (fun _ => ((startInstance self).bind fun ok =>
      (releaseInstance self).bind fun _ => (ret ok : Harness Bool)).bind fun _ =>
        (ret () : Harness Unit)) inst
  refine (le_of_eq hcall).trans ?_
  rw [K.forksFrom_bind_no_fork out _ (fun _ => Only.ret ()),
    K.forksFrom_bind_no_fork out _ (fun ok => Only.bind hrelease fun _ => Only.ret ok)]
  exact K.forksFrom_startInstance out self _ inst

-- Where no new process survives its `execlp`, the loop ends in the process that began it, and
-- each instance has been forked at most as often as it is in the list.
theorem startLoop_alone {insts : List Inst} (path : ProcPath) (m : Machine)
    (hgone : ∀ i ∈ insts, out.fork path i = -1 ∨ out.exec (i :: path) = true) :
    (∃ m', (forEach insts startOnce).branch (K.returns out) (path, m) = [((), (path, m'))]) ∧
      ∀ i, K.forksFrom out (forEach insts startOnce) (path, m) i ≤ insts.count i := by
  induction insts generalizing m with
  | nil => exact ⟨⟨m, rfl⟩, fun i => Nat.le_refl 0⟩
  | cons j insts ih =>
    obtain ⟨m₁, child, hfirst⟩ := K.branch_startOnce out j path m
    rw [if_pos (hgone j List.mem_cons_self)] at hfirst
    have hrest : ∀ i ∈ insts, out.fork path i = -1 ∨ out.exec (i :: path) = true :=
      fun i hi => hgone i (List.mem_cons_of_mem _ hi)
    obtain ⟨⟨m₂, hlast⟩, hcount⟩ := ih m₁ hrest
    constructor
    · refine ⟨m₂, ?_⟩
      rw [forEach_cons, branch_bind, hfirst, List.flatMap_singleton]
      exact hlast
    · intro i
      have honce := K.forksFrom_startOnce out j (path, m) i
      have hthen := hcount i
      rw [forEach_cons, K.forksFrom_bind out, hfirst, List.map_singleton, List.sum_singleton,
        List.count_cons]
      simp only [beq_iff_eq]
      omega

-- The process that begins the loop comes to its end.
theorem startLoop_survives (insts : List Inst) (path : ProcPath) (m : Machine) :
    ∃ m', ((), (path, m')) ∈ (forEach insts startOnce).branch (K.returns out) (path, m) := by
  induction insts generalizing m with
  | nil => exact ⟨m, List.mem_singleton.mpr rfl⟩
  | cons j insts ih =>
    obtain ⟨m₁, child, hfirst⟩ := K.branch_startOnce out j path m
    obtain ⟨m₂, hlast⟩ := ih m₁
    refine ⟨m₂, ?_⟩
    rw [forEach_cons, branch_bind, hfirst, List.flatMap_cons]
    exact List.mem_append_left _ hlast

-- So does a child whose `execlp` returned.
theorem startLoop_child {insts : List Inst} {i : Inst} (hi : i ∈ insts) (path : ProcPath)
    (m : Machine) (hfork : out.fork path i ≠ -1) (hexec : out.exec (i :: path) ≠ true) :
    ∃ m', ((), (i :: path, m')) ∈
      (forEach insts startOnce).branch (K.returns out) (path, m) := by
  induction insts generalizing m with
  | nil => exact absurd hi List.not_mem_nil
  | cons j insts ih =>
    obtain ⟨m₁, child, hfirst⟩ := K.branch_startOnce out j path m
    by_cases hj : i = j
    · -- the new process takes up the loop after its own instance
      subst hj
      rw [if_neg (not_or.mpr ⟨hfork, hexec⟩)] at hfirst
      obtain ⟨m₂, hlast⟩ := K.startLoop_survives out insts (i :: path) child
      refine ⟨m₂, ?_⟩
      rw [forEach_cons, branch_bind, hfirst, List.flatMap_cons, List.flatMap_singleton]
      exact List.mem_append_right _ hlast
    · have hi' : i ∈ insts := (List.mem_cons.mp hi).resolve_left hj
      obtain ⟨m₂, hlast⟩ := ih hi' m₁
      refine ⟨m₂, ?_⟩
      rw [forEach_cons, branch_bind, hfirst, List.flatMap_cons]
      exact List.mem_append_left _ hlast

end Kernel

/-- `Site::start` on a new site leaves one process, the one that called it, and forks each
instance at most once, over all the processes. -/
def StartKeepsOneProcess (K : Kernel) (out : Outcomes) (site : Site) (m : Machine) : Prop :=
  K.survivors out site.start m = [[]] ∧
    ∀ i ∈ site.instances, K.forksFrom out site.start ([], m) i ≤ 1

/-- That is so if and only if none of the processes that the caller forks returns from its
`execlp`. -/
theorem startKeepsOneProcess_iff (K : Kernel) (out : Outcomes) (a : SiteArgs) (m : Machine) :
    StartKeepsOneProcess K out (K.run (newSite a) m).1 (K.run (newSite a) m).2 ↔
      ∀ i ∈ (K.run (newSite a) m).1.instances, out.fork [] i = -1 ∨ out.exec [i] = true := by
  let site := (K.run (newSite a) m).1
  let built := (K.run (newSite a) m).2
  have hloop : site.start = forEach site.instances Kernel.startOnce := rfl
  change (K.survivors out site.start built = [[]] ∧
    ∀ i ∈ site.instances, K.forksFrom out site.start ([], built) i ≤ 1) ↔
      ∀ i ∈ site.instances, out.fork [] i = -1 ∨ out.exec [i] = true
  rw [hloop]
  constructor
  · rintro ⟨hone, -⟩ i hi
    by_contra hsurvives
    obtain ⟨hfork, hexec⟩ := not_or.mp hsurvives
    obtain ⟨m', hmem⟩ := K.startLoop_child out hi [] built hfork hexec
    have hpath : [i] ∈ K.survivors out (forEach site.instances Kernel.startOnce) built :=
      List.mem_map_of_mem hmem
    rw [hone, List.mem_singleton] at hpath
    exact List.cons_ne_nil i [] hpath
  · intro hgone
    obtain ⟨⟨m', halone⟩, hcount⟩ := K.startLoop_alone out [] built hgone
    have hnodup : site.instances.Nodup := newSite_instances_nodup K a m
    refine ⟨?_, fun i _ => (hcount i).trans ?_⟩
    · unfold Kernel.survivors
      rw [halone]
      rfl
    · exact List.nodup_iff_count_le_one.mp hnodup i

/-- One memcached instance whose `execlp` fails: its process is a second one that runs harness
code. -/
theorem startKeepsOneProcess_failed_exec :
    ¬ ∀ (K : Kernel) (out : Outcomes) (a : SiteArgs) (m : Machine),
      StartKeepsOneProcess K out (K.run (newSite a) m).1 (K.run (newSite a) m).2 := by
  intro hone
  let out : Outcomes :=
    { fork := fun _ _ => 100, fork_pid := fun _ _ => Or.inr (by decide), exec := fun _ => false }
  let m := Machine.initial (fun _ => 0) (fun _ => none) [] none
  let a := BaseMemcachedSolutionTest.dbsArgs 1 0
  have htwo : Kernel.obliging.survivors out (Kernel.obliging.run (newSite a) m).1.start
      (Kernel.obliging.run (newSite a) m).2 = [[], [0]] := by
    decide +kernel
  have h := (hone Kernel.obliging out a m).1
  rw [htwo] at h
  cases h

end ClearwaterFv
