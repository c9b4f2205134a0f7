import ClearwaterFv.System

/-!
# ProcessInstance — starting, killing and awaiting one process

The methods of `ProcessInstance` and of its derived classes as harness programs, and for each what
one call of it can do.
-/

open Reasoning Reasoning.Prog

namespace ClearwaterFv

/-! ## The methods -/

/-- The override of `execute_process` in the class of the instance.  `execlp` only returns if an
error has occurred. -/
def executeOverride (self : Inst) (inst : InstanceArgs) : Harness Bool :=
  match inst.kind with
  | .memcached => do
    sys (.execlp self "/usr/bin/memcached"
      ["memcached", "-l", inst.ip, "-p", inst.port.repr, "-e", "ignore_vbucket=true"])
    return false
  | .rogers clusterSettingsFile => do
    let noisy ← sys .getenvNoisy
    sys (.execlp self "../modules/astaire/build/bin/rogers"
      ["rogers", "--bind-addr", inst.ip, "--cluster-settings-file", clusterSettingsFile,
        "--log-level", getLogLevel noisy])
    return false
  | .dnsmasq cfgfile => do
    sys (.execlp self "/usr/sbin/dnsmasq" ["dnsmasq", "-z", "-k", "-C", cfgfile])
    return false
  | .chronos _ logDir _ localConfFile clusterConfFile sharedConfFile => do
    sys (.freopen (logDir ++ "/chronos_stdout.txt"))
    sys (.freopen (logDir ++ "/chronos_stderr.txt"))
    sys (.execlp self "../modules/chronos/build/bin/chronos"
      ["chronos", "--local-config-file", localConfFile, "--cluster-config-file", clusterConfFile,
        "--shared-config-file", sharedConfFile])
    return false

/-- The virtual `execute_process`, which runs in the forked child. -/
def executeProcess (self : Inst) : Harness Bool := do
  executeOverride self (← sys (.readArgs self))

-- the body of `start_instance` once `fork` has returned `pid`
def afterFork (self : Inst) (pid : Int) : Harness Bool :=
  if pid = -1 then
    return false
  else if pid = 0 then
    -- this is the new process
    executeProcess self
  else do
    sys (.writePid self pid)
    sys (.writeRunning self true)
    return true

def startInstance (self : Inst) : Harness Bool := do
  afterFork self (← sys (.fork self))

-- the body of `kill_instance` once `kill(2)` has succeeded
def reap (self : Inst) : Harness Bool := do
  let result ← sys (.waitpid self (← sys (.readPid self)))
  -- the result of `waitpid` is not looked at, only the status word
  let exited := wifsignaled result.status || wifexited result.status
  sys (.writeRunning self (!exited))
  return exited

-- the body of `kill_instance` for an instance that is running
def killRunning (self : Inst) : Harness Bool := do
  let rc ← sys (.kill self (← sys (.readPid self)))
  if rc = 0 then
    reap self
  else
    return false

def killInstance (self : Inst) : Harness Bool := do
  if ← sys (.readRunning self) then
    killRunning self
  else
    return true

def restartInstance (self : Inst) : Harness Bool := do
  if ← killInstance self then
    startInstance self
  else
    return false

/-- The loop of `wait_for_instance`, with the number of attempts left. -/
def connectLoop (self : Inst) (sockfd : Int) (res : Option AddrInfo) : Nat → Harness Bool
  | 0 => return false
  | attempts + 1 => do
    let rc ← sys (.connect self sockfd res)
    if rc = 0 then
      return true
    else
      sys (.sleep 1000000)
      connectLoop self sockfd res attempts

def waitForInstance (self : Inst) : Harness Bool := do
  -- `res` stays unset when `getaddrinfo` fails, and nothing checks that it did not
  let res ← sys (.getaddrinfo self)
  let sockfd ← sys (.socket res)
  if sockfd = -1 then
    return false
  else
    sys (.sleep 10000)
    let connected ← connectLoop self sockfd res 5
    sys (.close sockfd)
    sys (.freeaddrinfo res)
    return connected

/-- The destructor of the derived class. -/
def removeFiles (inst : InstanceArgs) : Harness Unit :=
  match inst.kind with
  | .dnsmasq cfgfile => sys (.remove cfgfile)
  | .chronos instanceDir .. => sys (.removeAll instanceDir)
  | _ => pure ()

/-- The virtual destructor: the derived class's, then `~ProcessInstance`, then the memory. -/
def destroyInstance (self : Inst) : Harness Unit := do
  removeFiles (← sys (.readArgs self))
  let _ ← killInstance self
  sys (.deleteInstance self)

/-- A `shared_ptr` to the instance goes away, and the instance with the last one. -/
def releaseInstance (self : Inst) : Harness Unit := do
  let left ← sys (.dropOwner self)
  if left = 0 then
    destroyInstance self

/-- A method called through a temporary copy of a `shared_ptr`. -/
def viaCopy {α : Type} (self : Inst) (method : Harness α) : Harness α := do
  sys (.addOwner self)
  let result ← method
  releaseInstance self
  return result

/-! ## What a call can do -/

/-- The calls that `execute_process` makes, all of them in the child. -/
def Sys.Executes : Sys → Prop
  | .readArgs _ | .getenvNoisy | .freopen _ | .execlp .. => True
  | _ => False

theorem executeProcess_only (self : Inst) : Only Sys.Executes (executeProcess self) := by
  refine Only.bind (Only.perform trivial) fun args => ?_
  unfold executeOverride
  cases args.kind with
  | memcached => exact Only.bind (Only.perform trivial) fun _ => Only.ret _
  | dnsmasq cfgfile => exact Only.bind (Only.perform trivial) fun _ => Only.ret _
  | rogers clusterSettingsFile =>
    refine Only.bind (Only.perform trivial) fun noisy => ?_
    exact Only.bind (Only.perform trivial) fun _ => Only.ret _
  | chronos instanceDir logDir confDir localConfFile clusterConfFile sharedConfFile =>
    refine Only.bind (Only.perform trivial) fun _ => ?_
    refine Only.bind (Only.perform trivial) fun _ => ?_
    exact Only.bind (Only.perform trivial) fun _ => Only.ret _

theorem afterFork_no_fork (self : Inst) (pid : Int) :
    Only (fun op => op.forks? = none) (afterFork self pid) := by
  unfold afterFork
  by_cases hfail : pid = -1
  · rw [if_pos hfail]
    exact Only.ret _
  · by_cases hzero : pid = 0
    · rw [if_neg hfail, if_pos hzero]
      exact (executeProcess_only self).mono fun op hop => by
        cases op <;> first | rfl | exact absurd hop id
    · rw [if_neg hfail, if_neg hzero]
      exact Only.call rfl fun _ => Only.call rfl fun _ => Only.ret _

/-- The calls that `start_instance` makes, in the parent or in the child. -/
def Sys.Starts (self : Inst) : Sys → Prop
  | .fork inst | .writePid inst _ | .writeRunning inst _ => inst = self
  | op => op.Executes

theorem startInstance_only (self : Inst) : Only (Sys.Starts self) (startInstance self) := by
  refine Only.bind (Only.perform rfl) fun pid => ?_
  unfold afterFork
  by_cases hfail : pid = -1
  · rw [if_pos hfail]
    exact Only.ret _
  · by_cases hzero : pid = 0
    · rw [if_neg hfail, if_pos hzero]
      exact (executeProcess_only self).mono fun op hop => by
        cases op <;> first | exact hop | exact absurd hop id
    · rw [if_neg hfail, if_neg hzero]
      exact Only.call rfl fun _ => Only.call rfl fun _ => Only.ret _

/-- The calls that a class's own destructor makes. -/
def Sys.Removes : Sys → Prop
  | .remove _ | .removeAll _ => True
  | _ => False

theorem removeFiles_only (inst : InstanceArgs) : Only Sys.Removes (removeFiles inst) := by
  unfold removeFiles
  cases inst.kind with
  | dnsmasq cfgfile => exact Only.perform trivial
  | chronos instanceDir => exact Only.perform trivial
  | memcached => exact Only.ret ()
  | rogers clusterSettingsFile => exact Only.ret ()

/-- The calls that `kill_instance` makes. -/
def Sys.Kills (self : Inst) : Sys → Prop
  | .readRunning inst | .readPid inst | .kill inst _ | .waitpid inst _ | .writeRunning inst _ =>
    inst = self
  | _ => False

theorem killInstance_only (self : Inst) : Only (Sys.Kills self) (killInstance self) := by
  refine Only.bind (Only.perform rfl) fun running => ?_
  by_cases hrunning : running = true
  · rw [if_pos hrunning]
    refine Only.bind (Only.perform rfl) fun pid => ?_
    refine Only.bind (Only.perform rfl) fun rc => ?_
    by_cases hrc : rc = 0
    · rw [if_pos hrc]
      refine Only.bind (Only.perform rfl) fun pid => ?_
      refine Only.bind (Only.perform rfl) fun result => ?_
      exact Only.bind (Only.perform rfl) fun _ => Only.ret _
    · rw [if_neg hrc]
      exact Only.ret _
  · rw [if_neg hrunning]
    exact Only.ret _

namespace World

variable (w : World)

/-- After a `start_instance` whose fork returned `pid`. -/
def started (self : Inst) (pid : Int) : World :=
  { w with
    children := ⟨pid, self⟩ :: w.children
    pid := Function.update w.pid self pid
    running := Function.update w.running self true }

/-- After a `kill_instance` whose `waitpid` failed. -/
def notReaped (self : Inst) (exited : Bool) : World :=
  { w with
    signals := ⟨w.pid self, self⟩ :: w.signals
    running := Function.update w.running self (!exited) }

/-- After a `kill_instance` that reaped the instance's process. -/
def stopped (self : Inst) : World :=
  { w with
    signals := ⟨w.pid self, self⟩ :: w.signals
    children := w.children.filter fun c => c.pid ≠ w.pid self
    running := Function.update w.running self false }

end World

/-- The calls that giving up a `shared_ptr` comes to. -/
def Sys.Releases (self : Inst) : Sys → Prop
  | .dropOwner inst | .readArgs inst | .deleteInstance inst => inst = self
  | op => op.Removes ∨ op.Kills self

theorem releaseInstance_only (self : Inst) : Only (Sys.Releases self) (releaseInstance self) := by
  have hfiles : ∀ inst, Only (Sys.Releases self) (removeFiles inst) := fun inst =>
    (removeFiles_only inst).mono fun op hop => by
      cases op <;> first | exact Or.inl hop | exact absurd hop id
  have hkill : Only (Sys.Releases self) (killInstance self) :=
    (killInstance_only self).mono fun op hop => by
      cases op <;> first | exact Or.inr hop | exact absurd hop id
  refine Only.bind (Only.perform rfl) fun left => ?_
  by_cases hleft : left = 0
  · rw [if_pos hleft]
    refine Only.bind (Only.perform rfl) fun inst => ?_
    refine Only.bind (hfiles inst) fun _ => ?_
    exact Only.bind hkill fun _ => Only.perform rfl
  · rw [if_neg hleft]
    exact Only.ret _

theorem Sys.Releases.no_fork {self : Inst} {op : Sys} (hop : op.Releases self) :
    op.forks? = none := by
  cases op with
  | fork inst => exact absurd hop (by rintro (h | h) <;> exact h)
  | _ => rfl

theorem run_removeFiles (K : Kernel) (inst : InstanceArgs) (m : Machine) :
    ∃ t, (K.run (removeFiles inst) m).2.world = { m.world with files := t } := by
  unfold removeFiles
  cases inst.kind with
  | dnsmasq cfgfile => exact ⟨_, rfl⟩
  | chronos instanceDir => exact ⟨_, rfl⟩
  | memcached => exact ⟨m.world.files, rfl⟩
  | rogers clusterSettingsFile => exact ⟨m.world.files, rfl⟩

section Cases

variable (K : Kernel) (m : Machine) (self : Inst)

-- A start either fails to fork and changes nothing, or leaves a new child in `_pid`.
theorem startInstance_cases :
    (K.fork m self = -1 ∧ (K.run (startInstance self) m).1 = false ∧
      (K.run (startInstance self) m).2.world = m.world) ∨
    ∃ pid, 0 < pid ∧ pid ∉ m.world.unreaped ∧ K.fork m self = pid ∧
      (K.run (startInstance self) m).1 = true ∧
      (K.run (startInstance self) m).2.world = m.world.started self pid := by
  have hrun : K.run (startInstance self) m =
      K.run (if K.fork m self = -1 then ret false
        else if K.fork m self = 0 then executeProcess self
        else call (.writePid self (K.fork m self)) fun _ =>
          call (.writeRunning self true) fun _ => ret true) (K.step m (.fork self)).2 := rfl
  have hworld : (K.step m (.fork self)).2.world = m.world.forked self (K.fork m self) := rfl
  rw [hrun]
  rcases K.fork_pid m self with hfail | ⟨hpos, hfresh⟩
  · left
    rw [if_pos hfail]
    refine ⟨hfail, rfl, ?_⟩
    change (K.step m (.fork self)).2.world = m.world
    rw [hworld, World.forked, if_pos hfail]
  · right
    have hne : ¬ K.fork m self = -1 := by omega
    rw [if_neg hne, if_neg (by omega)]
    refine ⟨K.fork m self, hpos, hfresh, rfl, rfl, ?_⟩
    change ((((K.step m (.fork self)).2.world.apply (.writePid self (K.fork m self)) ()).apply
      (.writeRunning self true) ())) = _
    rw [hworld, World.forked, if_neg hne]
    rfl

end Cases

/-- The machine when `kill_instance` calls `kill(2)`. -/
def Kernel.atKill (K : Kernel) (m : Machine) (i : Inst) : Machine :=
  (K.step (K.step m (.readRunning i)).2 (.readPid i)).2

-- and when it calls `waitpid`
def Kernel.atWaitpid (K : Kernel) (m : Machine) (i : Inst) : Machine :=
  (K.step (K.step (K.atKill m i) (.kill i (m.world.pid i))).2 (.readPid i)).2

section Outcomes

variable {K : Kernel} {m : Machine} {i : Inst}

theorem children_atWaitpid : (K.atWaitpid m i).world.children = m.world.children := by
  change (m.world.killed i (m.world.pid i) (K.kill (K.atKill m i) (m.world.pid i))).children = _
  unfold World.killed
  by_cases hkill : K.kill (K.atKill m i) (m.world.pid i) = 0
  · rw [if_pos hkill]
  · rw [if_neg hkill]

theorem killInstance_idle (hrunning : m.world.running i = false) :
    (K.run (killInstance i) m).1 = true ∧ (K.run (killInstance i) m).2.world = m.world := by
  have hrun : K.run (killInstance i) m =
      K.run (if m.world.running i = true then killRunning i else ret true)
        (K.step m (.readRunning i)).2 := rfl
  rw [hrun, if_neg (by rw [hrunning]; exact Bool.false_ne_true)]
  exact ⟨rfl, rfl⟩

theorem run_killInstance (hrunning : m.world.running i = true) :
    K.run (killInstance i) m =
      K.run (if K.kill (K.atKill m i) (m.world.pid i) = 0 then reap i else ret false)
        (K.step (K.atKill m i) (.kill i (m.world.pid i))).2 := by
  have hrun : K.run (killInstance i) m =
      K.run (if m.world.running i = true then killRunning i else ret true)
        (K.step m (.readRunning i)).2 := rfl
  rw [hrun, if_pos hrunning]
  rfl

theorem killInstance_unsent (hrunning : m.world.running i = true)
    (hkill : K.kill (K.atKill m i) (m.world.pid i) ≠ 0) :
    (K.run (killInstance i) m).1 = false ∧ (K.run (killInstance i) m).2.world = m.world := by
  have hworld : (K.step (K.atKill m i) (.kill i (m.world.pid i))).2.world =
      m.world.killed i (m.world.pid i) (K.kill (K.atKill m i) (m.world.pid i)) := rfl
  rw [run_killInstance hrunning, if_neg hkill]
  rw [World.killed, if_neg hkill] at hworld
  exact ⟨rfl, hworld⟩

-- After a signal that has been sent, everything comes from the status word.
theorem killInstance_sent (hrunning : m.world.running i = true)
    (hkill : K.kill (K.atKill m i) (m.world.pid i) = 0) {result : WaitResult}
    {exited : Bool} (hwait : K.waitpid (K.atWaitpid m i) (m.world.pid i) = result)
    (hexited : (wifsignaled result.status || wifexited result.status) = exited) :
    (K.run (killInstance i) m).1 = exited ∧
      (K.run (killInstance i) m).2.world =
        ({ m.world with signals := ⟨m.world.pid i, i⟩ :: m.world.signals }.waited
          (m.world.pid i) result).apply (.writeRunning i (!exited)) () := by
  let m' := (K.step (K.atKill m i) (.kill i (m.world.pid i))).2
  have hsent : m'.world =
      m.world.killed i (m.world.pid i) (K.kill (K.atKill m i) (m.world.pid i)) := rfl
  rw [World.killed, if_pos hkill] at hsent
  have hpid : m'.world.pid = m.world.pid := by rw [hsent]
  have hwaits : K.waitpid (K.step m' (.readPid i)).2 (m'.world.pid i) = result := by
    rw [hpid]
    exact hwait
  have hreap : (K.run (reap i) m').1 = (wifsignaled result.status || wifexited result.status) ∧
      (K.run (reap i) m').2.world =
        (m'.world.waited (m'.world.pid i) result).apply
          (.writeRunning i (!(wifsignaled result.status || wifexited result.status))) () := by
    rw [← hwaits]
    exact ⟨rfl, rfl⟩
  rw [run_killInstance hrunning, if_pos hkill]
  change (K.run (reap i) m').1 = _ ∧ (K.run (reap i) m').2.world = _
  rw [hreap.1, hreap.2, hexited, hpid, hsent]
  exact ⟨rfl, rfl⟩

end Outcomes

-- A kill finds nothing to kill; or `kill(2)` fails; or `waitpid` fails; or the recorded child is
-- reaped.
theorem killInstance_cases (K : Kernel) (m : Machine) (self : Inst) :
    (m.world.running self = false ∧ (K.run (killInstance self) m).1 = true ∧
      (K.run (killInstance self) m).2.world = m.world) ∨
    (m.world.running self = true ∧ (∃ m', K.kill m' (m.world.pid self) ≠ 0) ∧
      (K.run (killInstance self) m).1 = false ∧
      (K.run (killInstance self) m).2.world = m.world) ∨
    (m.world.running self = true ∧ ∃ m' status exited,
      K.waitpid m' (m.world.pid self) = .failed status ∧ m'.world.children = m.world.children ∧
      (K.run (killInstance self) m).1 = exited ∧
      (K.run (killInstance self) m).2.world = m.world.notReaped self exited) ∨
    (m.world.running self = true ∧ m.world.pid self ∈ m.world.unreaped ∧
      (K.run (killInstance self) m).1 = true ∧
      (K.run (killInstance self) m).2.world = m.world.stopped self) := by
  by_cases hrunning : m.world.running self = true
  · right
    by_cases hkill : K.kill (K.atKill m self) (m.world.pid self) = 0
    · right
      cases hwait : K.waitpid (K.atWaitpid m self) (m.world.pid self) with
      | failed status =>
        left
        obtain ⟨hvalue, hworld⟩ := killInstance_sent hrunning hkill hwait rfl
        exact ⟨hrunning, K.atWaitpid m self, status, _, hwait, children_atWaitpid, hvalue, hworld⟩
      | reaped status =>
        right
        obtain ⟨hmem, hexited⟩ := K.waitpid_reaped _ _ _ hwait
        obtain ⟨hvalue, hworld⟩ := killInstance_sent hrunning hkill hwait hexited
        rw [World.unreaped, children_atWaitpid] at hmem
        exact ⟨hrunning, hmem, hvalue, hworld⟩
    · left
      exact ⟨hrunning, ⟨K.atKill m self, hkill⟩, killInstance_unsent hrunning hkill⟩
  · left
    have hidle : m.world.running self = false := Bool.not_eq_true _ ▸ hrunning
    exact ⟨hidle, killInstance_idle hidle⟩

/-! ## What a call leaves alone -/

/-- The worlds differ in processes, `_pid` and `_running` only. -/
structure SameHeap (w w' : World) : Prop where
  next : w'.next = w.next
  objects : w'.objects = w.objects
  owners : w'.owners = w.owners
  confs : w'.confs = w.confs
  site : w'.site = w.site
  dnsmasq : w'.dnsmasq = w.dnsmasq
  files : w'.files = w.files
  cwd : w'.cwd = w.cwd

theorem SameHeap.refl (w : World) : SameHeap w w := ⟨rfl, rfl, rfl, rfl, rfl, rfl, rfl, rfl⟩

theorem SameHeap.symm {w w' : World} (h : SameHeap w w') : SameHeap w' w :=
  ⟨h.next.symm, h.objects.symm, h.owners.symm, h.confs.symm, h.site.symm, h.dnsmasq.symm,
    h.files.symm, h.cwd.symm⟩

theorem SameHeap.trans {w₁ w₂ w₃ : World} (h : SameHeap w₁ w₂) (h' : SameHeap w₂ w₃) :
    SameHeap w₁ w₃ :=
  ⟨h'.next.trans h.next, h'.objects.trans h.objects, h'.owners.trans h.owners,
    h'.confs.trans h.confs, h'.site.trans h.site, h'.dnsmasq.trans h.dnsmasq,
    h'.files.trans h.files, h'.cwd.trans h.cwd⟩

theorem World.forked_sameHeap (w : World) (self : Inst) (pid : Int) :
    SameHeap w (w.forked self pid) := by
  unfold World.forked
  by_cases hfail : pid = -1
  · rw [if_pos hfail]
    exact SameHeap.refl w
  · rw [if_neg hfail]
    exact ⟨rfl, rfl, rfl, rfl, rfl, rfl, rfl, rfl⟩

theorem World.killed_sameHeap (w : World) (self : Inst) (pid rc : Int) :
    SameHeap w (w.killed self pid rc) := by
  unfold World.killed
  by_cases hsent : rc = 0
  · rw [if_pos hsent]
    exact ⟨rfl, rfl, rfl, rfl, rfl, rfl, rfl, rfl⟩
  · rw [if_neg hsent]
    exact SameHeap.refl w

theorem World.waited_sameHeap (w : World) (pid : Int) (result : WaitResult) :
    SameHeap w (w.waited pid result) := by
  cases result with
  | reaped status => exact ⟨rfl, rfl, rfl, rfl, rfl, rfl, rfl, rfl⟩
  | failed status => exact SameHeap.refl w

section Frame

variable (K : Kernel) (m : Machine) (self : Inst)

theorem startInstance_sameHeap : SameHeap m.world (K.run (startInstance self) m).2.world := by
  rcases startInstance_cases K m self with ⟨-, -, hw⟩ | ⟨pid, -, -, -, -, hw⟩
  · rw [hw]
    exact SameHeap.refl _
  · rw [hw]
    exact ⟨rfl, rfl, rfl, rfl, rfl, rfl, rfl, rfl⟩

theorem killInstance_sameHeap : SameHeap m.world (K.run (killInstance self) m).2.world := by
  rcases killInstance_cases K m self with ⟨-, -, hw⟩ | ⟨-, -, -, hw⟩ |
    ⟨-, m', status, exited, -, -, -, hw⟩ | ⟨-, -, -, hw⟩
  all_goals
    rw [hw]
    exact ⟨rfl, rfl, rfl, rfl, rfl, rfl, rfl, rfl⟩

-- Of what a destructor does, only the derived class's part changes files.
theorem files_destroyInstance {x : InstanceArgs} (hobject : m.world.objects self = some x) :
    (K.run (destroyInstance self) m).2.world.files =
      (K.run (removeFiles x) (K.step m (.readArgs self)).2).2.world.files := by
  let m₁ := (K.step m (.readArgs self)).2
  let m₂ := (K.run (removeFiles x) m₁).2
  have hread : (K.step m (.readArgs self)).1 = x := by
    change (m.world.objects self).getD default = x
    rw [hobject]
    rfl
  have hrun : (K.run (destroyInstance self) m).2.world.files =
      (K.run (killInstance self) m₂).2.world.files := by
    unfold destroyInstance
    simp only [bind_eq_bind, Kernel.run, run_bind, run_perform]
    rw [hread]
    rfl
  rw [hrun, (killInstance_sameHeap K m₂ self).files]

theorem run_restartInstance :
    K.run (restartInstance self) m =
      K.run (if (K.run (killInstance self) m).1 = true then startInstance self else ret false)
        (K.run (killInstance self) m).2 := by
  unfold restartInstance
  rw [bind_eq_bind, Kernel.run, run_bind]
  rfl

theorem restartInstance_sameHeap :
    SameHeap m.world (K.run (restartInstance self) m).2.world := by
  rw [run_restartInstance]
  by_cases hkilled : (K.run (killInstance self) m).1 = true
  · rw [if_pos hkilled]
    exact (killInstance_sameHeap K m self).trans (startInstance_sameHeap K _ self)
  · rw [if_neg hkilled]
    exact killInstance_sameHeap K m self

-- Giving up one of several `shared_ptr`s destroys nothing.
theorem run_releaseInstance_of_lt (hown : 1 < m.world.owners self) :
    K.run (releaseInstance self) m = ((), (K.step m (.dropOwner self)).2) := by
  have hrun : K.run (releaseInstance self) m =
      K.run (if m.world.owners self - 1 = 0 then destroyInstance self else ret ())
        (K.step m (.dropOwner self)).2 := rfl
  have hleft : ¬ m.world.owners self - 1 = 0 := by omega
  rw [hrun, if_neg hleft]
  rfl

theorem trace_releaseInstance_of_lt (hown : 1 < m.world.owners self) :
    (releaseInstance self).trace K.step m = [(m, .dropOwner self)] := by
  have htrace : (releaseInstance self).trace K.step m = (m, .dropOwner self) ::
      Prog.trace K.step (if m.world.owners self - 1 = 0 then destroyInstance self else ret ())
        (K.step m (.dropOwner self)).2 := rfl
  have hleft : ¬ m.world.owners self - 1 = 0 := by omega
  rw [htrace, if_neg hleft]
  rfl

-- A method called through a temporary copy of a `shared_ptr` finds one owner more, and has no
-- other effect than the method's.
theorem run_viaCopy {α : Type} (method : Harness α) (hown : 0 < m.world.owners self)
    (hkeep : ∀ m', (K.run method m').2.world.owners = m'.world.owners) :
    (K.run (viaCopy self method) m).1 = (K.run method (K.step m (.addOwner self)).2).1 ∧
      (K.run (viaCopy self method) m).2.world =
        { (K.run method (K.step m (.addOwner self)).2).2.world with owners := m.world.owners } := by
  let m₁ := (K.step m (.addOwner self)).2
  let m₂ := (K.run method m₁).2
  have howners : m₂.world.owners =
      Function.update m.world.owners self (m.world.owners self + 1) := hkeep m₁
  have hmore : 1 < m₂.world.owners self := by
    rw [howners, Function.update_self]
    omega
  have hrun : K.run (viaCopy self method) m =
      ((K.run method m₁).1, (K.run (releaseInstance self) m₂).2) := by
    unfold viaCopy
    simp only [bind_eq_bind, Kernel.run, run_bind]
    rfl
  rw [hrun, run_releaseInstance_of_lt K m₂ self hmore]
  refine ⟨rfl, ?_⟩
  change ({ m₂.world with
    owners := Function.update m₂.world.owners self (m₂.world.owners self - 1) } : World) =
      { m₂.world with owners := m.world.owners }
  rw [howners, Function.update_self, Nat.add_sub_cancel, Function.update_idem,
    Function.update_eq_self]

end Frame

end ClearwaterFv
