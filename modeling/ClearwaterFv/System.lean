import ClearwaterFv.ConfigText
import ClearwaterFv.Reasoning.Paths
import ClearwaterFv.Reasoning.Prog

/-!
# System — the harness process and the operating system under it

The harness code is a program over the calls `Sys`: reads and writes of its own objects, and
system calls.  `World` is what these act on: the objects on the heap, the static variables of the
two fixtures, the harness's unreaped children and the files.  A `Kernel` decides everything that
the code does not: which forks, kills and waits succeed, what an unwritten status word holds, and
which children die by themselves meanwhile.  It sees the whole state and the time, so it can
answer every call of a run in its own way.  What is followed is the parent of every `fork`; each
child goes on as the server that its `execlp` names, so every `execlp` is taken to succeed.
-/

open Reasoning Reasoning.Paths

namespace ClearwaterFv

/-- The address of a `ProcessInstance` on the heap. -/
abbrev Inst := Nat

/-- A `Site` object: its members, with the instances as the addresses its vectors point to. -/
structure Site where
  args : SiteArgs
  memcachedInstances : List Inst
  rogersInstances : List Inst
  chronosInstances : List Inst

/-- The instances in the order in which `Site::for_each_instance` visits them. -/
def Site.instances (s : Site) : List Inst :=
  s.memcachedInstances ++ s.rogersInstances ++ s.chronosInstances

inductive Fixture where
  | memcached
  | s4
deriving DecidableEq

-- The static `shared_ptr<Site>`s: `_dbs` of one fixture, `_site1` and `_site2` of the other.
inductive SiteVar where
  | dbs
  | site1
  | site2
deriving DecidableEq

/-- The signals that the fixtures handle. -/
inductive Signal where
  | sigsegv
  | sigint
deriving DecidableEq

-- A forked process that has not been reaped, and the instance that forked it.
structure Child where
  pid : Int
  inst : Inst
deriving DecidableEq

structure World where
  next : Inst
  objects : Inst → Option InstanceArgs
  -- `_pid` of each object.  No constructor writes it: it starts as what the memory held.
  pid : Inst → Int
  running : Inst → Bool
  -- the number of `shared_ptr`s that own each object
  owners : Inst → Nat
  -- (ghost) the text that a constructor wrote into each file passed to the object's process
  confs : Inst → List (String × String)
  site : SiteVar → Option Site
  dnsmasq : Fixture → Option Inst
  children : List Child
  -- (ghost) the processes that SIGTERM has been sent to, and by which instance
  signals : List Child
  files : FileTree
  cwd : Path
  noisy : Option String
  -- whether `signal_handler` is registered
  handler : Signal → Bool

def World.unreaped (w : World) : List Int := w.children.map Child.pid

/-- A `waitpid` that reaps its child and fills in the status, or fails and leaves the status word
holding what it held. -/
inductive WaitResult where
  | reaped (status : Int)
  | failed (status : Int)
deriving DecidableEq

def WaitResult.status : WaitResult → Int
  | .reaped status => status
  | .failed status => status

-- The macros of `sys/wait.h`: the low seven bits of the word are 0 for an exit, the number of the
-- signal for a death by signal, and 127 for a stop.
def wifexited (status : Int) : Bool := status % 128 == 0
def wifsignaled (status : Int) : Bool := decide (0 < status % 128) && decide (status % 128 < 127)

/-- The address list that `getaddrinfo` allocates. -/
abbrev AddrInfo := Nat

inductive Sys where
  -- objects
  | newInstance (args : InstanceArgs) (confs : List (String × String))
  | deleteInstance (self : Inst)
  | readArgs (self : Inst)
  | readPid (self : Inst)
  | writePid (self : Inst) (pid : Int)
  | readRunning (self : Inst)
  | writeRunning (self : Inst) (running : Bool)
  -- shared pointers
  | addOwner (self : Inst)
  | dropOwner (self : Inst)
  | readSite (v : SiteVar)
  | swapSite (v : SiteVar) (new : Option Site)
  | readDnsmasq (f : Fixture)
  | swapDnsmasq (f : Fixture) (new : Option Inst)
  -- processes
  | getenvNoisy
  | signal (sig : Signal) (handler : Bool)
  | raise (sig : Signal)
  | fork (self : Inst)
  | execlp (self : Inst) (file : String) (args : List String)
  | kill (self : Inst) (pid : Int)
  | waitpid (self : Inst) (pid : Int)
  -- sockets
  | getaddrinfo (self : Inst)
  | socket (res : Option AddrInfo)
  | connect (self : Inst) (sockfd : Int) (res : Option AddrInfo)
  | sleep (micros : Nat)
  | close (sockfd : Int)
  | freeaddrinfo (res : Option AddrInfo)
  -- files
  | createDirectory (path : String)
  | writeFile (path text : String)
  | freopen (path : String)
  | remove (path : String)
  | removeAll (path : String)

/-- The instance that a call forks. -/
def Sys.forks? : Sys → Option Inst
  | .fork self => some self
  | _ => none

@[reducible] def Sys.Res : Sys → Type
  | .newInstance .. => Inst
  | .readArgs _ => InstanceArgs
  | .readPid _ => Int
  | .readRunning _ => Bool
  | .dropOwner _ => Nat
  | .readSite _ | .swapSite .. => Option Site
  | .readDnsmasq _ | .swapDnsmasq .. => Option Inst
  | .getenvNoisy => Option String
  | .fork _ => Int
  | .kill .. => Int
  | .waitpid .. => WaitResult
  | .getaddrinfo _ => Option AddrInfo
  | .socket _ => Int
  | .connect .. => Int
  | _ => Unit

/-- A piece of harness code. -/
abbrev Harness (α : Type) := Prog Sys Sys.Res α

/-- A call made on its own. -/
abbrev sys (op : Sys) : Harness op.Res := Prog.perform op

namespace World

variable (w : World)

def forked (self : Inst) (pid : Int) : World :=
  if pid = -1 then w else { w with children := ⟨pid, self⟩ :: w.children }

def killed (self : Inst) (pid rc : Int) : World :=
  if rc = 0 then { w with signals := ⟨pid, self⟩ :: w.signals } else w

def waited (pid : Int) : WaitResult → World
  | .reaped _ => { w with children := w.children.filter fun c => c.pid ≠ pid }
  | .failed _ => w

/-- What a call with the given answer does to the world.  The file system calls succeed. -/
def apply : (op : Sys) → op.Res → World
  | .newInstance args confs, self =>
    { w with
      next := w.next + 1
      objects := Function.update w.objects self (some args)
      running := Function.update w.running self false
      owners := Function.update w.owners self 1
      confs := Function.update w.confs self confs }
  | .deleteInstance self, _ => { w with objects := Function.update w.objects self none }
  | .writePid self pid, _ => { w with pid := Function.update w.pid self pid }
  | .writeRunning self running, _ =>
    { w with running := Function.update w.running self running }
  | .addOwner self, _ =>
    { w with owners := Function.update w.owners self (w.owners self + 1) }
  | .dropOwner self, left => { w with owners := Function.update w.owners self left }
  | .swapSite v new, _ => { w with site := Function.update w.site v new }
  | .swapDnsmasq f new, _ => { w with dnsmasq := Function.update w.dnsmasq f new }
  | .signal sig handler, _ => { w with handler := Function.update w.handler sig handler }
  | .fork self, pid => w.forked self pid
  | .kill self pid, rc => w.killed self pid rc
  | .waitpid _ pid, result => w.waited pid result
  | .createDirectory path, _ =>
    { w with files := w.files.createDirectory (resolve w.cwd path) }
  | .writeFile path text, _ => { w with files := w.files.writeFile (resolve w.cwd path) text }
  | .freopen path, _ => { w with files := w.files.touch (resolve w.cwd path) }
  | .remove path, _ => { w with files := w.files.remove (resolve w.cwd path) }
  | .removeAll path, _ => { w with files := w.files.removeAll (resolve w.cwd path) }
  | _, _ => w

end World

/-- The harness with its world, the time, and the children that have died but are not reaped. -/
structure Machine where
  world : World
  time : Nat := 0
  dead : List Int := []

/-- The harness before it has made any object.  What its memory holds in place of a `_pid` that is
never written is arbitrary, and so are the files. -/
def Machine.initial (pid : Inst → Int) (files : FileTree) (cwd : Path) (noisy : Option String) :
    Machine :=
  { world :=
    { next := 0
      objects := fun _ => none
      pid := pid
      running := fun _ => false
      owners := fun _ => 0
      confs := fun _ => []
      site := fun _ => none
      dnsmasq := fun _ => none
      children := []
      signals := []
      files := files
      cwd := cwd
      noisy := noisy
      handler := fun _ => false } }

/-- The choices of the operating system, as the parent of every `fork` meets them.  A PID that
`fork` returns to the parent is positive and not the PID of an unreaped child; a `waitpid` without
`WUNTRACED` that succeeds reaps a child that has exited or died by a signal. -/
structure Kernel where
  fork : Machine → Inst → Int
  fork_pid : ∀ m i, fork m i = -1 ∨ (0 < fork m i ∧ fork m i ∉ m.world.unreaped)
  kill : Machine → Int → Int
  waitpid : Machine → Int → WaitResult
  waitpid_reaped : ∀ m pid status, waitpid m pid = .reaped status →
    pid ∈ m.world.unreaped ∧ (wifsignaled status || wifexited status) = true
  deaths : Machine → List Int
  getaddrinfo : Machine → Inst → Option AddrInfo
  socket : Machine → Int
  connect : Machine → Inst → Int

namespace Kernel

variable (K : Kernel)

/-- The answer to a call: the kernel's where the call is the kernel's to answer, and else what
the harness's own memory holds. -/
def answer (m : Machine) : (op : Sys) → op.Res
  | .newInstance .. => m.world.next
  | .readArgs self => (m.world.objects self).getD default
  | .readPid self => m.world.pid self
  | .readRunning self => m.world.running self
  | .dropOwner self => m.world.owners self - 1
  | .readSite v | .swapSite v _ => m.world.site v
  | .readDnsmasq f | .swapDnsmasq f _ => m.world.dnsmasq f
  | .getenvNoisy => m.world.noisy
  | .fork self => K.fork m self
  | .kill _ pid => K.kill m pid
  | .waitpid _ pid => K.waitpid m pid
  | .getaddrinfo self => K.getaddrinfo m self
  | .socket _ => K.socket m
  | .connect self _ _ => K.connect m self
  | .deleteInstance _ | .writePid .. | .writeRunning .. | .addOwner _ | .signal .. | .raise _
  | .execlp .. | .sleep _ | .close _ | .freeaddrinfo _ | .createDirectory _ | .writeFile ..
  | .freopen _ | .remove _ | .removeAll _ => ()

/-- One call of the harness: some children die, the call is answered and takes effect. -/
def step (m : Machine) (op : Sys) : op.Res × Machine :=
  let a := K.answer m op
  let w := m.world.apply op a
  (a, { world := w
        time := m.time + 1
        dead := (K.deaths m ++ m.dead).filter fun p => p ∈ m.world.unreaped ∧ p ∈ w.unreaped })

abbrev run {α : Type} (p : Harness α) (m : Machine) : α × Machine := Prog.run K.step p m

abbrev trace {α : Type} (p : Harness α) (m : Machine) : List (Machine × Sys) :=
  Prog.trace K.step p m

/-- A PID larger than every one in the list. -/
def freshPid (pids : List Int) : Int := pids.foldr (fun pid bound => max bound (pid + 1)) 1

theorem freshPid_pos (pids : List Int) : 0 < freshPid pids := by
  induction pids with
  | nil => exact Int.one_pos
  | cons pid pids ih => exact lt_of_lt_of_le ih (le_max_left _ _)

theorem lt_freshPid {pids : List Int} {pid : Int} (hmem : pid ∈ pids) : pid < freshPid pids := by
  induction pids with
  | nil => exact absurd hmem List.not_mem_nil
  | cons pid' pids ih =>
    change pid < max (freshPid pids) (pid' + 1)
    rcases List.mem_cons.mp hmem with rfl | hmem
    · exact lt_of_lt_of_le (Int.lt_succ pid) (le_max_right _ _)
    · exact lt_of_lt_of_le (ih hmem) (le_max_left _ _)

/-- A kernel on which every call succeeds that can, and no process dies by itself. -/
def obliging : Kernel where
  fork m _ := freshPid m.world.unreaped
  fork_pid m _ := Or.inr ⟨freshPid_pos _, fun hmem => (lt_freshPid hmem).false⟩
  kill _ _ := 0
  waitpid m pid := if pid ∈ m.world.unreaped then .reaped 0 else .failed 0
  waitpid_reaped m pid status h := by
    by_cases hmem : pid ∈ m.world.unreaped
    · rw [if_pos hmem] at h
      cases h
      exact ⟨hmem, by decide⟩
    · rw [if_neg hmem] at h
      cases h
  deaths _ := []
  getaddrinfo _ _ := some 0
  socket _ := 3
  connect m self := if m.world.children.any fun c => c.inst = self then 0 else -1

@[simp] theorem step_answer (m : Machine) (op : Sys) : (K.step m op).1 = K.answer m op := rfl

@[simp] theorem step_world (m : Machine) (op : Sys) :
    (K.step m op).2.world = m.world.apply op (K.answer m op) := rfl

end Kernel

/-- A kernel whose `waitpid` reaps the child it is asked for. -/
structure ReapingKernel extends Kernel where
  reaps : ∀ m pid, pid ∈ m.world.unreaped → ∃ status, waitpid m pid = .reaped status

/-- `obliging` reaps. -/
def obligingReaper : ReapingKernel where
  toKernel := Kernel.obliging
  reaps _ _ hmem := ⟨0, if_pos hmem⟩

end ClearwaterFv
