import ClearwaterFv.ProcessInstance

/-!
# Reports — what `kill_instance` and `restart_instance` report

`kill_instance` looks at the status word and not at the result of `waitpid`.  When `waitpid` fails,
the word holds what the stack held, and what is reported depends on it.
-/

open Reasoning Reasoning.Prog

namespace ClearwaterFv

variable (K : Kernel) (m : Machine) (i : Inst)

/-- `waitpid` fails, and the status word says all the same that the child is gone. -/
def MisreadsStatus : Prop :=
  m.world.running i = true ∧ K.kill (K.atKill m i) (m.world.pid i) = 0 ∧
    ∃ status, K.waitpid (K.atWaitpid m i) (m.world.pid i) = .failed status ∧
      (wifsignaled status || wifexited status) = true

/-! ## What a report should mean -/

/-- The child in `_pid` is unreaped in the one world, and reaped in the other. -/
def Reaped (w w' : World) : Prop := w.pid i ∈ w.unreaped ∧ w.pid i ∉ w'.unreaped

/-- The two reports of `kill_instance`. -/
structure KillReports : Prop where
  reaped : m.world.running i = true →
    (K.run (killInstance i) m).1 = true ∨
      (K.run (killInstance i) m).2.world.running i = false →
    Reaped i m.world (K.run (killInstance i) m).2.world
  unchanged : (K.run (killInstance i) m).1 = false →
    (K.run (killInstance i) m).2.world.pid i = m.world.pid i ∧
      (K.run (killInstance i) m).2.world.running i = m.world.running i

/-- `restart_instance` forks only after the child before has been reaped. -/
def RestartWaits : Prop :=
  ∀ e ∈ K.trace (restartInstance i) m, e.2.forks? = some i →
    m.world.running i = true → Reaped i m.world e.1.world

variable {K m i}

/-! ## When the reports are true -/

theorem unreaped_atWaitpid : (K.atWaitpid m i).world.unreaped = m.world.unreaped :=
  congrArg (List.map Child.pid) children_atWaitpid

theorem unreaped_waited_reaped (w : World) (pid status : Int) :
    pid ∉ (w.waited pid (.reaped status)).unreaped := by
  intro hmem
  obtain ⟨c, hc, hpid⟩ := List.mem_map.mp hmem
  have hne := (List.mem_filter.mp hc).2
  exact of_decide_eq_true hne hpid

theorem killReports_of_true (hresult : (K.run (killInstance i) m).1 = true)
    (hreaped : m.world.running i = true →
      Reaped i m.world (K.run (killInstance i) m).2.world) : KillReports K m i where
  reaped hrunning _ := hreaped hrunning
  unchanged hfalse := by
    rw [hresult] at hfalse
    cases hfalse

-- A report of failure is true when nothing has changed.
theorem killReports_of_false (hresult : (K.run (killInstance i) m).1 = false)
    (hpid : (K.run (killInstance i) m).2.world.pid i = m.world.pid i)
    (hrun : (K.run (killInstance i) m).2.world.running i = m.world.running i) :
    KillReports K m i where
  reaped hrunning hreport := by
    rcases hreport with htrue | hfalse
    · rw [hresult] at htrue
      cases htrue
    · rw [hrun, hrunning] at hfalse
      cases hfalse
  unchanged _ := ⟨hpid, hrun⟩

theorem killReports_of_not_misreads (hstatus : ¬ MisreadsStatus K m i) :
    KillReports K m i := by
  by_cases hrunning : m.world.running i = true
  · by_cases hkill : K.kill (K.atKill m i) (m.world.pid i) = 0
    · cases hwait : K.waitpid (K.atWaitpid m i) (m.world.pid i) with
      | failed status =>
        have hexited : (wifsignaled status || wifexited status) = false :=
          Bool.eq_false_iff.mpr fun htrue => hstatus ⟨hrunning, hkill, status, hwait, htrue⟩
        obtain ⟨hresult, hworld⟩ := killInstance_sent hrunning hkill hwait hexited
        refine killReports_of_false hresult ?_ ?_
        · rw [hworld]
          rfl
        · rw [hworld, hrunning]
          exact Function.update_self ..
      | reaped status =>
        obtain ⟨hmem, hexited⟩ := K.waitpid_reaped _ _ _ hwait
        obtain ⟨hresult, hworld⟩ := killInstance_sent hrunning hkill hwait hexited
        rw [unreaped_atWaitpid] at hmem
        refine killReports_of_true hresult fun _ => ⟨hmem, ?_⟩
        rw [hworld]
        exact unreaped_waited_reaped _ _ status
    · obtain ⟨hresult, hworld⟩ := killInstance_unsent hrunning hkill
      exact killReports_of_false hresult (by rw [hworld]) (by rw [hworld])
  · obtain ⟨hresult, -⟩ := killInstance_idle (K := K) (Bool.not_eq_true _ ▸ hrunning)
    exact killReports_of_true hresult fun htrue => absurd htrue hrunning

-- A status that is misread is a report of a child reaped that has not been.
theorem not_killReports_of_misreads (hstatus : MisreadsStatus K m i) :
    ¬ KillReports K m i := by
  obtain ⟨hrunning, hkill, status, hwait, hexited⟩ := hstatus
  obtain ⟨hresult, hworld⟩ := killInstance_sent hrunning hkill hwait hexited
  intro hreports
  obtain ⟨hmem, hnot⟩ := hreports.reaped hrunning (Or.inl hresult)
  rw [hworld] at hnot
  exact hnot hmem

-- `restart_instance` forks where its `kill_instance` has returned true.
theorem restartWaits_of_killReports (hreports : KillReports K m i) : RestartWaits K m i := by
  let killed := K.run (killInstance i) m
  have hkill : Always K.step (fun s op => op.forks? = some i →
      m.world.running i = true → Reaped i m.world s.world) (killInstance i) m :=
    (killInstance_only i).always_of (fun s op hop => by
      cases op <;> first | exact absurd hop id | exact nofun) m
  have hrestart : Always K.step (fun s op => op.forks? = some i →
      m.world.running i = true → Reaped i m.world s.world) (restartInstance i) m := by
    unfold restartInstance
    refine Always.bind hkill ?_
    change Always K.step _ (if killed.1 = true then startInstance i else ret false) killed.2
    by_cases hresult : killed.1 = true
    · rw [if_pos hresult]
      refine Always.bind (Always.perform fun _ hrunning => ?_) ?_
      · exact hreports.reaped hrunning (Or.inl hresult)
      · refine (afterFork_no_fork i _).always_of (fun s op hop hfork => ?_) _
        rw [hop] at hfork
        cases hfork
    · rw [if_neg hresult]
      exact Always.ret _ _
  exact fun e he => hrestart e he

/-- In every outcome of `kill(2)`, `waitpid` and `fork` the reports are true, and a restart waits
for the child before, if and only if no status word is misread. -/
theorem reports_true_iff (K : Kernel) (m : Machine) (i : Inst) :
    KillReports K m i ∧ RestartWaits K m i ↔ ¬ MisreadsStatus K m i := by
  constructor
  · rintro ⟨hreports, -⟩ hstatus
    exact not_killReports_of_misreads hstatus hreports
  · intro hstatus
    have hreports := killReports_of_not_misreads hstatus
    exact ⟨hreports, restartWaits_of_killReports hreports⟩

/-- A kernel on which every `waitpid` is interrupted, and the status word happens to be 0. -/
def interrupted : Kernel :=
  { Kernel.obliging with
    waitpid := fun _ _ => .failed 0
    waitpid_reaped := fun _ _ _ h => nomatch h }

/-- `waitpid` is interrupted after an instance has been started: its process is reported killed. -/
theorem reports_true_interrupted :
    ¬ ∀ (K : Kernel) (m : Machine) (i : Inst), KillReports K m i ∧ RestartWaits K m i := by
  intro hall
  let m := (interrupted.run (startInstance 0) (Machine.initial (fun _ => 0) (fun _ => none) []
    none)).2
  have hstatus : MisreadsStatus interrupted m 0 := ⟨by decide, by decide, 0, rfl, by decide⟩
  exact not_killReports_of_misreads hstatus (hall interrupted m 0).1

end ClearwaterFv
