import ClearwaterFv.Reasoning.Attempts
import ClearwaterFv.Counter
import Mathlib.Algebra.Order.BigOperators.Group.Finset
import Mathlib.Tactic.Ring

/-!
# Retries — how often the loop of the thrash test goes round

A thread goes round again when its `set_data` meets contention.  Each pass of the loop is an
attempt, and an attempt that meets contention has been overtaken by another thread.
-/

open Reasoning

namespace ClearwaterFv

variable {V : Type} {T : Nat}

/-! ## What is assumed of the store -/

/-- Whether a `set_data` on the key has returned OK since the last `get_data` of the thread.  The
calls have their newest first. -/
def okSinceGet (t : Fin T) (key : String) : List (Fin T × StoreCall V) → Bool
  | [] => false
  | (u, .getData ..) :: h => if u = t then false else okSinceGet t key h
  | (_, .setData k _ _ rc) :: h => decide (k = key ∧ rc = .ok) || okSinceGet t key h

/-- `set_data` meets contention only if another has returned OK after the `get_data` that supplied
its `cas`. -/
def ContentionOnlyIfOvertaken (h : List (Fin T × StoreCall V)) : Prop :=
  ∀ t key data cas earlier, (t, .setData key data cas .dataContention) :: earlier <:+ h →
    okSinceGet t key earlier = true

variable {keys : List String} {h : List (Fin T × StoreCall V)} {ths : Fin T → ThrashThread V}

theorem ContentionOnlyIfOvertaken.tail {e : Fin T × StoreCall V}
    (hcas : ContentionOnlyIfOvertaken (e :: h)) : ContentionOnlyIfOvertaken h :=
  fun t key data cas earlier hsuffix =>
    hcas t key data cas earlier (hsuffix.trans (List.suffix_cons e h))

/-! ## The passes of the loop as attempts -/

/-- What a call of the thread does to its attempt. -/
def StoreCall.attempt (t : Fin T) : StoreCall V → Attempt (Fin T)
  | getData .. => .start t
  | setData _ _ _ .ok => .commit t
  | setData _ _ _ .dataContention => .refuse t
  | setData _ _ _ _ => .drop t

def attempts (h : List (Fin T × StoreCall V)) : List (Attempt (Fin T)) :=
  h.map fun e => e.2.attempt e.1

/-- A `set_data` with the status. -/
def StoreCall.setsWith (status : Status) : StoreCall V → Bool
  | setData _ _ _ rc => decide (rc = status)
  | getData .. => false

theorem countP_attempts (p : Attempt (Fin T) → Bool) (status : Status)
    (hp : ∀ (t : Fin T) (call : StoreCall V), p (call.attempt t) = call.setsWith status) :
    (attempts h).countP p = h.countP fun e => e.2.setsWith status := by
  unfold attempts
  rw [List.countP_map]
  exact List.countP_congr fun e _ => by rw [← hp e.1 e.2]; rfl

theorem isRefuse_attempt (t : Fin T) (call : StoreCall V) :
    (call.attempt t).isRefuse = call.setsWith .dataContention := by
  cases call with
  | getData key rc data cas => rfl
  | setData key data cas rc => cases rc <;> rfl

theorem isCommit_attempt (t : Fin T) (call : StoreCall V) :
    (call.attempt t).isCommit = call.setsWith .ok := by
  cases call with
  | getData key rc data cas => rfl
  | setData key data cas rc => cases rc <;> rfl

-- While a thread holds what it has read, only another thread can have written the key.
theorem ThrashRun.overtaken_of_okSinceGet (hrun : ThrashRun keys h ths) {t : Fin T} {key : String}
    {rest : List String} {data : String} {cas : V} (hth : ths t = ⟨key :: rest, .set data cas⟩)
    (hok : okSinceGet t key h = true) : Attempt.overtaken t (attempts h) = true := by
  induction hrun with
  | start => exact absurd hok Bool.false_ne_true
  | @getData h ths u k rc d c hrun hreq ih =>
    change (if u = t then false else okSinceGet t key h) = true at hok
    change (if u = t then false else Attempt.overtaken t (attempts h)) = true
    by_cases hut : u = t
    · rw [if_pos hut] at hok
      exact absurd hok Bool.false_ne_true
    · rw [if_neg hut] at hok ⊢
      rw [Function.update_of_ne (Ne.symm hut)] at hth
      exact ih hth hok
  | @setData h ths u k d c rc hrun hreq ih =>
    obtain ⟨hut, hth⟩ := held_of_afterSetData hth
    by_cases hrc : rc = .ok
    · subst hrc
      exact decide_eq_true hut
    · have hold : okSinceGet t key h = true := by
        have hno : decide (k = key ∧ rc = .ok) = false := decide_eq_false fun hboth => hrc hboth.2
        change (decide (k = key ∧ rc = .ok) || okSinceGet t key h) = true at hok
        rw [hno, Bool.false_or] at hok
        exact hok
      have hsame : Attempt.overtaken t (attempts ((u, .setData k d c rc) :: h)) =
          if u = t then false else Attempt.overtaken t (attempts h) := by
        cases rc <;> first | exact absurd rfl hrc | rfl
      rw [hsame, if_neg hut]
      exact ih hth hold

theorem ThrashRun.justified (hrun : ThrashRun keys h ths) (hcas : ContentionOnlyIfOvertaken h) :
    Attempt.Justified (attempts h) := by
  induction hrun with
  | start => exact trivial
  | getData t key rc data cas hrun hreq ih => exact ih hcas.tail
  | @setData h ths t key data cas rc hrun hreq ih =>
    have htail := ih hcas.tail
    cases rc with
    | dataContention =>
      obtain ⟨rest, read, hth, -⟩ := ThrashThread.eq_of_request_setData hreq
      have hok := hcas t key data cas h (List.suffix_refl _)
      exact ⟨hrun.overtaken_of_okSinceGet hth hok, htail⟩
    | _ => exact htail

-- Every `set_data` that returns OK pays for at most one contention of each other thread.
theorem ThrashRun.contentions_le (hrun : ThrashRun keys h ths)
    (hcas : ContentionOnlyIfOvertaken h) :
    h.countP (fun e => e.2.setsWith .dataContention) ≤
      (T - 1) * h.countP fun e => e.2.setsWith .ok := by
  have hle := Attempt.refusals_le (hrun.justified hcas)
  rw [Fintype.card_fin, countP_attempts _ _ isRefuse_attempt,
    countP_attempts _ _ isCommit_attempt] at hle
  exact hle

/-! ## The number of calls -/

/-- A thread that has made the `get_data` of a pass and not yet its `set_data`. -/
def ThrashThread.pending : ThrashThread V → Nat
  | ⟨_ :: _, .set ..⟩ => 1
  | _ => 0

theorem ThrashThread.pending_le (th : ThrashThread V) : th.pending ≤ th.todo.length := by
  obtain ⟨todo, phase⟩ := th
  cases todo with
  | nil => exact Nat.zero_le _
  | cons key rest =>
    cases phase with
    | get => exact Nat.zero_le _
    | set data cas => exact Nat.succ_le_succ (Nat.zero_le rest.length)

theorem ThrashThread.pending_of_get {th : ThrashThread V} (hphase : th.phase = .get) :
    th.pending = 0 := by
  obtain ⟨todo, phase⟩ := th
  subst hphase
  cases todo <;> rfl

-- Every pass of the loop is two calls, and it has increased the key or met contention.
theorem ThrashRun.length_eq (hrun : ThrashRun keys h ths) :
    h.length = 2 * (h.countP (fun e => e.2.finishes fun _ => true) +
      h.countP fun e => e.2.setsWith .dataContention) + ∑ t, (ths t).pending := by
  induction hrun with
  | start =>
    have hnone : ∀ t ∈ (Finset.univ : Finset (Fin T)),
        (thrashThreadFn keys : ThrashThread V).pending = 0 :=
      fun _ _ => ThrashThread.pending_of_get rfl
    rw [Finset.sum_eq_zero hnone]
    rfl
  | @getData h ths t key rc data cas hrun hreq ih =>
    have hsum := sum_threads_update ThrashThread.pending ths t ((ths t).afterGetData data cas)
    obtain ⟨rest, hth⟩ := ThrashThread.eq_of_request_getData hreq
    have hbefore : (ths t).pending = 0 := by
      rw [hth]
      rfl
    have hafter : ((ths t).afterGetData data cas).pending = 1 := by
      rw [hth]
      rfl
    rw [List.length_cons, List.countP_cons_of_neg Bool.false_ne_true,
      List.countP_cons_of_neg Bool.false_ne_true]
    omega
  | @setData h ths t key data cas rc hrun hreq ih =>
    have hsum := sum_threads_update ThrashThread.pending ths t ((ths t).afterSetData rc)
    obtain ⟨rest, read, hth, -⟩ := ThrashThread.eq_of_request_setData hreq
    have hbefore : (ths t).pending = 1 := by
      rw [hth]
      rfl
    have hafter := ThrashThread.pending_of_get (afterSetData_phase (ths t) rc)
    have hpass : ((StoreCall.setData key data cas rc).finishes fun _ => true) =
        !(StoreCall.setData key data cas rc).setsWith .dataContention := by
      cases rc <;> rfl
    rw [List.length_cons, List.countP_cons, List.countP_cons]
    simp only [hpass]
    cases (StoreCall.setData key data cas rc).setsWith .dataContention with
    | true =>
      simp only [Bool.not_true, Bool.false_eq_true, if_false, if_true]
      omega
    | false =>
      simp only [Bool.not_false, Bool.false_eq_true, if_false, if_true]
      omega

theorem ThrashRun.length_le (hrun : ThrashRun keys h ths) (hcas : ContentionOnlyIfOvertaken h) :
    h.length ≤ 2 * T * T * numIncrPerKeyPerThread * keys.length := by
  have hlength := hrun.length_eq
  have hprogress := hrun.finished_add_todo fun _ => true
  have hcontentions := hrun.contentions_le hcas
  rw [List.countP_true] at hprogress
  have hok : (h.countP fun e => e.2.setsWith .ok) ≤
      h.countP fun e => e.2.finishes fun _ => true := by
    refine List.countP_mono_left fun e _ hset => ?_
    obtain ⟨t, call⟩ := e
    cases call with
    | getData => exact hset
    | setData key data cas rc =>
      have hrc : rc = .ok := of_decide_eq_true hset
      subst hrc
      rfl
  have hpending : ∑ t, (ths t).pending ≤ ∑ t, (ths t).todo.length :=
    Finset.sum_le_sum fun t _ => (ths t).pending_le
  generalize (h.countP fun e => e.2.finishes fun _ => true) = finished at *
  generalize (h.countP fun e => e.2.setsWith .dataContention) = contentions at *
  generalize (h.countP fun e => e.2.setsWith .ok) = stored at *
  generalize (∑ t, (ths t).todo.length) = left at *
  cases T with
  | zero =>
    -- without threads nothing is ever called
    have hnone : finished + left = 0 := by rw [hprogress, Nat.zero_mul]
    have hnever : contentions ≤ 0 := by
      rw [Nat.zero_sub, Nat.zero_mul] at hcontentions
      exact hcontentions
    omega
  | succ n =>
    have hbound : contentions ≤ n * finished := hcontentions.trans (Nat.mul_le_mul_left n hok)
    have hleft : left ≤ (n + 1) * left := Nat.le_mul_of_pos_left left (Nat.succ_pos n)
    have hsplit : (n + 1) * (finished + left) = n * finished + finished + (n + 1) * left := by ring
    calc h.length ≤ 2 * ((n + 1) * (finished + left)) := by omega
      _ = 2 * (n + 1) * (n + 1) * numIncrPerKeyPerThread * keys.length := by
        rw [hprogress]
        ring

/-- The retries of all threads are bounded by their increments, and no run goes on for ever. -/
theorem retries_bounded (T : Nat) (V : Type) (keys : List String) :
    (∀ (h : List (Fin T × StoreCall V)) (ths : Fin T → ThrashThread V),
      ThrashRun keys h ths → ContentionOnlyIfOvertaken h →
        h.countP (fun e => e.2.setsWith .dataContention) ≤
          (T - 1) * h.countP (fun e => e.2.setsWith .ok) ∧
        h.length ≤ 2 * T * T * numIncrPerKeyPerThread * keys.length) ∧
    ¬ ∃ calls : Nat → List (Fin T × StoreCall V), ∀ n,
      (∃ ths, ThrashRun keys (calls n) ths) ∧ ContentionOnlyIfOvertaken (calls n) ∧
      ∃ e, calls (n + 1) = e :: calls n := by
  refine ⟨fun h ths hrun hcas => ⟨hrun.contentions_le hcas, hrun.length_le hcas⟩, ?_⟩
  rintro ⟨calls, hcalls⟩
  have hlength : ∀ n, n ≤ (calls n).length := by
    intro n
    induction n with
    | zero => exact Nat.zero_le _
    | succ n ih =>
      obtain ⟨-, -, e, he⟩ := hcalls n
      rw [he, List.length_cons]
      exact Nat.succ_le_succ ih
  obtain ⟨⟨ths, hrun⟩, hcas, -⟩ := hcalls (2 * T * T * numIncrPerKeyPerThread * keys.length + 1)
  have hle := hrun.length_le hcas
  have hge := hlength (2 * T * T * numIncrPerKeyPerThread * keys.length + 1)
  omega

/-- Two threads of which one has overtaken the other. -/
theorem retries_bounded_overtaken :
    ∃ ths, ThrashRun ["key"] overtakenCalls ths ∧ ContentionOnlyIfOvertaken overtakenCalls ∧
      overtakenCalls.countP (fun e => e.2.setsWith .dataContention) ≤
        (2 - 1) * overtakenCalls.countP (fun e => e.2.setsWith .ok) ∧
      overtakenCalls.length ≤ 2 * 2 * 2 * numIncrPerKeyPerThread * ["key"].length := by
  obtain ⟨ths, hrun, -⟩ := overtakenCalls_run
  have hcas : ContentionOnlyIfOvertaken overtakenCalls := by
    intro t key data cas earlier hsuffix
    simp only [overtakenCalls, List.suffix_cons_iff, List.suffix_nil, List.cons.injEq,
      Prod.mk.injEq, StoreCall.setData.injEq, reduceCtorEq, false_and, and_false, or_false]
      at hsuffix
    obtain ⟨⟨rfl, rfl, -⟩, rfl⟩ := hsuffix
    decide
  exact ⟨ths, hrun, hcas, (retries_bounded 2 Nat ["key"]).1 overtakenCalls ths hrun hcas⟩

/-! ## Over registers with compare-and-swap -/

-- A thread that nobody has overtaken holds the current version.
theorem Served.current_of_not_okSinceGet {store₀ store : Store V} (hserved : Served store₀ h store)
    (hrun : ThrashRun keys h ths) (hget : ∀ e ∈ h, e.2.getOk) {t : Fin T} {key : String}
    {rest : List String} {data : String} {cas : V} (hth : ths t = ⟨key :: rest, .set data cas⟩)
    (hnone : okSinceGet t key h = false) : cas = (store key).version := by
  induction hrun generalizing store with
  | start => exact absurd hth thrashThreadFn_ne_set
  | @getData h ths u k rc d c hrun hreq ih =>
    have hget' := fun e he => hget e (List.mem_cons_of_mem _ he)
    change (if u = t then false else okSinceGet t key h) = false at hnone
    cases hserved with
    | getData _ _ hserved =>
      by_cases hut : u = t
      · obtain ⟨rest', hth'⟩ := ThrashThread.eq_of_request_getData hreq
        rw [hut, Function.update_self, ← hut, hth'] at hth
        cases hth
        rfl
      · rw [if_neg hut] at hnone
        rw [Function.update_of_ne (Ne.symm hut)] at hth
        exact ih hserved hget' hth hnone
    | getFailed _ _ _ _ hrc _ => exact absurd (hget _ List.mem_cons_self) hrc
  | @setData h ths u k d c rc hrun hreq ih =>
    have hget' := fun e he => hget e (List.mem_cons_of_mem _ he)
    change (decide (k = key ∧ rc = .ok) || okSinceGet t key h) = false at hnone
    obtain ⟨hother, hnone⟩ := Bool.or_eq_false_iff.mp hnone
    cases hserved with
    | setData _ _ _ _ _ hserved hanswer hswap =>
      obtain ⟨-, hth⟩ := held_of_afterSetData hth
      have hcurrent := ih hserved hget' hth hnone
      by_cases hk : k = key
      · have hrc : rc ≠ .ok := fun heq => of_decide_eq_false hother ⟨hk, heq⟩
        subst hk
        rw [Function.update_self, hswap.eq_of_not_stored (Status.ne_stored hanswer hrc)]
        exact hcurrent
      · rw [Function.update_of_ne (Ne.symm hk)]
        exact hcurrent

-- Such a store keeps the assumption on contention.
theorem Served.contentionOnlyIfOvertaken {store₀ store : Store V} (hserved : Served store₀ h store)
    (hrun : ThrashRun keys h ths) (hget : ∀ e ∈ h, e.2.getOk) : ContentionOnlyIfOvertaken h := by
  induction hrun generalizing store with
  | start =>
    intro t key data cas earlier hsuffix
    cases List.suffix_nil.mp hsuffix
  | @getData h ths u k rc d c hrun hreq ih =>
    have hget' := fun e he => hget e (List.mem_cons_of_mem _ he)
    have hearlier : ContentionOnlyIfOvertaken h := by
      cases hserved with
      | getData _ _ hserved => exact ih hserved hget'
      | getFailed _ _ _ _ _ hserved => exact ih hserved hget'
    intro t key data cas earlier hsuffix
    rcases List.suffix_cons_iff.mp hsuffix with heq | hsuffix
    · cases heq
    · exact hearlier t key data cas earlier hsuffix
  | @setData h ths u k d c rc hrun hreq ih =>
    have hget' := fun e he => hget e (List.mem_cons_of_mem _ he)
    cases hserved with
    | setData _ _ _ _ _ hserved hanswer hswap =>
      intro t key data cas earlier hsuffix
      rcases List.suffix_cons_iff.mp hsuffix with heq | hsuffix
      · cases heq
        cases hanswer
        obtain ⟨rest, read, hth, -⟩ := ThrashThread.eq_of_request_setData hreq
        by_contra hnone
        have hcurrent := hserved.current_of_not_okSinceGet hrun hget' hth (by simpa using hnone)
        exact hswap.ne_of_refused hcurrent
      · exact ih hserved hget' t key data cas earlier hsuffix

-- Over registers with compare-and-swap that can be read, the threads finish.
theorem ThrashRun.length_le_of_served {store₀ store : Store V} (hrun : ThrashRun keys h ths)
    (hserved : Served store₀ h store) (hget : ∀ e ∈ h, e.2.getOk) :
    h.length ≤ 2 * T * T * numIncrPerKeyPerThread * keys.length :=
  hrun.length_le (hserved.contentionOnlyIfOvertaken hrun hget)

end ClearwaterFv
