import ClearwaterFv.Reasoning.Decimal
import Mathlib.Algebra.BigOperators.Fin

/-!
# Thrash — the threads of the thrash test

Any number of threads run `thrash_thread_fn` on one store.  A thread is what it has left to do and
where it is in the body of its loop; the threads take steps in any order, one store call a step.
What the store answers is left open here.
-/

open Reasoning Reasoning.Decimal

namespace ClearwaterFv

/-- `Store::Status`. -/
inductive Status where
  | ok
  | notFound
  | dataContention
  | error
deriving DecidableEq

def numIncrPerKeyPerThread : Nat := 10

/-- Where a thread is in the body of its `do` loop: before the `get_data`, or before the `set_data`
with what `get_data` left in `data` and `cas`. -/
inductive Phase (V : Type) where
  | get
  | set (data : String) (cas : V)

/-- A thread: the keys it has still to increment, the current one first, and where it is. -/
structure ThrashThread (V : Type) where
  todo : List String
  phase : Phase V

/-- A call of the store that a thread makes. -/
inductive Request (V : Type) where
  | getData (key : String)
  | setData (key data : String) (cas : V)

/-- A call with its answer. -/
inductive StoreCall (V : Type) where
  | getData (key : String) (rc : Status) (data : String) (cas : V)
  | setData (key data : String) (cas : V) (rc : Status)

variable {V : Type}

/-- `int value = atoi(data.c_str()); value++;` and `std::to_string(value)`. -/
def incremented (data : String) : String := (toInt32 (atoi data + 1)).repr

/-- A thread that has been started: the two loops of `thrash_thread_fn`. -/
def thrashThreadFn (keys : List String) : ThrashThread V where
  todo := (List.range numIncrPerKeyPerThread).flatMap fun _ => keys
  phase := .get

-- A thread starts without having read anything.
theorem thrashThreadFn_ne_set {keys todo : List String} {data : String} {cas : V} :
    thrashThreadFn keys ≠ ⟨todo, .set data cas⟩ := by
  intro h
  have hphase := congrArg ThrashThread.phase h
  cases hphase

namespace ThrashThread

/-- The call that the thread makes next. -/
def request : ThrashThread V → Option (Request V)
  | ⟨[], _⟩ => none
  | ⟨key :: _, .get⟩ => some (.getData key)
  | ⟨key :: _, .set data cas⟩ => some (.setData key (incremented data) cas)

def afterGetData (th : ThrashThread V) (data : String) (cas : V) : ThrashThread V :=
  { th with phase := .set data cas }

/-- The loop goes round again on contention alone. -/
def afterSetData (th : ThrashThread V) (rc : Status) : ThrashThread V :=
  if rc = .dataContention then { th with phase := .get }
  else { todo := th.todo.tail, phase := .get }

theorem eq_of_request_getData {th : ThrashThread V} {key : String}
    (h : th.request = some (.getData key)) : ∃ rest, th = ⟨key :: rest, .get⟩ := by
  obtain ⟨todo, phase⟩ := th
  cases todo with
  | nil => cases h
  | cons k rest =>
    cases phase with
    | get =>
      cases h
      exact ⟨rest, rfl⟩
    | set data cas => cases h

theorem eq_of_request_setData {th : ThrashThread V} {key data : String} {cas : V}
    (h : th.request = some (.setData key data cas)) :
    ∃ rest read, th = ⟨key :: rest, .set read cas⟩ ∧ data = incremented read := by
  obtain ⟨todo, phase⟩ := th
  cases todo with
  | nil => cases h
  | cons k rest =>
    cases phase with
    | get => cases h
    | set read cas' =>
      cases h
      exact ⟨rest, read, rfl, rfl⟩

end ThrashThread

/-- `ThrashRun keys h ths`: the threads can have made the calls `h`, the newest first, and then be
as in `ths`. -/
inductive ThrashRun {T : Nat} (keys : List String) :
    List (Fin T × StoreCall V) → (Fin T → ThrashThread V) → Prop where
  | start : ThrashRun keys [] fun _ => thrashThreadFn keys
  | getData {h : List (Fin T × StoreCall V)} {ths : Fin T → ThrashThread V} (t : Fin T)
      (key : String) (rc : Status) (data : String) (cas : V) (hrun : ThrashRun keys h ths)
      (hreq : (ths t).request = some (.getData key)) :
      ThrashRun keys ((t, .getData key rc data cas) :: h)
        (Function.update ths t ((ths t).afterGetData data cas))
  | setData {h : List (Fin T × StoreCall V)} {ths : Fin T → ThrashThread V} (t : Fin T)
      (key data : String) (cas : V) (rc : Status) (hrun : ThrashRun keys h ths)
      (hreq : (ths t).request = some (.setData key data cas)) :
      ThrashRun keys ((t, .setData key data cas rc) :: h)
        (Function.update ths t ((ths t).afterSetData rc))

/-! ## Progress -/

/-- A `set_data` on one of the keys, after which the thread goes on to its next key. -/
def StoreCall.finishes (p : String → Bool) : StoreCall V → Bool
  | setData key _ _ rc => p key && decide (rc ≠ .dataContention)
  | getData .. => false

-- A sum over all threads, when one of them has changed.
theorem sum_threads_update {T : Nat} (g : ThrashThread V → Nat) (ths : Fin T → ThrashThread V)
    (t : Fin T) (th : ThrashThread V) :
    ∑ u, g (Function.update ths t th u) + g (ths t) = ∑ u, g (ths u) + g th := by
  have hothers : ∀ u ∈ Finset.univ.erase t, g (Function.update ths t th u) = g (ths u) := by
    intro u hu
    rw [Function.update_of_ne (Finset.ne_of_mem_erase hu)]
  rw [← Finset.sum_erase_add _ _ (Finset.mem_univ t), Finset.sum_congr rfl hothers,
    Function.update_self, Nat.add_right_comm, Finset.sum_erase_add _ _ (Finset.mem_univ t)]

theorem countP_todo_thrashThreadFn (p : String → Bool) (keys : List String) :
    (thrashThreadFn keys : ThrashThread V).todo.countP p =
      numIncrPerKeyPerThread * keys.countP p := by
  change ((List.range numIncrPerKeyPerThread).flatMap fun _ => keys).countP p = _
  induction numIncrPerKeyPerThread with
  | zero => exact (Nat.zero_mul _).symm
  | succ n ih =>
    rw [List.range_succ, List.flatMap_append, List.countP_append, ih, List.flatMap_singleton,
      Nat.succ_mul]

variable {T : Nat} {keys : List String} {h : List (Fin T × StoreCall V)}
  {ths : Fin T → ThrashThread V}

-- What has been finished and what is left make up all the increments.
theorem ThrashRun.finished_add_todo (hrun : ThrashRun keys h ths) (p : String → Bool) :
    h.countP (fun e => e.2.finishes p) + ∑ t, (ths t).todo.countP p =
      T * (numIncrPerKeyPerThread * keys.countP p) := by
  induction hrun with
  | start =>
    simp only [countP_todo_thrashThreadFn, List.countP_nil, Finset.sum_const, Finset.card_univ,
      Fintype.card_fin, smul_eq_mul, Nat.zero_add]
  | @getData h ths t key rc data cas hrun hreq ih =>
    have hsum : ∑ u, (Function.update ths t ((ths t).afterGetData data cas) u).todo.countP p +
        (ths t).todo.countP p = ∑ u, (ths u).todo.countP p + (ths t).todo.countP p :=
      sum_threads_update (fun th => th.todo.countP p) ths t _
    rw [List.countP_cons_of_neg Bool.false_ne_true]
    omega
  | @setData h ths t key data cas rc hrun hreq ih =>
    have hsum : ∑ u, (Function.update ths t ((ths t).afterSetData rc) u).todo.countP p +
        (ths t).todo.countP p =
          ∑ u, (ths u).todo.countP p + ((ths t).afterSetData rc).todo.countP p :=
      sum_threads_update (fun th => th.todo.countP p) ths t _
    obtain ⟨rest, read, hth, -⟩ := ThrashThread.eq_of_request_setData hreq
    by_cases hrc : rc = .dataContention
    · have hsame : ((ths t).afterSetData rc).todo = (ths t).todo := by
        unfold ThrashThread.afterSetData
        rw [if_pos hrc]
      have hretry : ¬ StoreCall.finishes p (.setData key data cas rc) = true := by
        simp only [StoreCall.finishes, hrc, ne_eq, not_true_eq_false, decide_false, Bool.and_false,
          Bool.false_eq_true, not_false_eq_true]
      rw [hsame] at hsum
      rw [List.countP_cons, if_neg hretry]
      omega
    · have htail : ((ths t).afterSetData rc).todo = rest := by
        unfold ThrashThread.afterSetData
        rw [if_neg hrc, hth]
        rfl
      have hbefore : (ths t).todo.countP p = rest.countP p + if p key then 1 else 0 := by
        rw [hth, List.countP_cons]
      have hdone : StoreCall.finishes p (.setData key data cas rc) = p key := by
        simp only [StoreCall.finishes, ne_eq, hrc, not_false_eq_true, decide_true, Bool.and_true]
      rw [htail, hbefore] at hsum
      rw [List.countP_cons, hdone]
      omega

end ClearwaterFv
