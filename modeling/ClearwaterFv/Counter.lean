import ClearwaterFv.Reasoning.Register
import ClearwaterFv.Thrash

/-!
# Counter — what the thrash test does to the value of a key

The store keeps each key in a register with compare-and-swap.  A thread that is about to write
holds what it has read, and while the version it has read is current, the value is.
-/

open Reasoning Reasoning.Decimal

namespace ClearwaterFv

variable {V : Type} {T : Nat}

/-! ## The store -/

abbrev Store (V : Type) := String → Register String V

/-- The answer of a swap that a status of `set_data` stands for. -/
def Status.answer? : Status → Option Register.Answer
  | ok => some .stored
  | dataContention => some .refused
  | error => some .failed
  | notFound => none

theorem Status.ne_stored {rc : Status} {answer : Register.Answer}
    (hanswer : rc.answer? = some answer) (hrc : rc ≠ .ok) : answer ≠ .stored := by
  rintro rfl
  cases rc with
  | ok => exact hrc rfl
  | _ => cases hanswer

/-- `Served store₀ h store`: the store can have given the answers in `h`, the newest first, and
have become `store`.  A `get_data` that fails leaves `data` empty and `cas` as it was. -/
inductive Served (store₀ : Store V) : List (Fin T × StoreCall V) → Store V → Prop where
  | start : Served store₀ [] store₀
  | getData {h : List (Fin T × StoreCall V)} {store : Store V} (t : Fin T) (key : String)
      (hserved : Served store₀ h store) :
      Served store₀ ((t, .getData key .ok (store key).value (store key).version) :: h) store
  | getFailed {h : List (Fin T × StoreCall V)} {store : Store V} (t : Fin T) (key : String)
      (rc : Status) (cas : V) (hrc : rc ≠ .ok) (hserved : Served store₀ h store) :
      Served store₀ ((t, .getData key rc "" cas) :: h) store
  | setData {h : List (Fin T × StoreCall V)} {store : Store V} (t : Fin T) (key data : String)
      (cas : V) (rc : Status) {answer : Register.Answer} {r : Register String V}
      (hserved : Served store₀ h store) (hanswer : rc.answer? = some answer)
      (hswap : (store key).Swap data cas answer r) :
      Served store₀ ((t, .setData key data cas rc) :: h) (Function.update store key r)

/-! ## What is counted -/

/-- A `get_data` that has not failed, or a `set_data`. -/
def StoreCall.getOk : StoreCall V → Prop
  | getData _ rc _ _ => rc = .ok
  | setData .. => True

/-- A `set_data` on the key with the status. -/
def StoreCall.setReturns (key : String) (status : Status) : StoreCall V → Bool
  | setData k _ _ rc => decide (k = key) && decide (rc = status)
  | getData .. => false

/-- How often `set_data` on the key has returned the status. -/
def setCount (key : String) (status : Status) (h : List (Fin T × StoreCall V)) : Nat :=
  h.countP fun e => e.2.setReturns key status

variable {keys : List String} {store₀ store : Store V} {h : List (Fin T × StoreCall V)}
  {ths : Fin T → ThrashThread V} {key : String}

theorem setCount_cons (t : Fin T) (call : StoreCall V) (status : Status) :
    setCount key status ((t, call) :: h) =
      setCount key status h + if call.setReturns key status = true then 1 else 0 :=
  List.countP_cons

-- The increments that are over have been stored or have failed.
theorem Served.finished_eq (hserved : Served store₀ h store) (key : String) :
    h.countP (fun e => e.2.finishes fun k => decide (k = key)) =
      setCount key .ok h + setCount key .error h := by
  induction hserved with
  | start => rfl
  | getData t k _ ih => exact ih
  | getFailed t k rc cas hrc _ ih => exact ih
  | setData t k data cas rc _ hanswer _ ih =>
    have hhead : (if StoreCall.finishes (fun k => decide (k = key))
        (StoreCall.setData k data cas rc) = true then 1 else 0) =
        (if StoreCall.setReturns key .ok (StoreCall.setData k data cas rc) = true then 1 else 0) +
          if StoreCall.setReturns key .error (StoreCall.setData k data cas rc) = true then 1
          else 0 := by
      unfold StoreCall.finishes StoreCall.setReturns
      cases rc with
      | notFound => cases hanswer
      | _ => by_cases hk : k = key <;> simp [hk]
    rw [List.countP_cons, setCount_cons, setCount_cons, hhead, ih]
    omega

theorem incremented_repr {n : Nat} (hn : n + 1 < 2 ^ 31) : incremented n.repr = (n + 1).repr := by
  have hatoi : atoi n.repr = n := atoi_repr n (by omega) (by omega)
  unfold incremented
  rw [hatoi, toInt32_eq_self (by omega) (by omega)]
  rfl

/-- The value of the key counts the increments that have been stored, and a thread about to write
the key holds a value that it has read. -/
structure Counts (key : String) (h : List (Fin T × StoreCall V)) (ths : Fin T → ThrashThread V)
    (store : Store V) : Prop where
  value : (store key).value = (setCount key .ok h).repr
  reads : ∀ t rest data cas, ths t = ⟨key :: rest, .set data cas⟩ →
    (store key).Read data cas

theorem counts_start (hinit : (store₀ key).value = "0") :
    Counts key [] (fun _ : Fin T => thrashThreadFn keys) store₀ where
  value := by
    rw [hinit]
    change "0" = Nat.repr 0
    decide
  reads t rest data cas hth := absurd hth thrashThreadFn_ne_set

-- Reading a key.
theorem Counts.getData (hcounts : Counts key h ths store) {t : Fin T} {k : String}
    (hreq : (ths t).request = some (.getData k)) :
    Counts key ((t, .getData k .ok (store k).value (store k).version) :: h)
      (Function.update ths t ((ths t).afterGetData (store k).value (store k).version)) store where
  value := hcounts.value
  reads u rest data cas hu := by
    by_cases hut : u = t
    · obtain ⟨rest', hth⟩ := ThrashThread.eq_of_request_getData hreq
      rw [hut, Function.update_self, hth] at hu
      cases hu
      exact Register.read_current _
    · rw [Function.update_of_ne hut] at hu
      exact hcounts.reads u rest data cas hu

theorem afterSetData_phase (th : ThrashThread V) (rc : Status) :
    (th.afterSetData rc).phase = .get := by
  unfold ThrashThread.afterSetData
  by_cases hrc : rc = .dataContention
  · rw [if_pos hrc]
  · rw [if_neg hrc]

-- A thread that has written holds nothing, and the others hold what they held.
theorem held_of_afterSetData {t u : Fin T} {rc : Status} {todo : List String} {data : String}
    {cas : V}
    (hth : Function.update ths u ((ths u).afterSetData rc) t = ⟨todo, .set data cas⟩) :
    u ≠ t ∧ ths t = ⟨todo, .set data cas⟩ := by
  by_cases hut : u = t
  · have hphase := afterSetData_phase (ths u) rc
    rw [hut, Function.update_self] at hth
    rw [hut, hth] at hphase
    cases hphase
  · rw [Function.update_of_ne (Ne.symm hut)] at hth
    exact ⟨hut, hth⟩

-- What has been read of a key stays read when a key is written.
theorem read_update {key k data data' : String} {cas cas' : V} {answer : Register.Answer}
    {r : Register String V} (hread : (store key).Read data cas)
    (hswap : (store k).Swap data' cas' answer r) :
    (Function.update store k r key).Read data cas := by
  by_cases hk : key = k
  · subst hk
    rw [Function.update_self]
    exact hread.swap hswap
  · rw [Function.update_of_ne hk]
    exact hread

-- A write, as it changes the key's value and the count.
theorem Counts.value_setData (hcounts : Counts key h ths store) {t : Fin T} {k data : String}
    {cas : V} {rc : Status} {answer : Register.Answer} {r : Register String V}
    (hreq : (ths t).request = some (.setData k data cas)) (hanswer : rc.answer? = some answer)
    (hswap : (store k).Swap data cas answer r)
    (hsmall : setCount key .ok ((t, .setData k data cas rc) :: h) < 2 ^ 31) :
    (Function.update store k r key).value =
      (setCount key .ok ((t, .setData k data cas rc) :: h)).repr := by
  rw [setCount_cons, StoreCall.setReturns] at hsmall ⊢
  by_cases hk : k = key
  · subst hk
    rw [Function.update_self]
    by_cases hok : rc = .ok
    · subst hok
      cases hanswer
      obtain ⟨rest, read, hth, rfl⟩ := ThrashThread.eq_of_request_setData hreq
      obtain ⟨hold, hnew⟩ := hswap.value_of_stored (hcounts.reads t rest read cas hth)
      simp only [decide_true, Bool.and_true, if_true] at hsmall ⊢
      rw [hnew, ← hold, hcounts.value, incremented_repr hsmall]
    · rw [hswap.eq_of_not_stored (Status.ne_stored hanswer hok), hcounts.value]
      simp only [hok, decide_false, Bool.and_false, Bool.false_eq_true, if_false, Nat.add_zero]
  · rw [Function.update_of_ne (Ne.symm hk), hcounts.value]
    simp only [hk, decide_false, Bool.false_and, Bool.false_eq_true, if_false, Nat.add_zero]

-- Writing a key, while the count still fits an `int`.
theorem Counts.setData (hcounts : Counts key h ths store) {t : Fin T} {k data : String} {cas : V}
    {rc : Status} {answer : Register.Answer} {r : Register String V}
    (hreq : (ths t).request = some (.setData k data cas)) (hanswer : rc.answer? = some answer)
    (hswap : (store k).Swap data cas answer r)
    (hsmall : setCount key .ok ((t, .setData k data cas rc) :: h) < 2 ^ 31) :
    Counts key ((t, .setData k data cas rc) :: h)
      (Function.update ths t ((ths t).afterSetData rc)) (Function.update store k r) where
  value := hcounts.value_setData hreq hanswer hswap hsmall
  reads u rest data' cas' hu := by
    obtain ⟨-, hu⟩ := held_of_afterSetData hu
    exact read_update (hcounts.reads u rest data' cas' hu) hswap

-- While the increments of a key fit an `int`, its value counts them in every state of a run.
theorem counts_of_run (hinit : (store₀ key).value = "0") (hrun : ThrashRun keys h ths)
    (hserved : Served store₀ h store) (hget : ∀ e ∈ h, e.2.getOk)
    (hsmall : setCount key .ok h < 2 ^ 31) : Counts key h ths store := by
  induction hrun generalizing store with
  | start =>
    cases hserved
    exact counts_start hinit
  | getData t k rc data cas hrun hreq ih =>
    have hget' := fun e he => hget e (List.mem_cons_of_mem _ he)
    cases hserved with
    | getData _ _ hserved => exact (ih hserved hget' hsmall).getData hreq
    | getFailed _ _ _ _ hrc hserved => exact absurd (hget _ List.mem_cons_self) hrc
  | @setData h ths t k data cas rc hrun hreq ih =>
    have hget' := fun e he => hget e (List.mem_cons_of_mem _ he)
    cases hserved with
    | setData _ _ _ _ _ hserved hanswer hswap =>
      have hcons : setCount key .ok ((t, .setData k data cas rc) :: h) = setCount key .ok h + _ :=
        setCount_cons t (.setData k data cas rc) .ok
      exact (ih hserved hget' (by omega)).setData hreq hanswer hswap hsmall

-- When the threads have finished, every increment of a key has been stored or has failed.
theorem stored_add_failed (hrun : ThrashRun keys h ths) (hserved : Served store₀ h store)
    (hdone : ∀ t, (ths t).todo = []) (key : String) :
    setCount key .ok h + setCount key .error h =
      T * (numIncrPerKeyPerThread * keys.count key) := by
  have hprogress := hrun.finished_add_todo fun k => decide (k = key)
  have hcount : keys.countP (fun k => decide (k = key)) = keys.count key := by
    rw [List.count]
    rfl
  have hnone : ∑ t, (ths t).todo.countP (fun k => decide (k = key)) = 0 := by
    refine Finset.sum_eq_zero fun t _ => ?_
    rw [hdone t]
    rfl
  rw [hserved.finished_eq, hcount, hnone] at hprogress
  exact hprogress

/-- No increment is lost or made twice: in every state in which the increments of a key that have
been stored fit an `int`, its value is the number of `set_data` calls that have returned OK, and in
the end that of all increments but those that returned ERROR. -/
theorem noLostIncrement (keys : List String) (store₀ : Store V)
    (hinit : ∀ key ∈ keys, (store₀ key).value = "0") {h : List (Fin T × StoreCall V)}
    {ths : Fin T → ThrashThread V} {store : Store V} (hrun : ThrashRun keys h ths)
    (hserved : Served store₀ h store) (hget : ∀ e ∈ h, e.2.getOk) :
    ∀ key ∈ keys,
      (setCount key .ok h < 2 ^ 31 → (store key).value = (setCount key .ok h).repr) ∧
      ((∀ t, (ths t).todo = []) →
        setCount key .ok h + setCount key .error h =
          T * (numIncrPerKeyPerThread * keys.count key) ∧
        (setCount key .ok h < 2 ^ 31 → (store key).value =
          (T * (numIncrPerKeyPerThread * keys.count key) - setCount key .error h).repr)) := by
  intro key hkey
  have hvalue : setCount key .ok h < 2 ^ 31 → (store key).value = (setCount key .ok h).repr :=
    fun hsmall => (counts_of_run (hinit key hkey) hrun hserved hget hsmall).value
  refine ⟨hvalue, fun hdone => ?_⟩
  have htotal := stored_add_failed hrun hserved hdone key
  refine ⟨htotal, fun hsmall => ?_⟩
  rw [hvalue hsmall, ← htotal, Nat.add_sub_cancel]

/-! ## A thread while the others stand still -/

/-- A register with the value "0", and versions to count on from there. -/
def freshRegister : Register String Nat := ⟨"0", 0, [0], List.mem_cons_self⟩

theorem todo_replicate (key : String) (c : Nat) :
    (thrashThreadFn (List.replicate c key) : ThrashThread V).todo =
      List.replicate (numIncrPerKeyPerThread * c) key := by
  change (List.range numIncrPerKeyPerThread).flatMap (fun _ => List.replicate c key) = _
  induction numIncrPerKeyPerThread with
  | zero =>
    rw [Nat.zero_mul]
    rfl
  | succ n ih =>
    rw [List.range_succ, List.flatMap_append, ih, List.flatMap_singleton, Nat.succ_mul,
      List.replicate_append_replicate]

theorem incremented_wrapped (v : Int) :
    incremented (toInt32 v).repr = (toInt32 (v + 1)).repr := by
  obtain ⟨hlo, hhi⟩ := toInt32_bounds v
  unfold incremented
  rw [atoi_repr _ hlo hhi]
  apply congrArg
  unfold toInt32
  exact Int.bmod_add_bmod

section

variable {keys rest : List String} {key : String} {store₀ store : Store Nat}
  {h : List (Fin T × StoreCall Nat)} {ths : Fin T → ThrashThread Nat} {t : Fin T}

-- One pass: the thread reads the key and stores the next value.
theorem exists_pass (hrun : ThrashRun keys h ths) (hserved : Served store₀ h store)
    (hget : ∀ e ∈ h, e.2.getOk) (hth : ths t = ⟨key :: rest, .get⟩) :
    ∃ (h' : List (Fin T × StoreCall Nat)) (store' : Store Nat),
      ThrashRun keys h' (Function.update ths t ⟨rest, .get⟩) ∧ Served store₀ h' store' ∧
      (∀ e ∈ h', e.2.getOk) ∧
      (∀ status, setCount key status h' = setCount key status h + if status = .ok then 1 else 0) ∧
      (store' key).value = incremented (store key).value := by
  let value := (store key).value
  let cas := (store key).version
  obtain ⟨version, hversion⟩ := Infinite.exists_notMem_finset (store key).used.toFinset
  have hfresh : version ∉ (store key).used := fun hmem =>
    hversion (List.mem_toFinset.mpr hmem)
  have hswap : (store key).Swap (incremented value) cas .stored
      ⟨incremented value, version, version :: (store key).used, List.mem_cons_self⟩ :=
    .stored rfl hfresh
  have hreq : (ths t).request = some (.getData key) := by
    rw [hth]
    rfl
  have hth₁ : Function.update ths t ((ths t).afterGetData value cas) t =
      ⟨key :: rest, .set value cas⟩ := by
    rw [Function.update_self, hth]
    rfl
  have hreq₁ : (Function.update ths t ((ths t).afterGetData value cas) t).request =
      some (.setData key (incremented value) cas) := by
    rw [hth₁]
    rfl
  have hrun₁ := ThrashRun.getData t key .ok value cas hrun hreq
  have hrun₂ := ThrashRun.setData t key (incremented value) cas .ok hrun₁ hreq₁
  have hserved₁ := Served.getData t key hserved
  rw [hth₁, Function.update_idem] at hrun₂
  refine ⟨_, _, hrun₂, Served.setData t key (incremented value) cas .ok hserved₁ rfl hswap,
    fun e he => ?_, fun status => ?_, ?_⟩
  · rcases List.mem_cons.mp he with rfl | he
    · exact trivial
    · rcases List.mem_cons.mp he with rfl | he
      · exact rfl
      · exact hget e he
  · rw [setCount_cons, setCount_cons]
    cases status <;> simp [StoreCall.setReturns]
  · rw [Function.update_self]

-- One pass after the other, each on a wrapping `int`.
theorem exists_passes (n : Nat) {v : Int} (hrun : ThrashRun keys h ths)
    (hserved : Served store₀ h store) (hget : ∀ e ∈ h, e.2.getOk)
    (hth : ths t = ⟨List.replicate n key ++ rest, .get⟩)
    (hvalue : (store key).value = (toInt32 v).repr) :
    ∃ (h' : List (Fin T × StoreCall Nat)) (store' : Store Nat),
      ThrashRun keys h' (Function.update ths t ⟨rest, .get⟩) ∧ Served store₀ h' store' ∧
      (∀ e ∈ h', e.2.getOk) ∧
      (∀ status, setCount key status h' = setCount key status h + if status = .ok then n else 0) ∧
      (store' key).value = (toInt32 (v + n)).repr := by
  induction n generalizing h ths store v with
  | zero =>
    have hsame : Function.update ths t ⟨rest, .get⟩ = ths := by
      rw [Function.update_eq_self_iff, hth]
      rfl
    refine ⟨h, store, by rwa [hsame], hserved, hget, fun status => ?_, ?_⟩
    · rw [ite_self, Nat.add_zero]
    · rw [hvalue, Int.natCast_zero, Int.add_zero]
  | succ n ih =>
    obtain ⟨h₁, store₁, hrun₁, hserved₁, hget₁, hcount₁, hvalue₁⟩ :=
      exists_pass hrun hserved hget hth
    rw [hvalue, incremented_wrapped] at hvalue₁
    obtain ⟨h', store', hrun', hserved', hget', hcount', hvalue'⟩ :=
      ih hrun₁ hserved₁ hget₁ (Function.update_self ..) hvalue₁
    rw [Function.update_idem] at hrun'
    refine ⟨h', store', hrun', hserved', hget', fun status => ?_, ?_⟩
    · rw [hcount', hcount₁]
      split <;> omega
    · rw [hvalue', Int.natCast_succ, Int.add_assoc, Int.add_comm 1]

end

/-- Two threads read a key, one increases it, and the other meets contention. -/
def overtakenCalls : List (Fin 2 × StoreCall Nat) :=
  [(1, .setData "key" (incremented "0") 0 .dataContention),
    (0, .setData "key" (incremented "0") 0 .ok),
    (1, .getData "key" .ok "0" 0),
    (0, .getData "key" .ok "0" 0)]

theorem overtakenCalls_run :
    ∃ ths, ThrashRun ["key"] overtakenCalls ths ∧
      ths 0 = ⟨List.replicate 9 "key", .get⟩ ∧ ths 1 = ⟨List.replicate 10 "key", .get⟩ := by
  have hstart : ThrashRun ["key"] [] fun _ : Fin 2 => (thrashThreadFn ["key"] : ThrashThread Nat) :=
    .start
  have hread₀ := ThrashRun.getData 0 "key" .ok "0" 0 hstart rfl
  have hread₁ := ThrashRun.getData 1 "key" .ok "0" 0 hread₀ rfl
  have hset₀ := ThrashRun.setData 0 "key" (incremented "0") 0 .ok hread₁ rfl
  have hset₁ := ThrashRun.setData 1 "key" (incremented "0") 0 .dataContention hset₀ rfl
  exact ⟨_, hset₁, rfl, rfl⟩

/-- The other reads the key again, and its increment returns ERROR. -/
def contendedCalls : List (Fin 2 × StoreCall Nat) :=
  (1, .setData "key" (incremented (incremented "0")) 1 .error) ::
    (1, .getData "key" .ok (incremented "0") 1) :: overtakenCalls

theorem contendedCalls_run :
    ∃ ths, ThrashRun ["key"] contendedCalls ths ∧
      ths 0 = ⟨List.replicate 9 "key" ++ [], .get⟩ ∧
      ths 1 = ⟨List.replicate 9 "key" ++ [], .get⟩ := by
  obtain ⟨ths, hrun, hth₀, hth₁⟩ := overtakenCalls_run
  have hreq : (ths 1).request = some (.getData "key") := by
    rw [hth₁]
    rfl
  have hread := ThrashRun.getData 1 "key" .ok (incremented "0") 1 hrun hreq
  rw [hth₁] at hread
  have hfailed := ThrashRun.setData 1 "key" (incremented (incremented "0")) 1 .error hread rfl
  exact ⟨_, hfailed, hth₀, rfl⟩

theorem contendedCalls_served :
    ∃ store, Served (fun _ => freshRegister) contendedCalls store ∧
      (store "key").value = (toInt32 1).repr := by
  have hstored : freshRegister.Swap (incremented "0") 0 .stored
      ⟨incremented "0", 1, [1, 0], List.mem_cons_self⟩ := .stored rfl (by decide)
  have hstart : Served (fun _ => freshRegister) ([] : List (Fin 2 × StoreCall Nat))
      fun _ => freshRegister := .start
  have hread := (hstart.getData 0 "key").getData 1 "key"
  have hset₀ := hread.setData 0 "key" (incremented "0") 0 .ok rfl hstored
  have hset₁ := hset₀.setData 1 "key" (incremented "0") 0 .dataContention rfl
    (.refused (by decide))
  have hfailed := (hset₁.getData 1 "key").setData 1 "key" (incremented (incremented "0")) 1 .error
    rfl .failed
  refine ⟨_, hfailed, ?_⟩
  decide

/-- Two threads and one key: both finish, and of their twenty increments one has returned ERROR. -/
theorem noLostIncrement_contended :
    ∃ (h : List (Fin 2 × StoreCall Nat)) (ths : Fin 2 → ThrashThread Nat) (store : Store Nat),
      ThrashRun ["key"] h ths ∧ Served (fun _ => freshRegister) h store ∧
      (∀ t, (ths t).todo = []) ∧ setCount "key" .dataContention h = 1 ∧
      setCount "key" .error h = 1 ∧ (store "key").value = "19" := by
  obtain ⟨ths, hrun₀, hth₀, hth₁⟩ := contendedCalls_run
  obtain ⟨store₀, hserved₀, hvalue₀⟩ := contendedCalls_served
  have hget₀ : ∀ e ∈ contendedCalls, e.2.getOk := by
    unfold contendedCalls overtakenCalls
    simp only [List.forall_mem_cons]
    exact ⟨trivial, rfl, trivial, trivial, rfl, rfl, nofun⟩
  obtain ⟨h₁, store₁, hrun₁, hserved₁, hget₁, hcount₁, hvalue₁⟩ :=
    exists_passes 9 hrun₀ hserved₀ hget₀ hth₀ hvalue₀
  obtain ⟨h, store, hrun, hserved, hget, hcount, -⟩ :=
    exists_passes 9 (t := 1) hrun₁ hserved₁ hget₁ hth₁ hvalue₁
  have hdone : ∀ t, (Function.update (Function.update ths 0 ⟨[], .get⟩) 1 ⟨[], .get⟩ t).todo = [] := by
    intro t
    match t with
    | 0 | 1 => rfl
  have hinit : ∀ key ∈ ["key"], freshRegister.value = "0" := fun _ _ => rfl
  have hstatus : ∀ status, setCount "key" status h = setCount "key" status contendedCalls +
      if status = .ok then 18 else 0 := by
    intro status
    rw [hcount, hcount₁]
    split <;> rfl
  have hok : setCount "key" .ok h = 19 := hstatus .ok
  have herror : setCount "key" .error h = 1 := hstatus .error
  obtain ⟨-, hend⟩ := noLostIncrement ["key"] (fun _ => freshRegister) hinit hrun hserved hget
    "key" List.mem_cons_self
  obtain ⟨-, hvalue⟩ := hend hdone
  refine ⟨h, _, store, hrun, hserved, hdone, hstatus .dataContention, herror, ?_⟩
  rw [hvalue (by rw [hok]; decide), herror]
  decide

/-- One thread and a key that occurs in the vector 214748365 times: the 2147483648th increment
wraps round. -/
theorem noLostIncrement_overflow :
    ¬ ∀ (T : Nat) (keys : List String) (store₀ : Store Nat),
      (∀ key ∈ keys, (store₀ key).value = "0") →
      ∀ (h : List (Fin T × StoreCall Nat)) (ths : Fin T → ThrashThread Nat) (store : Store Nat),
        ThrashRun keys h ths → Served store₀ h store → (∀ e ∈ h, e.2.getOk) →
        ∀ key ∈ keys,
          (store key).value = (setCount key .ok h).repr ∧
          ((∀ t, (ths t).todo = []) →
            (store key).value =
              (T * (numIncrPerKeyPerThread * keys.count key) - setCount key .error h).repr) := by
  intro hall
  have hth : (thrashThreadFn (List.replicate 214748365 "0") : ThrashThread Nat) =
      ⟨List.replicate (2 ^ 31) "0" ++ List.replicate 2 "0", .get⟩ := by
    have htodo := todo_replicate (V := Nat) "0" 214748365
    rw [List.replicate_append_replicate]
    exact congrArg (ThrashThread.mk · .get) htodo
  have hstart : ThrashRun (List.replicate 214748365 "0") [] fun _ : Fin 1 =>
      (thrashThreadFn (List.replicate 214748365 "0") : ThrashThread Nat) := .start
  have hserved₀ : Served (fun _ => freshRegister) ([] : List (Fin 1 × StoreCall Nat))
      fun _ => freshRegister := .start
  obtain ⟨h, store, hrun, hserved, hget, hcount, hvalue⟩ :=
    exists_passes (2 ^ 31) (t := 0) (v := 0) hstart hserved₀ (fun e he => absurd he List.not_mem_nil)
      hth (by decide)
  have hinit : ∀ key ∈ List.replicate 214748365 "0", freshRegister.value = "0" := fun _ _ => rfl
  have hmem : "0" ∈ List.replicate 214748365 "0" :=
    List.mem_replicate.mpr ⟨by decide, rfl⟩
  obtain ⟨hclaimed, -⟩ := hall 1 _ _ hinit h _ store hrun hserved hget "0" hmem
  rw [hvalue, hcount] at hclaimed
  have hwrapped : toInt32 ((2 ^ 31 : Nat) : Int) = ((2 ^ 31 : Nat) : Int) :=
    int_repr_injective hclaimed
  exact absurd hwrapped (by decide)

end ClearwaterFv
