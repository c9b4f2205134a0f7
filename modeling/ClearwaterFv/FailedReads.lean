import ClearwaterFv.Counter

/-!
# FailedReads — what a failed `get_data` does to a counter

After a `get_data` that fails, a thread goes on with empty data and with whatever `cas` held.  If
that happens to be the current version, the thread writes "1" over the counter.
-/

open Reasoning Reasoning.Decimal

namespace ClearwaterFv

variable {V : Type} {T : Nat}

/-! ## Histories -/

/-- What a key holds after the calls, the newest first. -/
def valueAfter (store₀ : Store V) (key : String) : List (Fin T × StoreCall V) → String
  | [] => (store₀ key).value
  | (_, .getData ..) :: h => valueAfter store₀ key h
  | (_, .setData k data _ rc) :: h =>
    if k = key ∧ rc = .ok then data else valueAfter store₀ key h

/-- Whether the last `get_data` of the thread has failed. -/
def readFailed (t : Fin T) : List (Fin T × StoreCall V) → Bool
  | [] => false
  | (u, .getData _ rc _ _) :: h => if u = t then decide (rc ≠ .ok) else readFailed t h
  | (_, .setData ..) :: h => readFailed t h

/-- `P` holds of every `set_data` that has returned OK, and of the calls before it. -/
def OnStored (P : Fin T → String → String → List (Fin T × StoreCall V) → Prop)
    (h : List (Fin T × StoreCall V)) : Prop :=
  ∀ t key data cas earlier, (t, .setData key data cas .ok) :: earlier <:+ h → P t key data earlier

/-- The write replaces the value `v` of its key by `v + 1`. -/
def Increments (store₀ : Store V) (_ : Fin T) (key data : String)
    (earlier : List (Fin T × StoreCall V)) : Prop :=
  ∃ v : Int, valueAfter store₀ key earlier = v.repr ∧ data = (v + 1).repr

/-- The value of the key can be increased in an `int`, and is 0 if the thread has failed to read
it. -/
def ReadOrZero (store₀ : Store V) (t : Fin T) (key _ : String)
    (earlier : List (Fin T × StoreCall V)) : Prop :=
  ∀ v : Int, valueAfter store₀ key earlier = v.repr →
    v + 1 < 2 ^ 31 ∧ (readFailed t earlier = true → v = 0)

variable {keys : List String} {store₀ store : Store V} {h h' : List (Fin T × StoreCall V)}
  {ths : Fin T → ThrashThread V} {key : String}

theorem Served.value_eq (hserved : Served store₀ h store) (key : String) :
    (store key).value = valueAfter store₀ key h := by
  induction hserved with
  | start => rfl
  | getData t k _ ih => exact ih
  | getFailed t k rc cas hrc _ ih => exact ih
  | @setData h store t k data cas rc answer r _ hanswer hswap ih =>
    change _ = if k = key ∧ rc = .ok then data else valueAfter store₀ key h
    by_cases hk : k = key
    · subst hk
      rw [Function.update_self]
      by_cases hok : rc = .ok
      · subst hok
        cases hanswer
        rw [if_pos ⟨rfl, rfl⟩]
        cases hswap with
        | stored => rfl
      · rw [if_neg fun hboth => hok hboth.2,
          hswap.eq_of_not_stored (Status.ne_stored hanswer hok)]
        exact ih
    · rw [if_neg fun hboth => hk hboth.1, Function.update_of_ne (Ne.symm hk)]
      exact ih

theorem ThrashRun.of_suffix (hrun : ThrashRun keys h ths) (hsuffix : h' <:+ h) :
    ∃ ths', ThrashRun keys h' ths' := by
  induction hrun with
  | start =>
    rw [List.suffix_nil.mp hsuffix]
    exact ⟨_, .start⟩
  | getData t k rc data cas hrun hreq ih =>
    rcases List.suffix_cons_iff.mp hsuffix with rfl | hsuffix
    · exact ⟨_, .getData t k rc data cas hrun hreq⟩
    · exact ih hsuffix
  | setData t k data cas rc hrun hreq ih =>
    rcases List.suffix_cons_iff.mp hsuffix with rfl | hsuffix
    · exact ⟨_, .setData t k data cas rc hrun hreq⟩
    · exact ih hsuffix

theorem Served.of_suffix (hserved : Served store₀ h store) (hsuffix : h' <:+ h) :
    ∃ store', Served store₀ h' store' := by
  induction hserved with
  | start =>
    rw [List.suffix_nil.mp hsuffix]
    exact ⟨_, .start⟩
  | getData t k hserved ih =>
    rcases List.suffix_cons_iff.mp hsuffix with rfl | hsuffix
    · exact ⟨_, .getData t k hserved⟩
    · exact ih hsuffix
  | getFailed t k rc cas hrc hserved ih =>
    rcases List.suffix_cons_iff.mp hsuffix with rfl | hsuffix
    · exact ⟨_, .getFailed t k rc cas hrc hserved⟩
    · exact ih hsuffix
  | setData t k data cas rc hserved hanswer hswap ih =>
    rcases List.suffix_cons_iff.mp hsuffix with rfl | hsuffix
    · exact ⟨_, .setData t k data cas rc hserved hanswer hswap⟩
    · exact ih hsuffix

/-! ## What the threads hold -/

-- A thread only ever works on keys of the vector.
theorem ThrashRun.key_mem (hrun : ThrashRun keys h ths) {t : Fin T} {rest : List String}
    {phase : Phase V} (hth : ths t = ⟨key :: rest, phase⟩) : key ∈ keys := by
  have hprogress := hrun.finished_add_todo fun k => decide (k ∉ keys)
  have hnone : keys.countP (fun k => decide (k ∉ keys)) = 0 := by
    refine List.countP_eq_zero.mpr fun k hk => ?_
    rw [decide_eq_true_eq]
    exact not_not_intro hk
  rw [hnone, Nat.mul_zero, Nat.mul_zero] at hprogress
  have hsum : ∑ u, (ths u).todo.countP (fun k => decide (k ∉ keys)) = 0 := by omega
  have hzero := Finset.sum_eq_zero_iff.mp hsum t (Finset.mem_univ t)
  rw [hth] at hzero
  have hkey := List.countP_eq_zero.mp hzero key List.mem_cons_self
  rw [decide_eq_true_eq] at hkey
  exact not_not.mp hkey

-- A thread about to write has read its key, or holds nothing because its read has failed.
theorem Served.held (hserved : Served store₀ h store) (hrun : ThrashRun keys h ths) {t : Fin T}
    {rest : List String} {data : String} {cas : V} (hth : ths t = ⟨key :: rest, .set data cas⟩) :
    if readFailed t h then data = "" else (store key).Read data cas := by
  induction hrun generalizing store with
  | start => exact absurd hth thrashThreadFn_ne_set
  | @getData h ths u k rc d c hrun hreq ih =>
    change if (if u = t then decide (rc ≠ .ok) else readFailed t h) = true then _ else _
    by_cases hut : u = t
    · obtain ⟨rest', hth'⟩ := ThrashThread.eq_of_request_getData hreq
      rw [hut, Function.update_self, ← hut, hth'] at hth
      cases hth
      rw [if_pos hut]
      cases hserved with
      | getData _ _ _ => exact Register.read_current _
      | getFailed _ _ _ _ hrc _ =>
        rw [if_pos (decide_eq_true hrc)]
    · rw [if_neg hut]
      rw [Function.update_of_ne (Ne.symm hut)] at hth
      cases hserved with
      | getData _ _ hserved => exact ih hserved hth
      | getFailed _ _ _ _ _ hserved => exact ih hserved hth
  | @setData h ths u k d c rc hrun hreq ih =>
    change if readFailed t h = true then _ else _
    cases hserved with
    | setData _ _ _ _ _ hserved hanswer hswap =>
      obtain ⟨-, hth⟩ := held_of_afterSetData hth
      have hheld := ih hserved hth
      by_cases hfailed : readFailed t h = true
      · rw [if_pos hfailed] at hheld ⊢
        exact hheld
      · rw [if_neg hfailed] at hheld ⊢
        exact read_update hheld hswap

/-- The decimal text of an `int`. -/
def IsInt (s : String) : Prop := ∃ v : Int, -2 ^ 31 ≤ v ∧ v < 2 ^ 31 ∧ s = v.repr

theorem isInt_incremented (data : String) : IsInt (incremented data) :=
  ⟨_, (toInt32_bounds _).1, (toInt32_bounds _).2, rfl⟩

-- A key holds the text of an `int` at all times.
theorem ThrashRun.isInt_value (hrun : ThrashRun keys h ths) (hinit : IsInt (store₀ key).value) :
    IsInt (valueAfter store₀ key h) := by
  induction hrun with
  | start => exact hinit
  | getData t k rc data cas hrun hreq ih => exact ih
  | @setData h ths t k data cas rc hrun hreq ih =>
    obtain ⟨rest, read, -, rfl⟩ := ThrashThread.eq_of_request_setData hreq
    change IsInt (if k = key ∧ rc = .ok then incremented read else valueAfter store₀ key h)
    by_cases hboth : k = key ∧ rc = .ok
    · rw [if_pos hboth]
      exact isInt_incremented read
    · rw [if_neg hboth]
      exact ih

/-! ## What is written -/

theorem incremented_empty : incremented "" = (1 : Int).repr := by decide

-- A write that is stored increases the value if and only if the thread has read it, or it is 0.
theorem increments_iff {t : Fin T} {data : String} {cas : V} {earlier : List (Fin T × StoreCall V)}
    (hrun : ThrashRun keys ((t, .setData key data cas .ok) :: earlier) ths)
    (hserved : Served store₀ ((t, .setData key data cas .ok) :: earlier) store)
    (hinit : ∀ key ∈ keys, IsInt (store₀ key).value) :
    Increments store₀ t key data earlier ↔ ReadOrZero store₀ t key data earlier := by
  cases hrun with
  | setData _ _ _ _ _ hrun hreq =>
    cases hserved with
    | setData _ _ _ _ _ hserved hanswer hswap =>
      cases hanswer
      obtain ⟨rest, read, hth, rfl⟩ := ThrashThread.eq_of_request_setData hreq
      obtain ⟨v, hlo, hhi, hv⟩ := hrun.isInt_value (hinit key (hrun.key_mem hth))
      have hheld := hserved.held hrun hth
      have hunique : ∀ w : Int, valueAfter store₀ key earlier = w.repr → w = v := by
        intro w hw
        rw [hv] at hw
        exact (int_repr_injective hw).symm
      by_cases hfailed : readFailed t earlier = true
      · rw [if_pos hfailed] at hheld
        rw [hheld, Increments, incremented_empty]
        constructor
        · rintro ⟨w, hw, hone⟩ w' hw'
          have hone := int_repr_injective hone
          have hwv := hunique w hw
          have hwv' := hunique w' hw'
          exact ⟨by omega, fun _ => by omega⟩
        · intro hzero
          obtain ⟨-, hv0⟩ := hzero v hv
          have hv0 := hv0 hfailed
          subst hv0
          exact ⟨0, hv, rfl⟩
      · rw [if_neg hfailed] at hheld
        obtain ⟨hold, -⟩ := hswap.value_of_stored hheld
        have hread : read = v.repr := by rw [← hold, hserved.value_eq, hv]
        have hdata : incremented read = (toInt32 (v + 1)).repr := by
          rw [hread, incremented, atoi_repr v hlo hhi]
        rw [hdata]
        constructor
        · rintro ⟨w, hw, hnext⟩ w' hw'
          have hnext := int_repr_injective hnext
          have hwv := hunique w hw
          have hwv' := hunique w' hw'
          have hbound := (toInt32_bounds (v + 1)).2
          exact ⟨by omega, fun h => absurd h hfailed⟩
        · intro hbound
          obtain ⟨hlt, -⟩ := hbound v hv
          rw [toInt32_eq_self (by omega) hlt]
          exact ⟨v, hv, rfl⟩

-- While every write increases its key, the value counts the writes.
theorem valueAfter_append {later earlier : List (Fin T × StoreCall V)} {v : Int}
    (hall : OnStored (Increments store₀) (later ++ earlier))
    (hv : valueAfter store₀ key earlier = v.repr) :
    valueAfter store₀ key (later ++ earlier) = (v + setCount key .ok later).repr := by
  induction later with
  | nil =>
    rw [List.nil_append, hv]
    change v.repr = (v + 0).repr
    rw [Int.add_zero]
  | cons e later ih =>
    have htail : OnStored (Increments store₀) (later ++ earlier) :=
      fun t k data cas earlier' hsuffix =>
        hall t k data cas earlier' (hsuffix.trans (List.suffix_cons e _))
    have hbefore := ih htail
    obtain ⟨t, call⟩ := e
    rw [setCount_cons]
    cases call with
    | getData k rc data cas => exact hbefore
    | setData k data cas rc =>
      change (if k = key ∧ rc = .ok then data else valueAfter store₀ key (later ++ earlier)) = _
      by_cases hboth : k = key ∧ rc = .ok
      · obtain ⟨rfl, rfl⟩ := hboth
        obtain ⟨w, hw, hdata⟩ := hall t k data cas (later ++ earlier) (List.suffix_refl _)
        rw [hbefore] at hw
        have hnext : StoreCall.setReturns k .ok (.setData k data cas .ok) = true := by
          simp only [StoreCall.setReturns, decide_true, Bool.and_true]
        rw [if_pos ⟨rfl, rfl⟩, if_pos hnext, hdata, ← int_repr_injective hw]
        apply congrArg
        omega
      · have hsame : ¬ StoreCall.setReturns key .ok (.setData k data cas rc) = true := by
          simp only [StoreCall.setReturns, Bool.and_eq_true, decide_eq_true_eq]
          exact hboth
        rw [if_neg hboth, if_neg hsame]
        exact hbefore

/-- In every run, each write that is stored increases the value of its key by one, and so the value
never decreases or comes back, if and only if no thread stores a value that it has failed to read
over a number other than 0, and no value leaves the range of an `int`. -/
theorem failedReads_iff (keys : List String) (store₀ : Store V)
    (hinit : ∀ key ∈ keys, IsInt (store₀ key).value) {h : List (Fin T × StoreCall V)}
    {ths : Fin T → ThrashThread V} {store : Store V} (hrun : ThrashRun keys h ths)
    (hserved : Served store₀ h store) :
    (OnStored (Increments store₀) h ∧ ∀ key ∈ keys, ∀ later earlier, h = later ++ earlier →
      ∃ v : Int, valueAfter store₀ key earlier = v.repr ∧
        valueAfter store₀ key h = (v + setCount key .ok later).repr) ↔
    OnStored (ReadOrZero store₀) h := by
  have hstep : ∀ t key data cas earlier, (t, .setData key data cas .ok) :: earlier <:+ h →
      (Increments store₀ t key data earlier ↔ ReadOrZero store₀ t key data earlier) := by
    intro t key data cas earlier hsuffix
    obtain ⟨ths', hrun'⟩ := hrun.of_suffix hsuffix
    obtain ⟨store', hserved'⟩ := hserved.of_suffix hsuffix
    exact increments_iff hrun' hserved' hinit
  constructor
  · rintro ⟨hall, -⟩ t key data cas earlier hsuffix
    exact (hstep t key data cas earlier hsuffix).mp (hall t key data cas earlier hsuffix)
  · intro hsafe
    have hall : OnStored (Increments store₀) h := fun t key data cas earlier hsuffix =>
      (hstep t key data cas earlier hsuffix).mpr (hsafe t key data cas earlier hsuffix)
    refine ⟨hall, fun key hkey later earlier heq => ?_⟩
    subst heq
    obtain ⟨ths', hrun'⟩ := hrun.of_suffix (List.suffix_append later earlier)
    obtain ⟨v, -, -, hv⟩ := hrun'.isInt_value (hinit key hkey)
    exact ⟨v, hv, valueAfter_append hall hv⟩

/-! ## A read that fails -/

/-- A counter is increased once, and the next read fails with the given `cas`. -/
def unreadCalls (cas : Nat) (rc : Status) : List (Fin 1 × StoreCall Nat) :=
  [(0, .setData "key" (incremented "") cas rc),
    (0, .getData "key" .error "" cas),
    (0, .setData "key" (incremented "0") 0 .ok),
    (0, .getData "key" .ok "0" 0)]

theorem thrashRun_unreadCalls (cas : Nat) (rc : Status) :
    ∃ ths, ThrashRun ["key"] (unreadCalls cas rc) ths := by
  have hstart : ThrashRun ["key"] [] fun _ : Fin 1 => (thrashThreadFn ["key"] : ThrashThread Nat) :=
    .start
  have hread := ThrashRun.getData 0 "key" .ok "0" 0 hstart rfl
  have hset := ThrashRun.setData 0 "key" (incremented "0") 0 .ok hread rfl
  have hfailed := ThrashRun.getData 0 "key" .error "" cas hset rfl
  exact ⟨_, ThrashRun.setData 0 "key" (incremented "") cas rc hfailed rfl⟩

/-- The register of the counter after its first increment. -/
def onceIncremented : Register String Nat := ⟨incremented "0", 1, [1, 0], List.mem_cons_self⟩

theorem served_unreadCalls (cas : Nat) (rc : Status) {answer : Register.Answer}
    {r : Register String Nat} (hanswer : rc.answer? = some answer)
    (hswap : onceIncremented.Swap (incremented "") cas answer r) :
    ∃ store, Served (fun _ => freshRegister) (unreadCalls cas rc) store := by
  have hread : Served (fun _ => freshRegister) [((0 : Fin 1), .getData "key" .ok "0" 0)]
      (fun _ => freshRegister) := .getData 0 "key" .start
  have hset := Served.setData 0 "key" (incremented "0") 0 .ok hread rfl
    (r := onceIncremented) (.stored rfl (by decide))
  have hfailed := Served.getFailed 0 "key" .error cas (by decide) hset
  have hcurrent : Function.update (fun _ => freshRegister) "key" onceIncremented "key" =
      onceIncremented := Function.update_self ..
  rw [← hcurrent] at hswap
  exact ⟨_, Served.setData 0 "key" (incremented "") cas rc hfailed hanswer hswap⟩

theorem isInt_freshRegister : IsInt freshRegister.value := ⟨0, by decide, by decide, by decide⟩

/-- What is left in `cas` is no current version: the write is refused, and the counter stays 1. -/
theorem failedReads_iff_refused :
    ∃ v : Int, valueAfter (fun _ => freshRegister) "key"
        ((unreadCalls 0 .dataContention).drop 2) = v.repr ∧
      valueAfter (fun _ => freshRegister) "key" (unreadCalls 0 .dataContention) =
        (v + setCount "key" .ok ((unreadCalls 0 .dataContention).take 2)).repr := by
  obtain ⟨ths, hrun⟩ := thrashRun_unreadCalls 0 .dataContention
  obtain ⟨store, hserved⟩ := served_unreadCalls 0 .dataContention rfl (.refused (by decide))
  have hsafe : OnStored (ReadOrZero fun _ => freshRegister) (unreadCalls 0 .dataContention) := by
    intro t key data cas earlier hsuffix v hv
    simp only [unreadCalls, List.suffix_cons_iff, List.suffix_nil, List.cons.injEq, Prod.mk.injEq,
      StoreCall.setData.injEq, reduceCtorEq, false_and, and_false, or_false, false_or]
      at hsuffix
    obtain ⟨⟨rfl, rfl, -⟩, rfl⟩ := hsuffix
    have hzero : v = 0 := int_repr_injective (v := v) (w := 0) hv.symm
    exact ⟨by omega, fun _ => hzero⟩
  have hinit : ∀ key ∈ ["key"], IsInt freshRegister.value := fun _ _ => isInt_freshRegister
  obtain ⟨-, hcounts⟩ := (failedReads_iff ["key"] _ hinit hrun hserved).mpr hsafe
  exact hcounts "key" List.mem_cons_self _ _ (List.take_append_drop 2 _).symm

/-- What is left in `cas` is the current version: "1" is written over "1". -/
theorem failedReads_iff_written :
    ¬ ∀ (T : Nat) (keys : List String) (store₀ : Store Nat),
      (∀ key ∈ keys, IsInt (store₀ key).value) →
      ∀ (h : List (Fin T × StoreCall Nat)) (ths : Fin T → ThrashThread Nat) (store : Store Nat),
        ThrashRun keys h ths → Served store₀ h store → OnStored (Increments store₀) h := by
  intro hall
  obtain ⟨ths, hrun⟩ := thrashRun_unreadCalls 1 .ok
  have hfresh : 2 ∉ onceIncremented.used := by decide
  obtain ⟨store, hserved⟩ := served_unreadCalls 1 .ok rfl (.stored rfl hfresh)
  have hinit : ∀ key ∈ ["key"], IsInt freshRegister.value := fun _ _ => isInt_freshRegister
  obtain ⟨v, hv, hdata⟩ := hall 1 ["key"] _ hinit _ _ _ hrun hserved 0 "key" _ 1 _
    (List.suffix_refl _)
  have hone : (1 : Int) = v := int_repr_injective hv
  have htwo : (1 : Int) = v + 1 := int_repr_injective hdata
  omega

end ClearwaterFv
