import ClearwaterFv.ClusterFiles
import ClearwaterFv.Reasoning.Weakest
import ClearwaterFv.Seed
import ClearwaterFv.StoreContract

/-!
# Expectations — no memcached test fails on a store that does what it should

A test is followed call by call.  What is known of the databases on the way is the cell of the
test's key, and bounds on the time.
-/

open Reasoning Reasoning.Prog

namespace ClearwaterFv

/-- A call that a test may make while it has drawn the keys: what is expected holds, and the store
is asked for no other key. -/
def TestOp.Expected (keys : List String) : TestOp → Prop
  | expect b => b = true
  | setData key .. | getData key .. | deleteData key => key ∈ keys
  | drawKey => False
  | _ => True

section

variable {B : Backend} {rogersIps : List String} {L : Limits} (C : Contract B rogersIps L)

/-- The part of a test from a state on: every call is as expected, and it ends as `Q` says. -/
abbrev Meets {α : Type} (keys : List String) (p : StoreTest α) (Q : α → Client B → Prop)
    (s : Client B) : Prop :=
  Wp Client.step (fun _ op => op.Expected keys) p Q s

/-- The store of the fixture is for a domain under which a Rogers is found. -/
structure Online (rogersIps : List String) (s : Client B) : Prop where
  ips : s.rogersIps = rogersIps
  reaches : Reaches rogersIps s.targetDomain

def Contract.at (s : Client B) : Nat := C.now s.databases

def Contract.cellAt (s : Client B) (key : String) : Cell := C.cell s.databases key

/-- The store is online, the key has the cell, and the time is in the bounds. -/
structure Known (key : String) (c : Cell) (lo hi : Nat) (s : Client B) : Prop where
  online : Online rogersIps s
  cell : C.cellAt s key = c
  lo_le : lo ≤ C.at s
  le_hi : C.at s ≤ hi

variable {C} {keys : List String} {s : Client B} {key data dataOut : String} {c : Cell}
  {lo hi cas version expires : Nat} {expiry : Int}

/-! ## Single calls -/

theorem meets_expect {p : Prop} [Decidable p] {Q : Unit → Client B → Prop} (hp : p)
    (h : Q () s) : Meets keys (expect p) Q s :=
  Wp.perform (decide_eq_true hp) h

/-- What a `set_data` that is stored leaves. -/
structure Stored (C : Contract B rogersIps L) (key data : String) (expiry : Int) (c : Cell)
    (lo hi expires version : Nat) (s s' : Client B) : Prop where
  known : Known C key ⟨some (data, expires), version⟩ lo (hi + L.latency) s'
  nonzero : version ≠ 0
  fresh : version ≠ c.version
  least : lo + micros expiry ≤ expires + L.slack
  most : expires ≤ C.at s' + max (micros expiry) L.settling
  others : ∀ k, k ≠ key → C.cellAt s' k = C.cellAt s k

theorem meets_setData {Q : Status → Client B → Prop} (hkey : key ∈ keys)
    (hs : Known C key c lo hi s)
    (hstored : ∀ t s' expires version, lo ≤ t → t ≤ hi + L.latency → c.Accepts t cas →
      Stored C key data expiry c lo hi expires version s s' → Q .ok s')
    (hrefused : ∀ t s', lo ≤ t → t ≤ hi + L.latency → ¬ c.Accepts t cas →
      Known C key c lo (hi + L.latency) s' → Q .dataContention s') :
    Meets keys (call (.setData key data cas expiry)) Q s := by
  refine Wp.perform hkey ?_
  obtain ⟨hafter, hwithin⟩ := C.set_time s.databases s.targetDomain key data cas expiry
  obtain ⟨t, hfrom, hto, h⟩ :=
    C.set_reached s.databases s.targetDomain key data cas expiry hs.online.reaches
  let s' := (s.step (.setData key data cas expiry)).2
  have hon : Online rogersIps s' := ⟨hs.online.ips, hs.online.reaches⟩
  have hlo : lo ≤ C.at s' := Nat.le_trans hs.lo_le hafter
  have hhi : C.at s' ≤ hi + L.latency := Nat.le_trans hwithin (Nat.add_le_add_right hs.le_hi _)
  have htlo : lo ≤ t := Nat.le_trans hs.lo_le hfrom
  have hthi : t ≤ hi + L.latency := Nat.le_trans hto hhi
  have hc : C.cell s.databases key = c := hs.cell
  rw [hc] at h
  rcases h with ⟨haccepts, hrc, expires, version, hcell, hzero, hnew, hleast, hmost⟩ |
    ⟨haccepts, hrc, hcell⟩
  · have hstored' : Stored C key data expiry c lo hi expires version s s' := {
      known := ⟨hon, (congrFun hcell key).trans (Function.update_self ..), hlo, hhi⟩
      nonzero := hzero
      fresh := hnew
      least := by omega
      most := Nat.le_trans hmost (Nat.add_le_add_right hto _)
      others := fun k hk => (congrFun hcell k).trans (Function.update_of_ne hk ..) }
    have hQ : Q .ok s' := hstored t s' expires version htlo hthi haccepts hstored'
    rw [← hrc] at hQ
    exact hQ
  · have hQ : Q .dataContention s' := hrefused t s' htlo hthi haccepts
      ⟨hon, (congrFun hcell key).trans hc, hlo, hhi⟩
    rw [← hrc] at hQ
    exact hQ

-- A call that leaves the store as it is, and the cell.
theorem Known.later {s' : Client B} {lo' hi' : Nat} (hs : Known C key c lo hi s)
    (hon : Online rogersIps s') (hcell : C.cellAt s' key = C.cellAt s key)
    (hlo : lo' ≤ C.at s') (hhi : C.at s' ≤ hi') : Known C key c lo' hi' s' :=
  ⟨hon, hcell.trans hs.cell, hlo, hhi⟩

theorem meets_getData {Q : Status × String × Nat → Client B → Prop} (hkey : key ∈ keys)
    (hs : Known C key c lo hi s)
    (h : ∀ t s', lo ≤ t → t ≤ hi + L.latency → Known C key c lo (hi + L.latency) s' →
      C.cellAt s' = C.cellAt s → Q (c.found t data) s') :
    Meets keys (call (.getData key data cas)) Q s := by
  refine Wp.perform hkey ?_
  obtain ⟨hafter, hwithin⟩ := C.get_time s.databases s.targetDomain key data cas
  have hcell := C.get_cell s.databases s.targetDomain key data cas
  obtain ⟨t, hfrom, hto, hfound⟩ :=
    C.get_reached s.databases s.targetDomain key data cas hs.online.reaches
  have hlo := hs.lo_le
  have hhi := hs.le_hi
  have hc : C.cell s.databases key = c := hs.cell
  rw [hc] at hfound
  have hQ := h t (s.step (.getData key data cas)).2 (by unfold Contract.at at hlo; omega)
    (by unfold Contract.at at hhi; omega)
    (hs.later ⟨hs.online.ips, hs.online.reaches⟩ (congrFun hcell key)
      (Nat.le_trans hlo hafter) (Nat.le_trans hwithin (Nat.add_le_add_right hhi _))) hcell
  rw [← hfound] at hQ
  exact hQ

theorem meets_deleteData {Q : Status → Client B → Prop} (hkey : key ∈ keys)
    (hs : Known C key c lo hi s)
    (h : ∀ s' version, Known C key ⟨none, version⟩ lo (hi + L.latency) s' →
      (c.value ≠ none → version ≠ c.version) → Q .ok s') :
    Meets keys (call (.deleteData key)) Q s := by
  refine Wp.perform hkey ?_
  obtain ⟨hafter, hwithin⟩ := C.delete_time s.databases s.targetDomain key
  obtain ⟨hrc, version, hcell, hnew⟩ :=
    C.delete_reached s.databases s.targetDomain key hs.online.reaches
  have hc : C.cell s.databases key = c := hs.cell
  rw [hc] at hnew
  have hQ := h (s.step (.deleteData key)).2 version
    ⟨⟨hs.online.ips, hs.online.reaches⟩, (congrFun hcell key).trans (Function.update_self ..),
      Nat.le_trans hs.lo_le hafter, Nat.le_trans hwithin (Nat.add_le_add_right hs.le_hi _)⟩ hnew
  rw [← hrc] at hQ
  exact hQ

theorem meets_triggerFailure {Q : Unit → Client B → Prop} (hs : Known C key c lo hi s)
    (h : ∀ s' version, Known C key ⟨c.value, version⟩ lo (hi + L.outage) s' →
      (c.version ≠ 0 → version ≠ 0) → Q () s') : Meets keys (call .triggerFailure) Q s := by
  refine Wp.perform trivial ?_
  obtain ⟨hafter, hwithin⟩ := C.outage_time s.databases
  obtain ⟨hvalue, hversion⟩ := C.outage_cell s.databases key
  have hc : C.cell s.databases key = c := hs.cell
  rw [hc] at hvalue hversion
  refine h _ (C.cell (B.triggerFailure s.databases) key).version
    ⟨⟨hs.online.ips, hs.online.reaches⟩, ?_, Nat.le_trans hs.lo_le hafter,
      Nat.le_trans hwithin (Nat.add_le_add_right hs.le_hi _)⟩ hversion
  rw [← hvalue]
  rfl

theorem meets_fixFailure {Q : Unit → Client B → Prop} (hon : Online rogersIps s)
    (h : ∀ s', Online rogersIps s' → Q () s') : Meets keys (call .fixFailure) Q s :=
  Wp.perform trivial (h _ ⟨hon.ips, hon.reaches⟩)

theorem meets_usleep {Q : Unit → Client B → Prop} {micros : Nat} (hs : Known C key c lo hi s)
    (h : ∀ s' hi', Known C key c (lo + micros) hi' s' → Q () s') :
    Meets keys (call (.usleep micros)) Q s := by
  refine Wp.perform trivial (h _ _ (hs.later ⟨hs.online.ips, hs.online.reaches⟩
    (congrFun (C.usleep_cell s.databases micros) key) ?_ (Nat.le_refl _)))
  exact Nat.le_trans (Nat.add_le_add_right hs.lo_le _) (C.usleep_time s.databases micros)

-- The time is what it is.
theorem Known.now (hs : Known C key c lo hi s) : Known C key c (C.at s) (C.at s) s :=
  ⟨hs.online, hs.cell, Nat.le_refl _, Nat.le_refl _⟩

-- What is known of the databases does not depend on the store object.
theorem Known.through {s' : Client B} (hs : Known C key c lo hi s) (hon : Online rogersIps s')
    (hsame : s'.databases = s.databases) : Known C key c lo hi s' := by
  obtain ⟨-, hcell, hlo, hhi⟩ := hs
  unfold Contract.cellAt at hcell
  unfold Contract.at at hlo hhi
  rw [← hsame] at hcell hlo hhi
  exact ⟨hon, hcell, hlo, hhi⟩

theorem targetDomain_newStore (s : Client B) (targetDomain : String) :
    (s.step (.newStore targetDomain)).2.targetDomain = targetDomain := by
  unfold Client.targetDomain Client.step Heap.at?
  simp only [Option.bind_some, Heap.live_new, List.find?_cons, decide_true, Option.map_some,
    ClientObject.targetDomain?, Option.getD_some]

theorem meets_newStore {Q : Unit → Client B → Prop} {targetDomain : String}
    (hips : s.rogersIps = rogersIps) (hreaches : Reaches rogersIps targetDomain)
    (h : ∀ s', Online rogersIps s' → s'.databases = s.databases → Q () s') :
    Meets keys (call (.newStore targetDomain)) Q s := by
  refine Wp.perform trivial (h _ ⟨hips, ?_⟩ rfl)
  rw [targetDomain_newStore]
  exact hreaches

theorem meets_renewStore {Q : Unit → Client B → Prop} {targetDomain : String}
    (hips : s.rogersIps = rogersIps) (hreaches : Reaches rogersIps targetDomain)
    (h : ∀ s', Online rogersIps s' → s'.databases = s.databases → Q () s') :
    Meets keys (renewStore targetDomain) Q s :=
  Wp.bind (Wp.perform trivial (meets_newStore hips hreaches h))

/-- No Rogers is found for the domain of the store. -/
def Offline (rogersIps : List String) (s : Client B) : Prop := ¬ Reaches rogersIps s.targetDomain

theorem meets_setError {Q : Unit → Client B → Prop} (C : Contract B rogersIps L)
    (hkey : key ∈ keys) (hs : Offline rogersIps s)
    (h : ∀ s', Offline rogersIps s' → Q () s') :
    Meets keys (setExpecting .error key data cas expiry) Q s := by
  have hrc : (s.step (.setData key data cas expiry)).1 = Status.error :=
    ((C.unreached s.databases s.targetDomain hs key).1 data cas expiry).1
  refine Wp.bind (Wp.perform hkey ?_)
  rw [hrc]
  exact meets_expect rfl (h _ hs)

theorem meets_getError {Q : String × Nat → Client B → Prop} (C : Contract B rogersIps L)
    (hkey : key ∈ keys) (hs : Offline rogersIps s)
    (h : ∀ s', Offline rogersIps s' → Q (dataOut, cas) s') :
    Meets keys (getExpecting .error key dataOut cas) Q s := by
  have hfound := (C.unreached s.databases s.targetDomain hs key).2.1 dataOut cas
  refine Wp.bind (Wp.perform hkey ?_)
  have hanswer : (s.step (.getData key dataOut cas)).1 = (.error, dataOut, cas) := hfound
  rw [hanswer]
  exact Wp.bind (meets_expect rfl (Wp.ret (h _ hs)))

theorem meets_deleteError {Q : Unit → Client B → Prop} (C : Contract B rogersIps L)
    (hkey : key ∈ keys) (hs : Offline rogersIps s)
    (h : ∀ s', Offline rogersIps s' → Q () s') :
    Meets keys (deleteExpecting .error key) Q s := by
  have hrc : (s.step (.deleteData key)).1 = Status.error :=
    (C.unreached s.databases s.targetDomain hs key).2.2.1
  refine Wp.bind (Wp.perform hkey ?_)
  rw [hrc]
  exact meets_expect rfl (h _ hs)

/-! ## Pieces of the tests -/

theorem meets_setOk {Q : Unit → Client B → Prop} (hkey : key ∈ keys) (hs : Known C key c lo hi s)
    (haccepts : ∀ t, lo ≤ t → t ≤ hi + L.latency → c.Accepts t cas)
    (h : ∀ s' expires version, Stored C key data expiry c lo hi expires version s s' → Q () s') :
    Meets keys (setExpecting .ok key data cas expiry) Q s := by
  refine Wp.bind (meets_setData hkey hs ?_ ?_)
  · intro t s' expires version _ _ _ hstored
    exact meets_expect rfl (h s' expires version hstored)
  · intro t s' hlo hhi hno
    exact absurd (haccepts t hlo hhi) hno

theorem meets_setContention {Q : Unit → Client B → Prop} (hkey : key ∈ keys)
    (hs : Known C key c lo hi s)
    (haccepts : ∀ t, lo ≤ t → t ≤ hi + L.latency → ¬ c.Accepts t cas)
    (h : ∀ s', Known C key c lo (hi + L.latency) s' → Q () s') :
    Meets keys (setExpecting .dataContention key data cas expiry) Q s := by
  refine Wp.bind (meets_setData hkey hs ?_ ?_)
  · intro t s' expires version hlo hhi hyes
    exact absurd hyes (haccepts t hlo hhi)
  · intro t s' _ _ _ hs'
    exact meets_expect rfl (h s' hs')

-- A value that is there is replaced under its version, and under no other.
theorem meets_update {Q : Unit → Client B → Prop} {old : String} (hkey : key ∈ keys)
    (hs : Known C key ⟨some (old, expires), version⟩ lo hi s) (hlive : hi + L.latency < expires)
    (h : ∀ s' expires' version',
      Stored C key data expiry ⟨some (old, expires), version⟩ lo hi expires' version' s s' →
      Q () s') :
    Meets keys (setExpecting .ok key data version expiry) Q s :=
  meets_setOk hkey hs (fun _ _ ht => (Cell.accepts_live (by omega)).mpr rfl) h

theorem meets_updateStale {Q : Unit → Client B → Prop} {old : String} (hkey : key ∈ keys)
    (hs : Known C key ⟨some (old, expires), version⟩ lo hi s) (hlive : hi + L.latency < expires)
    (hcas : cas ≠ version)
    (h : ∀ s', Known C key ⟨some (old, expires), version⟩ lo (hi + L.latency) s' → Q () s') :
    Meets keys (setExpecting .dataContention key data cas expiry) Q s :=
  meets_setContention hkey hs
    (fun _ _ ht hyes => hcas ((Cell.accepts_live (by omega)).mp hyes)) h

theorem meets_add {Q : Unit → Client B → Prop} (hkey : key ∈ keys)
    (hs : Known C key ⟨none, version⟩ lo hi s)
    (h : ∀ s' expires version',
      Stored C key data expiry ⟨none, version⟩ lo hi expires version' s s' → Q () s') :
    Meets keys (setExpecting .ok key data 0 expiry) Q s :=
  meets_setOk hkey hs (fun _ _ _ => Cell.accepts_blank.mpr (Or.inr rfl)) h

theorem meets_getExpectingData {Q : String × Nat → Client B → Prop} (hkey : key ∈ keys)
    (hs : Known C key ⟨some (data, expires), version⟩ lo hi s) (hlive : hi + L.latency < expires)
    (h : ∀ s', Known C key ⟨some (data, expires), version⟩ lo (hi + L.latency) s' →
      C.cellAt s' = C.cellAt s → Q (data, version) s') :
    Meets keys (getExpectingData key data dataOut cas) Q s := by
  refine Wp.bind (meets_getData hkey hs ?_)
  intro t s' _ hhi hs' hcells
  rw [Cell.found_live (by omega)]
  exact Wp.bind (meets_expect rfl (Wp.bind (meets_expect rfl (Wp.ret (h s' hs' hcells)))))

theorem meets_getNotFound {Q : String × Nat → Client B → Prop} (hkey : key ∈ keys)
    (hs : Known C key c lo hi s)
    (hfound : ∀ t, lo ≤ t → c.found t dataOut = (.notFound, dataOut, version))
    (h : ∀ s', Known C key c lo (hi + L.latency) s' → Q (dataOut, version) s') :
    Meets keys (getExpecting .notFound key dataOut cas) Q s := by
  refine Wp.bind (meets_getData hkey hs ?_)
  intro t s' hlo _ hs' _
  rw [hfound t hlo]
  exact Wp.bind (meets_expect rfl (Wp.ret (h s' hs')))

theorem meets_deleteOk {Q : Unit → Client B → Prop} (hkey : key ∈ keys)
    (hs : Known C key c lo hi s)
    (h : ∀ s' version, Known C key ⟨none, version⟩ lo (hi + L.latency) s' →
      (c.value ≠ none → version ≠ c.version) → Q () s') :
    Meets keys (deleteExpecting .ok key) Q s :=
  Wp.bind (meets_deleteData hkey hs fun s' version hs' hnew =>
    meets_expect rfl (h s' version hs' hnew))

/-- That the calls on the store and the scenarios are quick, for the times in the tests. -/
structure Limits.Prompt (L : Limits) : Prop where
  short : L.slack + 2 * L.latency < 1000000
  long : L.slack + L.outage + 9 * L.latency < 60000000
  settles : L.settling ≤ 5000

theorem micros_defaultExpiry : micros defaultExpiry = 60000000 := rfl

theorem meets_addThenGet {Q : String × Nat → Client B → Prop} (hL : L.Prompt)
    (hkey : key ∈ keys) (hs : Known C key ⟨none, version⟩ lo lo s)
    (h : ∀ s' expires version,
      Known C key ⟨some (data, expires), version⟩ lo (lo + L.latency + L.latency) s' →
      version ≠ 0 → lo + 60000000 ≤ expires + L.slack → Q (data, version) s') :
    Meets keys (addThenGet key data) Q s := by
  refine Wp.bind (meets_add hkey hs fun s₁ expires version₁ h₁ => ?_)
  have hleast := h₁.least
  have hlong := hL.long
  rw [micros_defaultExpiry] at hleast
  refine meets_getExpectingData hkey h₁.known (by omega) fun s₂ h₂ _ => ?_
  exact h s₂ expires version₁ h₂ h₁.nonzero hleast

theorem meets_addKillThenGet {Q : String × Nat → Client B → Prop} (hL : L.Prompt)
    (hkey : key ∈ keys) (hs : Known C key ⟨none, version⟩ lo lo s)
    (h : ∀ s' expires version, Known C key ⟨some (data, expires), version⟩ lo
        (lo + L.latency + L.outage + L.latency) s' →
      version ≠ 0 → lo + 60000000 ≤ expires + L.slack → Q (data, version) s') :
    Meets keys (addKillThenGet key data) Q s := by
  refine Wp.bind (meets_add hkey hs fun s₁ expires version₁ h₁ => ?_)
  have hleast := h₁.least
  have hlong := hL.long
  rw [micros_defaultExpiry] at hleast
  refine Wp.bind (meets_triggerFailure h₁.known fun s₂ version₂ h₂ hnonzero => ?_)
  refine meets_getExpectingData hkey h₂ (by omega) fun s₃ h₃ _ => ?_
  exact h s₃ expires version₂ h₃ (hnonzero h₁.nonzero) hleast

-- A value that is written with no time to live is gone after the sleep that follows.
theorem meets_expire {Q : String × Nat → Client B → Prop} {n : Nat} (hL : L.Prompt)
    (hkey : key ∈ keys) (hn : max (micros expiry) 5000 ≤ n) {s' : Client B}
    (hs : Stored C key data expiry c lo hi expires version s s')
    (h : ∀ s'', Online rogersIps s'' → Q (dataOut, 0) s'') :
    Meets keys ((call (.usleep n)).bind fun _ => getExpecting .notFound key dataOut cas) Q s' := by
  have hsettles := hL.settles
  have hmost := hs.most
  refine Wp.bind (meets_usleep hs.known.now fun s₁ hi₁ h₁ => ?_)
  exact meets_getNotFound hkey h₁ (fun t ht => Cell.found_expired (by omega)) fun s₂ h₂ =>
    h s₂ h₂.online

end

end ClearwaterFv
