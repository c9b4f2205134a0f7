import ClearwaterFv.MemcachedTests

/-!
# MemcachedRuns — any number of memcached tests, one after the other

The tests of a test case share their databases, and are kept apart by their keys alone.
-/

open Reasoning Reasoning.Lines Reasoning.Prog

namespace ClearwaterFv

section

variable {B : Backend} {rogersIps : List String} {L : Limits} {C : Contract B rogersIps L}
  {keys : List String} {s : Client B} {key : String} {version : Nat}

/-! ## The keys that have not been drawn -/

/-- An expectation, if the call is one, that holds. -/
def TestOp.Met (op : TestOp) : Prop := ∀ b, op = .expect b → b = true

theorem TestOp.Expected.met {op : TestOp} (h : op.Expected keys) : op.Met := by
  intro b heq
  rw [heq] at h
  exact h

/-- The keys that will be drawn next. -/
def upcoming (nextKey : UInt32) (n : Nat) : List String :=
  (List.range n).map fun i => (nextKey + UInt32.ofNat i).toNat.repr

theorem upcoming_succ (nextKey : UInt32) (n : Nat) :
    upcoming nextKey (n + 1) = nextKey.toNat.repr :: upcoming (nextKey + 1) n := by
  have hfirst : nextKey + UInt32.ofNat 0 = nextKey := UInt32.add_zero _
  have hnext : ∀ i, nextKey + UInt32.ofNat (i + 1) = nextKey + 1 + UInt32.ofNat i := by
    intro i
    rw [UInt32.ofNat_add, UInt32.add_assoc, UInt32.add_comm 1]
    rfl
  unfold upcoming
  rw [List.range_succ_eq_map, List.map_cons, List.map_map, hfirst]
  simp only [Function.comp_def, Nat.succ_eq_add_one, hnext]

-- A key is not drawn again before the counter has gone round.
theorem drawn_not_upcoming {nextKey : UInt32} {n : Nat} (hn : n + 1 ≤ 2 ^ 32) :
    nextKey.toNat.repr ∉ upcoming (nextKey + 1) n := by
  have hnodup : (upcoming nextKey (n + 1)).Nodup := by
    refine List.Nodup.map_on (fun i hi j hj heq => ?_) List.nodup_range
    have hi' := List.mem_range.mp hi
    have hj' := List.mem_range.mp hj
    have hnat := Decimal.repr_injective heq
    rw [UInt32.toNat_add, UInt32.toNat_add, UInt32.toNat_ofNat', UInt32.toNat_ofNat'] at hnat
    omega
  rw [upcoming_succ] at hnodup
  exact (List.nodup_cons.mp hnodup).1

/-- The databases hold nothing under the next keys. -/
structure Fresh (C : Contract B rogersIps L) (n : Nat) (s : Client B) : Prop where
  ips : s.rogersIps = rogersIps
  blank : ∀ key ∈ upcoming s.nextKey n, (C.cellAt s key).value = none

-- What is not asked for stays empty.
theorem blank_step {op : TestOp} (hop : op.Expected keys) (hkey : key ∉ keys)
    (hs : (C.cellAt s key).value = none) : (C.cellAt (s.step op).2 key).value = none := by
  have hne : ∀ k, k ∈ keys → key ≠ k := fun k hk heq => hkey (heq ▸ hk)
  have hvalue : ∀ {cells : String → Cell}, cells key = C.cellAt s key →
      (cells key).value = none := fun h => h ▸ hs
  cases op with
  | setData k data cas expiry =>
    by_cases hreaches : Reaches rogersIps s.targetDomain
    · obtain ⟨t, -, -, h⟩ := C.set_reached s.databases s.targetDomain k data cas expiry hreaches
      rcases h with ⟨-, -, expires, version, hcell, -⟩ | ⟨-, -, hcell⟩
      · exact hvalue ((congrFun hcell key).trans (Function.update_of_ne (hne k hop) ..))
      · exact hvalue (congrFun hcell key)
    · have hcell := ((C.unreached s.databases s.targetDomain hreaches k).1 data cas expiry).2
      exact hvalue (congrFun hcell key)
  | getData k data cas =>
    exact hvalue (congrFun (C.get_cell s.databases s.targetDomain k data cas) key)
  | deleteData k =>
    by_cases hreaches : Reaches rogersIps s.targetDomain
    · obtain ⟨-, version, hcell, -⟩ := C.delete_reached s.databases s.targetDomain k hreaches
      exact hvalue ((congrFun hcell key).trans (Function.update_of_ne (hne k hop) ..))
    · have hcell := (C.unreached s.databases s.targetDomain hreaches k).2.2.2
      exact hvalue (congrFun hcell key)
  | triggerFailure => exact (C.outage_cell s.databases key).1.trans hs
  | fixFailure => exact (C.repair_cell s.databases key).trans hs
  | usleep n => exact hvalue (congrFun (C.usleep_cell s.databases n) key)
  | drawKey => exact absurd hop id
  | _ => exact hs

theorem nextKey_step {op : TestOp} (hop : op.Expected keys) (s : Client B) :
    (s.step op).2.nextKey = s.nextKey ∧ (s.step op).2.rogersIps = s.rogersIps := by
  cases op with
  | drawKey => exact absurd hop id
  | _ => exact ⟨rfl, rfl⟩

theorem Fresh.step {n : Nat} {op : TestOp} (hs : Fresh C n s) (hop : op.Expected keys)
    (hkeys : ∀ key ∈ keys, key ∉ upcoming s.nextKey n) : Fresh C n (s.step op).2 := by
  obtain ⟨hnext, hips⟩ := nextKey_step hop s
  refine ⟨hips.trans hs.ips, fun key hkey => ?_⟩
  rw [hnext] at hkey
  exact blank_step hop (fun hin => hkeys key hin hkey) (hs.blank key hkey)

-- A part of a test that draws no key.
theorem Fresh.frame {n : Nat} {α : Type} {p : StoreTest α} {Q : α → Client B → Prop}
    (hs : Fresh C n s) (hkeys : ∀ key ∈ keys, key ∉ upcoming s.nextKey n)
    (h : Meets keys p Q s) :
    Wp Client.step (fun _ op => op.Met) p (fun a s' => Q a s' ∧ Fresh C n s') s := by
  have hframe := Wp.frame (I := fun s' : Client B => s'.nextKey = s.nextKey ∧ Fresh C n s') h
    (fun s' op hs' hop => ⟨(nextKey_step hop s').1.trans hs'.1,
      hs'.2.step hop (by rw [hs'.1]; exact hkeys)⟩) ⟨rfl, hs⟩
  exact (hframe.mono fun _ _ hQ => ⟨hQ.1, hQ.2.2⟩).weaken fun _ _ hop => hop.met

-- Drawing a key.
theorem Fresh.drawKey {n : Nat} {Q : String → Client B → Prop} (hs : Fresh C (n + 1) s)
    (hn : n + 1 ≤ 2 ^ 32) (hon : Online rogersIps s)
    (h : ∀ key s' version, Known C key ⟨none, version⟩ (C.at s') (C.at s') s' →
      Fresh C n s' → key ∉ upcoming s'.nextKey n → Q key s') :
    Wp Client.step (fun _ op => op.Met) (call .drawKey) Q s := by
  have hblank := hs.blank
  rw [upcoming_succ] at hblank
  refine Wp.perform (fun _ heq => nomatch heq) (h _ _ (C.cellAt s s.nextKey.toNat.repr).version
    ⟨⟨hon.ips, hon.reaches⟩, ?_, Nat.le_refl _, Nat.le_refl _⟩
    ⟨hs.ips, fun key hkey => hblank key (List.mem_cons_of_mem _ hkey)⟩
    (drawn_not_upcoming hn))
  have hnone := hblank _ List.mem_cons_self
  unfold Contract.cellAt at hnone
  rw [← hnone]
  rfl

/-! ## One test -/

/-- The domains in the tests, and under which of them a Rogers is found. -/
structure Findable (rogersIps : List String) : Prop where
  byName : Reaches rogersIps "rogers.local"
  byNameAndPort : Reaches rogersIps "rogers.local:11311"
  byAddress : Reaches rogersIps (rogersIps.headD "")
  notByBadName : ¬ Reaches rogersIps "bad.domain.name"

-- A script with the one key that `SetUp` has drawn.
theorem Fresh.script_one {n : Nat} {p : StoreTest Unit} (hs : Fresh C n s)
    (hkey : key ∉ upcoming s.nextKey n) (h : Meets [key] p (fun _ _ => True) s) :
    Wp Client.step (fun _ op => op.Met) p (fun _ s' => Fresh C n s') s :=
  (hs.frame (fun _ hin => List.mem_singleton.mp hin ▸ hkey) h).mono fun _ _ hQ => hQ.2

theorem Fresh.addGetTwoKeys (hL : L.Prompt) {n : Nat} (hs : Fresh C (n + 1) s)
    (hn : n + 1 ≤ 2 ^ 32) (hknown : Known C key ⟨none, version⟩ (C.at s) (C.at s) s)
    (hkey : key ∉ upcoming s.nextKey (n + 1)) :
    Wp Client.step (fun _ op => op.Met) (SimpleMemcachedSolutionTest.script key .addGetTwoKeys)
      (fun _ s' => Fresh C n s') s := by
  rw [upcoming_succ, List.mem_cons, not_or] at hkey
  have hblank := hs.blank
  rw [upcoming_succ] at hblank
  have hfirst : (C.cellAt s s.nextKey.toNat.repr).value = none := hblank _ List.mem_cons_self
  let s' := (s.step .drawKey).2
  have hs' : Fresh C n s' := ⟨hs.ips, fun k hk => hblank k (List.mem_cons_of_mem _ hk)⟩
  have hon : Online rogersIps s' := ⟨hknown.online.ips, hknown.online.reaches⟩
  have h₁ : Known C key ⟨none, version⟩ (C.at s') (C.at s') s' := hknown.through hon rfl
  have h₂ : Known C s.nextKey.toNat.repr ⟨none, (C.cellAt s s.nextKey.toNat.repr).version⟩
      (C.at s') (C.at s') s' := by
    refine ⟨hon, ?_, Nat.le_refl _, Nat.le_refl _⟩
    rw [← hfirst]
    rfl
  refine Wp.bind (Wp.perform (fun _ heq => nomatch heq) ?_)
  refine (hs'.frame (fun k hk => ?_) (meets_addGetTwoKeys hL (Ne.symm hkey.1) h₁ h₂)).mono
    fun _ _ hQ => hQ.2
  rcases List.mem_cons.mp hk with rfl | hk
  · exact hkey.2
  · rw [List.mem_singleton.mp hk]
    exact drawn_not_upcoming hn

-- Each iteration draws a key of its own.
theorem Fresh.addKillSetSet (hL : L.Prompt) (hrogers : Reaches rogersIps "rogers.local")
    (key : String) {n : Nat} (hs : Fresh C (10 + n) s) (hn : 10 + n ≤ 2 ^ 32)
    (hon : Online rogersIps s) :
    Wp Client.step (fun _ op => op.Met)
      (MemcachedSolutionFailureTest.script key .addKillSetSetDataContentionSet)
      (fun _ s' => Fresh C n s') s := by
  let I : List Nat → Client B → Prop := fun rest s =>
    Online rogersIps s ∧ Fresh C (rest.length + n) s ∧ rest.length ≤ 10
  have hloop : Wp Client.step (fun _ op => op.Met)
      (MemcachedSolutionFailureTest.script key .addKillSetSetDataContentionSet)
      (fun _ => I []) s := by
    refine Wp.forEach (I := I) (fun x rest t ht => ?_) ⟨hon, hs, Nat.le_refl 10⟩
    obtain ⟨hon, ht, hlength⟩ := ht
    rw [List.length_cons] at ht hlength
    have hcount : rest.length + 1 + n = rest.length + n + 1 := Nat.add_right_comm ..
    rw [hcount] at ht
    refine Wp.bind (ht.drawKey (by omega) hon fun key t' version hknown ht' hkey => ?_)
    refine (ht'.frame (fun _ hin => List.mem_singleton.mp hin ▸ hkey)
      (meets_addKillSetSet hL hrogers hknown)).mono fun _ _ hQ => ?_
    exact ⟨hQ.1, hQ.2, by omega⟩
  refine hloop.mono fun _ s' hs' => ?_
  have hfresh := hs'.2.1
  rw [List.length_nil, Nat.zero_add] at hfresh
  exact hfresh

theorem Fresh.script (hL : L.Prompt) (hrogers : Findable rogersIps) (t : MemcachedTest) {n : Nat}
    (hs : Fresh C (t.draws - 1 + n) s) (hn : t.draws + n ≤ 2 ^ 32)
    (hknown : Known C key ⟨none, version⟩ (C.at s) (C.at s) s)
    (hkey : key ∉ upcoming s.nextKey (t.draws - 1 + n)) :
    Wp Client.step (fun _ op => op.Met) (t.script key) (fun _ s' => Fresh C n s') s := by
  have hone : t.draws = 1 → Meets [key] (t.script key) (fun _ _ => True) s →
      Wp Client.step (fun _ op => op.Met) (t.script key) (fun _ s' => Fresh C n s') s := by
    intro hdraws
    rw [hdraws, Nat.sub_self, Nat.zero_add] at hs hkey
    exact hs.script_one hkey
  have haddGet : ∀ data, Meets [key] ((addThenGet key data).bind fun _ => Prog.ret ())
      (fun _ _ => True) s := fun data =>
    Wp.bind (meets_addThenGet hL List.mem_cons_self hknown fun _ _ _ _ _ _ => Wp.ret trivial)
  cases t with
  | simple t =>
    cases t with
    | addGet => exact hone rfl (haddGet _)
    | addGetTwoKeys =>
      have hcount : 2 - 1 + n = n + 1 := by omega
      change Fresh C (2 - 1 + n) s at hs
      change key ∉ upcoming s.nextKey (2 - 1 + n) at hkey
      change 2 + n ≤ 2 ^ 32 at hn
      rw [hcount] at hs hkey
      exact hs.addGetTwoKeys hL (by omega) hknown hkey
    | addGetExpire => exact hone rfl (meets_addGetExpire hL hknown)
    | addSetSetDataContentionSet => exact hone rfl (meets_addSetSetDataContentionSet hL hknown)
    | addSetCASDeleteDataContentionCASDelete =>
      exact hone rfl (meets_addSetCASDeleteDataContentionCASDelete hL hknown)
    | addAddDataContention => exact hone rfl (meets_addAddDataContention hL hknown)
    | addDelete => exact hone rfl (meets_addDelete hL hknown)
    | delete => exact hone rfl (meets_deleteOk List.mem_cons_self hknown fun _ _ _ _ => trivial)
    | addDeleteAdd => exact hone rfl (meets_addDeleteAdd hL hknown)
    | addDeleteSetDataContention => exact hone rfl (meets_addDeleteSetDataContention hL hknown)
    | connectUsingIpAddress =>
      exact hone rfl (meets_connectUsingIpAddress hL hknown hrogers.byAddress)
    | badDomainName => exact hone rfl (meets_badDomainName C hrogers.notByBadName)
    | domainAndPort => exact hone rfl (meets_domainAndPort hL hknown hrogers.byNameAndPort)
  | failure t =>
    cases t with
    | killAddGet => exact hone rfl (meets_killAddGet hL hknown)
    | addKillGet => exact hone rfl (meets_addKillGet hL hknown)
    | addKillGetExpire => exact hone rfl (meets_addKillGetExpire hL hknown)
    | addKillSetSetDataContentionSet =>
      exact Fresh.addKillSetSet hL hrogers.byName key hs (by change 11 + n ≤ 2 ^ 32 at hn; omega)
        hknown.online
    | addDeleteKill => exact hone rfl (meets_addDeleteKill hL hknown)
    | addKillCASDelete => exact hone rfl (meets_addKillCASDelete hL hknown)
  | larger t =>
    cases t with
    | addGet => exact hone rfl (haddGet _)
    | addKillGet => exact hone rfl (meets_addKillGet hL hknown)
    | addKillGetSet => exact hone rfl (meets_addKillGetSet hL hknown)

theorem Fresh.setUp (hrogers : Findable rogersIps) {n : Nat} {Q : String → Client B → Prop}
    (hs : Fresh C (n + 1) s) (hn : n + 1 ≤ 2 ^ 32)
    (h : ∀ key s' version, Known C key ⟨none, version⟩ (C.at s') (C.at s') s' →
      Fresh C n s' → key ∉ upcoming s'.nextKey n → Q key s') :
    Wp Client.step (fun _ op => op.Met) MemcachedTest.setUp Q s := by
  let s₁ := (s.step .newDnsClient).2
  let s₂ := (s₁.step .newResolver).2
  let s₃ := (s₂.step (.newStore "rogers.local")).2
  have hon : Online rogersIps s₃ := by
    refine ⟨hs.ips, ?_⟩
    rw [targetDomain_newStore]
    exact hrogers.byName
  have hs₃ : Fresh C (n + 1) s₃ := ⟨hs.ips, hs.blank⟩
  refine Wp.bind (Wp.perform (fun _ heq => nomatch heq) ?_)
  refine Wp.bind (Wp.perform (fun _ heq => nomatch heq) ?_)
  refine Wp.bind (Wp.perform (fun _ heq => nomatch heq) ?_)
  exact hs₃.drawKey hn hon h

theorem Fresh.tearDown {n : Nat} (hs : Fresh C n s) :
    Wp Client.step (fun _ op => op.Met) MemcachedTest.tearDown (fun _ s' => Fresh C n s') s := by
  refine Wp.bind (Wp.perform (fun _ heq => nomatch heq) ?_)
  refine Wp.bind (Wp.perform (fun _ heq => nomatch heq) ?_)
  exact Wp.perform (fun _ heq => nomatch heq) ⟨hs.ips, hs.blank⟩

theorem Fresh.run (hL : L.Prompt) (hrogers : Findable rogersIps) (t : MemcachedTest) {n : Nat}
    (hs : Fresh C (t.draws + n) s) (hn : t.draws + n ≤ 2 ^ 32) :
    Wp Client.step (fun _ op => op.Met) t.run (fun _ s' => Fresh C n s') s := by
  have hpos : 1 ≤ t.draws := by
    unfold MemcachedTest.draws
    split <;> decide
  have hcount : t.draws + n = t.draws - 1 + n + 1 := by omega
  rw [hcount] at hs
  refine Wp.bind (hs.setUp hrogers (by omega) fun key s₁ version hknown hs₁ hkey => ?_)
  refine Wp.bind ((hs₁.script hL hrogers t hn hknown hkey).mono fun _ s₂ hs₂ => ?_)
  exact hs₂.tearDown

end

/-! ## The domains of the tests -/

theorem recordsAt_rogersRecords (ips : List String) (name : String) :
    recordsAt (OrderedMap.empty.insert "rogers.local" ips) name =
      if name = "rogers.local" then ips else [] := by
  unfold recordsAt OrderedMap.at?
  change (Option.map Prod.snd (List.find? _ [("rogers.local", ips)])).getD [] = _
  by_cases hname : name = "rogers.local"
  · rw [if_pos hname, hname]
    rfl
  · rw [if_neg hname, List.find?_cons_of_neg (by simpa using Ne.symm hname)]
    rfl

section

variable {ipAddrPrefix : String} {numRogers : Int}

theorem fieldSafe_of_mem_siteIps (hsafe : PrefixSafe ipAddrPrefix) {ip : String}
    (hip : ip ∈ siteIps ipAddrPrefix numRogers) : FieldSafe ip ∧ ':' ∉ ip.toList := by
  obtain ⟨ii, -, rfl⟩ := List.mem_map.mp hip
  exact ⟨⟨siteIp_not_mem hsafe.no_comma rfl _, siteIp_not_mem hsafe.no_break rfl _⟩,
    siteIp_not_mem hsafe.no_colon rfl _⟩

end

instance (c : Cell) (t cas : Nat) : Decidable (c.Accepts t cas) :=
  inferInstanceAs (Decidable (_ ∨ _))

instance (rogersIps : List String) (targetDomain : String) :
    Decidable (Reaches rogersIps targetDomain) :=
  inferInstanceAs (Decidable (∃ host ∈ rogersHost? targetDomain, _))

end ClearwaterFv
