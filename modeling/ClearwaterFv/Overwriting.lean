import ClearwaterFv.ConfigFiles
import ClearwaterFv.Dnsmasq

/-!
# Overwriting — a static pointer that is assigned while its object is in use

A creation that finds a static pointer null starts its processes with their configuration files.
One that does not destroys the old object after the new one is constructed, and with it the files
that both have; the first process that is passed one of them is started without it.  So the files
are there in a sequence of creations exactly if every one of them is fresh.
-/

open Reasoning Reasoning.Prog Reasoning.Paths

namespace ClearwaterFv

/-! ## What happens to one object -/

/-- The object is as it was, with as many owners. -/
structure SameObject (i : Inst) (w w' : World) : Prop where
  next : w.next ≤ w'.next
  cwd : w'.cwd = w.cwd
  object : w'.objects i = w.objects i
  owners : w'.owners i = w.owners i

theorem SameObject.refl (i : Inst) (w : World) : SameObject i w w :=
  ⟨Nat.le_refl _, rfl, rfl, rfl⟩

theorem SameObject.trans {i : Inst} {w₁ w₂ w₃ : World} (h : SameObject i w₁ w₂)
    (h' : SameObject i w₂ w₃) : SameObject i w₁ w₃ :=
  ⟨h.next.trans h'.next, h'.cwd.trans h.cwd, h'.object.trans h.object, h'.owners.trans h.owners⟩

theorem SameHeap.sameObject {w w' : World} (h : SameHeap w w') (i : Inst) : SameObject i w w' :=
  ⟨h.next.ge, h.cwd, congrFun h.objects i, congrFun h.owners i⟩

/-- A call that neither deletes the object nor changes the number of its owners. -/
def Sys.LeavesOwners (i : Inst) : Sys → Prop
  | .deleteInstance self | .addOwner self | .dropOwner self => self ≠ i
  | _ => True

section

variable (K : Kernel) {i : Inst} {m : Machine}

theorem Sys.LeavesOwners.step {op : Sys} (hop : op.LeavesOwners i) (hi : i < m.world.next) :
    SameObject i m.world (K.step m op).2.world := by
  cases op with
  | newInstance args confs =>
    have hne : i ≠ m.world.next := Nat.ne_of_lt hi
    exact ⟨Nat.le_succ _, rfl, Function.update_of_ne hne _ _, Function.update_of_ne hne _ _⟩
  | deleteInstance self =>
    exact ⟨Nat.le_refl _, rfl, Function.update_of_ne (Ne.symm hop) _ _, rfl⟩
  | addOwner self => exact ⟨Nat.le_refl _, rfl, rfl, Function.update_of_ne (Ne.symm hop) _ _⟩
  | dropOwner self => exact ⟨Nat.le_refl _, rfl, rfl, Function.update_of_ne (Ne.symm hop) _ _⟩
  | fork self => exact (m.world.forked_sameHeap self _).sameObject i
  | kill self pid => exact (m.world.killed_sameHeap self pid _).sameObject i
  | waitpid self pid => exact (m.world.waited_sameHeap pid _).sameObject i
  | _ => exact ⟨Nat.le_refl _, rfl, rfl, rfl⟩

theorem sameObject_of_only {α : Type} {p : Harness α} (hp : Only (Sys.LeavesOwners i) p)
    (hi : i < m.world.next) : SameObject i m.world (K.run p m).2.world := by
  refine hp.run_inv (I := fun m' : Machine => SameObject i m.world m'.world) (fun m' op hop h => ?_)
    (SameObject.refl i m.world)
  exact h.trans (hop.step K (hi.trans_le h.next))

end

section

variable {i : Inst}

theorem constructs_leavesOwners {α : Type} {p : Harness α} (hp : Only Sys.Constructs p) :
    Only (Sys.LeavesOwners i) p :=
  hp.mono fun op hop => by
    cases op <;> first | exact trivial | exact absurd hop id

theorem releaseInstance_leavesOwners {self : Inst} (hne : self ≠ i) :
    Only (Sys.LeavesOwners i) (releaseInstance self) :=
  (releaseInstance_only self).mono fun op hop => by
    cases op with
    | dropOwner inst => exact fun heq => hne (hop.symm.trans heq)
    | deleteInstance inst => exact fun heq => hne (hop.symm.trans heq)
    | addOwner inst => exact absurd hop (by rintro (h | h) <;> exact h)
    | _ => exact trivial

theorem startInstance_leavesOwners (self : Inst) :
    Only (Sys.LeavesOwners i) (startInstance self) :=
  (startInstance_only self).mono fun op hop => by
    cases op <;> first | exact trivial | exact absurd hop id

theorem startOnce_leavesOwners {self : Inst} (hne : self ≠ i) :
    Only (Sys.LeavesOwners i) (callOnce (.start, self)) := by
  refine Only.bind (Only.bind (Only.perform hne) fun _ => ?_) fun _ => Only.ret _
  refine Only.bind (startInstance_leavesOwners self) fun _ => ?_
  exact Only.bind (releaseInstance_leavesOwners hne) fun _ => Only.ret _

theorem start_leavesOwners {s : Site} (hs : i ∉ s.instances) :
    Only (Sys.LeavesOwners i) s.start := by
  rw [start_eq_forEach, forEach_map]
  exact Only.forEach fun self hself => startOnce_leavesOwners fun heq => hs (heq ▸ hself)

theorem dropSite_leavesOwners {old : Option Site} (hold : ∀ s ∈ old, i ∉ s.instances) :
    Only (Sys.LeavesOwners i) (dropSite old) := by
  cases old with
  | none => exact Only.ret ()
  | some s =>
    change Only (Sys.LeavesOwners i) s.destroy
    rw [s.destroy_eq]
    refine Only.bind (Only.forEach fun self hself => ?_) fun _ => Only.perform trivial
    exact releaseInstance_leavesOwners fun heq => hold s rfl (heq ▸ hself)

theorem dropDnsmasq_leavesOwners {old : Option Inst} (hold : old ≠ some i) :
    Only (Sys.LeavesOwners i) (dropDnsmasq old) := by
  cases old with
  | none => exact Only.ret ()
  | some self => exact releaseInstance_leavesOwners fun heq => hold (congrArg some heq)

theorem startDnsmasq_leavesOwners (f : Fixture) : Only (Sys.LeavesOwners i) (startDnsmasq f) := by
  refine Only.bind (Only.perform trivial) fun dnsmasq => ?_
  cases dnsmasq with
  | none => exact Only.ret ()
  | some self => exact Only.bind (startInstance_leavesOwners self) fun _ => Only.ret ()

end

/-! ## What the static pointers lead to -/

/-- The directory of the sites that the static pointer is used for. -/
def SiteVar.dir : SiteVar → String
  | .dbs | .site1 => "tmp/site1"
  | .site2 => "tmp/site2"

/-- The sites have the directories that go with their pointers, and every dnsmasq instance has one
owner, the one pointer that leads to it. -/
structure Tracked (w : World) : Prop where
  dir : ∀ v s, w.site v = some s → s.args.dir = v.dir
  old : ∀ v s, w.site v = some s → ∀ i ∈ s.instances, i < w.next
  dnsmasq : ∀ f d, w.dnsmasq f = some d →
    d < w.next ∧ w.owners d = 1 ∧ w.objects d = some (dnsmasqArgs "127.0.0.1" 5353)
  apart : ∀ f d, w.dnsmasq f = some d → ∀ v s, w.site v = some s → d ∉ s.instances
  distinct : ∀ f f' d, w.dnsmasq f = some d → w.dnsmasq f' = some d → f' = f

-- Static pointers may be given up, and what the others lead to must stay.
theorem Tracked.frame {w w' : World} (h : Tracked w)
    (hsite : ∀ v s, w'.site v = some s → w.site v = some s)
    (hdnsmasq : ∀ f d, w'.dnsmasq f = some d → w.dnsmasq f = some d) (hnext : w.next ≤ w'.next)
    (hsame : ∀ f d, w'.dnsmasq f = some d → SameObject d w w') : Tracked w' where
  dir v s hs := h.dir v s (hsite v s hs)
  old v s hs i hi := (h.old v s (hsite v s hs) i hi).trans_le hnext
  dnsmasq f d hd := by
    obtain ⟨hlt, hown, hobject⟩ := h.dnsmasq f d (hdnsmasq f d hd)
    have hsame := hsame f d hd
    exact ⟨hlt.trans_le hnext, hsame.owners.trans hown, hsame.object.trans hobject⟩
  apart f d hd v s hs := h.apart f d (hdnsmasq f d hd) v s (hsite v s hs)
  distinct f f' d hd hd' := h.distinct f f' d (hdnsmasq f d hd) (hdnsmasq f' d hd')

section

variable (K : Kernel) {m : Machine} {v : SiteVar} {f : Fixture}

theorem next_le_run {α : Type} (p : Harness α) (m : Machine) :
    m.world.next ≤ (K.run p m).2.world.next := by
  refine run_inv (I := fun m' : Machine => m.world.next ≤ m'.world.next) (fun m' op h => ?_) p
    (Nat.le_refl _)
  refine h.trans ?_
  cases op with
  | newInstance args confs => exact Nat.le_succ _
  | fork self => exact (m'.world.forked_sameHeap self _).next.ge
  | kill self pid => exact (m'.world.killed_sameHeap self pid _).next.ge
  | waitpid self pid => exact (m'.world.waited_sameHeap pid _).next.ge
  | _ => exact Nat.le_refl _

theorem Tracked.run (h : Tracked m.world) {α : Type} {p : Harness α}
    (hstatics : Only Sys.KeepsStatics p)
    (howners : ∀ f d, m.world.dnsmasq f = some d → Only (Sys.LeavesOwners d) p) :
    Tracked (K.run p m).2.world := by
  obtain ⟨hsite, hdnsmasq⟩ := statics_of_only hstatics K m
  refine h.frame (fun v s hs => ?_) (fun f d hd => ?_) (next_le_run K p m) fun f d hd => ?_
  · rw [← hsite]
    exact hs
  · rw [← hdnsmasq]
    exact hd
  · rw [hdnsmasq] at hd
    exact sameObject_of_only K (howners f d hd) (h.dnsmasq f d hd).1

-- `TearDownTestCase` takes what the pointers lead to one by one.
theorem Tracked.resetSite (h : Tracked m.world) (v : SiteVar) :
    Tracked (K.run (assignSite v none) m).2.world := by
  let m₁ := (K.step m (.swapSite v none)).2
  have h₁ : Tracked m₁.world := by
    refine h.frame (fun v' s hs => ?_) (fun _ _ hd => hd) (Nat.le_refl _)
      fun _ _ _ => ⟨Nat.le_refl _, rfl, rfl, rfl⟩
    change Function.update m.world.site v none v' = some s at hs
    by_cases hv : v' = v
    · rw [hv, Function.update_self] at hs
      cases hs
    · rw [Function.update_of_ne hv] at hs
      exact hs
  refine h₁.run K (p := dropSite (m.world.site v)) (dropSite_keepsStatics _) fun f d hd => ?_
  exact dropSite_leavesOwners fun s hs => h.apart f d hd v s hs

theorem Tracked.resetDnsmasq (h : Tracked m.world) (f : Fixture) :
    Tracked (K.run (assignDnsmasq f none) m).2.world := by
  let m₁ := (K.step m (.swapDnsmasq f none)).2
  have hrest : ∀ f' d, m₁.world.dnsmasq f' = some d → f' ≠ f ∧ m.world.dnsmasq f' = some d := by
    intro f' d hd
    change Function.update m.world.dnsmasq f none f' = some d at hd
    by_cases hf : f' = f
    · rw [hf, Function.update_self] at hd
      cases hd
    · rw [Function.update_of_ne hf] at hd
      exact ⟨hf, hd⟩
  have h₁ : Tracked m₁.world :=
    h.frame (fun _ _ hs => hs) (fun f' d hd => (hrest f' d hd).2) (Nat.le_refl _)
      fun _ _ _ => ⟨Nat.le_refl _, rfl, rfl, rfl⟩
  refine h₁.run K (dropDnsmasq_keepsStatics (m.world.dnsmasq f)) fun f' d hd => ?_
  obtain ⟨hne, hd⟩ := hrest f' d hd
  exact dropDnsmasq_leavesOwners fun hold => hne (h.distinct f f' d hold hd)

-- A new site is assigned, and the old one destroyed.
theorem Tracked.siteReplaced (h : Tracked m.world) {a : SiteArgs} (ha : a.dir = v.dir) :
    let built := K.run (newSite a) m
    let m₂ := (K.run (assignSite v (some built.1)) built.2).2
    Tracked m₂.world ∧ ∀ i ∈ built.1.instances, SameObject i built.2.world m₂.world := by
  obtain ⟨objs, hcreates, hinst, -⟩ := newSite_creates K a m
  have hargs : (K.run (newSite a) m).1.args = a := by
    simp only [newSite, bind_eq_bind, Kernel.run, run_bind]
    rfl
  have hbuilt : Tracked (K.run (newSite a) m).2.world :=
    h.run K ((newSite_only a).mono fun op hop => by
      cases op <;> first | exact trivial | exact absurd hop id)
      fun _ _ _ => constructs_leavesOwners (newSite_only a)
  generalize K.run (newSite a) m = built at *
  intro built₀ m₂
  have hbounds : ∀ i ∈ built.1.instances, m.world.next ≤ i ∧ i < built.2.world.next := by
    intro i hi
    rw [← hinst] at hi
    obtain ⟨o, ho, rfl⟩ := List.mem_map.mp hi
    exact hcreates.inst_lt ho
  let m₁ := (K.step built.2 (.swapSite v (some built.1))).2
  have hsite₁ : ∀ v' s, m₁.world.site v' = some s →
      v' = v ∧ s = built.1 ∨ built.2.world.site v' = some s := by
    intro v' s hs
    change Function.update built.2.world.site v (some built.1) v' = some s at hs
    by_cases hv : v' = v
    · rw [hv, Function.update_self] at hs
      exact Or.inl ⟨hv, (Option.some.inj hs).symm⟩
    · rw [Function.update_of_ne hv] at hs
      exact Or.inr hs
  have h₁ : Tracked m₁.world := by
    refine ⟨fun v' s hs => ?_, fun v' s hs i hi => ?_, hbuilt.dnsmasq, fun f d hd v' s hs => ?_,
      hbuilt.distinct⟩
    · rcases hsite₁ v' s hs with ⟨rfl, rfl⟩ | hs
      · rw [hargs, ha]
      · exact hbuilt.dir v' s hs
    · rcases hsite₁ v' s hs with ⟨rfl, rfl⟩ | hs
      · exact (hbounds i hi).2
      · exact hbuilt.old v' s hs i hi
    · rcases hsite₁ v' s hs with ⟨rfl, rfl⟩ | hs
      · intro hmem
        have hd' : m.world.dnsmasq f = some d := by
          rw [← hcreates.dnsmasq]
          exact hd
        exact absurd (hbounds d hmem).1 (Nat.not_le.mpr (h.dnsmasq f d hd').1)
      · exact hbuilt.apart f d hd v' s hs
  have hdrop : Only Sys.KeepsStatics (dropSite (built.2.world.site v)) := dropSite_keepsStatics _
  refine ⟨h₁.run K hdrop fun f d hd => ?_, fun i hi => ?_⟩
  · exact dropSite_leavesOwners fun s hs => hbuilt.apart f d hd v s hs
  · have hold : Only (Sys.LeavesOwners i) (dropSite (built.2.world.site v)) := by
      refine dropSite_leavesOwners fun s hs hmem => ?_
      have hs : m.world.site v = some s := by
        rw [← hcreates.site]
        exact hs
      exact absurd (hbounds i hi).1 (Nat.not_le.mpr (h.old v s hs i hmem))
    have hswap : SameObject i built.2.world m₁.world := ⟨Nat.le_refl _, rfl, rfl, rfl⟩
    exact hswap.trans (sameObject_of_only K (m := m₁) hold (hbounds i hi).2)

theorem Tracked.siteStarted (h : Tracked m.world) {a : SiteArgs} (ha : a.dir = v.dir) :
    Tracked (K.run (createAndStartSite v a) m).2.world := by
  obtain ⟨htracked, -⟩ := h.siteReplaced K ha
  rw [run_createAndStartSite]
  generalize K.run (newSite a) m = built at *
  let m₂ := (K.run (assignSite v (some built.1)) built.2).2
  have hsite : m₂.world.site v = some built.1 := by
    rw [(statics_assignSite K v (some built.1) built.2).1]
    exact Function.update_self _ _ _
  have hrun : K.run (onSite v Site.start) m₂ = K.run built.1.start (K.step m₂ (.readSite v)).2 := by
    change K.run (withSite Site.start (m₂.world.site v)) _ = _
    rw [hsite]
    rfl
  rw [hrun]
  have hread : Tracked (K.step m₂ (.readSite v)).2.world := htracked
  refine hread.run K (call_keepsStatics built.1 (.all .start)) fun f d hd => ?_
  exact start_leavesOwners (htracked.apart f d hd v built.1 hsite)

-- So with the dnsmasq instance, where there is none.
theorem Tracked.dnsmasqStarted (h : Tracked m.world) (hvacant : m.world.dnsmasq f = none)
    (aRecords : OrderedMap String (List String)) :
    Tracked (K.run (createAndStartDnsFor f aRecords) m).2.world ∧
      (K.run (createAndStartDnsFor f aRecords) m).2.world.site = m.world.site ∧
      (K.run (createAndStartDnsFor f aRecords) m).2.world.dnsmasq =
        Function.update m.world.dnsmasq f (some m.world.next) := by
  let self := m.world.next
  let m₁ := (K.run (newDnsmasqInstance "127.0.0.1" 5353 aRecords) m).2
  let m₂ := (K.step m₁ (.swapDnsmasq f (some self))).2
  have hcases : ∀ f' d, m₂.world.dnsmasq f' = some d →
      f' = f ∧ d = self ∨ f' ≠ f ∧ m.world.dnsmasq f' = some d := by
    intro f' d hd
    change Function.update m.world.dnsmasq f (some self) f' = some d at hd
    by_cases hf : f' = f
    · rw [hf, Function.update_self] at hd
      exact Or.inl ⟨hf, (Option.some.inj hd).symm⟩
    · rw [Function.update_of_ne hf] at hd
      exact Or.inr ⟨hf, hd⟩
  have htracked : Tracked m₂.world := by
    refine ⟨h.dir, fun v s hs i hi => (h.old v s hs i hi).trans (Nat.lt_succ_self _),
      fun f' d hd => ?_, fun f' d hd v s hs => ?_, fun f' f'' d hd hd' => ?_⟩
    · rcases hcases f' d hd with ⟨rfl, rfl⟩ | ⟨-, hd⟩
      · exact ⟨Nat.lt_succ_self _, Function.update_self _ _ _, Function.update_self _ _ _⟩
      · obtain ⟨hlt, hown, hobject⟩ := h.dnsmasq f' d hd
        have hne : d ≠ self := Nat.ne_of_lt hlt
        refine ⟨hlt.trans (Nat.lt_succ_self _), ?_, ?_⟩
        · exact (Function.update_of_ne hne _ _).trans hown
        · exact (Function.update_of_ne hne _ _).trans hobject
    · rcases hcases f' d hd with ⟨rfl, rfl⟩ | ⟨-, hd⟩
      · exact fun hmem => absurd (h.old v s hs self hmem) (Nat.lt_irrefl _)
      · exact h.apart f' d hd v s hs
    · rcases hcases f' d hd with ⟨hf, hself⟩ | ⟨-, hd⟩
      · rcases hcases f'' d hd' with ⟨hf', -⟩ | ⟨-, hd'⟩
        · exact hf'.trans hf.symm
        · exact absurd hself (Nat.ne_of_lt (h.dnsmasq f'' d hd').1)
      · rcases hcases f'' d hd' with ⟨-, hself⟩ | ⟨-, hd'⟩
        · exact absurd hself (Nat.ne_of_lt (h.dnsmasq f' d hd).1)
        · exact h.distinct f' f'' d hd hd'
  have hrun : (K.run (createAndStartDnsFor f aRecords) m).2 = (K.run (startDnsmasq f) m₂).2 := by
    rw [run_createAndStartDnsFor]
    change (K.run (startDnsmasq f) (K.run (assignDnsmasq f (some self)) m₁).2).2 = _
    rw [(run_assignDnsmasq_vacant K (m := m₁) hvacant (some self)).1]
  have hstatics := statics_of_only (startDnsmasq_keepsStatics f) K m₂
  rw [hrun]
  refine ⟨?_, hstatics.1, hstatics.2⟩
  exact htracked.run K (startDnsmasq_keepsStatics f) fun _ _ _ => startDnsmasq_leavesOwners f

end

/-! ## An old object that is destroyed -/

section

variable (K : Kernel) {m : Machine} {v : SiteVar} {f : Fixture}

-- `for_each_instance` starts each instance with the files as it finds them.
theorem configured_of_start {insts : List Inst} (howned : ∀ i ∈ insts, 0 < m.world.owners i)
    (h : Always K.step ForksConfigured
      (forEach (insts.map fun i => (Method.start, i)) callOnce) m) :
    ∀ i ∈ insts, Configured m.world i := by
  induction insts generalizing m with
  | nil => exact fun i hi => absurd hi List.not_mem_nil
  | cons self insts ih =>
    obtain ⟨hfirst, hrest⟩ := Always.of_bind h
    have hheap := callOnce_sameHeap K m (.start, self) (howned self List.mem_cons_self)
    refine List.forall_mem_cons.mpr ⟨?_, fun i hi => ?_⟩
    · have hfork : ((K.step m (.addOwner self)).2, Sys.fork self) ∈
          (callOnce (.start, self)).trace K.step m := by
        rw [trace_callOnce]
        exact List.mem_cons_of_mem _ (List.mem_append_left _ List.mem_cons_self)
      exact hfirst _ hfork self rfl
    · refine (ih (fun j hj => ?_) hrest i hi).of_sameHeap hheap.symm
      rw [hheap.owners]
      exact howned j (List.mem_cons_of_mem _ hj)

-- The converse of `always_onSite`.
theorem always_of_onSite {s : Site} {method : Site → Harness Unit}
    (hsite : m.world.site v = some s) (h : Always K.step ForksConfigured (onSite v method) m) :
    Always K.step ForksConfigured (method s) (K.step m (.readSite v)).2 := by
  have hread : Always K.step ForksConfigured (withSite method (m.world.site v))
      (K.step m (.readSite v)).2 := fun e he => h e (List.mem_cons_of_mem _ he)
  rw [hsite] at hread
  exact hread

-- With the old site goes its directory.
theorem files_assignSite {s : Site} (hold : m.world.site v = some s) (hdir : s.args.dir ≠ "")
    (new : Option Site) :
    let m' := (K.run (assignSite v new) m).2
    m'.world.files (resolve m'.world.cwd (s.args.dir ++ "/cluster_settings")) = none := by
  let m₁ := (K.run (forEach s.instances releaseInstance) (K.step m (.swapSite v new)).2).2
  have hrun : (K.run (assignSite v new) m).2 = (K.step m₁ (.removeAll s.args.dir)).2 := by
    change (K.run (dropSite (m.world.site v)) _).2 = _
    rw [hold]
    change (K.run s.destroy _).2 = _
    rw [s.destroy_eq, Kernel.run, run_bind]
    rfl
  rw [hrun]
  change m₁.world.files.removeAll (resolve m₁.world.cwd s.args.dir)
    (resolve m₁.world.cwd (s.args.dir ++ "/cluster_settings")) = none
  rw [resolve_clusterSettings, resolve_append_slash _ hdir]
  exact if_pos (List.prefix_append _ _)

-- A site with Rogers processes that are all started with their files replaces none.
theorem Tracked.site_vacant (h : Tracked m.world) {a : SiteArgs} (ha : a.dir = v.dir)
    (hdir : v.dir ≠ "") (hrogers : 0 < a.numRogers)
    (hforks : Always K.step ForksConfigured (createAndStartSite v a) m) :
    m.world.site v = none := by
  cases hold : m.world.site v with
  | none => rfl
  | some s =>
    exfalso
    obtain ⟨objs, hcreates, -, -⟩ := newSite_creates K a m
    obtain ⟨-, hargs, -⟩ := newSite_map_objects K a m id
    have howners := newSite_configured K a m
    obtain ⟨-, hsame⟩ := h.siteReplaced K ha
    obtain ⟨-, hforks⟩ := Always.of_bind hforks
    obtain ⟨-, hforks⟩ := Always.of_bind hforks
    change Always K.step ForksConfigured (onSite v Site.start) (K.run (assignSite v
      (some (K.run (newSite a) m).1)) (K.run (newSite a) m).2).2 at hforks
    generalize K.run (newSite a) m = built at *
    let m₂ := (K.run (assignSite v (some built.1)) built.2).2
    have hsite : m₂.world.site v = some built.1 := by
      rw [(statics_assignSite K v (some built.1) built.2).1]
      exact Function.update_self _ _ _
    have hstart := always_of_onSite K hsite hforks
    rw [start_eq_forEach] at hstart
    have hconfigured := configured_of_start K (fun i hi => by
      change 0 < m₂.world.owners i
      rw [(hsame i hi).owners, (howners i hi).1]
      exact Nat.one_pos) hstart
    -- the first Rogers process is passed a file that the old site took with it
    obtain ⟨args, hfirst, hpath⟩ : ∃ args ∈ rogersLoop a.ipAddrPrefix a.dir a.numRogers,
        a.dir ++ "/cluster_settings" ∈ args.kind.configFiles := by
      rw [rogersLoop_eq]
      refine ⟨_, List.mem_map_of_mem (List.mem_range.mpr (Int.lt_toNat.mpr hrogers)), ?_⟩
      exact List.mem_singleton_self _
    have hrogers : some args ∈ built.1.rogersInstances.map fun i => built.2.world.objects i := by
      rw [show (built.1.rogersInstances.map fun i => built.2.world.objects i) = _ from hargs]
      exact List.mem_map_of_mem hfirst
    obtain ⟨i, hi, hobject⟩ := List.mem_map.mp hrogers
    have hmem : i ∈ built.1.instances := List.mem_append_left _ (List.mem_append_right _ hi)
    obtain ⟨text, -, hholds⟩ :=
      hconfigured i hmem args ((hsame i hmem).object.trans hobject) _ hpath
    have habsent : m₂.world.files
        (resolve m₂.world.cwd (s.args.dir ++ "/cluster_settings")) = none := by
      refine files_assignSite K ?_ ?_ _
      · rw [hcreates.site]
        exact hold
      · rw [h.dir v s hold]
        exact hdir
    rw [h.dir v s hold, ← ha] at habsent
    change m₂.world.files (resolve m₂.world.cwd _) = _ at hholds
    rw [habsent] at hholds
    cases hholds

-- A dnsmasq instance that is started with its file replaces none.
theorem Tracked.dnsmasq_vacant (h : Tracked m.world) (aRecords : OrderedMap String (List String))
    (hforks : Always K.step ForksConfigured (createAndStartDnsFor f aRecords) m) :
    m.world.dnsmasq f = none := by
  cases hold : m.world.dnsmasq f with
  | none => rfl
  | some old =>
    exfalso
    let self := m.world.next
    let cfgfile := dnsmasqCfgfile "127.0.0.1" 5353
    let m₁ := (K.run (newDnsmasqInstance "127.0.0.1" 5353 aRecords) m).2
    let m₂ := (K.step m₁ (.swapDnsmasq f (some self))).2
    let m₃ := (K.step m₂ (.dropOwner old)).2
    let m₄ := (K.run (releaseInstance old) m₂).2
    obtain ⟨hlt, hown, hobject⟩ := h.dnsmasq f old hold
    have hne : old ≠ self := Nat.ne_of_lt hlt
    have hown₂ : m₂.world.owners old = 1 := (Function.update_of_ne hne _ _).trans hown
    have hobject₃ : m₃.world.objects old = some (dnsmasqArgs "127.0.0.1" 5353) :=
      (Function.update_of_ne hne _ _).trans hobject
    have hassign : (K.run (assignDnsmasq f (some self)) m₁).2 = m₄ := by
      change (K.run (dropDnsmasq (m.world.dnsmasq f)) m₂).2 = _
      rw [hold]
      rfl
    have hsame : SameObject self m₂.world m₄.world :=
      sameObject_of_only K (releaseInstance_leavesOwners hne) (Nat.lt_succ_self _)
    have hdnsmasq : m₄.world.dnsmasq f = some self := by
      rw [(statics_of_only (releaseInstance_keepsStatics old) K m₂).2]
      exact Function.update_self _ _ _
    -- the only owner of the old instance is gone, and the file with it
    have habsent : m₄.world.files (resolve m₄.world.cwd cfgfile) = none := by
      have hrun : m₄ = (K.run (destroyInstance old) m₃).2 := by
        change (K.run (if m₂.world.owners old - 1 = 0 then destroyInstance old else ret ()) m₃).2
          = _
        rw [hown₂]
        rfl
      have hcwd : m₄.world.cwd = m₃.world.cwd := hsame.cwd
      rw [hcwd, hrun, files_destroyInstance_dnsmasq K m₃ hobject₃]
      exact Function.update_self _ _ _
    obtain ⟨-, hforks⟩ := Always.of_bind hforks
    obtain ⟨-, hforks⟩ := Always.of_bind hforks
    change Always K.step ForksConfigured (startDnsmasq f)
      (K.run (assignDnsmasq f (some self)) m₁).2 at hforks
    rw [hassign] at hforks
    have hstart : Always K.step ForksConfigured (startIfAny (m₄.world.dnsmasq f))
        (K.step m₄ (.readDnsmasq f)).2 := fun e he => hforks e (List.mem_cons_of_mem _ he)
    rw [hdnsmasq] at hstart
    have hconfigured : Configured m₄.world self := hstart _ List.mem_cons_self self rfl
    have hnew : m₂.world.objects self = some (dnsmasqArgs "127.0.0.1" 5353) :=
      Function.update_self _ _ _
    obtain ⟨text, -, hholds⟩ :=
      hconfigured _ (hsame.object.trans hnew) cfgfile List.mem_cons_self
    change m₄.world.files (resolve m₄.world.cwd cfgfile) = _ at hholds
    rw [habsent] at hholds
    cases hholds

end

/-! ## Sequences of calls on the fixtures -/

/-- Between the calls on the fixtures: both sites of the S4 tests are there or neither is, and the
memcached tests have a dnsmasq only where they have a site. -/
structure Consistent (w : World) : Prop extends Tracked w where
  sites : w.site .site1 = none ↔ w.site .site2 = none
  databases : w.site .dbs = none → w.dnsmasq .memcached = none

theorem consistent_initial (pid : Inst → Int) (files : FileTree) (cwd : Path)
    (noisy : Option String) : Consistent (Machine.initial pid files cwd noisy).world where
  dir _ _ hs := (nomatch hs)
  old _ _ hs := (nomatch hs)
  dnsmasq _ _ hd := (nomatch hd)
  apart _ _ hd := (nomatch hd)
  distinct _ _ _ hd := (nomatch hd)
  sites := Iff.rfl
  databases _ := rfl

section

variable (K : Kernel) {m : Machine}

theorem Tracked.idle (h : Tracked m.world) {α : Type} {p : Harness α} (hp : Only Sys.Idle p) :
    Tracked (K.run p m).2.world :=
  h.run K (hp.mono fun op hop => by cases op <;> first | exact trivial | exact absurd hop id)
    fun _ _ _ => hp.mono fun op hop => by
      cases op <;> first | exact trivial | exact absurd hop id

theorem statics_resetSites (vs : List SiteVar) (m : Machine) :
    let m' := (K.run (forEach vs fun v => assignSite v none) m).2
    (∀ v, m'.world.site v = if v ∈ vs then none else m.world.site v) ∧
      m'.world.dnsmasq = m.world.dnsmasq := by
  induction vs generalizing m with
  | nil => exact ⟨fun v => (if_neg List.not_mem_nil).symm, rfl⟩
  | cons v vs ih =>
    let m₁ := (K.run (assignSite v none) m).2
    obtain ⟨hsite₁, hdnsmasq₁⟩ := statics_assignSite K v none m
    obtain ⟨hsite, hdnsmasq⟩ := ih m₁
    rw [forEach_cons, Kernel.run, run_bind]
    refine ⟨fun v' => (hsite v').trans ?_, hdnsmasq.trans hdnsmasq₁⟩
    rw [hsite₁]
    by_cases hv : v' = v
    · rw [hv, Function.update_self, ite_self, if_pos List.mem_cons_self]
    · rw [Function.update_of_ne hv]
      simp only [List.mem_cons, hv, false_or]

-- What `TearDownTestCase` does to the static pointers.
theorem Tracked.tearDown (h : Tracked m.world) (f : Fixture) :
    let m' := (K.run f.tearDownTestCase m).2
    Tracked m'.world ∧
      (∀ v, m'.world.site v = if v ∈ f.sites then none else m.world.site v) ∧
      m'.world.dnsmasq = Function.update m.world.dnsmasq f none := by
  let m₁ := (K.run (assignDnsmasq f none) m).2
  let m₂ := (K.run (forEach f.sites fun v => assignSite v none) m₁).2
  let rest : Harness Unit := (sys (.removeAll "tmp")).bind fun _ => setHandlers false
  have hrest : ∀ {P : Sys → Prop}, P (.removeAll "tmp") → (∀ sig, P (.signal sig false)) →
      Only P rest := fun hremove hsignal =>
    Only.bind (Only.perform hremove) fun _ =>
      Only.bind (Only.perform (hsignal _)) fun _ => Only.perform (hsignal _)
  have hrun : K.run f.tearDownTestCase m = K.run rest m₂ := by
    rw [f.tearDownTestCase_eq]
    simp only [Kernel.run, run_bind]
    rfl
  have htracked₂ : Tracked m₂.world :=
    run_forEach_inv (I := fun m' : Machine => Tracked m'.world)
      (fun v _ _ h => h.resetSite K v) (h.resetDnsmasq K f)
  obtain ⟨hsite₁, hdnsmasq₁⟩ := statics_assignDnsmasq K f none m
  obtain ⟨hsite₂, hdnsmasq₂⟩ := statics_resetSites K f.sites m₁
  obtain ⟨hsite₃, hdnsmasq₃⟩ := statics_of_only (hrest trivial fun _ => trivial) K m₂
  rw [hrun]
  refine ⟨htracked₂.run K (hrest trivial fun _ => trivial) fun _ _ _ =>
    hrest trivial fun _ => trivial, fun v => ?_, hdnsmasq₃.trans (hdnsmasq₂.trans hdnsmasq₁)⟩
  rw [hsite₃, hsite₂, hsite₁]

-- `create_and_start_dns` of the memcached tests, once it has the addresses of the Rogers processes.
theorem Tracked.throughDns (h : Tracked m.world) {s : Site}
    (hsite : m.world.site .dbs = some s) :
    ∃ m₁ aRecords, Tracked m₁.world ∧ m₁.world.site = m.world.site ∧
      m₁.world.dnsmasq = m.world.dnsmasq ∧
      (K.run BaseMemcachedSolutionTest.createAndStartDns m).2 =
        (K.run (createAndStartDnsFor .memcached aRecords) m₁).2 ∧
      (Always K.step ForksConfigured BaseMemcachedSolutionTest.createAndStartDns m →
        Always K.step ForksConfigured (createAndStartDnsFor .memcached aRecords) m₁) := by
  let m' := (K.step m (.readSite .dbs)).2
  let ips := K.run (Site.getIps s.rogersInstances) m'
  have hread : Tracked m'.world := h
  have hidle := getIps_idle s.rogersInstances
  obtain ⟨hsite₁, hdnsmasq₁⟩ := statics_of_idle K hidle m'
  refine ⟨ips.2, OrderedMap.empty.insert "rogers.local" ips.1, hread.idle K hidle, hsite₁,
    hdnsmasq₁, ?_, fun hforks => (Always.of_bind (always_of_onSite K hsite hforks)).2⟩
  change (K.run (withSite _ (m.world.site .dbs)) m').2 = _
  rw [hsite]
  simp only [withSite, bind_eq_bind, Kernel.run, run_bind]
  rfl

-- A call that forks only what is configured is fresh.
theorem FixtureCall.fresh_of_forksConfigured (c : FixtureCall) (h : Consistent m.world)
    (hforks : Always K.step ForksConfigured c.body m) : c.fresh m.world = true := by
  cases c with
  | createAndStartDatabases numMemcacheds numRogers =>
    by_cases hrogers : 0 < numRogers
    · have hvacant := h.site_vacant K (v := .dbs) (a := BaseMemcachedSolutionTest.dbsArgs
        numMemcacheds numRogers) rfl (by decide) hrogers hforks
      exact (Bool.or_eq_true _ _).mpr (Or.inl (Option.isNone_iff_eq_none.mpr hvacant))
    · exact (Bool.or_eq_true _ _).mpr (Or.inr (decide_eq_true (Int.not_lt.mp hrogers)))
  | createAndStartDatabasesDns =>
    refine Option.isNone_iff_eq_none.mpr ?_
    cases hsite : m.world.site .dbs with
    | none => exact h.databases hsite
    | some s =>
      obtain ⟨m₁, aRecords, htracked, -, hdnsmasq, -, hthrough⟩ := h.throughDns K hsite
      rw [← hdnsmasq]
      exact htracked.dnsmasq_vacant K aRecords (hthrough hforks)
  | createAndStartSites =>
    obtain ⟨hfirst, -⟩ := Always.of_bind hforks
    have hvacant := h.site_vacant K (v := .site1) (a := BaseS4SolutionTest.site1Args) rfl
      (by decide) (by decide) hfirst
    refine (Bool.and_eq_true _ _).mpr ⟨Option.isNone_iff_eq_none.mpr hvacant, ?_⟩
    exact Option.isNone_iff_eq_none.mpr (h.sites.mp hvacant)
  | createAndStartSitesDns aRecords =>
    exact Option.isNone_iff_eq_none.mpr (h.dnsmasq_vacant K aRecords hforks)
  | tearDownTestCase f => rfl

theorem FixtureCall.consistent (c : FixtureCall) (h : Consistent m.world)
    (hfresh : c.fresh m.world = true) : Consistent (K.run c.body m).2.world := by
  cases c with
  | createAndStartDatabases numMemcacheds numRogers =>
    let a := BaseMemcachedSolutionTest.dbsArgs numMemcacheds numRogers
    obtain ⟨hsite, hdnsmasq⟩ := statics_createAndStartSite K .dbs a m
    refine ⟨h.siteStarted K (v := .dbs) (a := a) rfl, ?_, fun hnone => ?_⟩
    · change (K.run (createAndStartSite .dbs a) m).2.world.site .site1 = none ↔
        (K.run (createAndStartSite .dbs a) m).2.world.site .site2 = none
      rw [hsite]
      exact h.sites
    · change (K.run (createAndStartSite .dbs a) m).2.world.site .dbs = none at hnone
      rw [hsite] at hnone
      cases hnone
  | createAndStartDatabasesDns =>
    cases hsite : m.world.site .dbs with
    | none =>
      have hrun : (K.run BaseMemcachedSolutionTest.createAndStartDns m).2 =
          (K.step m (.readSite .dbs)).2 := by
        change (K.run (withSite _ (m.world.site .dbs)) _).2 = _
        rw [hsite]
        rfl
      change Consistent (K.run BaseMemcachedSolutionTest.createAndStartDns m).2.world
      rw [hrun]
      exact h
    | some s =>
      obtain ⟨m₁, aRecords, htracked, hsite₁, hdnsmasq₁, hrun, -⟩ := h.throughDns K hsite
      have hvacant : m₁.world.dnsmasq .memcached = none := by
        rw [hdnsmasq₁]
        exact Option.isNone_iff_eq_none.mp hfresh
      obtain ⟨htracked₂, hsite₂, -⟩ := htracked.dnsmasqStarted K hvacant aRecords
      have hsites := hsite₂.trans hsite₁
      change Consistent (K.run BaseMemcachedSolutionTest.createAndStartDns m).2.world
      rw [hrun]
      refine ⟨htracked₂, ?_, fun hnone => ?_⟩
      · rw [hsites]
        exact h.sites
      · rw [hsites] at hnone
        exact absurd (hsite.symm.trans hnone) (Option.some_ne_none s)
  | createAndStartSites =>
    let m₁ := (K.run (createAndStartSite .site1 BaseS4SolutionTest.site1Args) m).2
    let m₂ := (K.run (createAndStartSite .site2 BaseS4SolutionTest.site2Args) m₁).2
    obtain ⟨hsite₁, hdnsmasq₁⟩ :=
      statics_createAndStartSite K .site1 BaseS4SolutionTest.site1Args m
    obtain ⟨hsite₂, hdnsmasq₂⟩ :=
      statics_createAndStartSite K .site2 BaseS4SolutionTest.site2Args m₁
    have h₁ := h.siteStarted K (v := .site1) (a := BaseS4SolutionTest.site1Args) rfl
    have h₂ : Tracked m₂.world :=
      h₁.siteStarted K (v := .site2) (a := BaseS4SolutionTest.site2Args) rfl
    have hrun : K.run BaseS4SolutionTest.createAndStartSites m = K.run
        (createAndStartSite .site2 BaseS4SolutionTest.site2Args) m₁ := by
      simp only [BaseS4SolutionTest.createAndStartSites, bind_eq_bind, Kernel.run, run_bind]
      rfl
    change Consistent (K.run BaseS4SolutionTest.createAndStartSites m).2.world
    rw [hrun]
    refine ⟨h₂, ?_, ?_⟩
    · rw [hsite₂, hsite₁]
      exact ⟨fun hnone => (nomatch hnone), fun hnone => (nomatch hnone)⟩
    · rw [hsite₂, hsite₁, hdnsmasq₂, hdnsmasq₁]
      exact h.databases
  | createAndStartSitesDns aRecords =>
    obtain ⟨htracked, hsite, hdnsmasq⟩ :=
      h.dnsmasqStarted K (Option.isNone_iff_eq_none.mp hfresh) aRecords
    change Consistent (K.run (createAndStartDnsFor .s4 aRecords) m).2.world
    refine ⟨htracked, ?_, ?_⟩
    · rw [hsite]
      exact h.sites
    · rw [hsite, hdnsmasq]
      exact h.databases
  | tearDownTestCase f =>
    obtain ⟨htracked, hsite, hdnsmasq⟩ := h.tearDown K f
    change Consistent (K.run f.tearDownTestCase m).2.world
    refine ⟨htracked, ?_, ?_⟩
    · rw [hsite, hsite]
      cases f with
      | memcached => exact h.sites
      | s4 => exact Iff.rfl
    · rw [hsite, hdnsmasq]
      cases f with
      | memcached => exact fun _ => rfl
      | s4 => exact h.databases

-- A sequence forks only what is configured exactly if every call of it is fresh.
theorem forksConfigured_iff_freshRun (cs : List FixtureCall) (h : Consistent m.world) :
    Always K.step ForksConfigured (forEach cs FixtureCall.body) m ↔ freshRun K cs m = true := by
  refine ⟨fun hforks => ?_, forksConfigured_of_freshRun K⟩
  induction cs generalizing m with
  | nil => rfl
  | cons c cs ih =>
    obtain ⟨hfirst, hrest⟩ := Always.of_bind hforks
    have hfresh := c.fresh_of_forksConfigured K h hfirst
    exact (Bool.and_eq_true _ _).mpr ⟨hfresh, ih (c.consistent K h hfresh) hrest⟩

end

/-- In a sequence of calls every process is started with all its configuration files there, as the
constructors wrote them, exactly if each call finds the static pointers that it assigns to null or
has no configuration file to pass. -/
theorem configFiles_there_iff (K : Kernel) (cs : List FixtureCall) (pid : Inst → Int)
    (files : FileTree) (cwd : Path) (noisy : Option String) :
    (∀ e ∈ (forEach cs FixtureCall.body).trace K.step (Machine.initial pid files cwd noisy),
      ∀ i, e.2.forks? = some i → Configured e.1.world i) ↔
    freshRun K cs (Machine.initial pid files cwd noisy) = true :=
  forksConfigured_iff_freshRun K cs (consistent_initial pid files cwd noisy)

/-- Creations of either fixture with a `TearDownTestCase` between them, and one that starts memcached
alone. -/
def recreatingCalls : List FixtureCall :=
  [.createAndStartDatabases 1 1, .createAndStartDatabasesDns, .tearDownTestCase .memcached,
    .createAndStartDatabases 2 2, .createAndStartDatabases 1 0, .createAndStartSites,
    .createAndStartSitesDns (OrderedMap.empty.insert "rogers.site1" ["127.0.1.1", "127.0.1.2"]),
    .tearDownTestCase .s4, .createAndStartSites]

theorem configFiles_there_recreated :
    freshRun Kernel.obliging recreatingCalls
      (Machine.initial (fun _ => 0) (fun _ => none) [] none) = true ∧
    -- among the processes are Chronos processes, with three files each
    (∃ e ∈ (forEach recreatingCalls FixtureCall.body).trace Kernel.obliging.step
        (Machine.initial (fun _ => 0) (fun _ => none) [] none),
      ∃ i ∈ e.2.forks?, ∃ args ∈ e.1.world.objects i, args.kind.configFiles.length = 3) ∧
    ∀ e ∈ (forEach recreatingCalls FixtureCall.body).trace Kernel.obliging.step
        (Machine.initial (fun _ => 0) (fun _ => none) [] none),
      ∀ i, e.2.forks? = some i → Configured e.1.world i := by
  have hfresh : freshRun Kernel.obliging recreatingCalls
      (Machine.initial (fun _ => 0) (fun _ => none) [] none) = true := by
    decide +kernel
  exact ⟨hfresh, by decide +kernel, (configFiles_there_iff Kernel.obliging _ _ _ _ _).mpr hfresh⟩

/-- A second `create_and_start_databases` without a `TearDownTestCase`: the old site takes
`cluster_settings` with it before Rogers is started. -/
theorem configFiles_there_overwritten :
    ¬ ∀ (K : Kernel) (cs : List FixtureCall) (pid : Inst → Int) (files : FileTree) (cwd : Path)
      (noisy : Option String),
      ∀ e ∈ (forEach cs FixtureCall.body).trace K.step (Machine.initial pid files cwd noisy),
        ∀ i, e.2.forks? = some i → Configured e.1.world i := by
  intro hall
  let run := (forEach [.createAndStartDatabases 1 1, .createAndStartDatabases 1 1]
    FixtureCall.body).trace Kernel.obliging.step
      (Machine.initial (fun _ => 0) (fun _ => none) [] none)
  have hmissing : ∃ e ∈ run, ∃ i ∈ e.2.forks?, ∃ args ∈ e.1.world.objects i,
      ∃ path ∈ args.kind.configFiles,
        e.1.world.files (resolve e.1.world.cwd path) = none := by
    decide +kernel
  obtain ⟨e, he, i, hfork, args, hargs, path, hpath, hnone⟩ := hmissing
  obtain ⟨text, -, hholds⟩ := hall _ _ _ _ _ _ e he i hfork args hargs path hpath
  rw [Holds, hnone] at hholds
  cases hholds

end ClearwaterFv
