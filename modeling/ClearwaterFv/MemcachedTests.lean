import ClearwaterFv.Expectations

/-!
# MemcachedTests — the expectations of each memcached test

Each test is followed from a state in which the databases hold nothing under its key.
-/

open Reasoning Reasoning.Prog

namespace ClearwaterFv

section

variable {B : Backend} {rogersIps : List String} {L : Limits} {C : Contract B rogersIps L}
  {keys : List String} {s : Client B} {key data dataOut : String} {lo hi cas version expires : Nat}

/-! ## SimpleMemcachedSolutionTest -/

theorem meets_updateThenDelete (hL : L.Prompt) (hs : Known C key ⟨none, version⟩ lo lo s) :
    Meets [key] (SimpleMemcachedSolutionTest.updateThenDelete key) (fun _ _ => True) s := by
  have hkey : key ∈ [key] := List.mem_cons_self
  have hlong := hL.long
  refine Wp.bind (meets_addThenGet hL hkey hs fun s₁ expires₁ version₁ h₁ hzero₁ hleast₁ => ?_)
  refine Wp.bind (meets_update hkey h₁ (by omega) fun s₂ expires₂ version₂ h₂ => ?_)
  have hleast₂ := h₂.least
  rw [micros_defaultExpiry] at hleast₂
  refine Wp.bind (meets_getExpectingData hkey h₂.known (by omega) fun s₃ h₃ _ => ?_)
  refine Wp.bind (meets_deleteOk hkey h₃ fun s₄ version₄ h₄ _ => ?_)
  exact Wp.bind (meets_getNotFound hkey h₄ (fun _ _ => rfl) fun _ _ => Wp.ret trivial)

theorem meets_addGetTwoKeys (hL : L.Prompt) {key2 data2 : String} {version2 : Nat}
    (hne : key2 ≠ key) (hs : Known C key ⟨none, version⟩ lo lo s)
    (hs2 : Known C key2 ⟨none, version2⟩ lo lo s) :
    Meets [key, key2]
      ((setExpecting .ok key data 0 defaultExpiry).bind fun _ =>
        (setExpecting .ok key2 data2 0 defaultExpiry).bind fun _ =>
          (getExpectingData key data "" 0).bind fun _ =>
            (getExpectingData key2 data2 "" 0).bind fun _ => Prog.ret ())
      (fun _ _ => True) s := by
  have hkey : key ∈ [key, key2] := List.mem_cons_self
  have hkey2 : key2 ∈ [key, key2] := List.mem_cons_of_mem _ List.mem_cons_self
  have hlong := hL.long
  refine Wp.bind (meets_add hkey hs fun s₁ expires₁ version₁ h₁ => ?_)
  have hs2₁ : Known C key2 ⟨none, version2⟩ lo (lo + L.latency) s₁ :=
    hs2.later h₁.known.online (h₁.others key2 hne) h₁.known.lo_le h₁.known.le_hi
  refine Wp.bind (meets_add hkey2 hs2₁ fun s₂ expires₂ version₂ h₂ => ?_)
  have hleast₁ := h₁.least
  have hleast₂ := h₂.least
  rw [micros_defaultExpiry] at hleast₁ hleast₂
  have h₁₂ := h₁.known.later h₂.known.online (h₂.others key hne.symm) h₂.known.lo_le
    h₂.known.le_hi
  refine Wp.bind (meets_getExpectingData hkey h₁₂ (by omega) fun s₃ h₃ hcells => ?_)
  have h₂₃ := h₂.known.later h₃.online (congrFun hcells key2) h₃.lo_le h₃.le_hi
  exact Wp.bind (meets_getExpectingData hkey2 h₂₃ (by omega) fun _ _ _ => Wp.ret trivial)

theorem meets_addGetExpire (hL : L.Prompt) (hs : Known C key ⟨none, version⟩ lo lo s) :
    Meets [key] (SimpleMemcachedSolutionTest.script key .addGetExpire) (fun _ _ => True) s := by
  have hkey : key ∈ [key] := List.mem_cons_self
  have hshort := hL.short
  have hsettles := hL.settles
  have hsecond : micros 1 = 1000000 := rfl
  refine Wp.bind (meets_add hkey hs fun s₁ expires version₁ h₁ => ?_)
  have hleast := h₁.least
  have hmost := h₁.most
  have hhi := h₁.known.le_hi
  rw [hsecond] at hleast hmost
  refine Wp.bind (meets_getExpectingData hkey h₁.known.now (by omega) fun s₂ h₂ _ => ?_)
  refine Wp.bind (meets_usleep h₂ fun s₃ hi₃ h₃ => ?_)
  exact Wp.bind (meets_getNotFound hkey h₃ (fun t ht => Cell.found_expired (by omega))
    fun _ _ => Wp.ret trivial)

theorem meets_addSetSetDataContentionSet (hL : L.Prompt)
    (hs : Known C key ⟨none, version⟩ lo lo s) :
    Meets [key] (SimpleMemcachedSolutionTest.script key .addSetSetDataContentionSet)
      (fun _ _ => True) s := by
  have hkey : key ∈ [key] := List.mem_cons_self
  have hlong := hL.long
  refine Wp.bind (meets_addThenGet hL hkey hs fun s₁ expires₁ version₁ h₁ hzero₁ hleast₁ => ?_)
  refine Wp.bind (meets_update hkey h₁ (by omega) fun s₂ expires₂ version₂ h₂ => ?_)
  have hleast₂ := h₂.least
  rw [micros_defaultExpiry] at hleast₂
  refine Wp.bind (meets_updateStale hkey h₂.known (by omega) h₂.fresh.symm fun s₃ h₃ => ?_)
  refine Wp.bind (meets_getExpectingData hkey h₃ (by omega) fun s₄ h₄ _ => ?_)
  refine Wp.bind (meets_update hkey h₄ (by omega) fun s₅ expires₅ version₅ h₅ => ?_)
  have hleast₅ := h₅.least
  rw [micros_defaultExpiry] at hleast₅
  exact Wp.bind (meets_getExpectingData hkey h₅.known (by omega) fun _ _ _ => Wp.ret trivial)

theorem meets_addSetCASDeleteDataContentionCASDelete (hL : L.Prompt)
    (hs : Known C key ⟨none, version⟩ lo lo s) :
    Meets [key] (SimpleMemcachedSolutionTest.script key .addSetCASDeleteDataContentionCASDelete)
      (fun _ _ => True) s := by
  have hkey : key ∈ [key] := List.mem_cons_self
  have hlong := hL.long
  refine Wp.bind (meets_addThenGet hL hkey hs fun s₁ expires₁ version₁ h₁ hzero₁ hleast₁ => ?_)
  refine Wp.bind (meets_update hkey h₁ (by omega) fun s₂ expires₂ version₂ h₂ => ?_)
  have hleast₂ := h₂.least
  rw [micros_defaultExpiry] at hleast₂
  refine Wp.bind (meets_updateStale hkey h₂.known (by omega) h₂.fresh.symm fun s₃ h₃ => ?_)
  refine Wp.bind (meets_getExpectingData hkey h₃ (by omega) fun s₄ h₄ _ => ?_)
  refine Wp.bind (meets_update hkey h₄ (by omega) fun s₅ expires₅ version₅ h₅ => ?_)
  refine Wp.bind_assoc (Wp.bind (meets_expire hL hkey (by decide) h₅ fun _ _ => Wp.ret trivial))

theorem meets_addAddDataContention (hL : L.Prompt) (hs : Known C key ⟨none, version⟩ lo lo s) :
    Meets [key] (SimpleMemcachedSolutionTest.script key .addAddDataContention)
      (fun _ _ => True) s := by
  have hkey : key ∈ [key] := List.mem_cons_self
  have hlong := hL.long
  refine Wp.bind (meets_add hkey hs fun s₁ expires₁ version₁ h₁ => ?_)
  have hleast₁ := h₁.least
  rw [micros_defaultExpiry] at hleast₁
  refine Wp.bind (meets_updateStale hkey h₁.known (by omega) h₁.nonzero.symm fun s₂ h₂ => ?_)
  exact Wp.bind (meets_getExpectingData hkey h₂ (by omega) fun _ _ _ => Wp.ret trivial)

theorem meets_addDelete (hL : L.Prompt) (hs : Known C key ⟨none, version⟩ lo lo s) :
    Meets [key] (SimpleMemcachedSolutionTest.script key .addDelete) (fun _ _ => True) s := by
  have hkey : key ∈ [key] := List.mem_cons_self
  refine Wp.bind (meets_addThenGet hL hkey hs fun s₁ expires₁ version₁ h₁ hzero₁ hleast₁ => ?_)
  refine Wp.bind (meets_deleteOk hkey h₁ fun s₂ version₂ h₂ _ => ?_)
  exact Wp.bind (meets_getNotFound hkey h₂ (fun _ _ => rfl) fun _ _ => Wp.ret trivial)

theorem meets_addDeleteAdd (hL : L.Prompt) (hs : Known C key ⟨none, version⟩ lo lo s) :
    Meets [key] (SimpleMemcachedSolutionTest.script key .addDeleteAdd) (fun _ _ => True) s := by
  have hkey : key ∈ [key] := List.mem_cons_self
  have hlong := hL.long
  refine Wp.bind (meets_addThenGet hL hkey hs fun s₁ expires₁ version₁ h₁ hzero₁ hleast₁ => ?_)
  refine Wp.bind (meets_deleteOk hkey h₁ fun s₂ version₂ h₂ _ => ?_)
  refine Wp.bind (meets_getNotFound hkey h₂ (fun _ _ => rfl) fun s₃ h₃ => ?_)
  -- what the `get_data` has left in `cas` is the version that the deletion gave
  refine Wp.bind (meets_setOk hkey h₃ (fun _ _ _ => Cell.accepts_blank.mpr (Or.inl rfl))
    fun s₄ expires₄ version₄ h₄ => ?_)
  have hleast₄ := h₄.least
  rw [micros_defaultExpiry] at hleast₄
  exact Wp.bind (meets_getExpectingData hkey h₄.known (by omega) fun _ _ _ => Wp.ret trivial)

theorem meets_addDeleteSetDataContention (hL : L.Prompt)
    (hs : Known C key ⟨none, version⟩ lo lo s) :
    Meets [key] (SimpleMemcachedSolutionTest.script key .addDeleteSetDataContention)
      (fun _ _ => True) s := by
  have hkey : key ∈ [key] := List.mem_cons_self
  refine Wp.bind (meets_addThenGet hL hkey hs fun s₁ expires₁ version₁ h₁ hzero₁ hleast₁ => ?_)
  refine Wp.bind (meets_deleteOk hkey h₁ fun s₂ version₂ h₂ hnew => ?_)
  refine meets_setContention hkey h₂ (fun t _ _ hyes => ?_) fun _ _ => trivial
  rcases Cell.accepts_blank.mp hyes with heq | hzero
  · exact hnew (Option.some_ne_none _) heq.symm
  · exact hzero₁ hzero

theorem meets_connectUsingIpAddress (hL : L.Prompt) (hs : Known C key ⟨none, version⟩ lo lo s)
    (hreaches : Reaches rogersIps (rogersIps.headD "")) :
    Meets [key] (SimpleMemcachedSolutionTest.script key .connectUsingIpAddress)
      (fun _ _ => True) s := by
  have hips := hs.online.ips
  refine Wp.bind (Wp.perform trivial (Wp.bind (Wp.perform trivial (Wp.bind ?_))))
  have hfirst : ((s.step .deleteStore).2.step .getRogersIps).1.headD "" = rogersIps.headD "" :=
    congrArg (fun ips => List.headD ips "") hips
  rw [hfirst]
  refine meets_newStore hips hreaches fun s' hon hsame => ?_
  exact meets_updateThenDelete hL (hs.through hon hsame)

theorem meets_domainAndPort (hL : L.Prompt) (hs : Known C key ⟨none, version⟩ lo lo s)
    (hreaches : Reaches rogersIps "rogers.local:11311") :
    Meets [key] (SimpleMemcachedSolutionTest.script key .domainAndPort) (fun _ _ => True) s :=
  Wp.bind (meets_renewStore hs.online.ips hreaches fun _ hon hsame =>
    meets_updateThenDelete hL (hs.through hon hsame))

theorem meets_badDomainName (C : Contract B rogersIps L)
    (hunreached : ¬ Reaches rogersIps "bad.domain.name") :
    Meets [key] (SimpleMemcachedSolutionTest.script key .badDomainName) (fun _ _ => True) s := by
  have hkey : key ∈ [key] := List.mem_cons_self
  refine Wp.bind (Wp.bind (Wp.perform trivial (Wp.perform trivial ?_)))
  have hoff : Offline rogersIps ((s.step .deleteStore).2.step (.newStore "bad.domain.name")).2 := by
    unfold Offline
    rw [targetDomain_newStore]
    exact hunreached
  refine Wp.bind (meets_setError C hkey hoff fun s₁ h₁ => ?_)
  refine Wp.bind (meets_getError C hkey h₁ fun s₂ h₂ => ?_)
  exact meets_deleteError C hkey h₂ fun _ _ => trivial

/-! ## MemcachedSolutionFailureTest -/

theorem meets_killAddGet (hL : L.Prompt) (hs : Known C key ⟨none, version⟩ lo lo s) :
    Meets [key] (MemcachedSolutionFailureTest.script key .killAddGet) (fun _ _ => True) s := by
  have hkey : key ∈ [key] := List.mem_cons_self
  refine Wp.bind (meets_triggerFailure hs fun s₁ version₁ h₁ _ => ?_)
  refine Wp.bind (meets_addThenGet hL hkey h₁.now fun s₂ expires₂ version₂ h₂ _ _ => ?_)
  exact meets_fixFailure h₂.online fun _ _ => trivial

theorem meets_addKillGet (hL : L.Prompt) (hs : Known C key ⟨none, version⟩ lo lo s) :
    Meets [key] ((addKillThenGet key data).bind fun _ => call .fixFailure)
      (fun _ _ => True) s :=
  Wp.bind (meets_addKillThenGet hL List.mem_cons_self hs fun _ _ _ h₁ _ _ =>
    meets_fixFailure h₁.online fun _ _ => trivial)

theorem meets_addKillGetExpire (hL : L.Prompt) (hs : Known C key ⟨none, version⟩ lo lo s) :
    Meets [key] (MemcachedSolutionFailureTest.script key .addKillGetExpire)
      (fun _ _ => True) s := by
  have hkey : key ∈ [key] := List.mem_cons_self
  have hsettles := hL.settles
  have hsecond : micros 1 = 1000000 := rfl
  refine Wp.bind (meets_add hkey hs fun s₁ expires version₁ h₁ => ?_)
  have hmost := h₁.most
  rw [hsecond] at hmost
  refine Wp.bind (meets_triggerFailure h₁.known.now fun s₂ version₂ h₂ _ => ?_)
  refine Wp.bind (meets_usleep h₂ fun s₃ hi₃ h₃ => ?_)
  refine Wp.bind (meets_getNotFound hkey h₃ (fun t ht => Cell.found_expired (by omega))
    fun s₄ h₄ => ?_)
  exact meets_fixFailure h₄.online fun _ _ => trivial

theorem meets_addDeleteKill (hL : L.Prompt) (hs : Known C key ⟨none, version⟩ lo lo s) :
    Meets [key] (MemcachedSolutionFailureTest.script key .addDeleteKill) (fun _ _ => True) s := by
  have hkey : key ∈ [key] := List.mem_cons_self
  refine Wp.bind (meets_addThenGet hL hkey hs fun s₁ expires₁ version₁ h₁ _ _ => ?_)
  refine Wp.bind (meets_deleteOk hkey h₁ fun s₂ version₂ h₂ _ => ?_)
  refine Wp.bind (meets_triggerFailure h₂ fun s₃ version₃ h₃ _ => ?_)
  refine Wp.bind (meets_getNotFound hkey h₃ (fun _ _ => rfl) fun s₄ h₄ => ?_)
  exact meets_fixFailure h₄.online fun _ _ => trivial

theorem meets_addKillCASDelete (hL : L.Prompt) (hs : Known C key ⟨none, version⟩ lo lo s) :
    Meets [key] (MemcachedSolutionFailureTest.script key .addKillCASDelete)
      (fun _ _ => True) s := by
  have hkey : key ∈ [key] := List.mem_cons_self
  have hlong := hL.long
  refine Wp.bind (meets_addKillThenGet hL hkey hs fun s₁ expires₁ version₁ h₁ _ hleast₁ => ?_)
  refine Wp.bind (meets_update hkey h₁ (by omega) fun s₂ expires₂ version₂ h₂ => ?_)
  refine Wp.bind_assoc (Wp.bind (meets_expire hL hkey (by decide) h₂ fun s₃ hon => ?_))
  exact meets_fixFailure hon fun _ _ => trivial

-- Whether the first update is stored, or refused and made again with what is read then: in the end
-- the new value is there, and what is left in `cas` is not its version.
theorem meets_updateRetrying {old : String} {Q : String × Nat → Client B → Prop}
    (hkey : key ∈ keys) (hs : Known C key ⟨some (old, expires), version⟩ lo hi s)
    (hlive : hi + L.latency + L.latency + L.latency < expires) (hold : old ≠ data)
    (h : ∀ s' expires' version' cas', cas' ≠ version' → lo + 60000000 ≤ expires' + L.slack →
      Known C key ⟨some (data, expires'), version'⟩ lo
        (hi + L.latency + L.latency + L.latency) s' → Q (old, cas') s') :
    Meets keys (MemcachedSolutionFailureTest.updateRetrying key data old cas) Q s := by
  refine Wp.bind (meets_setData hkey hs ?_ ?_)
  · intro t s₁ expires₁ version₁ _ ht haccepts h₁
    refine Wp.bind (meets_expect (Or.inr rfl) (Wp.ret ?_))
    have hcas : cas = version := (Cell.accepts_live (by omega)).mp haccepts
    have hne : cas ≠ version₁ := fun heq => h₁.fresh (heq.symm.trans hcas)
    refine h s₁ expires₁ version₁ cas hne h₁.least
      (h₁.known.later h₁.known.online rfl h₁.known.lo_le ?_)
    have hhi := h₁.known.le_hi
    omega
  · intro t s₁ _ _ _ h₁
    refine Wp.bind (meets_expect (Or.inl rfl) (Wp.bind (meets_getData hkey h₁ ?_)))
    intro t s₂ _ ht h₂ _
    rw [Cell.found_live (by omega)]
    refine Wp.bind (meets_expect rfl (Wp.bind (meets_expect hold (Wp.bind ?_))))
    refine meets_update hkey h₂ (by omega) fun s₃ expires₃ version₃ h₃ => Wp.ret ?_
    exact h s₃ expires₃ version₃ version h₃.fresh.symm h₃.least h₃.known

theorem meets_addKillSetSet (hL : L.Prompt) (hrogers : Reaches rogersIps "rogers.local")
    (hs : Known C key ⟨none, version⟩ lo lo s) :
    Meets [key] (MemcachedSolutionFailureTest.addKillSetSet key)
      (fun _ s' => Online rogersIps s') s := by
  have hkey : key ∈ [key] := List.mem_cons_self
  have hlong := hL.long
  refine Wp.bind (meets_addThenGet hL hkey hs fun s₁ expires₁ version₁ h₁ _ hleast₁ => ?_)
  refine Wp.bind (meets_triggerFailure h₁ fun s₂ version₂ h₂ _ => ?_)
  refine Wp.bind (meets_updateRetrying hkey h₂ (by omega) ?_
    fun s₃ expires₃ version₃ cas₃ hcas₃ hleast₃ h₃ => ?_)
  · decide
  refine Wp.bind (meets_updateStale hkey h₃ (by omega) hcas₃ fun s₄ h₄ => ?_)
  refine Wp.bind (meets_getExpectingData hkey h₄ (by omega) fun s₅ h₅ _ => ?_)
  refine Wp.bind (meets_update hkey h₅ (by omega) fun s₆ expires₆ version₆ h₆ => ?_)
  have hleast₆ := h₆.least
  rw [micros_defaultExpiry] at hleast₆
  refine Wp.bind (meets_getExpectingData hkey h₆.known (by omega) fun s₇ h₇ _ => ?_)
  refine Wp.bind (meets_fixFailure h₇.online fun s₈ h₈ => ?_)
  exact meets_renewStore h₈.ips hrogers fun _ hon _ => hon

/-! ## LargerClustersMemcachedSolutionTest -/

theorem meets_addKillGetSet (hL : L.Prompt) (hs : Known C key ⟨none, version⟩ lo lo s) :
    Meets [key] (LargerClustersMemcachedSolutionTest.script key .addKillGetSet)
      (fun _ _ => True) s := by
  have hkey : key ∈ [key] := List.mem_cons_self
  have hlong := hL.long
  refine Wp.bind (meets_addKillThenGet hL hkey hs fun s₁ expires₁ version₁ h₁ _ hleast₁ => ?_)
  refine Wp.bind (meets_update hkey h₁ (by omega) fun s₂ expires₂ version₂ h₂ => ?_)
  have hleast₂ := h₂.least
  rw [micros_defaultExpiry] at hleast₂
  refine Wp.bind (meets_getExpectingData hkey h₂.known (by omega) fun s₃ h₃ _ => ?_)
  exact meets_fixFailure h₃.online fun _ _ => trivial

end

end ClearwaterFv
