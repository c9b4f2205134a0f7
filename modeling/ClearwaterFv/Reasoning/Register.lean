import Mathlib.Data.List.Basic

/-!
# Register — a register with compare-and-swap

Every value that is stored gets a version that no value of the register has had before.  A reader
keeps the value with its version, and a swap is given the version that the new value is to replace.
Whoever still holds the current version still holds the current value.
-/

namespace Reasoning

/-- A register holding an `α`, with versions from `V`. -/
structure Register (α V : Type) where
  value : α
  version : V
  -- every version that the register has given out
  used : List V
  version_used : version ∈ used

namespace Register

variable {α V : Type}

/-- How a swap is answered. -/
inductive Answer where
  | stored
  | refused
  | failed
deriving DecidableEq

/-- `r.Swap data cas answer r'`: asked to replace the value with version `cas`, the register `r`
may answer so, and become `r'`.  A swap may fail for reasons of its own, and then changes
nothing. -/
inductive Swap (r : Register α V) (data : α) (cas : V) : Answer → Register α V → Prop where
  | stored {version : V} (hcas : cas = r.version) (hfresh : version ∉ r.used) :
      Swap r data cas .stored ⟨data, version, version :: r.used, List.mem_cons_self⟩
  | refused (hcas : cas ≠ r.version) : Swap r data cas .refused r
  | failed : Swap r data cas .failed r

/-- What a reader of the register knows who has read the value with the version. -/
structure Read (r : Register α V) (data : α) (cas : V) : Prop where
  used : cas ∈ r.used
  current : cas = r.version → data = r.value

variable {r r' : Register α V} {data data' : α} {cas cas' : V} {answer : Answer}

theorem read_current (r : Register α V) : r.Read r.value r.version := ⟨r.version_used, fun _ => rfl⟩

/-- It stays true when others swap. -/
theorem Read.swap (h : r.Read data cas) (hswap : r.Swap data' cas' answer r') :
    r'.Read data cas := by
  cases hswap with
  | stored hcas hfresh =>
    refine ⟨List.mem_cons_of_mem _ h.used, fun heq => ?_⟩
    have hused := h.used
    rw [heq] at hused
    exact absurd hused hfresh
  | refused _ => exact h
  | failed => exact h

/-- A swap that is stored replaces the value that its reader has read. -/
theorem Swap.value_of_stored (hswap : r.Swap data' cas .stored r') (h : r.Read data cas) :
    r.value = data ∧ r'.value = data' := by
  cases hswap with
  | stored hcas _ => exact ⟨(h.current hcas).symm, rfl⟩

theorem Swap.eq_of_not_stored (hswap : r.Swap data cas answer r') (hne : answer ≠ .stored) :
    r' = r := by
  cases hswap with
  | stored => exact absurd rfl hne
  | refused _ => rfl
  | failed => rfl

theorem Swap.ne_of_refused (hswap : r.Swap data cas .refused r') : cas ≠ r.version := by
  cases hswap with
  | refused hcas => exact hcas

end Register

end Reasoning
