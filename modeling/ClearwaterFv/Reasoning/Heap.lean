import Mathlib.Data.List.Basic

/-!
# Heap — objects that use each other

What is on the heap, each object with the objects that it uses.  An object may be deleted when it
is there and nothing there uses it; it may be used when it is there with all that it uses.
-/

namespace Reasoning

/-- An object at its address, with the addresses of the objects that it uses. -/
structure HeapObject (α : Type) where
  address : Nat
  content : α
  uses : List Nat
deriving DecidableEq

/-- The objects that are on the heap, the newest first, and an address that is yet unused. -/
structure Heap (α : Type) where
  next : Nat
  live : List (HeapObject α)

namespace Heap

variable {α : Type}

def empty : Heap α := { next := 0, live := [] }

/-- A new object, whose address has not been used before. -/
def new (h : Heap α) (content : α) (uses : List Nat) : Heap α :=
  { next := h.next + 1, live := ⟨h.next, content, uses⟩ :: h.live }

def delete (h : Heap α) (p : Nat) : Heap α :=
  { h with live := h.live.filter fun o => o.address ≠ p }

/-- The object at an address. -/
def at? (h : Heap α) (p : Nat) : Option α :=
  (h.live.find? fun o => o.address = p).map HeapObject.content

/-- The object is there, and nothing there uses it. -/
structure Deletable (h : Heap α) (p : Nat) : Prop where
  live : ∃ o ∈ h.live, o.address = p
  unused : ∀ o ∈ h.live, p ∉ o.uses

/-- The object is there, and so is all that is used by what is there. -/
structure Usable (h : Heap α) (p : Nat) : Prop where
  live : ∃ o ∈ h.live, o.address = p
  closed : ∀ o ∈ h.live, ∀ q ∈ o.uses, ∃ o' ∈ h.live, o'.address = q

@[simp] theorem live_new (h : Heap α) (content : α) (uses : List Nat) :
    (h.new content uses).live = ⟨h.next, content, uses⟩ :: h.live := rfl

@[simp] theorem next_new (h : Heap α) (content : α) (uses : List Nat) :
    (h.new content uses).next = h.next + 1 := rfl

/-! ## Heaps whose objects only use older ones -/

/-- Each object is above the older ones and below the bound, and uses only older ones. -/
def Stacked : Nat → List (HeapObject α) → Prop
  | _, [] => True
  | bound, o :: older =>
    o.address < bound ∧ (∀ q ∈ o.uses, ∃ o' ∈ older, o'.address = q) ∧ Stacked o.address older

variable {bound : Nat} {o : HeapObject α} {objects older : List (HeapObject α)}

theorem Stacked.mono {bound' : Nat} (h : Stacked bound objects) (hle : bound ≤ bound') :
    Stacked bound' objects := by
  cases objects with
  | nil => trivial
  | cons o older => exact ⟨Nat.lt_of_lt_of_le h.1 hle, h.2⟩

theorem Stacked.address_lt (h : Stacked bound objects) : ∀ o ∈ objects, o.address < bound := by
  induction objects generalizing bound with
  | nil => exact fun o ho => absurd ho List.not_mem_nil
  | cons o older ih =>
    intro o' ho'
    rcases List.mem_cons.mp ho' with rfl | ho'
    · exact h.1
    · exact Nat.lt_trans (ih h.2.2 o' ho') h.1

-- All that is used is there.
theorem Stacked.closed (h : Stacked bound objects) :
    ∀ o ∈ objects, ∀ q ∈ o.uses, ∃ o' ∈ objects, o'.address = q := by
  induction objects generalizing bound with
  | nil => exact fun o ho => absurd ho List.not_mem_nil
  | cons o older ih =>
    intro o' ho' q hq
    have hfound : ∃ o'' ∈ older, o''.address = q := by
      rcases List.mem_cons.mp ho' with rfl | ho'
      · exact h.2.1 q hq
      · exact ih h.2.2 o' ho' q hq
    obtain ⟨o'', ho'', haddress⟩ := hfound
    exact ⟨o'', List.mem_cons_of_mem _ ho'', haddress⟩

theorem Stacked.usable {h : Heap α} (hs : Stacked h.next h.live) (ho : o ∈ h.live) :
    h.Usable o.address :=
  ⟨⟨o, ho, rfl⟩, hs.closed⟩

-- No object uses the newest one.
theorem Stacked.deletable {h : Heap α} (hs : Stacked h.next h.live)
    (hlive : h.live = o :: older) : h.Deletable o.address := by
  rw [hlive] at hs
  have hbelow : ∀ o' ∈ older, o'.address < o.address := hs.2.2.address_lt
  refine ⟨⟨o, by rw [hlive]; exact List.mem_cons_self, rfl⟩, fun o' ho' hin => ?_⟩
  rw [hlive] at ho'
  have hused : ∃ o'' ∈ older, o''.address = o.address := by
    rcases List.mem_cons.mp ho' with rfl | ho'
    · exact hs.2.1 _ hin
    · exact hs.2.2.closed o' ho' _ hin
  obtain ⟨o'', ho'', heq⟩ := hused
  exact absurd (hbelow o'' ho'') (by omega)

theorem Stacked.new {h : Heap α} (hs : Stacked h.next h.live) (content : α) {uses : List Nat}
    (huses : ∀ q ∈ uses, ∃ o ∈ h.live, o.address = q) :
    Stacked (h.new content uses).next (h.new content uses).live :=
  ⟨Nat.lt_succ_self _, huses, hs⟩

/-- Deleting the newest object leaves the older ones. -/
theorem Stacked.live_delete {h : Heap α} (hs : Stacked h.next h.live)
    (hlive : h.live = o :: older) : (h.delete o.address).live = older := by
  rw [hlive] at hs
  have hbelow : ∀ o' ∈ older, o'.address < o.address := hs.2.2.address_lt
  have hkept : older.filter (fun o' => o'.address ≠ o.address) = older := by
    apply List.filter_eq_self.mpr
    intro o' ho'
    exact decide_eq_true (Nat.ne_of_lt (hbelow o' ho'))
  have hgone : decide (o.address ≠ o.address) = false := decide_eq_false (not_not_intro rfl)
  change h.live.filter (fun o' => o'.address ≠ o.address) = older
  rw [hlive, List.filter_cons, hgone, hkept]
  rfl

theorem Stacked.delete {h : Heap α} (hs : Stacked h.next h.live)
    (hlive : h.live = o :: older) :
    Stacked (h.delete o.address).next (h.delete o.address).live := by
  rw [hs.live_delete hlive]
  rw [hlive] at hs
  exact hs.2.2.mono (Nat.le_of_lt hs.1)

end Heap

end Reasoning
