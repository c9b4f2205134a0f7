import Mathlib.Order.Lattice
import Mathlib.Data.List.Nodup

/-!
# OrderedMap — maps kept as lists in the order of their keys

`std::map` keeps one value for each key and is iterated in the order of the keys.  Here it is the
list of its entries with the proof that their keys increase, so that a map with a key twice cannot
be built.
-/

namespace Reasoning

/-- The entries of a map in the order of their keys. -/
structure OrderedMap (κ ν : Type) [LT κ] where
  entries : List (κ × ν)
  sorted : entries.Pairwise fun a b => a.1 < b.1

namespace OrderedMap

variable {κ ν : Type}

def empty [LT κ] : OrderedMap κ ν := ⟨[], List.Pairwise.nil⟩

instance [LT κ] : Inhabited (OrderedMap κ ν) := ⟨empty⟩

def isEmpty [LT κ] (m : OrderedMap κ ν) : Bool := m.entries.isEmpty

def keys [LT κ] (m : OrderedMap κ ν) : List κ := m.entries.map Prod.fst

/-- `at`, which throws when the key is missing. -/
def at? [LT κ] [DecidableEq κ] (m : OrderedMap κ ν) (k : κ) : Option ν :=
  (m.entries.find? fun e => e.1 = k).map Prod.snd

theorem keys_nodup [Preorder κ] (m : OrderedMap κ ν) : m.keys.Nodup := by
  unfold keys
  rw [List.Nodup, List.pairwise_map]
  exact m.sorted.imp fun h => ne_of_lt h

/-- An entry is determined by its key. -/
theorem entry_unique [Preorder κ] (m : OrderedMap κ ν) {a b : κ × ν} (ha : a ∈ m.entries)
    (hb : b ∈ m.entries) (h : a.1 = b.1) : a = b :=
  List.inj_on_of_nodup_map m.keys_nodup ha hb h

theorem at?_eq_some_iff [Preorder κ] [DecidableEq κ] (m : OrderedMap κ ν) (k : κ) (v : ν) :
    m.at? k = some v ↔ (k, v) ∈ m.entries := by
  unfold at?
  constructor
  · intro h
    obtain ⟨e, hfind, rfl⟩ := Option.map_eq_some_iff.mp h
    have hkey : e.1 = k := by simpa using List.find?_some hfind
    rw [← hkey]
    exact List.mem_of_find?_eq_some hfind
  · intro h
    cases hfind : m.entries.find? fun e => e.1 = k with
    | none =>
      have hne := List.find?_eq_none.mp hfind _ h
      simp only [decide_true, not_true_eq_false] at hne
    | some e =>
      have hkey : e.1 = k := by simpa using List.find?_some hfind
      rw [m.entry_unique (List.mem_of_find?_eq_some hfind) h hkey]
      rfl

/-- Of the lists that a map holds, those that are kept under the key. -/
theorem flatMap_at_key [Preorder κ] [DecidableEq κ] (m : OrderedMap κ (List ν)) (k : κ) :
    (m.entries.flatMap fun e => if e.1 = k then e.2 else []) = (m.at? k).getD [] := by
  unfold at?
  obtain ⟨entries, hsorted⟩ := m
  induction entries with
  | nil => rfl
  | cons e es ih =>
    obtain ⟨hhead, htail⟩ := List.pairwise_cons.mp hsorted
    change ((e :: es).flatMap fun e => if e.1 = k then e.2 else []) =
      (((e :: es).find? fun e => e.1 = k).map Prod.snd).getD []
    rw [List.flatMap_cons]
    by_cases hkey : e.1 = k
    · have hothers : (es.flatMap fun e => if e.1 = k then e.2 else []) = [] := by
        rw [List.flatMap_eq_nil_iff]
        intro e' he'
        exact if_neg fun h => (ne_of_lt (hhead e' he')) (hkey.trans h.symm)
      rw [if_pos hkey, hothers, List.append_nil]
      simp only [List.find?_cons, hkey, decide_true, Option.map_some, Option.getD_some]
    · rw [if_neg hkey, List.nil_append]
      simp only [List.find?_cons, hkey, decide_false]
      exact ih htail

/-! ## Building a map -/

/-- Insert the entry, or give the key its new value. -/
def insertEntry [LT κ] [DecidableLT κ] [DecidableEq κ] (k : κ) (v : ν) :
    List (κ × ν) → List (κ × ν)
  | [] => [(k, v)]
  | e :: es =>
    if k < e.1 then (k, v) :: e :: es
    else if k = e.1 then (k, v) :: es
    else e :: insertEntry k v es

theorem key_of_mem_insertEntry [LT κ] [DecidableLT κ] [DecidableEq κ] {k : κ} {v : ν}
    {es : List (κ × ν)} {e : κ × ν} (h : e ∈ insertEntry k v es) : e = (k, v) ∨ e ∈ es := by
  induction es with
  | nil => exact Or.inl (List.mem_singleton.mp h)
  | cons e' es ih =>
    unfold insertEntry at h
    split at h
    · exact List.mem_cons.mp h
    · split at h
      · rcases List.mem_cons.mp h with h | h
        · exact Or.inl h
        · exact Or.inr (List.mem_cons_of_mem _ h)
      · rcases List.mem_cons.mp h with h | h
        · exact Or.inr (h ▸ List.mem_cons_self)
        · exact (ih h).imp_right (List.mem_cons_of_mem _)

theorem insertEntry_sorted [LinearOrder κ] (k : κ) (v : ν) {es : List (κ × ν)}
    (h : es.Pairwise fun a b => a.1 < b.1) :
    (insertEntry k v es).Pairwise fun a b => a.1 < b.1 := by
  induction es with
  | nil => exact List.pairwise_singleton _ _
  | cons e es ih =>
    obtain ⟨hhead, htail⟩ := List.pairwise_cons.mp h
    unfold insertEntry
    split
    · rename_i hlt
      refine List.pairwise_cons.mpr ⟨fun e' he' => ?_, h⟩
      rcases List.mem_cons.mp he' with rfl | he'
      · exact hlt
      · exact lt_trans hlt (hhead e' he')
    · rename_i hlt
      split
      · rename_i heq
        exact List.pairwise_cons.mpr ⟨fun e' he' => heq ▸ hhead e' he', htail⟩
      · rename_i hne
        refine List.pairwise_cons.mpr ⟨fun e' he' => ?_, ih htail⟩
        rcases key_of_mem_insertEntry he' with rfl | he'
        · exact lt_of_le_of_ne (not_lt.mp hlt) (Ne.symm hne)
        · exact hhead e' he'

/-- `m[k] = v`. -/
def insert [LinearOrder κ] (m : OrderedMap κ ν) (k : κ) (v : ν) : OrderedMap κ ν :=
  ⟨insertEntry k v m.entries, insertEntry_sorted k v m.sorted⟩

/-- `emplace`: a key that is there keeps its value. -/
def emplace [LinearOrder κ] (m : OrderedMap κ ν) (k : κ) (v : ν) : OrderedMap κ ν :=
  if (m.at? k).isSome then m else m.insert k v

end OrderedMap

end Reasoning
