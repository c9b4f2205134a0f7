import Mathlib.Data.Fintype.Card
import Mathlib.Data.Fintype.Basic

/-!
# Attempts — how often optimistic attempts can be refused

Each of finitely many parties starts an attempt, and then commits it, sees it refused, or drops
it.  When an attempt is refused only if another has committed since it was started, every commit
pays for at most one refusal of each other party.
-/

namespace Reasoning

/-- What happens to an attempt of the party `t`. -/
inductive Attempt (ι : Type) where
  | start (t : ι)
  | commit (t : ι)
  | refuse (t : ι)
  | drop (t : ι)

namespace Attempt

variable {ι : Type} [DecidableEq ι]

/-- Whether another party has committed since the last event of `t`.  The history has its newest
event first. -/
def overtaken (t : ι) : List (Attempt ι) → Bool
  | [] => false
  | commit u :: _ => decide (u ≠ t)
  | start u :: h | refuse u :: h | drop u :: h => if u = t then false else overtaken t h

def isCommit : Attempt ι → Bool
  | commit _ => true
  | _ => false

def isRefuse : Attempt ι → Bool
  | refuse _ => true
  | _ => false

/-- Attempts are refused only when they have been overtaken. -/
def Justified : List (Attempt ι) → Prop
  | [] => True
  | refuse t :: h => overtaken t h = true ∧ Justified h
  | _ :: h => Justified h

variable [Fintype ι]

/-- The parties that have been overtaken. -/
def overtakenSet (h : List (Attempt ι)) : Finset ι := Finset.univ.filter fun t => overtaken t h

theorem mem_overtakenSet {h : List (Attempt ι)} {t : ι} :
    t ∈ overtakenSet h ↔ overtaken t h = true := by
  unfold overtakenSet
  rw [Finset.mem_filter]
  exact and_iff_right (Finset.mem_univ t)

/-- An event of `t` other than a commit takes `t` out, and adds nobody. -/
theorem overtakenSet_own {h h' : List (Attempt ι)} {t : ι}
    (hown : ∀ u, overtaken u h' = if t = u then false else overtaken u h) :
    overtakenSet h' = (overtakenSet h).erase t := by
  ext u
  rw [Finset.mem_erase, mem_overtakenSet, mem_overtakenSet, hown]
  by_cases hu : t = u
  · rw [if_pos hu]
    exact ⟨fun hfalse => absurd hfalse Bool.false_ne_true, fun hne => absurd hu.symm hne.1⟩
  · rw [if_neg hu]
    exact ⟨fun hover => ⟨fun heq => hu heq.symm, hover⟩, fun hover => hover.2⟩

theorem card_overtakenSet_commit (t : ι) (h : List (Attempt ι)) :
    (overtakenSet (commit t :: h)).card = Fintype.card ι - 1 := by
  have hset : overtakenSet (commit t :: h) = Finset.univ.erase t := by
    ext u
    rw [Finset.mem_erase, mem_overtakenSet]
    change decide (t ≠ u) = true ↔ _
    rw [decide_eq_true_eq]
    exact ⟨fun hne => ⟨hne.symm, Finset.mem_univ u⟩, fun hne => hne.1.symm⟩
  rw [hset, Finset.card_erase_of_mem (Finset.mem_univ t), Finset.card_univ]

/-- The refusals so far, and those that may still come without another commit. -/
theorem refusals_add_overtaken_le {h : List (Attempt ι)} (hjust : Justified h) :
    h.countP isRefuse + (overtakenSet h).card ≤ (Fintype.card ι - 1) * h.countP isCommit := by
  induction h with
  | nil =>
    have hnone : overtakenSet ([] : List (Attempt ι)) = ∅ := by
      ext t
      rw [mem_overtakenSet]
      exact ⟨fun hfalse => absurd hfalse Bool.false_ne_true, fun hmem => absurd hmem (by simp)⟩
    rw [hnone]
    exact Nat.zero_le _
  | cons e h ih =>
    cases e with
    | start t =>
      have hle := ih hjust
      have hcard := Finset.card_erase_le (s := overtakenSet h) (a := t)
      rw [overtakenSet_own fun u => rfl, List.countP_cons_of_neg Bool.false_ne_true,
        List.countP_cons_of_neg Bool.false_ne_true]
      omega
    | commit t =>
      have hle := ih hjust
      rw [card_overtakenSet_commit, List.countP_cons_of_neg Bool.false_ne_true,
        List.countP_cons_of_pos rfl, Nat.mul_succ]
      omega
    | refuse t =>
      obtain ⟨hover, hjust⟩ := hjust
      have hle := ih hjust
      have hmem : t ∈ overtakenSet h := mem_overtakenSet.mpr hover
      have hcard := Finset.card_erase_of_mem hmem
      have hpos : 0 < (overtakenSet h).card := Finset.card_pos.mpr ⟨t, hmem⟩
      rw [overtakenSet_own fun u => rfl, List.countP_cons_of_pos rfl,
        List.countP_cons_of_neg Bool.false_ne_true]
      omega
    | drop t =>
      have hle := ih hjust
      have hcard := Finset.card_erase_le (s := overtakenSet h) (a := t)
      rw [overtakenSet_own fun u => rfl, List.countP_cons_of_neg Bool.false_ne_true,
        List.countP_cons_of_neg Bool.false_ne_true]
      omega

/-- Every commit pays for at most one refusal of each other party. -/
theorem refusals_le {h : List (Attempt ι)} (hjust : Justified h) :
    h.countP isRefuse ≤ (Fintype.card ι - 1) * h.countP isCommit :=
  (Nat.le_add_right _ _).trans (refusals_add_overtaken_le hjust)

end Attempt

end Reasoning
