import Mathlib.Data.List.Perm.Basic
import ClearwaterFv.Reasoning.Prog

/-!
# Branching — programs whose calls return any number of times

`Prog.run` gives each call one answer.  Here a call may return to several continuations, each with
a state of its own (a process that forks), or to none (a process whose image is replaced).  The
result of a program is the list of the ways in which it ends, and `calls` collects what it calls
on all of them.
-/

namespace Reasoning

namespace Prog

variable {Op : Type} {Res : Op → Type} {α β ι σ : Type}

/-- The results and final states of a program, over all the returns of its calls. -/
def branch (step : σ → (op : Op) → List (Res op × σ)) : Prog Op Res α → σ → List (α × σ)
  | ret a, s => [(a, s)]
  | call op next, s => (step s op).flatMap fun r => (next r.1).branch step r.2

/-- The calls that a program makes over all the returns, each with its state. -/
def calls (step : σ → (op : Op) → List (Res op × σ)) : Prog Op Res α → σ → List (σ × Op)
  | ret _, _ => []
  | call op next, s => (s, op) :: (step s op).flatMap fun r => (next r.1).calls step r.2

variable {step : σ → (op : Op) → List (Res op × σ)}

theorem calls_perform (op : Op) (s : σ) :
    (perform op : Prog Op Res (Res op)).calls step s = [(s, op)] := by
  have hnone :
      (step s op).flatMap (fun r => (ret r.1 : Prog Op Res (Res op)).calls step r.2) = [] :=
    List.flatMap_eq_nil_iff.mpr fun _ _ => rfl
  rw [perform, calls, hnone]

theorem branch_bind (p : Prog Op Res α) (f : α → Prog Op Res β) (s : σ) :
    (p.bind f).branch step s =
      (p.branch step s).flatMap fun r => (f r.1).branch step r.2 := by
  induction p generalizing s with
  | ret a => simp only [ret_bind, branch, List.flatMap_cons, List.flatMap_nil, List.append_nil]
  | call op next ih =>
    simp only [call_bind, branch, ih, List.flatMap_assoc]

theorem calls_bind (p : Prog Op Res α) (f : α → Prog Op Res β) (s : σ) :
    ((p.bind f).calls step s).Perm
      (p.calls step s ++ (p.branch step s).flatMap fun r => (f r.1).calls step r.2) := by
  induction p generalizing s with
  | ret a =>
    simp only [ret_bind, calls, branch, List.nil_append, List.flatMap_cons, List.flatMap_nil,
      List.append_nil, List.Perm.refl]
  | call op next ih =>
    -- regroup what each return does into its calls in `p` and its calls in `f`
    have hregroup : ((step s op).flatMap fun r => ((next r.1).bind f).calls step r.2).Perm
        ((step s op).flatMap fun r => (next r.1).calls step r.2 ++
          ((next r.1).branch step r.2).flatMap fun r => (f r.1).calls step r.2) :=
      List.Perm.flatMap_left _ fun r _ => ih r.1 r.2
    simp only [call_bind, calls, branch, List.flatMap_assoc, List.cons_append]
    exact (hregroup.trans (List.flatMap_append_perm _ _ _).symm).cons _

/-- The calls of a program are calls with `P`. -/
theorem Only.calls {P : Op → Prop} {p : Prog Op Res α} (hp : Only P p) (s : σ) :
    ∀ e ∈ p.calls step s, P e.2 := by
  induction hp generalizing s with
  | ret a =>
    intro e he
    exact absurd he List.not_mem_nil
  | call hop _ ih =>
    intro e he
    rcases List.mem_cons.mp he with rfl | he
    · exact hop
    · obtain ⟨r, _, hr⟩ := List.mem_flatMap.mp he
      exact ih r.1 r.2 e hr

end Prog

end Reasoning
