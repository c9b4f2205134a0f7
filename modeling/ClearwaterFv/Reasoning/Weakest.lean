import ClearwaterFv.Reasoning.Prog

/-!
# Weakest — reasoning about a run from its first call on

`Wp p Q s` says of the run of `p` from the state `s` that all its calls are as they should be and
that it ends with `Q`.  A proof follows the program: each call is a rule that names what the call
leaves, and the rest of the program starts from there.
-/

namespace Reasoning.Prog

variable {Op : Type} {Res : Op → Type} {α β γ ι σ : Type}

/-- From `s`, every call of the program has `Φ`, and its result and its last state have `Q`. -/
structure Wp (step : σ → (op : Op) → Res op × σ) (Φ : σ → Op → Prop) (p : Prog Op Res α)
    (Q : α → σ → Prop) (s : σ) : Prop where
  calls : Always step Φ p s
  final : Q (p.run step s).1 (p.run step s).2

variable {step : σ → (op : Op) → Res op × σ} {Φ : σ → Op → Prop} {s : σ}

theorem Wp.ret {Q : α → σ → Prop} {a : α} (h : Q a s) :
    Wp step Φ (Prog.ret a : Prog Op Res α) Q s where
  calls := Always.ret a s
  final := h

theorem Wp.perform {op : Op} {Q : Res op → σ → Prop} (hop : Φ s op)
    (h : Q (step s op).1 (step s op).2) :
    Wp step Φ (Prog.perform op : Prog Op Res (Res op)) Q s where
  calls := Always.perform hop
  final := h

theorem Wp.bind {p : Prog Op Res α} {f : α → Prog Op Res β} {Q : β → σ → Prop}
    (h : Wp step Φ p (fun a t => Wp step Φ (f a) Q t) s) : Wp step Φ (p.bind f) Q s where
  calls := Always.bind h.calls h.final.calls
  final := by
    rw [run_bind]
    exact h.final.final

-- The first two parts of a program, taken together.
theorem Wp.bind_assoc {p : Prog Op Res α} {f : α → Prog Op Res β} {g : β → Prog Op Res γ}
    {Q : γ → σ → Prop} (h : Wp step Φ ((p.bind f).bind g) Q s) :
    Wp step Φ (p.bind fun a => (f a).bind g) Q s := by
  rw [Prog.bind_assoc] at h
  exact h

theorem Wp.mono {p : Prog Op Res α} {Q R : α → σ → Prop} (h : Wp step Φ p Q s)
    (himp : ∀ a t, Q a t → R a t) : Wp step Φ p R s where
  calls := h.calls
  final := himp _ _ h.final

theorem Wp.weaken {Ψ : σ → Op → Prop} {p : Prog Op Res α} {Q : α → σ → Prop}
    (h : Wp step Φ p Q s) (himp : ∀ s op, Φ s op → Ψ s op) : Wp step Ψ p Q s where
  calls := h.calls.mono himp
  final := h.final

/-- What the calls keep, the program keeps. -/
theorem Wp.frame {I : σ → Prop} {p : Prog Op Res α} {Q : α → σ → Prop} (h : Wp step Φ p Q s)
    (hstep : ∀ s op, I s → Φ s op → I (step s op).2) (hs : I s) :
    Wp step Φ p (fun a t => Q a t ∧ I t) s where
  calls := h.calls
  final := ⟨h.final, (h.calls.keeps hstep hs).2⟩

/-- What each iteration leads on from one element to those that follow, the loop leads on to the
end. -/
theorem Wp.forEach {I : List ι → σ → Prop} {f : ι → Prog Op Res Unit} {xs : List ι}
    (hf : ∀ x rest t, I (x :: rest) t → Wp step Φ (f x) (fun _ => I rest) t) (hs : I xs s) :
    Wp step Φ (Prog.forEach xs f) (fun _ => I []) s := by
  induction xs generalizing s with
  | nil => exact Wp.ret hs
  | cons x rest ih => exact Wp.bind ((hf x rest s hs).mono fun _ _ ht => ih ht)

end Reasoning.Prog
