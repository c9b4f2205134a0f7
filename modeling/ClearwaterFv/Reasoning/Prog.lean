import Mathlib.Data.List.Basic

/-!
# Prog — sequential programs as trees of calls

A `Prog Op Res α` returns an `α`, or makes a call `op : Op` and goes on with the answer, a
`Res op`.  Nothing is said here about what a call does: `run` and `trace` take a step function,
which answers a call in a state and gives the state after it.  `run` is the result of the whole
program, `trace` the states in which it makes its calls, in order.  A property of every point of a
program at which something else may happen is a property of its trace.
-/

namespace Reasoning

/-- A sequential program over the calls `Op`, where the call `op` is answered by a `Res op`. -/
inductive Prog (Op : Type) (Res : Op → Type) (α : Type) : Type where
  | ret (a : α)
  | call (op : Op) (next : Res op → Prog Op Res α)

namespace Prog

variable {Op : Type} {Res : Op → Type} {α β γ ι σ : Type}

def bind : Prog Op Res α → (α → Prog Op Res β) → Prog Op Res β
  | ret a, f => f a
  | call op next, f => call op fun r => (next r).bind f

instance : Monad (Prog Op Res) where
  pure := ret
  bind := bind

/-- The program that makes one call and returns its answer. -/
def perform (op : Op) : Prog Op Res (Res op) := call op ret

/-- The body `f`, once for each element of the list. -/
def forEach : List ι → (ι → Prog Op Res Unit) → Prog Op Res Unit
  | [], _ => ret ()
  | x :: xs, f => (f x).bind fun _ => forEach xs f

/-- The body `f`, once for each element of the list, its results in order. -/
def mapEach : List ι → (ι → Prog Op Res β) → Prog Op Res (List β)
  | [], _ => ret []
  | x :: xs, f => (f x).bind fun y => (mapEach xs f).bind fun ys => ret (y :: ys)

@[simp] theorem pure_eq_ret (a : α) : (pure a : Prog Op Res α) = ret a := rfl

@[simp] theorem bind_eq_bind (p : Prog Op Res α) (f : α → Prog Op Res β) :
    (p >>= f) = p.bind f := rfl

@[simp] theorem ret_bind (a : α) (f : α → Prog Op Res β) : (ret a).bind f = f a := rfl

@[simp] theorem call_bind (op : Op) (next : Res op → Prog Op Res α) (f : α → Prog Op Res β) :
    (call op next).bind f = call op fun r => (next r).bind f := rfl

theorem bind_assoc (p : Prog Op Res α) (f : α → Prog Op Res β) (g : β → Prog Op Res γ) :
    (p.bind f).bind g = p.bind fun a => (f a).bind g := by
  induction p with
  | ret a => rfl
  | call op next ih =>
    simp only [call_bind, ih]

/-! ## Running a program -/

/-- The result of a program and the state it ends in. -/
def run (step : σ → (op : Op) → Res op × σ) : Prog Op Res α → σ → α × σ
  | ret a, s => (a, s)
  | call op next, s => (next (step s op).1).run step (step s op).2

/-- The calls of a run in order, each with the state in which it is made. -/
def trace (step : σ → (op : Op) → Res op × σ) : Prog Op Res α → σ → List (σ × Op)
  | ret _, _ => []
  | call op next, s => (s, op) :: (next (step s op).1).trace step (step s op).2

/-- The states of a run in order: those in which it makes its calls, and the last one. -/
def visits (step : σ → (op : Op) → Res op × σ) (p : Prog Op Res α) (s : σ) : List σ :=
  (p.trace step s).map Prod.fst ++ [(p.run step s).2]

variable {step : σ → (op : Op) → Res op × σ}

@[simp] theorem run_ret (a : α) (s : σ) : (ret a : Prog Op Res α).run step s = (a, s) := rfl

@[simp] theorem run_call (op : Op) (next : Res op → Prog Op Res α) (s : σ) :
    (call op next).run step s = (next (step s op).1).run step (step s op).2 := rfl

@[simp] theorem run_perform (op : Op) (s : σ) :
    (perform op : Prog Op Res (Res op)).run step s = step s op := rfl

@[simp] theorem run_bind (p : Prog Op Res α) (f : α → Prog Op Res β) (s : σ) :
    (p.bind f).run step s = (f (p.run step s).1).run step (p.run step s).2 := by
  induction p generalizing s with
  | ret a => rfl
  | call op next ih => exact ih _ _

@[simp] theorem trace_ret (a : α) (s : σ) : (ret a : Prog Op Res α).trace step s = [] := rfl

@[simp] theorem trace_call (op : Op) (next : Res op → Prog Op Res α) (s : σ) :
    (call op next).trace step s =
      (s, op) :: (next (step s op).1).trace step (step s op).2 := rfl

@[simp] theorem trace_perform (op : Op) (s : σ) :
    (perform op : Prog Op Res (Res op)).trace step s = [(s, op)] := rfl

@[simp] theorem trace_bind (p : Prog Op Res α) (f : α → Prog Op Res β) (s : σ) :
    (p.bind f).trace step s =
      p.trace step s ++ (f (p.run step s).1).trace step (p.run step s).2 := by
  induction p generalizing s with
  | ret a => rfl
  | call op next ih =>
    simp only [call_bind, trace_call, run_call, ih, List.cons_append]

@[simp] theorem forEach_nil (f : ι → Prog Op Res Unit) : forEach [] f = ret () := rfl

@[simp] theorem forEach_cons (x : ι) (xs : List ι) (f : ι → Prog Op Res Unit) :
    forEach (x :: xs) f = (f x).bind fun _ => forEach xs f := rfl

theorem forEach_map {κ : Type} (g : κ → ι) (xs : List κ) (f : ι → Prog Op Res Unit) :
    forEach (xs.map g) f = forEach xs fun x => f (g x) := by
  induction xs with
  | nil => rfl
  | cons x xs ih => rw [List.map_cons, forEach_cons, forEach_cons, ih]

theorem forEach_append (xs ys : List ι) (f : ι → Prog Op Res Unit) :
    forEach (xs ++ ys) f = (forEach xs f).bind fun _ => forEach ys f := by
  induction xs with
  | nil => rfl
  | cons x xs ih => rw [List.cons_append, forEach_cons, forEach_cons, bind_assoc, ih]

theorem forEach_flatMap {κ : Type} (g : κ → List ι) (xs : List κ) (f : ι → Prog Op Res Unit) :
    forEach (xs.flatMap g) f = forEach xs fun x => forEach (g x) f := by
  induction xs with
  | nil => rfl
  | cons x xs ih => rw [List.flatMap_cons, forEach_append, forEach_cons, ih]

theorem mapEach_map {κ : Type} (g : κ → ι) (xs : List κ) (f : ι → Prog Op Res β) :
    mapEach (xs.map g) f = mapEach xs fun x => f (g x) := by
  induction xs with
  | nil => rfl
  | cons x xs ih => rw [List.map_cons, mapEach, mapEach, ih]

/-! ## Rules for invariants -/

/-- `Φ` holds at every call of the run, of the call and of the state it is made in. -/
def Always (step : σ → (op : Op) → Res op × σ) (Φ : σ → Op → Prop) (p : Prog Op Res α) (s : σ) :
    Prop :=
  ∀ e ∈ p.trace step s, Φ e.1 e.2

theorem Always.ret {Φ : σ → Op → Prop} (a : α) (s : σ) :
    Always step Φ (Prog.ret a : Prog Op Res α) s := by
  intro e he
  simp only [trace_ret, List.not_mem_nil] at he

theorem Always.call {Φ : σ → Op → Prop} {op : Op} {next : Res op → Prog Op Res α} {s : σ}
    (hop : Φ s op) (hnext : Always step Φ (next (step s op).1) (step s op).2) :
    Always step Φ (Prog.call op next) s := by
  intro e he
  rcases List.mem_cons.mp he with rfl | he
  · exact hop
  · exact hnext e he

theorem Always.perform {Φ : σ → Op → Prop} {op : Op} {s : σ} (hop : Φ s op) :
    Always step Φ (Prog.perform op : Prog Op Res (Res op)) s :=
  Always.call hop (Always.ret _ _)

theorem Always.bind {Φ : σ → Op → Prop} {p : Prog Op Res α} {f : α → Prog Op Res β} {s : σ}
    (hp : Always step Φ p s)
    (hf : Always step Φ (f (p.run step s).1) (p.run step s).2) :
    Always step Φ (p.bind f) s := by
  intro e he
  rw [trace_bind] at he
  rcases List.mem_append.mp he with he | he
  · exact hp e he
  · exact hf e he

theorem Always.of_bind {Φ : σ → Op → Prop} {p : Prog Op Res α} {f : α → Prog Op Res β} {s : σ}
    (h : Always step Φ (p.bind f) s) :
    Always step Φ p s ∧ Always step Φ (f (p.run step s).1) (p.run step s).2 := by
  unfold Always at h ⊢
  rw [trace_bind] at h
  exact ⟨fun e he => h e (List.mem_append_left _ he), fun e he => h e (List.mem_append_right _ he)⟩

theorem Always.mono {Φ Ψ : σ → Op → Prop} {p : Prog Op Res α} {s : σ}
    (h : Always step Φ p s) (himp : ∀ s op, Φ s op → Ψ s op) : Always step Ψ p s :=
  fun e he => himp _ _ (h e he)

/-- What a guarded call keeps, a program all of whose calls are guarded keeps. -/
theorem Always.keeps {I : σ → Prop} {Φ : σ → Op → Prop} {p : Prog Op Res α} {s : σ}
    (h : Always step Φ p s) (hstep : ∀ s op, I s → Φ s op → I (step s op).2) (hs : I s) :
    Always step (fun s _ => I s) p s ∧ I (p.run step s).2 := by
  induction p generalizing s with
  | ret a => exact ⟨Always.ret _ _, hs⟩
  | call op next ih =>
    have hhead : Φ s op := h (s, op) List.mem_cons_self
    have hrest := ih _ (fun e he => h e (List.mem_cons_of_mem _ he)) (hstep s op hs hhead)
    exact ⟨Always.call hs hrest.1, hrest.2⟩

/-- What every call keeps, the program keeps. -/
theorem run_inv {I : σ → Prop} (hstep : ∀ s op, I s → I (step s op).2) (p : Prog Op Res α) {s : σ}
    (hs : I s) : I (p.run step s).2 := by
  induction p generalizing s with
  | ret a => exact hs
  | call op next ih => exact ih _ (hstep s op hs)

/-- What every iteration keeps, the loop keeps. -/
theorem run_forEach_inv {I : σ → Prop} {xs : List ι} {f : ι → Prog Op Res Unit}
    (hf : ∀ x ∈ xs, ∀ s, I s → I ((f x).run step s).2) {s : σ} (hs : I s) :
    I ((forEach xs f).run step s).2 := by
  induction xs generalizing s with
  | nil => exact hs
  | cons x xs ih =>
    rw [forEach_cons, run_bind]
    exact ih (fun y hy => hf y (List.mem_cons_of_mem _ hy)) (hf x List.mem_cons_self s hs)

theorem run_mapEach_cons (x : ι) (xs : List ι) (f : ι → Prog Op Res β) (s : σ) :
    ((mapEach (x :: xs) f).run step s).2 =
      ((mapEach xs f).run step ((f x).run step s).2).2 := by
  simp only [mapEach, run_bind, run_ret]

theorem run_mapEach_inv {I : σ → Prop} {xs : List ι} {f : ι → Prog Op Res β}
    (hf : ∀ x ∈ xs, ∀ s, I s → I ((f x).run step s).2) {s : σ} (hs : I s) :
    I ((mapEach xs f).run step s).2 := by
  induction xs generalizing s with
  | nil => exact hs
  | cons x xs ih =>
    rw [run_mapEach_cons]
    exact ih (fun y hy => hf y (List.mem_cons_of_mem _ hy)) (hf x List.mem_cons_self s hs)

/-- What each iteration achieves for its element, and later ones leave as it is, the loop achieves
for all of them. -/
theorem run_mapEach_each {I : σ → Prop} {P : ι → σ → Prop} {xs : List ι} {f : ι → Prog Op Res β}
    (hinv : ∀ x ∈ xs, ∀ s, I s → I ((f x).run step s).2)
    (hdone : ∀ x ∈ xs, ∀ s, I s → P x ((f x).run step s).2)
    (hlater : xs.Pairwise fun x y => ∀ s, I s → P x s → P x ((f y).run step s).2)
    {s : σ} (hs : I s) : ∀ x ∈ xs, P x ((mapEach xs f).run step s).2 := by
  induction xs generalizing s with
  | nil => exact fun x hx => absurd hx List.not_mem_nil
  | cons x xs ih =>
    obtain ⟨hx, hrest⟩ := List.pairwise_cons.mp hlater
    have hs' := hinv x List.mem_cons_self s hs
    have hdone' := hdone x List.mem_cons_self s hs
    rw [run_mapEach_cons]
    refine List.forall_mem_cons.mpr ⟨?_, ?_⟩
    · refine (run_mapEach_inv (I := fun s => I s ∧ P x s) (fun y hy s h => ?_) ⟨hs', hdone'⟩).2
      exact ⟨hinv y (List.mem_cons_of_mem _ hy) s h.1, hx y hy s h.1 h.2⟩
    · exact ih (fun y hy => hinv y (List.mem_cons_of_mem _ hy))
        (fun y hy => hdone y (List.mem_cons_of_mem _ hy)) hrest hs'

/-- What each iteration returns, in every state that the loop can be in. -/
theorem run_mapEach_returns {I : σ → Prop} {xs : List ι} {f : ι → Prog Op Res β} {g : ι → β}
    (hinv : ∀ x ∈ xs, ∀ s, I s → I ((f x).run step s).2)
    (hreturns : ∀ x ∈ xs, ∀ s, I s → ((f x).run step s).1 = g x) {s : σ} (hs : I s) :
    ((mapEach xs f).run step s).1 = xs.map g := by
  induction xs generalizing s with
  | nil => rfl
  | cons x xs ih =>
    have htail := ih (fun y hy => hinv y (List.mem_cons_of_mem _ hy))
      (fun y hy => hreturns y (List.mem_cons_of_mem _ hy)) (hinv x List.mem_cons_self s hs)
    simp only [mapEach, run_bind, run_ret]
    rw [List.map_cons, hreturns x List.mem_cons_self s hs, htail]

/-- A program that makes no other calls than those with `P`, however they are answered. -/
inductive Only (P : Op → Prop) : Prog Op Res α → Prop where
  | ret (a : α) : Only P (Prog.ret a)
  | call {op : Op} {next : Res op → Prog Op Res α} (hop : P op) (hnext : ∀ r, Only P (next r)) :
      Only P (Prog.call op next)

theorem Only.perform {P : Op → Prop} {op : Op} (hop : P op) :
    Only P (Prog.perform op : Prog Op Res (Res op)) :=
  Only.call hop fun r => Only.ret r

theorem Only.bind {P : Op → Prop} {p : Prog Op Res α} {f : α → Prog Op Res β} (hp : Only P p)
    (hf : ∀ a, Only P (f a)) : Only P (p.bind f) := by
  induction hp with
  | ret a => exact hf a
  | call hop _ ih => exact Only.call hop ih

theorem Only.mono {P Q : Op → Prop} {p : Prog Op Res α} (hp : Only P p)
    (himp : ∀ op, P op → Q op) : Only Q p := by
  induction hp with
  | ret a => exact Only.ret a
  | call hop _ ih => exact Only.call (himp _ hop) ih

theorem Only.and {P Q : Op → Prop} {p : Prog Op Res α} (hp : Only P p) (hq : Only Q p) :
    Only (fun op => P op ∧ Q op) p := by
  induction hp with
  | ret a => exact Only.ret a
  | call hop _ ih =>
    cases hq with
    | call hop' hnext' => exact Only.call ⟨hop, hop'⟩ fun r => ih r (hnext' r)

theorem Only.forEach {P : Op → Prop} {xs : List ι} {f : ι → Prog Op Res Unit}
    (hf : ∀ x ∈ xs, Only P (f x)) : Only P (Prog.forEach xs f) := by
  induction xs with
  | nil => exact Only.ret ()
  | cons x xs ih =>
    refine Only.bind (hf x List.mem_cons_self) fun _ => ?_
    exact ih fun y hy => hf y (List.mem_cons_of_mem _ hy)

theorem Only.mapEach {P : Op → Prop} {xs : List ι} {f : ι → Prog Op Res β}
    (hf : ∀ x ∈ xs, Only P (f x)) : Only P (Prog.mapEach xs f) := by
  induction xs with
  | nil => exact Only.ret []
  | cons x xs ih =>
    refine Only.bind (hf x List.mem_cons_self) fun _ => ?_
    refine Only.bind (ih fun y hy => hf y (List.mem_cons_of_mem _ hy)) fun _ => ?_
    exact Only.ret _

/-- What every call with `P` keeps, a program of such calls keeps. -/
theorem Only.run_inv {P : Op → Prop} {I : σ → Prop} {p : Prog Op Res α} (hp : Only P p)
    (hstep : ∀ s op, P op → I s → I (step s op).2) {s : σ} (hs : I s) : I (p.run step s).2 := by
  induction hp generalizing s with
  | ret a => exact hs
  | call hop _ ih => exact ih _ (hstep _ _ hop hs)

theorem Only.always {P : Op → Prop} {I : σ → Prop} {p : Prog Op Res α} (hp : Only P p)
    (hstep : ∀ s op, P op → I s → I (step s op).2) {s : σ} (hs : I s) :
    Always step (fun s op => I s ∧ P op) p s := by
  induction hp generalizing s with
  | ret a => exact Always.ret _ _
  | call hop _ ih => exact Always.call ⟨hs, hop⟩ (ih _ (hstep _ _ hop hs))

theorem Only.always_of {P : Op → Prop} {Φ : σ → Op → Prop} {p : Prog Op Res α} (hp : Only P p)
    (himp : ∀ s op, P op → Φ s op) (s : σ) : Always step Φ p s := by
  induction hp generalizing s with
  | ret a => exact Always.ret _ _
  | call hop _ ih => exact Always.call (himp _ _ hop) (ih _ _)

/-- From a state with `P`, every call of the program has `Φ` and its last state has `Q`. -/
structure Leads (step : σ → (op : Op) → Res op × σ) (P : σ → Prop) (Φ : σ → Op → Prop)
    (Q : σ → Prop) (p : Prog Op Res α) : Prop where
  calls : ∀ s, P s → Always step Φ p s
  final : ∀ s, P s → Q (p.run step s).2

/-- The program leads from `I` to `I`. -/
abbrev Keeps (step : σ → (op : Op) → Res op × σ) (I : σ → Prop) (Φ : σ → Op → Prop)
    (p : Prog Op Res α) : Prop :=
  Leads step I Φ I p

/-- A run of the program from a state with `P` ends in a state with `Q`. -/
abbrev Ends (step : σ → (op : Op) → Res op × σ) (P Q : σ → Prop) (p : Prog Op Res α) : Prop :=
  Leads step P (fun _ _ => True) Q p

theorem Ends.of_final {P Q : σ → Prop} {p : Prog Op Res α}
    (hfinal : ∀ s, P s → Q (p.run step s).2) : Ends step P Q p where
  calls _ _ _ _ := trivial
  final := hfinal

section Keeps

variable {I P Q R : σ → Prop} {Φ : σ → Op → Prop}

theorem Keeps.ret (a : α) : Keeps step I Φ (Prog.ret a : Prog Op Res α) where
  calls s _ := Always.ret a s
  final _ hs := hs

theorem Leads.bind {p : Prog Op Res α} {f : α → Prog Op Res β} (hp : Leads step P Φ Q p)
    (hf : ∀ a, Leads step Q Φ R (f a)) : Leads step P Φ R (p.bind f) where
  calls s hs := Always.bind (hp.calls s hs) ((hf _).calls _ (hp.final s hs))
  final s hs := by
    rw [run_bind]
    exact (hf _).final _ (hp.final s hs)

/-- The first call is made in a state with `P`, and what follows starts from a state with `P`. -/
theorem Leads.call {op : Op} {next : Res op → Prog Op Res α} (hop : ∀ s, P s → Φ s op)
    (hstep : ∀ s, P s → P (step s op).2) (hnext : ∀ r, Leads step P Φ Q (next r)) :
    Leads step P Φ Q (Prog.call op next) where
  calls s hs := Always.call (hop s hs) ((hnext _).calls _ (hstep s hs))
  final s hs := (hnext _).final _ (hstep s hs)

theorem Leads.imp {p : Prog Op Res α} (hp : Leads step P Φ Q p) (himp : ∀ s, Q s → R s) :
    Leads step P Φ R p where
  calls := hp.calls
  final s hs := himp _ (hp.final s hs)

theorem Keeps.bind {p : Prog Op Res α} {f : α → Prog Op Res β} (hp : Keeps step I Φ p)
    (hf : ∀ a, Keeps step I Φ (f a)) : Keeps step I Φ (p.bind f) :=
  Leads.bind hp hf

theorem Keeps.forEach {xs : List ι} {f : ι → Prog Op Res Unit}
    (hf : ∀ x ∈ xs, Keeps step I Φ (f x)) : Keeps step I Φ (Prog.forEach xs f) := by
  induction xs with
  | nil => exact Keeps.ret ()
  | cons x xs ih =>
    refine Keeps.bind (hf x List.mem_cons_self) fun _ => ?_
    exact ih fun y hy => hf y (List.mem_cons_of_mem _ hy)

/-- Where every call by itself keeps `I`, and has `Φ` because of `I`. -/
theorem Only.keeps {P : Op → Prop} {p : Prog Op Res α} (hp : Only P p)
    (hstep : ∀ s op, P op → I s → I (step s op).2) (hcall : ∀ s op, P op → I s → Φ s op) :
    Keeps step I Φ p where
  calls _ hs := (hp.always hstep hs).mono fun s op h => hcall s op h.2 h.1
  final _ hs := hp.run_inv hstep hs

end Keeps

/-- The states between the iterations of a loop, with the first and the last one. -/
def stages (step : σ → (op : Op) → Res op × σ) (f : ι → Prog Op Res Unit) : List ι → σ → List σ
  | [], s => [s]
  | x :: xs, s => s :: stages step f xs ((f x).run step s).2

theorem stages_inv {I : σ → Prop} {xs : List ι} {f : ι → Prog Op Res Unit}
    (hf : ∀ x ∈ xs, ∀ s, I s → I ((f x).run step s).2) {s : σ} (hs : I s) :
    ∀ t ∈ stages step f xs s, I t := by
  induction xs generalizing s with
  | nil =>
    intro t ht
    rw [List.mem_singleton.mp ht]
    exact hs
  | cons x xs ih =>
    intro t ht
    rcases List.mem_cons.mp ht with rfl | ht
    · exact hs
    · exact ih (fun y hy => hf y (List.mem_cons_of_mem _ hy)) (hf x List.mem_cons_self s hs) t ht

/-- Where, for each iteration, `Good` survives if and only if every call has `Φ`, the same holds
of the whole loop. -/
theorem forall_stages_iff {I Good : σ → Prop} {Φ : σ → Op → Prop} {xs : List ι}
    {f : ι → Prog Op Res Unit} (hinv : ∀ x ∈ xs, ∀ s, I s → I ((f x).run step s).2)
    (hgood : ∀ x ∈ xs, ∀ s, I s → Good s →
      (Good ((f x).run step s).2 ↔ Always step Φ (f x) s)) {s : σ} (hs : I s) (hgs : Good s) :
    (∀ t ∈ stages step f xs s, Good t) ↔ Always step Φ (Prog.forEach xs f) s := by
  induction xs generalizing s with
  | nil =>
    refine ⟨fun _ => Always.ret _ _, fun _ t ht => ?_⟩
    rw [List.mem_singleton.mp ht]
    exact hgs
  | cons x xs ih =>
    have hhead := hgood x List.mem_cons_self s hs hgs
    have htail := fun hnext => ih (fun y hy => hinv y (List.mem_cons_of_mem _ hy))
      (fun y hy => hgood y (List.mem_cons_of_mem _ hy)) (hinv x List.mem_cons_self s hs) hnext
    constructor
    · intro hall
      -- the state after the first iteration is a stage as well
      have hnext : Good ((f x).run step s).2 := by
        apply hall
        apply List.mem_cons_of_mem
        cases xs <;> exact List.mem_cons_self
      refine Always.bind (hhead.mp hnext) ?_
      exact (htail hnext).mp fun t ht => hall t (List.mem_cons_of_mem _ ht)
    · intro halways
      have hsplit : ∀ e ∈ (f x).trace step s ++
          (Prog.forEach xs f).trace step ((f x).run step s).2, Φ e.1 e.2 := by
        rw [← trace_bind (f x) fun _ => Prog.forEach xs f]
        exact halways
      have hnext : Good ((f x).run step s).2 :=
        hhead.mpr fun e he => hsplit e (List.mem_append_left _ he)
      intro t ht
      rcases List.mem_cons.mp ht with rfl | ht
      · exact hgs
      · exact (htail hnext).mpr (fun e he => hsplit e (List.mem_append_right _ he)) t ht

/-- A state predicate at every call of a run and in its last state holds at every visit. -/
theorem forall_visits {I : σ → Prop} {p : Prog Op Res α} {s : σ}
    (h : Always step (fun s _ => I s) p s) (hlast : I (p.run step s).2) :
    ∀ t ∈ p.visits step s, I t := by
  intro t ht
  rcases List.mem_append.mp ht with ht | ht
  · obtain ⟨e, he, rfl⟩ := List.mem_map.mp ht
    exact h e he
  · rw [List.mem_singleton.mp ht]
    exact hlast

end Prog

end Reasoning
