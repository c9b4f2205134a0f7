import ClearwaterFv.ProcessInstance

/-!
# Await — what `wait_for_instance` does with what it acquires

The address list that `getaddrinfo` allocates and the socket are to be given back on every way out.
The function looks at neither the result of `getaddrinfo` nor, when it has no socket, at the list.
-/

open Reasoning Reasoning.Prog

namespace ClearwaterFv

/-! ## The calls -/

/-- The address list that a call reads through `res`. -/
def Sys.reads? : Sys → Option (Option AddrInfo)
  | .socket res | .connect _ _ res => some res
  | _ => none

def Sys.frees? : Sys → Option (Option AddrInfo)
  | .freeaddrinfo res => some res
  | _ => none

def Sys.closes? : Sys → Option Int
  | .close sockfd => some sockfd
  | _ => none

def Sys.isConnect : Sys → Bool
  | .connect .. => true
  | _ => false

/-- An attempt to connect that succeeds. -/
def Kernel.connects (K : Kernel) (e : Machine × Sys) : Bool :=
  match e.2 with
  | .connect i _ _ => decide (K.connect e.1 i = 0)
  | _ => false

variable (K : Kernel) (m : Machine) (i : Inst)

-- the machine when `wait_for_instance` opens its socket
def Kernel.atSocket : Machine := (K.step m (.getaddrinfo i)).2

-- and when it begins to connect
def Kernel.atLoop : Machine :=
  (K.step (K.step (K.atSocket m i) (.socket (K.getaddrinfo m i))).2 (.sleep 10000)).2

/-- What `wait_for_instance` should do: read the address list only if there is one, connect at most
five times and not after a success, report whether it has connected, and give back exactly what it
has acquired. -/
structure WaitsCleanly : Prop where
  reads : ∀ e ∈ K.trace (waitForInstance i) m, ∀ res, e.2.reads? = some res →
    res = K.getaddrinfo m i ∧ (K.getaddrinfo m i).isSome = true
  attempts : (K.trace (waitForInstance i) m).countP (fun e => e.2.isConnect) ≤ 5
  stops : (K.trace (waitForInstance i) m).Pairwise fun e e' =>
    K.connects e = true → e'.2.isConnect = false
  result : (K.run (waitForInstance i) m).1 = true ↔
    ∃ e ∈ K.trace (waitForInstance i) m, K.connects e = true
  frees : (K.trace (waitForInstance i) m).filterMap (fun e => e.2.frees?) =
    if (K.getaddrinfo m i).isSome then [K.getaddrinfo m i] else []
  closes : (K.trace (waitForInstance i) m).filterMap (fun e => e.2.closes?) =
    if K.socket (K.atSocket m i) ≠ -1 then [K.socket (K.atSocket m i)] else []

/-! ## The loop -/

/-- The calls that the loop makes. -/
def Sys.Attempts (i : Inst) (sockfd : Int) (res : Option AddrInfo) : Sys → Prop
  | .connect i' sockfd' res' => i' = i ∧ sockfd' = sockfd ∧ res' = res
  | .sleep _ => True
  | _ => False

variable {K m i} {sockfd : Int} {res : Option AddrInfo}

theorem connectLoop_attempts (i : Inst) (sockfd : Int) (res : Option AddrInfo) (attempts : Nat) :
    Only (Sys.Attempts i sockfd res) (connectLoop i sockfd res attempts) := by
  induction attempts with
  | zero => exact Only.ret _
  | succ attempts ih =>
    refine Only.bind (Only.perform ⟨rfl, rfl, rfl⟩) fun rc => ?_
    by_cases hrc : rc = 0
    · rw [if_pos hrc]
      exact Only.ret _
    · rw [if_neg hrc]
      exact Only.bind (Only.perform trivial) fun _ => ih

theorem trace_connectLoop_connected (sockfd : Int) (res : Option AddrInfo) (attempts : Nat)
    (hrc : K.connect m i = 0) :
    K.trace (connectLoop i sockfd res (attempts + 1)) m = [(m, .connect i sockfd res)] ∧
      (K.run (connectLoop i sockfd res (attempts + 1)) m).1 = true := by
  let m₁ := (K.step m (.connect i sockfd res)).2
  have htrace : K.trace (connectLoop i sockfd res (attempts + 1)) m =
      (m, .connect i sockfd res) :: K.trace (if K.connect m i = 0 then ret true else
        call (.sleep 1000000) fun _ => connectLoop i sockfd res attempts) m₁ := rfl
  have hrun : K.run (connectLoop i sockfd res (attempts + 1)) m =
      K.run (if K.connect m i = 0 then ret true else
        call (.sleep 1000000) fun _ => connectLoop i sockfd res attempts) m₁ := rfl
  rw [htrace, hrun, if_pos hrc]
  exact ⟨rfl, rfl⟩

theorem trace_connectLoop_refused (sockfd : Int) (res : Option AddrInfo) (attempts : Nat)
    (hrc : K.connect m i ≠ 0) :
    ∃ m₁ m₂, K.trace (connectLoop i sockfd res (attempts + 1)) m =
        (m, .connect i sockfd res) :: (m₁, .sleep 1000000) ::
          K.trace (connectLoop i sockfd res attempts) m₂ ∧
      (K.run (connectLoop i sockfd res (attempts + 1)) m).1 =
        (K.run (connectLoop i sockfd res attempts) m₂).1 := by
  let m₁ := (K.step m (.connect i sockfd res)).2
  have htrace : K.trace (connectLoop i sockfd res (attempts + 1)) m =
      (m, .connect i sockfd res) :: K.trace (if K.connect m i = 0 then ret true else
        call (.sleep 1000000) fun _ => connectLoop i sockfd res attempts) m₁ := rfl
  have hrun : K.run (connectLoop i sockfd res (attempts + 1)) m =
      K.run (if K.connect m i = 0 then ret true else
        call (.sleep 1000000) fun _ => connectLoop i sockfd res attempts) m₁ := rfl
  refine ⟨m₁, (K.step m₁ (.sleep 1000000)).2, ?_, ?_⟩
  · rw [htrace, if_neg hrc]
    rfl
  · rw [hrun, if_neg hrc]
    rfl

-- Before a call that does not connect, the rest stops as it did.
theorem stops_cons {e : Machine × Sys} {calls : List (Machine × Sys)} (he : K.connects e = false)
    (hcalls : calls.Pairwise fun e e' => K.connects e = true → e'.2.isConnect = false) :
    (e :: calls).Pairwise fun e e' => K.connects e = true → e'.2.isConnect = false := by
  refine List.pairwise_cons.mpr ⟨fun e' _ hconnects => ?_, hcalls⟩
  rw [he] at hconnects
  cases hconnects

-- The loop connects as often as it may, stops at the first success, and reports it.
theorem connectLoop_spec (K : Kernel) (m : Machine) (i : Inst) (sockfd : Int)
    (res : Option AddrInfo) (attempts : Nat) :
    (K.trace (connectLoop i sockfd res attempts) m).countP (fun e => e.2.isConnect) ≤ attempts ∧
      (K.trace (connectLoop i sockfd res attempts) m).Pairwise
        (fun e e' => K.connects e = true → e'.2.isConnect = false) ∧
      ((K.run (connectLoop i sockfd res attempts) m).1 = true ↔
        ∃ e ∈ K.trace (connectLoop i sockfd res attempts) m, K.connects e = true) := by
  induction attempts generalizing m with
  | zero =>
    refine ⟨Nat.zero_le _, List.Pairwise.nil, ?_⟩
    constructor
    · intro h
      cases h
    · rintro ⟨e, he, -⟩
      cases he
  | succ attempts ih =>
    by_cases hrc : K.connect m i = 0
    · obtain ⟨htrace, hrun⟩ := trace_connectLoop_connected sockfd res attempts hrc
      rw [htrace, hrun]
      refine ⟨?_, List.pairwise_singleton _ _, ?_⟩
      · rw [List.countP_cons_of_pos rfl]
        exact Nat.succ_le_succ (Nat.zero_le attempts)
      · exact ⟨fun _ => ⟨_, List.mem_cons_self, decide_eq_true hrc⟩, fun _ => rfl⟩
    · obtain ⟨m₁, m₂, htrace, hrun⟩ := trace_connectLoop_refused sockfd res attempts hrc
      obtain ⟨hcount, hpairwise, hresult⟩ := ih m₂
      have hrefused : K.connects (m, .connect i sockfd res) = false := decide_eq_false hrc
      rw [htrace, hrun, hresult]
      refine ⟨?_, ?_, ?_⟩
      · rw [List.countP_cons_of_pos rfl, List.countP_cons_of_neg Bool.false_ne_true]
        exact Nat.succ_le_succ hcount
      · exact stops_cons hrefused (stops_cons rfl hpairwise)
      · constructor
        · rintro ⟨e, he, hconnects⟩
          exact ⟨e, List.mem_cons_of_mem _ (List.mem_cons_of_mem _ he), hconnects⟩
        · rintro ⟨e, he, hconnects⟩
          rcases List.mem_cons.mp he with rfl | he
          · rw [hrefused] at hconnects
            cases hconnects
          · rcases List.mem_cons.mp he with rfl | he
            · cases hconnects
            · exact ⟨e, he, hconnects⟩

/-! ## The two ways out -/

theorem waitForInstance_no_socket (hsocket : K.socket (K.atSocket m i) = -1) :
    K.trace (waitForInstance i) m =
        [(m, .getaddrinfo i), (K.atSocket m i, .socket (K.getaddrinfo m i))] ∧
      (K.run (waitForInstance i) m).1 = false := by
  let sockfd := K.socket (K.atSocket m i)
  let m₁ := (K.step (K.atSocket m i) (.socket (K.getaddrinfo m i))).2
  let rest : Harness Bool := if sockfd = -1 then ret false else do
    sys (.sleep 10000)
    let connected ← connectLoop i sockfd (K.getaddrinfo m i) 5
    sys (.close sockfd)
    sys (.freeaddrinfo (K.getaddrinfo m i))
    return connected
  have htrace : K.trace (waitForInstance i) m = (m, .getaddrinfo i) ::
      (K.atSocket m i, .socket (K.getaddrinfo m i)) :: K.trace rest m₁ := rfl
  have hrun : K.run (waitForInstance i) m = K.run rest m₁ := rfl
  have hrest : rest = ret false := if_pos hsocket
  rw [htrace, hrun, hrest]
  exact ⟨rfl, rfl⟩

theorem waitForInstance_socket (hsocket : K.socket (K.atSocket m i) ≠ -1) :
    ∃ m₁ m₃ m₄, K.trace (waitForInstance i) m =
        (m, .getaddrinfo i) :: (K.atSocket m i, .socket (K.getaddrinfo m i)) ::
          (m₁, .sleep 10000) ::
          (K.trace (connectLoop i (K.socket (K.atSocket m i)) (K.getaddrinfo m i) 5)
              (K.atLoop m i) ++
            [(m₃, .close (K.socket (K.atSocket m i))),
              (m₄, .freeaddrinfo (K.getaddrinfo m i))]) ∧
      (K.run (waitForInstance i) m).1 =
        (K.run (connectLoop i (K.socket (K.atSocket m i)) (K.getaddrinfo m i) 5)
          (K.atLoop m i)).1 := by
  let sockfd := K.socket (K.atSocket m i)
  let m₁ := (K.step (K.atSocket m i) (.socket (K.getaddrinfo m i))).2
  let m₂ := K.atLoop m i
  let loop := connectLoop i sockfd (K.getaddrinfo m i) 5
  let back (connected : Bool) : Harness Bool := do
    sys (.close sockfd)
    sys (.freeaddrinfo (K.getaddrinfo m i))
    return connected
  let rest : Harness Bool := if sockfd = -1 then ret false else
    call (.sleep 10000) fun _ => loop.bind back
  have htrace : K.trace (waitForInstance i) m = (m, .getaddrinfo i) ::
      (K.atSocket m i, .socket (K.getaddrinfo m i)) :: K.trace rest m₁ := rfl
  have hrun : K.run (waitForInstance i) m = K.run rest m₁ := rfl
  have hrest : rest = call (.sleep 10000) fun _ => loop.bind back := if_neg hsocket
  have hsleep : K.trace (call (.sleep 10000) fun _ => loop.bind back) m₁ =
      (m₁, .sleep 10000) :: K.trace (loop.bind back) m₂ := rfl
  have hlast : K.run (call (.sleep 10000) fun _ => loop.bind back) m₁ =
      K.run (loop.bind back) m₂ := rfl
  refine ⟨m₁, (K.run loop m₂).2, (K.step (K.run loop m₂).2 (.close sockfd)).2, ?_, ?_⟩
  · rw [htrace, hrest, hsleep, Kernel.trace, trace_bind]
    rfl
  · rw [hrun, hrest, hlast, Kernel.run, run_bind]
    rfl

-- The loop gives nothing back.
theorem connectLoop_keeps (K : Kernel) (m : Machine) (i : Inst) (sockfd : Int)
    (res : Option AddrInfo) (attempts : Nat) :
    (K.trace (connectLoop i sockfd res attempts) m).filterMap (fun e => e.2.frees?) = [] ∧
      (K.trace (connectLoop i sockfd res attempts) m).filterMap (fun e => e.2.closes?) = [] := by
  have hloop : ∀ e ∈ K.trace (connectLoop i sockfd res attempts) m,
      Sys.Attempts i sockfd res e.2 :=
    (connectLoop_attempts i sockfd res attempts).always_of (fun _ _ hop => hop) m
  have hkeeps : ∀ op, Sys.Attempts i sockfd res op → op.frees? = none ∧ op.closes? = none := by
    intro op hop
    cases op <;> first | exact ⟨rfl, rfl⟩ | exact absurd hop id
  exact ⟨List.filterMap_eq_nil_iff.mpr fun e he => (hkeeps e.2 (hloop e he)).1,
    List.filterMap_eq_nil_iff.mpr fun e he => (hkeeps e.2 (hloop e he)).2⟩

-- With a socket, nothing but the list that `getaddrinfo` gave is read.
theorem reads_of_socket (hsocket : K.socket (K.atSocket m i) ≠ -1) :
    ∀ e ∈ K.trace (waitForInstance i) m, ∀ res, e.2.reads? = some res →
      res = K.getaddrinfo m i := by
  obtain ⟨m₁, m₃, m₄, htrace, -⟩ := waitForInstance_socket hsocket
  have hloop : ∀ e ∈ K.trace (connectLoop i (K.socket (K.atSocket m i)) (K.getaddrinfo m i) 5)
        (K.atLoop m i), Sys.Attempts i (K.socket (K.atSocket m i)) (K.getaddrinfo m i) e.2 :=
    (connectLoop_attempts i _ _ 5).always_of (fun _ _ hop => hop) (K.atLoop m i)
  intro e he res hreads
  rw [htrace] at he
  simp only [List.mem_cons, List.mem_append, List.not_mem_nil, or_false] at he
  rcases he with rfl | rfl | rfl | he | rfl | rfl
  · cases hreads
  · exact (Option.some.inj hreads).symm
  · cases hreads
  · obtain ⟨m', op⟩ := e
    have hop : Sys.Attempts _ _ _ op := hloop _ he
    cases op with
    | connect i' sockfd' res' => exact (Option.some.inj hreads).symm.trans hop.2.2
    | sleep micros => cases hreads
    | _ => exact absurd hop id
  · cases hreads
  · cases hreads

-- With a socket, the attempts are those of the loop.
theorem attempts_of_socket (hsocket : K.socket (K.atSocket m i) ≠ -1) :
    (K.trace (waitForInstance i) m).countP (fun e => e.2.isConnect) ≤ 5 ∧
      (K.trace (waitForInstance i) m).Pairwise
        (fun e e' => K.connects e = true → e'.2.isConnect = false) ∧
      ((K.run (waitForInstance i) m).1 = true ↔
        ∃ e ∈ K.trace (waitForInstance i) m, K.connects e = true) := by
  obtain ⟨m₁, m₃, m₄, htrace, hrun⟩ := waitForInstance_socket hsocket
  obtain ⟨hcount, hpairwise, hresult⟩ :=
    connectLoop_spec K (K.atLoop m i) i (K.socket (K.atSocket m i)) (K.getaddrinfo m i) 5
  rw [← hrun] at hresult
  rw [htrace]
  refine ⟨?_, ?_, hresult.trans ?_⟩
  · simp only [List.countP_cons, List.countP_append, List.countP_nil, Sys.isConnect,
      Bool.false_eq_true, if_false, Nat.add_zero]
    exact hcount
  · refine stops_cons rfl (stops_cons rfl (stops_cons rfl ?_))
    refine List.pairwise_append.mpr ⟨hpairwise, ?_, fun e _ e' he' _ => ?_⟩
    · exact stops_cons rfl (List.pairwise_singleton _ _)
    · simp only [List.mem_cons, List.not_mem_nil, or_false] at he'
      rcases he' with rfl | rfl <;> rfl
  · constructor
    · rintro ⟨e, he, hconnects⟩
      refine ⟨e, ?_, hconnects⟩
      simp only [List.mem_cons, List.mem_append, he, true_or, or_true]
    · rintro ⟨e, he, hconnects⟩
      simp only [List.mem_cons, List.mem_append, List.not_mem_nil, or_false] at he
      -- the calls around the loop do not connect
      rcases he with rfl | rfl | rfl | he | rfl | rfl
      · cases hconnects
      · cases hconnects
      · cases hconnects
      · exact ⟨e, he, hconnects⟩
      · cases hconnects
      · cases hconnects

-- With an address list and a socket, everything is as it should be.
theorem waitsCleanly_of_acquired (hlist : (K.getaddrinfo m i).isSome = true)
    (hsocket : K.socket (K.atSocket m i) ≠ -1) : WaitsCleanly K m i := by
  obtain ⟨m₁, m₃, m₄, htrace, -⟩ := waitForInstance_socket hsocket
  obtain ⟨hcount, hpairwise, hresult⟩ := attempts_of_socket hsocket
  obtain ⟨hfrees, hcloses⟩ :=
    connectLoop_keeps K (K.atLoop m i) i (K.socket (K.atSocket m i)) (K.getaddrinfo m i) 5
  refine ⟨fun e he res hreads => ⟨reads_of_socket hsocket e he res hreads, hlist⟩, hcount,
    hpairwise, hresult, ?_, ?_⟩
  · rw [htrace, if_pos hlist]
    simp only [List.filterMap_cons, List.filterMap_append, hfrees]
    rfl
  · rw [htrace, if_pos hsocket]
    simp only [List.filterMap_cons, List.filterMap_append, hcloses]
    rfl

-- Without an address list, `res` is read all the same.
theorem not_waitsCleanly_of_no_list (hlist : (K.getaddrinfo m i).isSome = false) :
    ¬ WaitsCleanly K m i := by
  intro hclean
  have hmem : (K.atSocket m i, Sys.socket (K.getaddrinfo m i)) ∈ K.trace (waitForInstance i) m :=
    List.mem_cons_of_mem _ List.mem_cons_self
  have hsome := (hclean.reads _ hmem _ rfl).2
  rw [hlist] at hsome
  cases hsome

-- Without a socket, the address list is not given back.
theorem not_waitsCleanly_of_no_socket (hlist : (K.getaddrinfo m i).isSome = true)
    (hsocket : K.socket (K.atSocket m i) = -1) : ¬ WaitsCleanly K m i := by
  intro hclean
  have hfrees := hclean.frees
  rw [(waitForInstance_no_socket hsocket).1, if_pos hlist] at hfrees
  cases hfrees

/-- In every outcome of its calls `wait_for_instance` handles what it acquires if and only if it
acquires both. -/
theorem waitsCleanly_iff (K : Kernel) (m : Machine) (i : Inst) :
    WaitsCleanly K m i ↔
      (K.getaddrinfo m i).isSome = true ∧ K.socket (K.atSocket m i) ≠ -1 := by
  constructor
  · intro hclean
    by_cases hlist : (K.getaddrinfo m i).isSome = true
    · refine ⟨hlist, fun hsocket => ?_⟩
      exact not_waitsCleanly_of_no_socket hlist hsocket hclean
    · exact absurd hclean (not_waitsCleanly_of_no_list (Bool.not_eq_true _ ▸ hlist))
  · rintro ⟨hlist, hsocket⟩
    exact waitsCleanly_of_acquired hlist hsocket

/-- A kernel that is out of sockets. -/
def socketless : Kernel := { Kernel.obliging with socket := fun _ => -1 }

/-- The socket cannot be opened: the address list is leaked. -/
theorem waitsCleanly_socketless : ¬ ∀ (K : Kernel) (m : Machine) (i : Inst), WaitsCleanly K m i :=
  fun hall => not_waitsCleanly_of_no_socket rfl rfl
    (hall socketless (Machine.initial (fun _ => 0) (fun _ => none) [] none) 0)

end ClearwaterFv
