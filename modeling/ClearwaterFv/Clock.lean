import ClearwaterFv.Reasoning.Periods

/-!
# Clock — the controlled clock of the SNMP tests

While a test controls time, the clock moves only when the test advances it.  The test of the
continuous accumulator table is here the list of its steps, with the clock after each of them.
-/

open Reasoning.Periods

namespace ClearwaterFv

/-- `struct timespec`, as `clock_gettime` fills it in. -/
structure Timespec where
  tvSec : Nat
  tvNsec : Nat
  tvNsec_lt : tvNsec < 1000000000

namespace Timespec

/-- The nanoseconds since the epoch. -/
def ns (now : Timespec) : Nat := now.tvSec * 1000000000 + now.tvNsec

def ofNs (ns : Nat) : Timespec where
  tvSec := ns / 1000000000
  tvNsec := ns % 1000000000
  tvNsec_lt := Nat.mod_lt ns (by decide)

theorem ns_ofNs (ns : Nat) : (ofNs ns).ns = ns := by
  change ns / 1000000000 * 1000000000 + ns % 1000000000 = ns
  omega

/-- The milliseconds since the epoch, with what is left over cut off. -/
def ms (now : Timespec) : Nat := now.tvSec * 1000 + now.tvNsec / 1000000

theorem ms_eq (now : Timespec) : now.ms = now.ns / 1000000 := by
  have hlt := now.tvNsec_lt
  unfold ms ns
  omega

/-- The milliseconds fit the signed 64-bit types in which they are computed. -/
def Fits (now : Timespec) : Prop := now.ms < 2 ^ 63

instance (now : Timespec) : Decidable now.Fits := inferInstanceAs (Decidable (now.ms < 2 ^ 63))

end Timespec

/-- `cwtest_advance_time_ms` moves the clock by exactly that many milliseconds. -/
def cwtestAdvanceTimeMs (delta : Nat) (now : Timespec) : Timespec :=
  .ofNs (now.ns + delta * 1000000)

def jumpToNextPeriodstart (intervalMs : UInt32) (now : Timespec) : Timespec :=
  let msSinceEpoch : UInt64 := UInt64.ofNat (now.tvSec * 1000 + now.tvNsec / 1000000)
  cwtestAdvanceTimeMs (intervalMs.toUInt64 - msSinceEpoch % intervalMs.toUInt64).toNat now

variable {intervalMs : UInt32} {now : Timespec}

theorem ns_cwtestAdvanceTimeMs (delta : Nat) (now : Timespec) :
    (cwtestAdvanceTimeMs delta now).ns = now.ns + delta * 1000000 :=
  Timespec.ns_ofNs _

-- The unsigned subtraction does not wrap, and the clock keeps its fraction of a millisecond.
theorem ns_jumpToNextPeriodstart (hpos : 0 < intervalMs.toNat) (hfits : now.Fits) :
    (jumpToNextPeriodstart intervalMs now).ns =
      nextBoundary intervalMs.toNat now.ms * 1000000 + now.ns % 1000000 := by
  have hms : (UInt64.ofNat (now.tvSec * 1000 + now.tvNsec / 1000000)).toNat = now.ms := by
    unfold Timespec.Fits Timespec.ms at hfits
    rw [UInt64.toNat_ofNat', Nat.mod_eq_of_lt (by omega)]
    rfl
  have hmod : (UInt64.ofNat (now.tvSec * 1000 + now.tvNsec / 1000000) %
      intervalMs.toUInt64).toNat = now.ms % intervalMs.toNat := by
    rw [UInt64.toNat_mod, hms, UInt32.toNat_toUInt64]
  have hlt := Nat.mod_lt now.ms hpos
  have hle : UInt64.ofNat (now.tvSec * 1000 + now.tvNsec / 1000000) % intervalMs.toUInt64 ≤
      intervalMs.toUInt64 := by
    rw [UInt64.le_iff_toNat_le, hmod, UInt32.toNat_toUInt64]
    omega
  have hns := now.ms_eq
  unfold jumpToNextPeriodstart
  simp only
  rw [ns_cwtestAdvanceTimeMs, UInt64.toNat_sub_of_le _ _ hle, hmod, UInt32.toNat_toUInt64]
  unfold nextBoundary
  omega

-- A jump reaches the least later multiple of the interval, to within a millisecond.
theorem jump_lands (hpos : 0 < intervalMs.toNat) (hfits : now.Fits) :
    ∃ b, IsLeast {b | intervalMs.toNat ∣ b ∧ now.ms < b} b ∧
      b * 1000000 ≤ (jumpToNextPeriodstart intervalMs now).ns ∧
      (jumpToNextPeriodstart intervalMs now).ns < (b + 1) * 1000000 ∧
      now.ns + 1000000 ≤ (jumpToNextPeriodstart intervalMs now).ns ∧
      (jumpToNextPeriodstart intervalMs now).ns ≤ now.ns + intervalMs.toNat * 1000000 := by
  have hns := ns_jumpToNextPeriodstart hpos hfits
  have hms := now.ms_eq
  have hlt : now.ms < nextBoundary intervalMs.toNat now.ms := lt_nextBoundary hpos
  have hle : nextBoundary intervalMs.toNat now.ms ≤ now.ms + intervalMs.toNat := nextBoundary_le
  refine ⟨_, nextBoundary_isLeast hpos, ?_, ?_, ?_, ?_⟩ <;> omega

/-! ## The test of the continuous accumulator table -/

/-- A step of a test: it moves the clock, or uses the table and leaves the clock where it is. -/
inductive ClockStep where
  | jump (intervalMs : UInt32)
  | advance (delta : Nat)
  | createTable
  | accumulate
  | snmpGet

def ClockStep.body : ClockStep → Timespec → Timespec
  | jump intervalMs => jumpToNextPeriodstart intervalMs
  | advance delta => cwtestAdvanceTimeMs delta
  | createTable | accumulate | snmpGet => id

/-- The clock after each step. -/
def clocks (now : Timespec) : List ClockStep → List Timespec
  | [] => []
  | step :: steps => step.body now :: clocks (step.body now) steps

-- the clock after all of the steps
def clockAfter (now : Timespec) (steps : List ClockStep) : Timespec :=
  steps.foldl (fun now step => step.body now) now

/-- What the steps read from the clock. -/
def readings (now : Timespec) : List ClockStep → List Timespec
  | [] => []
  | .jump intervalMs :: steps => now :: readings (jumpToNextPeriodstart intervalMs now) steps
  | step :: steps => readings (step.body now) steps

/-- `SNMPTest.ContinuousAccumulatorTable`, up to its second jump. -/
def stepsToSecondJump : List ClockStep :=
  [.jump 300000, .advance 59000, .createTable, .accumulate, .advance 120000, .snmpGet, .accumulate,
    .advance 120000, .snmpGet]

-- from its second jump on
def stepsFromSecondJump : List ClockStep :=
  [.jump 300000, .advance 150000, .snmpGet, .snmpGet, .snmpGet, .snmpGet, .accumulate,
    .advance 5000, .accumulate, .advance 5000, .snmpGet, .snmpGet, .snmpGet, .snmpGet, .snmpGet]

/-- The 5-minute period that the clock is in. -/
def period (now : Timespec) : Nat := now.ns / (300000 * 1000000)

theorem period_eq {p d : Nat} (hns : now.ns = p * (300000 * 1000000) + d)
    (hd : d < 300000 * 1000000) : period now = p := by
  unfold period
  omega

-- After a jump the clock is less than a millisecond into the next period.
theorem ns_jump (hfits : now.Fits) :
    ∃ d < 1000000, (jumpToNextPeriodstart 300000 now).ns =
      (period now + 1) * (300000 * 1000000) + d := by
  have hinterval : (300000 : UInt32).toNat = 300000 := rfl
  have hms := now.ms_eq
  refine ⟨now.ns % 1000000, Nat.mod_lt _ (by decide), ?_⟩
  rw [ns_jumpToNextPeriodstart (by decide) hfits, hinterval, nextBoundary_eq (by decide)]
  unfold period
  omega

/-- How far a step that does not jump moves the clock. -/
def ClockStep.delta? : ClockStep → Option Nat
  | jump _ => none
  | advance delta => some delta
  | createTable | accumulate | snmpGet => some 0

theorem ClockStep.ns_body {step : ClockStep} {delta : Nat} (hdelta : step.delta? = some delta)
    (now : Timespec) : (step.body now).ns = now.ns + delta * 1000000 := by
  cases step with
  | jump intervalMs => cases hdelta
  | advance delta' =>
    cases hdelta
    exact ns_cwtestAdvanceTimeMs delta now
  | _ =>
    cases hdelta
    change now.ns = now.ns + 0 * 1000000
    omega

/-- How far steps move the clock, if none of them jumps. -/
def totalDelta? : List ClockStep → Option Nat
  | [] => some 0
  | step :: steps => do
    let delta ← step.delta?
    let rest ← totalDelta? steps
    return delta + rest

-- Steps that do not jump, and do not move the clock to the end of its period, stay in it.
theorem period_clocks {steps : List ClockStep} {p d total : Nat}
    (htotal : totalDelta? steps = some total) (hns : now.ns = p * (300000 * 1000000) + d)
    (hd : d + total * 1000000 < 300000 * 1000000) :
    (clocks now steps).map period = List.replicate steps.length p ∧
      (clockAfter now steps).ns = p * (300000 * 1000000) + (d + total * 1000000) := by
  induction steps generalizing now d total with
  | nil =>
    cases htotal
    refine ⟨rfl, ?_⟩
    rw [Nat.zero_mul, Nat.add_zero]
    exact hns
  | cons step steps ih =>
    cases hdelta : step.delta? with
    | none =>
      rw [totalDelta?, hdelta] at htotal
      cases htotal
    | some delta =>
      cases hrest : totalDelta? steps with
      | none =>
        rw [totalDelta?, hdelta, hrest] at htotal
        cases htotal
      | some rest =>
        rw [totalDelta?, hdelta, hrest] at htotal
        have hsum : delta + rest = total := Option.some.inj htotal
        have hstep : (step.body now).ns = p * (300000 * 1000000) + (d + delta * 1000000) := by
          rw [ClockStep.ns_body hdelta, hns]
          omega
        rw [← hsum, Nat.add_mul, ← Nat.add_assoc] at hd
        obtain ⟨hperiods, hafter⟩ := ih hrest hstep hd
        have hperiod : period (step.body now) = p :=
          period_eq hstep ((Nat.le_add_right _ _).trans_lt hd)
        constructor
        · rw [clocks, List.map_cons, hperiods, hperiod, List.length_cons, List.replicate_succ]
        · change (clockAfter (step.body now) steps).ns = _
          rw [hafter]
          omega

-- A jump leads to the period after the present one, and steps that move the clock by less than
-- a period from there stay in that period.
theorem period_clocks_jump {steps : List ClockStep} {total : Nat} (hfits : now.Fits)
    (htotal : totalDelta? steps = some total) (hlt : total < 300000) :
    (clocks now (.jump 300000 :: steps)).map period =
        List.replicate (steps.length + 1) (period now + 1) ∧
      period (clockAfter now (.jump 300000 :: steps)) = period now + 1 := by
  obtain ⟨d, hd, hns⟩ := ns_jump hfits
  obtain ⟨hperiods, hafter⟩ := period_clocks htotal hns (by omega)
  constructor
  · rw [clocks, List.map_cons, List.replicate_succ]
    apply congrArg₂ List.cons
    · exact period_eq hns (by omega)
    · exact hperiods
  · exact period_eq hafter (by omega)

theorem readings_eq_nil {steps : List ClockStep} {total : Nat}
    (htotal : totalDelta? steps = some total) (now : Timespec) : readings now steps = [] := by
  induction steps generalizing now total with
  | nil => rfl
  | cons step steps ih =>
    cases step with
    | jump intervalMs => cases htotal
    | _ =>
      cases hrest : totalDelta? steps with
      | none =>
        rw [totalDelta?, hrest] at htotal
        cases htotal
      | some rest => exact ih hrest _

theorem readings_append (now : Timespec) (steps steps' : List ClockStep) :
    readings now (steps ++ steps') =
      readings now steps ++ readings (clockAfter now steps) steps' := by
  induction steps generalizing now with
  | nil => rfl
  | cons step steps ih =>
    cases step with
    | jump intervalMs => exact congrArg (now :: ·) (ih _)
    | _ => exact ih _

-- A test of two jumps reads the clock at these.
theorem readings_two_jumps {steps steps' : List ClockStep} {total total' : Nat}
    (htotal : totalDelta? steps = some total) (htotal' : totalDelta? steps' = some total')
    (now : Timespec) :
    readings now ((.jump 300000 :: steps) ++ (.jump 300000 :: steps')) =
      [now, clockAfter now (.jump 300000 :: steps)] := by
  rw [readings_append, readings, readings, readings_eq_nil htotal, readings_eq_nil htotal']
  rfl

theorem clocks_append (now : Timespec) (steps steps' : List ClockStep) :
    clocks now (steps ++ steps') = clocks now steps ++ clocks (clockAfter now steps) steps' := by
  induction steps generalizing now with
  | nil => rfl
  | cons step steps ih =>
    rw [List.cons_append, clocks, ih]
    rfl

/-- Wherever the clock stands, a jump leads to the start of the next period, and in the test of
the continuous accumulator table each of the two jumps is followed by steps in one period, the
second in the period right after the first. -/
theorem jumpToNextPeriodstart_aligns :
    (∀ (intervalMs : UInt32) (now : Timespec), 0 < intervalMs.toNat → now.Fits →
      ∃ b, IsLeast {b | intervalMs.toNat ∣ b ∧ now.ms < b} b ∧
        b * 1000000 ≤ (jumpToNextPeriodstart intervalMs now).ns ∧
        (jumpToNextPeriodstart intervalMs now).ns < (b + 1) * 1000000 ∧
        now.ns + 1000000 ≤ (jumpToNextPeriodstart intervalMs now).ns ∧
        (jumpToNextPeriodstart intervalMs now).ns ≤ now.ns + intervalMs.toNat * 1000000) ∧
    ∀ start : Timespec,
      (∀ now ∈ readings start (stepsToSecondJump ++ stepsFromSecondJump), now.Fits) →
      ∃ p, (clocks start (stepsToSecondJump ++ stepsFromSecondJump)).map period =
        List.replicate stepsToSecondJump.length p ++
          List.replicate stepsFromSecondJump.length (p + 1) := by
  refine ⟨fun intervalMs now hpos hfits => jump_lands hpos hfits, fun start hfits => ?_⟩
  have htotal₁ : totalDelta? stepsToSecondJump.tail = some 299000 := by decide
  have htotal₂ : totalDelta? stepsFromSecondJump.tail = some 160000 := by decide
  have hsteps₁ : stepsToSecondJump = .jump 300000 :: stepsToSecondJump.tail := rfl
  have hsteps₂ : stepsFromSecondJump = .jump 300000 :: stepsFromSecondJump.tail := rfl
  rw [hsteps₁, hsteps₂] at hfits ⊢
  rw [readings_two_jumps htotal₁ htotal₂] at hfits
  have hfirst := hfits start List.mem_cons_self
  have hsecond := hfits _ (List.mem_cons_of_mem _ List.mem_cons_self)
  obtain ⟨hperiods₁, hafter⟩ := period_clocks_jump hfirst htotal₁ (by decide)
  obtain ⟨hperiods₂, -⟩ := period_clocks_jump hsecond htotal₂ (by decide)
  refine ⟨period start + 1, ?_⟩
  rw [clocks_append, List.map_append, hperiods₁, hperiods₂, hafter]
  rfl

/-- The test, started half a millisecond before a period begins. -/
theorem jumpToNextPeriodstart_aligns_start :
    (∃ b, IsLeast {b | (300000 : UInt32).toNat ∣ b ∧ 1500000299999 < b} b ∧
      b * 1000000 ≤ (jumpToNextPeriodstart 300000 ⟨1500000299, 999500000, by decide⟩).ns) ∧
    ∃ p, (clocks ⟨1500000299, 999500000, by decide⟩
        (stepsToSecondJump ++ stepsFromSecondJump)).map period =
      List.replicate 9 p ++ List.replicate 15 (p + 1) := by
  obtain ⟨hjump, htest⟩ := jumpToNextPeriodstart_aligns
  obtain ⟨b, hleast, hle, -⟩ :=
    hjump 300000 ⟨1500000299, 999500000, by decide⟩ (by decide) (by decide)
  exact ⟨⟨b, hleast, hle⟩, htest ⟨1500000299, 999500000, by decide⟩ (by decide +kernel)⟩

end ClearwaterFv
