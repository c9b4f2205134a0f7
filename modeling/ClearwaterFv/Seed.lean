import ClearwaterFv.Reasoning.Decimal
import Mathlib.Data.List.Nodup

/-!
# Seed — the random seed of a run, and the keys of its tests

`main` takes the seed from `RANDOM_SEED` or from the clock and the PID, and prints it.  The keys of
the memcached tests are the decimal texts of a counter that starts at a random number.
-/

open Reasoning.Decimal

namespace ClearwaterFv

/-! ## The seed -/

/-- The seed in `main`, where `RANDOM_SEED`, `std::time(NULL)` and `getpid()` are as given. -/
def mainSeed (randomSeed : Option String) (time pid : Int) : UInt32 :=
  match randomSeed with
  | some seedStr => UInt32.ofInt (atoi seedStr)
  | none => UInt32.ofInt (time + pid)

-- `printf("%d")` takes the unsigned seed for an `int`
def printedSeed (seed : UInt32) : String := seed.toInt32.toInt.repr

/-- The seeds of further runs, each with the text in `RANDOM_SEED` that the run before it has
printed, and with its own clock and PID. -/
def rerunSeeds (seed : UInt32) : List (Int × Int) → List UInt32
  | [] => []
  | (time, pid) :: runs =>
    let next := mainSeed (some (printedSeed seed)) time pid
    next :: rerunSeeds next runs

theorem ofInt_toInt32 (seed : UInt32) : UInt32.ofInt seed.toInt32.toInt = seed := by
  apply UInt32.toNat_inj.mp
  have hsigned : seed.toInt32.toInt = (seed.toNat : Int).bmod (2 ^ 32) :=
    BitVec.toInt_eq_toNat_bmod _
  have hmod : (seed.toNat : Int).bmod (2 ^ 32) % ((2 ^ 32 : Nat) : Int) =
      (seed.toNat : Int) % ((2 ^ 32 : Nat) : Int) := Int.bmod_emod
  have hlt := seed.toNat_lt
  rw [UInt32.ofInt, UInt32.toNat_ofNat', hsigned]
  omega

theorem mainSeed_printedSeed (seed : UInt32) (time pid : Int) :
    mainSeed (some (printedSeed seed)) time pid = seed := by
  have hlo := seed.toInt32.le_toInt
  have hhi := seed.toInt32.toInt_lt
  unfold mainSeed printedSeed
  simp only
  rw [atoi_repr _ (by omega) (by omega), ofInt_toInt32]

/-- The printed text selects the same seed again, however that seed was chosen and however often
the run is repeated. -/
theorem printedSeed_reproduces :
    (∀ (seed : UInt32) (time pid : Int), mainSeed (some (printedSeed seed)) time pid = seed) ∧
    ∀ (randomSeed : Option String) (time pid : Int) (reruns : List (Int × Int)),
      rerunSeeds (mainSeed randomSeed time pid) reruns =
        List.replicate reruns.length (mainSeed randomSeed time pid) := by
  refine ⟨mainSeed_printedSeed, fun randomSeed time pid reruns => ?_⟩
  generalize mainSeed randomSeed time pid = seed
  induction reruns with
  | nil => rfl
  | cons run runs ih =>
    obtain ⟨time, pid⟩ := run
    unfold rerunSeeds
    simp only [mainSeed_printedSeed]
    rw [ih, List.length_cons, List.replicate_succ]

-- a seed of the upper half is printed with a minus sign
example : printedSeed 4294967295 = "-1" := by decide

/-! ## The keys -/

/-- The static `_next_key` of the memcached fixture, and the `_key` of the test that runs. -/
structure TestKeys where
  nextKey : UInt32
  key : String

namespace TestKeys

/-- `SetUpTestCase` stores what `std::rand` returns. -/
def setUpTestCase (s : TestKeys) (rand : UInt32) : TestKeys := { s with nextKey := rand }

-- `_key = std::to_string(_next_key++);`
def nextKeyText (s : TestKeys) : TestKeys :=
  { nextKey := s.nextKey + 1, key := s.nextKey.toNat.repr }

def setUp (s : TestKeys) : TestKeys := s.nextKeyText

def getNewKey (s : TestKeys) : TestKeys := s.nextKeyText

end TestKeys

/-- The calls that draw a key. -/
inductive KeyCall where
  | setUp
  | getNewKey

def KeyCall.body : KeyCall → TestKeys → TestKeys
  | setUp => TestKeys.setUp
  | getNewKey => TestKeys.getNewKey

/-- The keys that a sequence of calls hands out. -/
def TestKeys.handedOut (s : TestKeys) : List KeyCall → List String
  | [] => []
  | c :: cs => (c.body s).key :: handedOut (c.body s) cs

-- The `i`-th key is the text of the `i`-th number from the start on.
theorem TestKeys.handedOut_eq (s : TestKeys) (cs : List KeyCall) :
    s.handedOut cs =
      (List.range cs.length).map fun i => (s.nextKey + UInt32.ofNat i).toNat.repr := by
  induction cs generalizing s with
  | nil => rfl
  | cons c cs ih =>
    have hbody : c.body s = s.nextKeyText := by cases c <;> rfl
    have hnext : ∀ i,
        s.nextKeyText.nextKey + UInt32.ofNat i = s.nextKey + UInt32.ofNat (i + 1) := by
      intro i
      change s.nextKey + 1 + UInt32.ofNat i = _
      rw [UInt32.ofNat_add, UInt32.add_assoc, UInt32.add_comm 1]
      rfl
    rw [handedOut, hbody, ih, List.length_cons, List.range_succ_eq_map, List.map_cons,
      List.map_map]
    simp only [hnext]
    have hfirst : s.nextKey + UInt32.ofNat 0 = s.nextKey := UInt32.add_zero _
    rw [hfirst]
    rfl

/-- No key is handed out twice in a test case, also when the counter wraps round. -/
theorem testKeys_nodup (s : TestKeys) (rand : UInt32) (cs : List KeyCall)
    (hcs : cs.length ≤ 2 ^ 32) : ((s.setUpTestCase rand).handedOut cs).Nodup := by
  rw [TestKeys.handedOut_eq]
  apply List.Nodup.map_on _ List.nodup_range
  intro i hi j hj heq
  have hi' := List.mem_range.mp hi
  have hj' := List.mem_range.mp hj
  have hnat := repr_injective heq
  rw [UInt32.toNat_add, UInt32.toNat_add, UInt32.toNat_ofNat', UInt32.toNat_ofNat'] at hnat
  omega

/-- Three keys across the wrap of the counter. -/
theorem testKeys_nodup_wrapping :
    ((⟨0, ""⟩ : TestKeys).setUpTestCase 4294967295).handedOut [.setUp, .getNewKey, .setUp] =
      ["4294967295", "0", "1"] ∧
    (((⟨0, ""⟩ : TestKeys).setUpTestCase 4294967295).handedOut
      [.setUp, .getNewKey, .setUp]).Nodup :=
  ⟨by decide, testKeys_nodup ⟨0, ""⟩ 4294967295 [.setUp, .getNewKey, .setUp] (by decide)⟩

end ClearwaterFv
