import Mathlib.Data.List.DropRight
import Mathlib.Data.List.TakeWhile
import Mathlib.Tactic.NormNum

/-!
# Decimal — the decimal text of an integer, and reading it back

`Nat.repr` and `Int.repr` print in decimal with no leading zero, as `std::to_string` and
`printf("%d")` do.  `strtol` and `atoi` read a number back the way the C library does: blanks are
skipped, one sign is taken, then as many digits as there are, and what is left is ignored.
-/

namespace Reasoning.Decimal

/-! ## Printing -/

theorem repr_injective {m n : Nat} (h : m.repr = n.repr) : m = n := by
  have hdigits : Nat.toDigits 10 m = Nat.toDigits 10 n := by
    rw [← Nat.toList_repr, h, Nat.toList_repr]
  rw [← Nat.ofDigitChars_ten_toDigits (n := m), hdigits, Nat.ofDigitChars_ten_toDigits]

theorem isDigit_of_mem_repr {n : Nat} {c : Char} (h : c ∈ n.repr.toList) : c.isDigit = true := by
  rw [Nat.toList_repr] at h
  exact Nat.isDigit_of_mem_toDigits (by decide) (by decide) h

/-- Only digits are printed for a natural number. -/
theorem not_mem_repr {n : Nat} {c : Char} (hc : c.isDigit = false) : c ∉ n.repr.toList := by
  intro h
  rw [isDigit_of_mem_repr h] at hc
  exact Bool.noConfusion hc

/-- Only digits and the sign are printed for an integer. -/
theorem not_mem_int_repr {v : Int} {c : Char} (hc : c.isDigit = false) (hminus : c ≠ '-') :
    c ∉ v.repr.toList := by
  rw [Int.repr_eq_if]
  by_cases hv : 0 ≤ v
  · rw [if_pos hv]
    exact not_mem_repr hc
  · rw [if_neg hv, String.toList_append, List.mem_append, not_or]
    exact ⟨fun h => hminus (List.mem_singleton.mp h), not_mem_repr hc⟩

/-- A number printed after a text that ends in no digit: both can be told from the result. -/
theorem append_repr_inj {p q : String} {c d : Char} (hp : p.toList.getLast? = some c)
    (hq : q.toList.getLast? = some d) (hc : c.isDigit = false) (hd : d.isDigit = false)
    {m n : Nat} (h : p ++ m.repr = q ++ n.repr) : p = q ∧ m = n := by
  have hdrop : ∀ {p : String} {c : Char} (n : Nat), p.toList.getLast? = some c →
      c.isDigit = false → (p ++ n.repr).toList.rdropWhile Char.isDigit = p.toList := by
    intro p c n hlast hc
    rw [String.toList_append, List.rdropWhile, List.reverse_append,
      List.dropWhile_append_of_pos fun c' hc' => isDigit_of_mem_repr (List.mem_reverse.mp hc')]
    obtain ⟨init, hinit⟩ := List.getLast?_eq_some_iff.mp hlast
    rw [hinit, List.reverse_append, List.reverse_singleton, List.singleton_append,
      List.dropWhile_cons_of_neg (Bool.not_eq_true _ ▸ hc), List.reverse_cons, List.reverse_reverse]
  have htext : p.toList = q.toList := by
    rw [← hdrop m hp hc, h, hdrop n hq hd]
  obtain rfl := String.toList_inj.mp htext
  have hlist := congrArg String.toList h
  simp only [String.toList_append] at hlist
  exact ⟨rfl, repr_injective (String.toList_inj.mp (List.append_cancel_left hlist))⟩

/-! ## Reading -/

/-- `isspace` in the C locale. -/
def isSpace (c : Char) : Bool :=
  c == ' ' || c == '\t' || c == '\n' || c == '\r' || c.toNat == 11 || c.toNat == 12

/-- The range of a 64-bit `long`, to which `strtol` cuts what it reads. -/
def clampLong (v : Int) : Int :=
  if v < -2 ^ 63 then -2 ^ 63 else if 2 ^ 63 ≤ v then 2 ^ 63 - 1 else v

/-- The value of the digits at the front of the list. -/
def leadingNat (cs : List Char) : Nat :=
  Nat.ofDigitChars 10 (cs.takeWhile Char.isDigit) 0

/-- An optional sign and the digits after it. -/
def signedValue : List Char → Int
  | '-' :: cs => -(leadingNat cs : Int)
  | '+' :: cs => leadingNat cs
  | cs => leadingNat cs

/-- The integer that is printed as the text, if there is one. -/
def decimal? (s : String) : Option Int :=
  let v := signedValue s.toList
  if v.repr = s then some v else none

/-- `strtol(s, NULL, 10)`. -/
def strtol (s : String) : Int :=
  clampLong (signedValue (s.toList.dropWhile isSpace))

/-- The value that a 32-bit two's complement `int` keeps of an integer. -/
def toInt32 (v : Int) : Int := v.bmod (2 ^ 32)

/-- `atoi(s)`: the `long` that `strtol` reads, kept as an `int`. -/
def atoi (s : String) : Int := toInt32 (strtol s)

theorem toInt32_eq_self {v : Int} (hlo : -2 ^ 31 ≤ v) (hhi : v < 2 ^ 31) : toInt32 v = v := by
  unfold toInt32
  rw [Int.bmod_eq_of_le] <;> norm_num <;> omega

theorem toInt32_bounds (v : Int) : -2 ^ 31 ≤ toInt32 v ∧ toInt32 v < 2 ^ 31 := by
  unfold toInt32
  have hlo := Int.le_bmod (x := v) (m := 2 ^ 32) (by decide)
  have hhi := Int.bmod_lt (x := v) (m := 2 ^ 32) (by decide)
  norm_num at hlo hhi ⊢
  omega

theorem clampLong_eq_self {v : Int} (hlo : -2 ^ 63 ≤ v) (hhi : v < 2 ^ 63) :
    clampLong v = v := by
  unfold clampLong
  rw [if_neg (by omega), if_neg (by omega)]

theorem leadingNat_toDigits (n : Nat) : leadingNat (Nat.toDigits 10 n) = n := by
  unfold leadingNat
  rw [List.takeWhile_eq_self_iff.mpr, Nat.ofDigitChars_ten_toDigits]
  intro c hc
  exact Nat.isDigit_of_mem_toDigits (by decide) (by decide) hc

theorem isSpace_of_isDigit {c : Char} (h : c.isDigit = true) : isSpace c = false := by
  simp only [Char.isDigit, Bool.and_eq_true, decide_eq_true_eq] at h
  obtain ⟨hlo, hhi⟩ := h
  have hlo' : 48 ≤ c.toNat := hlo
  have hne : ∀ d : Char, d.toNat < 48 → (c == d) = false := by
    intro d hd
    rw [beq_eq_false_iff_ne]
    rintro rfl
    omega
  have h11 : (c.toNat == 11) = false := by
    rw [beq_eq_false_iff_ne]
    omega
  have h12 : (c.toNat == 12) = false := by
    rw [beq_eq_false_iff_ne]
    omega
  simp only [isSpace, hne ' ' (by decide), hne '\t' (by decide), hne '\n' (by decide),
    hne '\r' (by decide), h11, h12, Bool.or_self]

/-- A list that starts with a digit has no blank to skip and no sign to take. -/
theorem signedValue_of_head_isDigit {c : Char} {cs : List Char} (h : c.isDigit = true) :
    signedValue (c :: cs) = leadingNat (c :: cs) := by
  unfold signedValue
  split
  · rename_i heq
    injection heq with hc
    subst hc
    exact absurd h (by decide)
  · rename_i heq
    injection heq with hc
    subst hc
    exact absurd h (by decide)
  · rfl

/-- The sign and the digits that are printed for an integer give it back. -/
theorem signedValue_repr (v : Int) : signedValue v.repr.toList = v := by
  rw [Int.repr_eq_if]
  by_cases hv : 0 ≤ v
  · rw [if_pos hv, Nat.toList_repr]
    cases hdigits : Nat.toDigits 10 v.toNat with
    | nil => exact absurd hdigits Nat.toDigits_ne_nil
    | cons c cs =>
      have hc : c.isDigit = true :=
        Nat.isDigit_of_mem_toDigits (b := 10) (n := v.toNat) (by decide) (by decide)
          (by rw [hdigits]; exact List.mem_cons_self)
      rw [signedValue_of_head_isDigit hc, ← hdigits, leadingNat_toDigits]
      omega
  · have htext : ("-" ++ (-v).toNat.repr).toList = '-' :: Nat.toDigits 10 (-v).toNat := by
      rw [String.toList_append, Nat.toList_repr]
      rfl
    rw [if_neg hv, htext]
    simp only [signedValue]
    rw [leadingNat_toDigits]
    omega

@[simp] theorem decimal?_repr (v : Int) : decimal? v.repr = some v := by
  unfold decimal?
  simp only [signedValue_repr, if_true]

/-- No blank is printed for an integer. -/
theorem dropWhile_isSpace_repr (v : Int) : v.repr.toList.dropWhile isSpace = v.repr.toList := by
  cases htext : v.repr.toList with
  | nil => rfl
  | cons c cs =>
    have hmem : c ∈ v.repr.toList := by
      rw [htext]
      exact List.mem_cons_self
    have hspace : isSpace c = false := by
      by_cases hdigit : c.isDigit = true
      · exact isSpace_of_isDigit hdigit
      · by_cases hminus : c = '-'
        · rw [hminus]
          decide
        · exact absurd hmem (not_mem_int_repr (Bool.not_eq_true _ ▸ hdigit) hminus)
    rw [List.dropWhile_cons, hspace]
    rfl

/-- `strtol` reads back what is printed for a `long`. -/
theorem strtol_repr (v : Int) (hlo : -2 ^ 63 ≤ v) (hhi : v < 2 ^ 63) : strtol v.repr = v := by
  unfold strtol
  rw [dropWhile_isSpace_repr, signedValue_repr, clampLong_eq_self hlo hhi]

/-- `atoi` reads back what is printed for an `int`. -/
theorem atoi_repr (v : Int) (hlo : -2 ^ 31 ≤ v) (hhi : v < 2 ^ 31) : atoi v.repr = v := by
  unfold atoi
  rw [strtol_repr v (by omega) (by omega), toInt32_eq_self hlo hhi]

theorem int_repr_injective {v w : Int} (h : v.repr = w.repr) : v = w := by
  have hminus : ∀ n : Nat, '-' ∉ n.repr.toList := fun n => not_mem_repr (by decide)
  have hneg : ∀ m n : Nat, ("-" ++ m.repr : String) ≠ n.repr := by
    intro m n heq
    apply hminus n
    rw [← heq, String.toList_append]
    exact List.mem_append_left _ (by decide)
  rw [Int.repr_eq_if, Int.repr_eq_if] at h
  by_cases hv : 0 ≤ v <;> by_cases hw : 0 ≤ w
  · rw [if_pos hv, if_pos hw] at h
    have := repr_injective h
    omega
  · rw [if_pos hv, if_neg hw] at h
    exact absurd h.symm (hneg _ _)
  · rw [if_neg hv, if_pos hw] at h
    exact absurd h (hneg _ _)
  · rw [if_neg hv, if_neg hw] at h
    have := repr_injective (String.append_right_inj "-" |>.mp h)
    omega

end Reasoning.Decimal
