import Mathlib.Data.List.Basic
import Mathlib.Data.List.TakeWhile

/-!
# Lines — a text written line by line, and read back

`unlines` ends every line with a line break, as a program does that writes its lines one after the
other; `lines` is what a reader finds between the line breaks.  A line `key=value` is divided at
its first equals sign.
-/

namespace Reasoning.Lines

/-! ## Separators -/

/-- What stands between the separators of a text. -/
def split (c : Char) (s : String) : List String := (s.toList.splitOn c).map String.ofList

section

variable {c : Char} {s s' t t' sep : String}

theorem split_of_not_mem (hs : c ∉ s.toList) : split c s = [s] := by
  unfold split
  rw [List.splitOn_eq_singleton hs, List.map_singleton, String.ofList_toList]

theorem split_append (hsep : sep.toList = [c]) (s t : String) :
    split c (s ++ sep ++ t) = split c s ++ split c t := by
  unfold split
  rw [String.toList_append, String.toList_append, hsep, List.append_assoc, List.singleton_append,
    List.splitOn_append_cons_self, List.map_append]

theorem split_cons (hsep : sep.toList = [c]) (hs : c ∉ s.toList) (t : String) :
    split c (s ++ sep ++ t) = s :: split c t := by
  rw [split_append hsep, split_of_not_mem hs, List.singleton_append]

theorem split_intercalate (hsep : sep.toList = [c]) {ls : List String} (hne : ls ≠ [])
    (hls : ∀ l ∈ ls, c ∉ l.toList) : split c (sep.intercalate ls) = ls := by
  have hparts : ∀ l ∈ ls.map String.toList, c ∉ l := by
    intro l hl
    obtain ⟨l', hl', rfl⟩ := List.mem_map.mp hl
    exact hls l' hl'
  have hpacked : String.ofList ∘ String.toList = id := funext fun l => String.ofList_toList
  unfold split
  rw [String.toList_intercalate, hsep, List.splitOn_intercalate c hparts (by simpa using hne),
    List.map_map, hpacked, List.map_id]

/-- A text divides at its first separator in one way. -/
theorem append_sep_inj (hsep : sep.toList = [c]) (hs : c ∉ s.toList) (hs' : c ∉ s'.toList)
    (h : s ++ sep ++ t = s' ++ sep ++ t') : s = s' ∧ t = t' := by
  have hsplit := congrArg (split c) h
  rw [split_cons hsep hs, split_cons hsep hs'] at hsplit
  obtain rfl := (List.cons.inj hsplit).1
  exact ⟨rfl, (String.append_right_inj (s ++ sep)).mp h⟩

/-- The two fields of a text with one separator. -/
def pair? (c : Char) (s : String) : Option (String × String) :=
  match split c s with
  | [a, b] => some (a, b)
  | _ => none

theorem pair?_append (hsep : sep.toList = [c]) (hs : c ∉ s.toList) (ht : c ∉ t.toList) :
    pair? c (s ++ sep ++ t) = some (s, t) := by
  unfold pair?
  rw [split_cons hsep hs, split_of_not_mem ht]

end

/-! ## Lines -/

/-- The text of the lines, each ended by a line break. -/
def unlines : List String → String
  | [] => ""
  | l :: ls => l ++ "\n" ++ unlines ls

/-- What stands between the line breaks of a text. -/
def lines (s : String) : List String := (s.toList.splitOn '\n').map String.ofList

theorem lines_cons {l : String} (hl : '\n' ∉ l.toList) (s : String) :
    lines (l ++ "\n" ++ s) = l :: lines s :=
  split_cons (by decide) hl s

/-- The lines are read back, and after the last line break an empty one. -/
theorem lines_unlines {ls : List String} (hls : ∀ l ∈ ls, '\n' ∉ l.toList) :
    lines (unlines ls) = ls ++ [""] := by
  induction ls with
  | nil => rfl
  | cons l ls ih =>
    have htail := ih fun l' hl' => hls l' (List.mem_cons_of_mem _ hl')
    rw [unlines, lines_cons (hls l List.mem_cons_self), htail]
    rfl

/-- A loop that appends one line in each iteration. -/
theorem foldl_append_line {ι : Type} (line : ι → String) (xs : List ι) (text : String) :
    xs.foldl (fun text x => text ++ line x ++ "\n") text = text ++ unlines (xs.map line) := by
  induction xs generalizing text with
  | nil => exact String.append_empty.symm
  | cons x xs ih =>
    rw [List.foldl_cons, ih, List.map_cons, unlines]
    simp only [String.append_assoc]

theorem unlines_append (ls ls' : List String) :
    unlines (ls ++ ls') = unlines ls ++ unlines ls' := by
  induction ls with
  | nil => exact String.empty_append.symm
  | cons l ls ih =>
    rw [List.cons_append, unlines, unlines, ih]
    simp only [String.append_assoc]

/-- A reader that finds nothing in an empty line reads the lines that were written. -/
theorem filterMap_lines_unlines {β : Type} {read : String → Option β} {ls : List String}
    (hls : ∀ l ∈ ls, '\n' ∉ l.toList) (hempty : read "" = none) :
    (lines (unlines ls)).filterMap read = ls.filterMap read := by
  rw [lines_unlines hls, List.filterMap_append, List.filterMap_cons_none hempty, List.filterMap_nil,
    List.append_nil]

/-- Lines that are each read back as the entry they were written for. -/
theorem filterMap_map_of_read {ι β : Type} {read : String → Option β} {line : ι → String}
    {entry : ι → β} {xs : List ι} (hread : ∀ x ∈ xs, read (line x) = some (entry x)) :
    (xs.map line).filterMap read = xs.map entry := by
  have hcongr : xs.filterMap (read ∘ line) = xs.filterMap (some ∘ entry) :=
    List.filterMap_congr hread
  rw [List.filterMap_map, hcongr, List.filterMap_eq_map]

/-- The same for a reader that has to read every line. -/
theorem mapM_map_of_read {ι β : Type} {read : String → Option β} {line : ι → String}
    {entry : ι → β} {xs : List ι} (hread : ∀ x ∈ xs, read (line x) = some (entry x)) :
    (xs.map line).mapM read = some (xs.map entry) := by
  induction xs with
  | nil => rfl
  | cons x xs ih =>
    rw [List.map_cons, List.mapM_cons, hread x List.mem_cons_self,
      ih fun y hy => hread y (List.mem_cons_of_mem _ hy)]
    rfl

/-- A text of lines none of which is empty. -/
theorem filter_lines_unlines {ls : List String} (hls : ∀ l ∈ ls, '\n' ∉ l.toList)
    (hne : ∀ l ∈ ls, l ≠ "") : (lines (unlines ls)).filter (· ≠ "") = ls := by
  have hkept : ∀ l ∈ ls, decide (l ≠ "") = true := fun l hl => decide_eq_true (hne l hl)
  rw [lines_unlines hls, List.filter_append, List.filter_eq_self.mpr hkept,
    List.filter_cons_of_neg (by decide), List.filter_nil, List.append_nil]

theorem lines_append (s t : String) : lines (s ++ "\n" ++ t) = lines s ++ lines t :=
  split_append (by decide) s t

/-- A loop that appends several lines in each iteration. -/
theorem foldl_append_unlines {ι : Type} (ls : ι → List String) (xs : List ι) (text : String) :
    xs.foldl (fun text x => text ++ unlines (ls x)) text = text ++ unlines (xs.flatMap ls) := by
  induction xs generalizing text with
  | nil => exact String.append_empty.symm
  | cons x xs ih =>
    rw [List.foldl_cons, ih, List.flatMap_cons, unlines_append]
    simp only [String.append_assoc]

/-- A loop that writes a start before the first text and a separator before the others. -/
theorem foldl_separated (start sep : String) (field : Nat → String) (n : Nat) :
    (List.range n).foldl
      (fun text i => (if i = 0 then text ++ start else text ++ sep) ++ field i) "" =
      if n = 0 then "" else start ++ sep.intercalate ((List.range n).map field) := by
  induction n with
  | zero => rfl
  | succ n ih =>
    rw [List.range_succ, List.foldl_append, ih, List.map_append, List.foldl_cons, List.foldl_nil,
      if_neg (Nat.succ_ne_zero n)]
    by_cases hn : n = 0
    · rw [hn]
      rfl
    · have hne : (List.range n).map field ≠ [] := by
        simpa using hn
      rw [if_neg hn, if_neg hn, List.map_singleton,
        String.intercalate_append_of_ne_nil hne (List.cons_ne_nil _ _),
        String.intercalate_singleton]
      simp only [String.append_assoc]

/-! ## Keys and values -/

/-- What follows the given start of a text. -/
def after? (start s : String) : Option String :=
  if start.toList <+: s.toList then some (String.ofList (s.toList.drop start.toList.length))
  else none

theorem after?_append (start s : String) : after? start (start ++ s) = some s := by
  unfold after?
  rw [String.toList_append, if_pos (List.prefix_append _ _), List.drop_left, String.ofList_toList]

theorem after?_eq_none {start s : String} (hne : ¬ start.toList <+: s.toList) :
    after? start s = none := by
  unfold after?
  rw [if_neg hne]

/-- A text that begins with another character does not begin with the given start. -/
theorem after?_head_ne {start t : String} (s : String) {c d : Char}
    (hstart : start.toList.head? = some c) (ht : t.toList.head? = some d) (hcd : c ≠ d) :
    after? start (t ++ s) = none := by
  apply after?_eq_none
  intro hprefix
  rw [String.toList_append] at hprefix
  cases hs : start.toList with
  | nil =>
    rw [hs] at hstart
    cases hstart
  | cons c' cs =>
    cases ht' : t.toList with
    | nil =>
      rw [ht'] at ht
      cases ht
    | cons d' ds =>
      rw [hs, ht', List.cons_append, List.cons_prefix_cons] at hprefix
      rw [hs] at hstart
      rw [ht'] at ht
      cases hstart
      cases ht
      exact hcd hprefix.1

/-- The key and the value of `key=value`. -/
def keyValue (s : String) : String × String :=
  (String.ofList (s.toList.takeWhile (· ≠ '=')),
    String.ofList ((s.toList.dropWhile (· ≠ '=')).drop 1))

theorem keyValue_append {key : String} (hkey : '=' ∉ key.toList) (value : String) :
    keyValue (key ++ "=" ++ value) = (key, value) := by
  have hpos : ∀ c ∈ key.toList, decide (c ≠ '=') = true := by
    intro c hc
    apply decide_eq_true
    rintro rfl
    exact hkey hc
  unfold keyValue
  rw [String.toList_append, String.toList_append, show ("=" : String).toList = ['='] by decide,
    List.append_assoc, List.singleton_append, List.takeWhile_append_of_pos hpos,
    List.dropWhile_append_of_pos hpos, List.takeWhile_cons_of_neg (by decide),
    List.dropWhile_cons_of_neg (by decide), List.append_nil, List.drop_one, List.tail_cons,
    String.ofList_toList, String.ofList_toList]

end Reasoning.Lines
