import ClearwaterFv.Reasoning.Lines

/-!
# Ini — settings in sections

A configuration file of sections: a line `[name]` begins one, and each line `key = value` in it is
a setting.  `print` writes a file of such sections, with an empty line between two; `parse` reads
any text, and skips the lines that are neither.
-/

namespace Reasoning.Ini

open Reasoning.Lines

/-- A setting, with the section it stands in. -/
structure Setting where
  group : String
  key : String
  value : String
deriving DecidableEq, Repr

/-- A section and its settings, in order. -/
structure Group where
  name : String
  entries : List (String × String)

def Group.settings (g : Group) : List Setting := g.entries.map fun e => ⟨g.name, e.1, e.2⟩

/-! ## Printing -/

def entryLine (e : String × String) : String := e.1 ++ " = " ++ e.2

def Group.lines (g : Group) : List String := ("[" ++ g.name ++ "]") :: g.entries.map entryLine

def print : List Group → String
  | [] => ""
  | [g] => unlines g.lines
  | g :: gs => unlines g.lines ++ "\n" ++ print gs

/-! ## Parsing -/

/-- Without the blanks at the ends. -/
def trim (s : String) : String :=
  String.ofList ((s.toList.dropWhile (· = ' ')).reverse.dropWhile (· = ' ')).reverse

/-- What stands between the brackets of a line that begins a section. -/
def header? (l : String) : Option String :=
  match l.toList with
  | '[' :: rest => if rest.getLast? = some ']' then some (String.ofList rest.dropLast) else none
  | _ => none

/-- The key and the value of a setting: what stands before and after its first equals sign. -/
def setting? (l : String) : Option (String × String) :=
  if '=' ∈ l.toList then some (trim (keyValue l).1, trim (keyValue l).2) else none

def parseLines : String → List String → List Setting
  | _, [] => []
  | group, l :: ls =>
    match header? l with
    | some name => parseLines name ls
    | none => ((setting? l).map fun e => ⟨group, e.1, e.2⟩).toList ++ parseLines group ls

def parse (text : String) : List Setting := parseLines "" (lines text)

/-! ## What is printed is read back -/

/-- No blank at either end. -/
def Trimmed (s : String) : Prop :=
  s.toList.head? ≠ some ' ' ∧ s.toList.getLast? ≠ some ' '

instance (s : String) : Decidable (Trimmed s) := inferInstanceAs (Decidable (_ ∧ _))

/-- A value that stands on one line. -/
def ValueSafe (s : String) : Prop := '\n' ∉ s.toList ∧ Trimmed s

instance (s : String) : Decidable (ValueSafe s) := inferInstanceAs (Decidable (_ ∧ _))

/-- A key that ends at the equals sign, and does not begin a section. -/
def KeySafe (s : String) : Prop :=
  s ≠ "" ∧ '=' ∉ s.toList ∧ s.toList.head? ≠ some '[' ∧ ValueSafe s

instance (s : String) : Decidable (KeySafe s) := inferInstanceAs (Decidable (_ ∧ _ ∧ _ ∧ _))

structure EntrySafe (e : String × String) : Prop where
  key : KeySafe e.1
  value : ValueSafe e.2

structure Group.Safe (g : Group) : Prop where
  name_no_break : '\n' ∉ g.name.toList
  entries : ∀ e ∈ g.entries, EntrySafe e

theorem EntrySafe.of {key value : String} (hkey : KeySafe key) (hvalue : ValueSafe value) :
    EntrySafe (key, value) := ⟨hkey, hvalue⟩

theorem Group.Safe.of {name : String} {entries : List (String × String)}
    (hname : '\n' ∉ name.toList) (hentries : ∀ e ∈ entries, EntrySafe e) :
    (Group.mk name entries).Safe := ⟨hname, hentries⟩

theorem ValueSafe.of_not_mem {s : String} (hbreak : '\n' ∉ s.toList) (hblank : ' ' ∉ s.toList) :
    ValueSafe s :=
  ⟨hbreak, fun hhead => hblank (List.mem_of_head? hhead),
    fun hlast => hblank (List.mem_of_getLast? hlast)⟩

theorem ValueSafe.append {s t : String} (hs : ValueSafe s) (ht : ValueSafe t) :
    ValueSafe (s ++ t) := by
  obtain ⟨hbreak, hhead, hlast⟩ := hs
  obtain ⟨hbreak', hhead', hlast'⟩ := ht
  unfold ValueSafe Trimmed
  rw [String.toList_append, List.mem_append, List.head?_append, List.getLast?_append]
  refine ⟨not_or.mpr ⟨hbreak, hbreak'⟩, fun heq => ?_, fun heq => ?_⟩
  · rcases Option.or_eq_some_iff.mp heq with heq | ⟨-, heq⟩
    · exact hhead heq
    · exact hhead' heq
  · rcases Option.or_eq_some_iff.mp heq with heq | ⟨-, heq⟩
    · exact hlast' heq
    · exact hlast heq

theorem dropWhile_of_head?_ne {cs : List Char} (h : cs.head? ≠ some ' ') :
    cs.dropWhile (· = ' ') = cs := by
  cases cs with
  | nil => rfl
  | cons c cs =>
    apply List.dropWhile_cons_of_neg
    intro heq
    exact h (congrArg some (of_decide_eq_true heq))

theorem trim_of_trimmed {s : String} (hs : Trimmed s) : trim s = s := by
  have hback : s.toList.reverse.head? ≠ some ' ' := by
    rw [List.head?_reverse]
    exact hs.2
  unfold trim
  rw [dropWhile_of_head?_ne hs.1, dropWhile_of_head?_ne hback, List.reverse_reverse,
    String.ofList_toList]

theorem trim_blank_append {s : String} (hs : Trimmed s) : trim (" " ++ s) = s := by
  have hdrop : (" " ++ s).toList.dropWhile (· = ' ') = s.toList := by
    rw [String.toList_append, show (" " : String).toList = [' '] by decide, List.singleton_append,
      List.dropWhile_cons_of_pos (by decide)]
    exact dropWhile_of_head?_ne hs.1
  have htrim := trim_of_trimmed hs
  unfold trim at htrim ⊢
  rw [dropWhile_of_head?_ne hs.1] at htrim
  rw [hdrop]
  exact htrim

theorem trim_append_blank {s : String} (hs : Trimmed s) (hne : s ≠ "") :
    trim (s ++ " ") = s := by
  have hcons : s.toList ≠ [] := fun hnil => hne (String.toList_inj.mp hnil)
  have hhead : (s ++ " ").toList.head? ≠ some ' ' := by
    rw [String.toList_append, List.head?_append_of_ne_nil _ hcons]
    exact hs.1
  have hback : s.toList.reverse.head? ≠ some ' ' := by
    rw [List.head?_reverse]
    exact hs.2
  unfold trim
  rw [dropWhile_of_head?_ne hhead, String.toList_append,
    show (" " : String).toList = [' '] by decide, List.reverse_append, List.reverse_singleton,
    List.singleton_append, List.dropWhile_cons_of_pos (by decide), dropWhile_of_head?_ne hback,
    List.reverse_reverse, String.ofList_toList]

theorem header?_header (name : String) : header? ("[" ++ name ++ "]") = some name := by
  unfold header?
  rw [String.toList_append, String.toList_append, show ("[" : String).toList = ['['] by decide,
    show ("]" : String).toList = [']'] by decide, List.append_assoc, List.singleton_append]
  change (if (name.toList ++ [']']).getLast? = some ']' then
    some (String.ofList (name.toList ++ [']']).dropLast) else none) = some name
  rw [List.getLast?_concat, if_pos rfl, List.dropLast_concat, String.ofList_toList]

theorem header?_entryLine {e : String × String} (he : EntrySafe e) :
    header? (entryLine e) = none := by
  have hcons : e.1.toList ≠ [] := fun hnil => he.key.1 (String.toList_inj.mp hnil)
  have hhead : (entryLine e).toList.head? ≠ some '[' := by
    unfold entryLine
    rw [String.append_assoc, String.toList_append, List.head?_append_of_ne_nil _ hcons]
    exact he.key.2.2.1
  unfold header?
  split
  · next heq =>
    rw [heq] at hhead
    exact absurd rfl hhead
  · rfl

theorem setting?_entryLine {e : String × String} (he : EntrySafe e) :
    setting? (entryLine e) = some e := by
  have hline : entryLine e = (e.1 ++ " ") ++ "=" ++ (" " ++ e.2) := by
    unfold entryLine
    rw [show (" = " : String) = " " ++ "=" ++ " " by decide]
    simp only [String.append_assoc]
  have hkey : '=' ∉ (e.1 ++ " ").toList := by
    rw [String.toList_append, List.mem_append, not_or]
    exact ⟨he.key.2.1, by decide⟩
  have hmem : '=' ∈ (entryLine e).toList := by
    rw [hline, String.toList_append, String.toList_append]
    exact List.mem_append_left _ (List.mem_append_right _ (by decide))
  unfold setting?
  rw [if_pos hmem, hline, keyValue_append hkey, trim_append_blank he.key.2.2.2.2 he.key.1,
    trim_blank_append he.value.2]

theorem entryLine_no_break {e : String × String} (he : EntrySafe e) :
    '\n' ∉ (entryLine e).toList := by
  unfold entryLine
  rw [String.toList_append, String.toList_append, List.mem_append, List.mem_append, not_or, not_or]
  exact ⟨⟨he.key.2.2.2.1, by decide⟩, he.value.1⟩

theorem Group.Safe.no_break {g : Group} (hg : g.Safe) : ∀ l ∈ g.lines, '\n' ∉ l.toList := by
  intro l hl
  rcases List.mem_cons.mp hl with rfl | hl
  · rw [String.toList_append, String.toList_append, List.mem_append, List.mem_append, not_or,
      not_or]
    exact ⟨⟨by decide, hg.name_no_break⟩, by decide⟩
  · obtain ⟨e, he, rfl⟩ := List.mem_map.mp hl
    exact entryLine_no_break (hg.entries e he)

-- The settings of a section are read, and then the lines after it.
theorem parseLines_entries {es : List (String × String)} (hes : ∀ e ∈ es, EntrySafe e)
    (group : String) (rest : List String) :
    parseLines group (es.map entryLine ++ rest) =
      (es.map fun e => ⟨group, e.1, e.2⟩) ++ parseLines group rest := by
  induction es with
  | nil => rfl
  | cons e es ih =>
    have he : EntrySafe e := hes e List.mem_cons_self
    rw [List.map_cons, List.cons_append, parseLines, header?_entryLine he, setting?_entryLine he,
      ih fun e' he' => hes e' (List.mem_cons_of_mem _ he')]
    rfl

theorem parseLines_group {g : Group} (hg : g.Safe) (group : String) (rest : List String) :
    parseLines group (g.lines ++ rest) = g.settings ++ parseLines g.name rest := by
  unfold Group.lines
  rw [List.cons_append, parseLines, header?_header]
  exact parseLines_entries hg.entries g.name rest

-- An empty line is skipped.
theorem parseLines_empty (group : String) (rest : List String) :
    parseLines group ("" :: rest) = parseLines group rest := by
  have hheader : header? "" = none := by decide
  have hentry : setting? "" = none := by decide
  rw [parseLines, hheader, hentry]
  rfl

theorem lines_unlines_append {ls : List String} (hls : ∀ l ∈ ls, '\n' ∉ l.toList) (s : String) :
    lines (unlines ls ++ s) = ls ++ lines s := by
  induction ls with
  | nil => rw [unlines, String.empty_append, List.nil_append]
  | cons l ls ih =>
    rw [unlines, String.append_assoc, lines_cons (hls l List.mem_cons_self),
      ih fun l' hl' => hls l' (List.mem_cons_of_mem _ hl'), List.cons_append]

theorem parseLines_print {gs : List Group} (hgs : ∀ g ∈ gs, g.Safe) (group : String) :
    parseLines group (lines (print gs)) = gs.flatMap Group.settings := by
  induction gs generalizing group with
  | nil => exact parseLines_empty group []
  | cons g gs ih =>
    have hg : g.Safe := hgs g List.mem_cons_self
    have htail := ih fun g' hg' => hgs g' (List.mem_cons_of_mem _ hg')
    cases gs with
    | nil =>
      rw [print, lines_unlines hg.no_break, parseLines_group hg, parseLines_empty]
      rfl
    | cons g' gs =>
      have hprint : print (g :: g' :: gs) =
          unlines g.lines ++ ("" ++ "\n" ++ print (g' :: gs)) := by
        rw [print, String.empty_append, String.append_assoc]
        exact List.cons_ne_nil _ _
      rw [hprint, lines_unlines_append hg.no_break, lines_cons (by decide), parseLines_group hg,
        parseLines_empty, htail]
      rfl

/-- The settings of a printed file are read back, each in its section and all in order. -/
theorem parse_print {gs : List Group} (hgs : ∀ g ∈ gs, g.Safe) :
    parse (print gs) = gs.flatMap Group.settings := parseLines_print hgs ""

/-- The values of a key. -/
def valuesOf (settings : List Setting) (group key : String) : List String :=
  settings.filterMap fun s => if s.group = group ∧ s.key = key then some s.value else none

section

variable {group key : String}

theorem valuesOf_append (xs ys : List Setting) :
    valuesOf (xs ++ ys) group key = valuesOf xs group key ++ valuesOf ys group key :=
  List.filterMap_append

theorem valuesOf_map {α : Type} (f : α → String) (xs : List α) :
    valuesOf (xs.map fun x => ⟨group, key, f x⟩) group key = xs.map f := by
  unfold valuesOf
  rw [List.filterMap_map, ← List.filterMap_eq_map]
  congr 1
  funext x
  exact if_pos ⟨rfl, rfl⟩

theorem valuesOf_eq_nil {settings : List Setting}
    (h : ∀ s ∈ settings, ¬ (s.group = group ∧ s.key = key)) : valuesOf settings group key = [] :=
  List.filterMap_eq_nil_iff.mpr fun s hs => if_neg (h s hs)

end

end Reasoning.Ini
