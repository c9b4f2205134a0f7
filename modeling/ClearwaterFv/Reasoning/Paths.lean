import Mathlib.Data.List.Basic
import Mathlib.Logic.Function.Basic

/-!
# Paths — path names, and the tree of files they name

A path name is resolved, from a working directory, to the list of the component names from the
root.  Symbolic links are left out, so `..` is the parent in the path itself.  A `FileTree` maps
resolved paths to what is there; removing a directory with all it holds removes the paths that
have its own as a prefix.
-/

namespace Reasoning.Paths

/-- A resolved path: the component names from the root. -/
abbrev Path := List String

/-- The components of a path name: what stands between its slashes. -/
def components (s : String) : List String := (s.toList.splitOn '/').map String.ofList

/-- Follow one component from a resolved path. -/
def enter (p : Path) (c : String) : Path :=
  if c = "" ∨ c = "." then p else if c = ".." then p.dropLast else p ++ [c]

/-- The path that a path name stands for in the working directory `cwd`. -/
def resolve (cwd : Path) (s : String) : Path :=
  (components s).foldl enter (if s.toList.head? = some '/' then [] else cwd)

/-- A component name that is neither empty nor `.` nor `..` and holds no slash. -/
structure Plain (c : String) : Prop where
  ne_empty : c ≠ ""
  ne_dot : c ≠ "."
  ne_dotdot : c ≠ ".."
  no_slash : '/' ∉ c.toList

theorem enter_plain {c : String} (hc : Plain c) (p : Path) : enter p c = p ++ [c] := by
  unfold enter
  rw [if_neg (by simp only [hc.ne_empty, hc.ne_dot, or_self, not_false_eq_true]),
    if_neg hc.ne_dotdot]

theorem components_plain {c : String} (hc : Plain c) : components c = [c] := by
  unfold components
  rw [List.splitOn_eq_singleton hc.no_slash, List.map_singleton, String.ofList_toList]

/-- A plain name is an entry of the working directory. -/
theorem resolve_plain (cwd : Path) {c : String} (hc : Plain c) : resolve cwd c = cwd ++ [c] := by
  have hhead : c.toList.head? ≠ some '/' := fun h => hc.no_slash (List.mem_of_mem_head? h)
  unfold resolve
  rw [components_plain hc, if_neg hhead, List.foldl_cons, List.foldl_nil, enter_plain hc]

theorem components_slash (s t : String) :
    components (s ++ "/" ++ t) = components s ++ components t := by
  unfold components
  rw [String.toList_append, String.toList_append,
    show ("/" : String).toList = ['/'] by decide, List.append_assoc, List.singleton_append,
    List.splitOn_append_cons_self, List.map_append]

theorem head?_toList_slash {s : String} (hs : s ≠ "") (t : String) :
    (s ++ "/" ++ t).toList.head? = s.toList.head? := by
  rw [String.toList_append, String.toList_append, List.append_assoc]
  exact List.head?_append_of_ne_nil _ (fun h => hs (String.toList_inj.mp (by rw [h]; rfl)))

/-- A name below a directory is followed from the directory.  The directory's own name is not
empty: `"" ++ "/" ++ t` starts at the root. -/
theorem resolve_slash (cwd : Path) {s : String} (hs : s ≠ "") (t : String) :
    resolve cwd (s ++ "/" ++ t) = (components t).foldl enter (resolve cwd s) := by
  unfold resolve
  rw [components_slash, List.foldl_append, head?_toList_slash hs]

/-- A slash after the name of a directory changes nothing. -/
theorem resolve_append_slash (cwd : Path) {s : String} (hs : s ≠ "") :
    resolve cwd (s ++ "/") = resolve cwd s := by
  rw [← String.append_empty (s := s ++ "/"), resolve_slash cwd hs,
    show components "" = [""] by decide]
  rfl

/-- An entry of a directory, from the name of the directory with its slash, which may be the
root's. -/
theorem resolve_entry_slash (cwd : Path) (s : String) {c : String} (hc : Plain c) :
    resolve cwd (s ++ "/" ++ c) = resolve cwd (s ++ "/") ++ [c] := by
  by_cases hs : s = ""
  · have hroot : ∀ t : String, resolve cwd ("/" ++ t) = (components t).foldl enter [] := by
      intro t
      have hparts : components ("/" ++ t) = "" :: components t := by
        rw [← String.empty_append (s := "/"), components_slash]
        rfl
      have hhead : ("/" ++ t).toList.head? = some '/' := by
        rw [String.toList_append]
        rfl
      unfold resolve
      rw [hparts, if_pos hhead]
      rfl
    rw [hs, String.empty_append, hroot, components_plain hc, List.foldl_cons, List.foldl_nil,
      enter_plain hc]
    rfl
  · rw [resolve_append_slash cwd hs, resolve_slash cwd hs, components_plain hc, List.foldl_cons,
      List.foldl_nil, enter_plain hc]

theorem resolve_child (cwd : Path) {s c : String} (hs : s ≠ "") (hc : Plain c) :
    resolve cwd (s ++ "/" ++ c) = resolve cwd s ++ [c] := by
  rw [resolve_entry_slash cwd s hc, resolve_append_slash cwd hs]

/-! ## File trees -/

/-- What a path may name. -/
inductive Node where
  | dir
  | file (text : String)
deriving DecidableEq, Repr

/-- What is found at each path. -/
def FileTree : Type := Path → Option Node

namespace FileTree

/-- `mkdir`: a directory that is there already stays. -/
def createDirectory (t : FileTree) (p : Path) : FileTree :=
  match t p with
  | some _ => t
  | none => Function.update t p (some .dir)

/-- Create the file, or truncate it, and write the text. -/
def writeFile (t : FileTree) (p : Path) (text : String) : FileTree :=
  Function.update t p (some (.file text))

/-- Open for appending: a file that is not there is created. -/
def touch (t : FileTree) (p : Path) : FileTree :=
  match t p with
  | some _ => t
  | none => Function.update t p (some (.file ""))

/-- `unlink`. -/
def remove (t : FileTree) (p : Path) : FileTree := Function.update t p none

/-- Remove the path and everything below it. -/
def removeAll (t : FileTree) (p : Path) : FileTree :=
  fun q => if p <+: q then none else t q

variable {t : FileTree} {p q : Path} {text text' : String}

theorem writeFile_self : (t.writeFile p text) p = some (.file text) := by
  unfold writeFile
  exact Function.update_self ..

theorem writeFile_other (h : q ≠ p) : (t.writeFile p text) q = t q := by
  unfold writeFile
  exact Function.update_of_ne h ..

theorem remove_other (h : q ≠ p) : (t.remove p) q = t q := by
  unfold remove
  exact Function.update_of_ne h ..

theorem removeAll_elsewhere (h : ¬ p <+: q) : (t.removeAll p) q = t q := by
  unfold removeAll
  rw [if_neg h]

/-- Making a directory does not change a file. -/
theorem createDirectory_file (h : t q = some (.file text)) :
    (t.createDirectory p) q = some (.file text) := by
  unfold createDirectory
  cases hp : t p with
  | some _ => exact h
  | none =>
    have hqp : q ≠ p := by
      rintro rfl
      rw [h] at hp
      cases hp
    exact (Function.update_of_ne hqp ..).trans h

/-- Opening for appending does not change a file that is there. -/
theorem touch_file (h : t q = some (.file text)) : (t.touch p) q = some (.file text) := by
  unfold touch
  cases hp : t p with
  | some _ => exact h
  | none =>
    have hqp : q ≠ p := by
      rintro rfl
      rw [h] at hp
      cases hp
    exact (Function.update_of_ne hqp ..).trans h

end FileTree

/-- Two paths, neither of which is at or below the other. -/
def Separate (p q : Path) : Prop := ¬ p <+: q ∧ ¬ q <+: p

theorem Separate.symm {p q : Path} (h : Separate p q) : Separate q p := ⟨h.2, h.1⟩

theorem Separate.ne {p q : Path} (h : Separate p q) : p ≠ q := by
  rintro rfl
  exact h.1 (List.prefix_refl _)

/-- What is below two separate directories is separate. -/
theorem Separate.append {p q : Path} (h : Separate p q) (a b : Path) :
    Separate (p ++ a) (q ++ b) := by
  have key : ∀ {p q : Path}, Separate p q → ∀ a b, ¬ (p ++ a) <+: (q ++ b) := by
    intro p q h a b hpre
    have hp : p <+: q ++ b := (List.prefix_append p a).trans hpre
    rcases List.prefix_or_prefix_of_prefix hp (List.prefix_append q b) with h' | h'
    · exact h.1 h'
    · exact h.2 h'
  exact ⟨key h a b, key h.symm b a⟩

/-- Two entries of one directory are separate when their names differ. -/
theorem separate_entries (p : Path) {c d : String} (hcd : c ≠ d) (a b : Path) :
    Separate (p ++ c :: a) (p ++ d :: b) := by
  have key : ∀ {c d : String}, c ≠ d → ∀ a b : Path, ¬ (p ++ c :: a) <+: (p ++ d :: b) := by
    intro c d hcd a b hpre
    rw [List.prefix_append_right_inj, List.cons_prefix_cons] at hpre
    exact hcd hpre.1
  exact ⟨key hcd a b, key hcd.symm b a⟩

end Reasoning.Paths
