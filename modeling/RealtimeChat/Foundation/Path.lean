import Mathlib.Data.List.Basic

/-! Path names under the rules of POSIX.

Slashes separate the names of a path, and a path that begins with one is
absolute. The normal form of a path is read off its names alone; nothing is
looked up in a file system.
-/

set_option autoImplicit false

namespace RealtimeChat.Foundation.Path

abbrev Name := List Char

def current : Name := ['.']

def parent : Name := ['.', '.']

def isAbsolute (path : List Char) : Bool := path.head? = some '/'

def names (path : List Char) : List Name := (path.splitOn '/').filter (· ≠ [])

/-- What an iteration over the path visits: the root directory, the names, and an empty name
after a slash at the end. -/
def elements (path : List Char) : List Name :=
  (if isAbsolute path then [['/']] else []) ++ names path ++
    (if names path ≠ [] ∧ path.getLast? = some '/' then [[]] else [])

/-- The path `tail`, seen from the directory `base`. -/
def join (base tail : List Char) : List Char :=
  if isAbsolute tail then tail
  else if base = [] ∨ base.getLast? = some '/' then base ++ tail
  else base ++ '/' :: tail

/-- One name further; the names above are listed from the last to the first. -/
def enter (absolute : Bool) (above : List Name) (name : Name) : List Name :=
  if name = current then above
  else if name = parent then
    match above with
    -- The root directory is its own parent.
    | [] => if absolute then [] else [parent]
    | last :: rest => if last = parent then parent :: above else rest
  else name :: above

def normal (path : List Char) : List Name := ((names path).foldl (enter (isAbsolute path)) []).reverse

/-- In its normal form the path is the directory or leads on from it, never up. -/
structure Under (directory path : List Char) : Prop where
  absolute : isAbsolute path = isAbsolute directory
  below : ∃ rest, normal path = normal directory ++ rest ∧ parent ∉ rest

section Names

theorem names_append (first second : List Char) : names (first ++ '/' :: second) = names first ++ names second := by
  have split : (first ++ '/' :: second).splitOn '/' = first.splitOn '/' ++ second.splitOn '/' :=
    List.splitOnP_append_cons first second (beq_self_eq_true '/')
  rw [names, split, List.filter_append, names, names]

theorem names_name {name : Name} (whole : '/' ∉ name) (filled : name ≠ []) : names name = [name] := by
  have single : name.splitOn '/' = [name] := by
    refine List.splitOnP_eq_singleton fun c member => ?_
    exact beq_eq_false_iff_ne.mpr fun same => whole (same ▸ member)
  simp [names, single, filled]

theorem parent_mem_elements {path : List Char} : parent ∈ elements path ↔ parent ∈ names path := by
  simp only [elements, List.mem_append]
  constructor
  · rintro ((root | named) | last)
    · split at root
      · exact absurd (List.mem_singleton.mp root) (by decide)
      · cases root
    · exact named
    · split at last
      · exact absurd (List.mem_singleton.mp last) (by decide)
      · cases last
  · exact fun named => .inl (.inr named)

end Names

section Join

variable {base tail : List Char}

variable (relative : isAbsolute tail = false)

include relative

theorem join_relative :
    join base tail = if base = [] ∨ base.getLast? = some '/' then base ++ tail else base ++ '/' :: tail := by
  simp [join, relative]

theorem isAbsolute_join : isAbsolute (join base tail) = isAbsolute base := by
  rw [join_relative relative]
  cases base with
  | nil => exact relative
  | cons first rest => split <;> rfl

theorem names_join : names (join base tail) = names base ++ names tail := by
  rw [join_relative relative]
  split
  · next ends =>
    rcases ends with rfl | slash
    · rfl
    · obtain ⟨directory, rfl⟩ := List.getLast?_eq_some_iff.mp slash
      have inner : names (directory ++ ['/']) = names directory := by
        rw [names_append, show names [] = [] from rfl, List.append_nil]
      rw [inner, List.append_assoc, List.singleton_append, names_append]
  · exact names_append base tail

end Join

section Normal

theorem foldl_enter {names : List Name} (absolute : Bool) (above : List Name) (onward : parent ∉ names) :
    names.foldl (enter absolute) above = (names.filter (· ≠ current)).reverse ++ above := by
  induction names generalizing above with
  | nil => rfl
  | cons name rest ih =>
    obtain ⟨first, onward⟩ := not_or.mp (mt List.mem_cons.mpr onward)
    rw [List.foldl_cons, ih _ onward]
    by_cases here : name = current
    · simp [enter, here]
    · simp [enter, here, Ne.symm first]

theorem normal_join {base tail : List Char} (relative : isAbsolute tail = false) (onward : parent ∉ names tail) :
    normal (join base tail) = normal base ++ (names tail).filter (· ≠ current) := by
  rw [normal, isAbsolute_join relative, names_join relative, List.foldl_append, foldl_enter _ _ onward, normal,
    List.reverse_append, List.reverse_reverse]

theorem normal_join_names {base tail : List Char} (relative : isAbsolute tail = false)
    (plain : ∀ name ∈ names tail, name ≠ current ∧ name ≠ parent) : normal (join base tail) = normal base ++ names tail := by
  have kept : (names tail).filter (· ≠ current) = names tail :=
    List.filter_eq_self.mpr fun name member => decide_eq_true (plain name member).1
  rw [normal_join relative fun member => (plain parent member).2 rfl, kept]

theorem under_join {base tail : List Char} (relative : isAbsolute tail = false) (onward : parent ∉ names tail) :
    Under base (join base tail) :=
  ⟨isAbsolute_join relative, _, normal_join relative onward, fun member => onward (List.mem_filter.mp member).1⟩

end Normal

end RealtimeChat.Foundation.Path
