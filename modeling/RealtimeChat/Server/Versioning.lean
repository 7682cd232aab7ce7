import RealtimeChat.Foundation.Scanning
import Mathlib.Data.Nat.Digits.Defs

/-! The version prefix of request paths.

A path is a text of bytes; each is written as the character of its code. A
version is a number of 32 bits with a sign, as `std::from_chars` reads it: a run
of digits whose number is too large is not a version.
-/

set_option autoImplicit false

namespace RealtimeChat.Server

open Foundation

structure ApiVersionRewrite where
  hasPrefix : Bool
  version : Int
  normalised : String
  deriving DecidableEq, Repr

def versionedPrefix : List Char := "/api/v".toList

def apiPrefix : List Char := "/api".toList

/-- The largest number of an `int`. -/
def intMax : Nat := 2147483647

/-- `std::from_chars` to an `int`, of a text of digits. -/
def fromDigits (digits : List Char) : Option Int :=
  if Nat.ofDigitChars 10 digits 0 ≤ intMax then some (Nat.ofDigitChars 10 digits 0) else none

def parseVersionedPath (path : String) : ApiVersionRewrite :=
  let text := path.toList
  let out : ApiVersionRewrite := ⟨false, 0, path⟩
  if text.length ≤ versionedPrefix.length ∨ text.take versionedPrefix.length ≠ versionedPrefix then out
  else
    let rest := text.drop versionedPrefix.length
    let digits := rest.takeWhile Char.isDigit
    let remainder := rest.dropWhile Char.isDigit
    if digits.isEmpty then out
    -- The segment has to end here.
    else if remainder.head?.any fun next => next ≠ '/' && next ≠ '?' then out
    else
      match fromDigits digits with
      | none => out
      | some version => ⟨true, version, String.ofList (apiPrefix ++ remainder)⟩

/-- What may follow the digits: the end of the path, a slash or a question mark. -/
def EndsSegment (remainder : List Char) : Prop := ∀ next ∈ remainder.head?, next = '/' ∨ next = '?'

structure Versioned (path : String) (digits remainder : List Char) : Prop where
  parts : path.toList = versionedPrefix ++ digits ++ remainder
  nonempty : digits ≠ []
  decimal : ∀ digit ∈ digits, digit.isDigit = true
  bounded : Nat.ofDigitChars 10 digits 0 ≤ intMax
  ends : EndsSegment remainder

variable {remainder digits : List Char}

section Grammar

theorem EndsSegment.stops (ends : EndsSegment remainder) : Stops Char.isDigit remainder := by
  intro next first
  rcases ends next first with rfl | rfl <;> rfl

theorem endsSegment_iff :
    EndsSegment remainder ↔ ¬ remainder.head?.any (fun next => next ≠ '/' && next ≠ '?') = true := by
  cases remainder with
  | nil => simp [EndsSegment]
  | cons next rest =>
    simp only [EndsSegment, List.head?_cons, Option.mem_some_iff, forall_eq', Option.any_some, Bool.and_eq_true,
      decide_eq_true_eq]
    tauto

theorem parseVersionedPath_eq {path : String} (versioned : Versioned path digits remainder) :
    parseVersionedPath path = ⟨true, Nat.ofDigitChars 10 digits 0, String.ofList (apiPrefix ++ remainder)⟩ := by
  obtain ⟨digit, more, rfl⟩ := List.exists_cons_of_ne_nil versioned.nonempty
  obtain ⟨taken, dropped⟩ := scan_append versioned.decimal versioned.ends.stops
  have long : ¬ (versionedPrefix ++ (digit :: more ++ remainder)).length ≤ versionedPrefix.length := by simp
  have start : (versionedPrefix ++ (digit :: more ++ remainder)).take versionedPrefix.length = versionedPrefix :=
    List.take_left
  unfold parseVersionedPath
  simp only [versioned.parts, List.append_assoc]
  rw [if_neg (by simp only [long, start, ne_eq, not_true_eq_false, or_self, not_false_eq_true]), List.drop_left, taken, dropped,
    if_neg (by simp), if_neg (endsSegment_iff.mp versioned.ends), fromDigits, if_pos versioned.bounded]

theorem parseVersionedPath_cases (path : String) :
    parseVersionedPath path = ⟨false, 0, path⟩ ∨ ∃ digits remainder, Versioned path digits remainder := by
  simp only [parseVersionedPath]
  split
  · exact .inl rfl
  · next starts =>
    rw [not_or, not_not] at starts
    split
    · exact .inl rfl
    · next nonempty =>
      split
      · exact .inl rfl
      · next ends =>
        split
        · exact .inl rfl
        · next version read =>
          refine .inr ⟨_, _, ?_, mt List.isEmpty_iff.mpr nonempty, ?_, ?_, endsSegment_iff.mpr ends⟩
          · rw [List.append_assoc, List.takeWhile_append_dropWhile]
            exact (List.prefix_iff_eq_append.mp (List.prefix_iff_eq_take.mpr starts.2.symm)).symm
          · exact fun digit member => List.mem_takeWhile_imp member
          · rw [fromDigits] at read
            exact (Option.ite_none_right_eq_some.mp read).1

theorem hasPrefix_iff {path : String} :
    (parseVersionedPath path).hasPrefix = true ↔ ∃ digits remainder, Versioned path digits remainder := by
  constructor
  · intro found
    rcases parseVersionedPath_cases path with plain | versioned
    · simp [plain] at found
    · exact versioned
  · rintro ⟨digits, remainder, versioned⟩
    rw [parseVersionedPath_eq versioned]

theorem normalised_eq_self {path : String} (plain : (parseVersionedPath path).hasPrefix = false) :
    parseVersionedPath path = ⟨false, 0, path⟩ := by
  rcases parseVersionedPath_cases path with same | ⟨digits, remainder, versioned⟩
  · exact same
  · simp [parseVersionedPath_eq versioned] at plain

end Grammar

section Zeros

theorem versioned_append {rest : List Char} :
    Versioned (String.ofList (versionedPrefix ++ rest)) digits remainder ↔
      rest.takeWhile Char.isDigit = digits ∧ rest.dropWhile Char.isDigit = remainder ∧ digits ≠ [] ∧
        Nat.ofDigitChars 10 digits 0 ≤ intMax ∧ EndsSegment remainder := by
  constructor
  · intro versioned
    have parts := versioned.parts
    rw [String.toList_ofList, List.append_assoc, List.append_cancel_left_eq] at parts
    obtain ⟨taken, dropped⟩ := scan_append versioned.decimal versioned.ends.stops
    rw [parts]
    exact ⟨taken, dropped, versioned.nonempty, versioned.bounded, versioned.ends⟩
  · rintro ⟨rfl, rfl, nonempty, bounded, ends⟩
    refine ⟨?_, nonempty, fun digit member => List.mem_takeWhile_imp member, bounded, ends⟩
    rw [String.toList_ofList, List.append_assoc, List.takeWhile_append_dropWhile]

theorem ofDigitChars_zeros (count : Nat) (digits : List Char) :
    Nat.ofDigitChars 10 (List.replicate count '0' ++ digits) 0 = Nat.ofDigitChars 10 digits 0 := by
  induction count with
  | zero => rfl
  | succ count ih =>
    rw [List.replicate_succ, List.cons_append, Nat.ofDigitChars_cons]
    exact ih

theorem scan_zeros (count : Nat) (rest : List Char) :
    (List.replicate count '0' ++ rest).takeWhile Char.isDigit = List.replicate count '0' ++ rest.takeWhile Char.isDigit ∧
    (List.replicate count '0' ++ rest).dropWhile Char.isDigit = rest.dropWhile Char.isDigit := by
  have zeros : ∀ digit ∈ List.replicate count '0', digit.isDigit = true := by
    intro digit member
    rw [List.eq_of_mem_replicate member]
    rfl
  exact ⟨List.takeWhile_append_of_pos zeros, List.dropWhile_append_of_pos zeros⟩

def padded (count : Nat) (number : List Char) : String :=
  String.ofList (versionedPrefix ++ (List.replicate count '0' ++ number))

theorem versioned_padded (count : Nat) {number : List Char} (versioned : Versioned (padded 0 number) digits remainder) :
    Versioned (padded count number) (List.replicate count '0' ++ digits) remainder := by
  obtain ⟨taken, dropped, nonempty, bounded, ends⟩ := versioned_append.mp versioned
  obtain ⟨takenPadded, droppedPadded⟩ := scan_zeros count number
  refine versioned_append.mpr ⟨?_, droppedPadded.trans dropped, ?_, ?_, ends⟩
  · rw [takenPadded]
    exact congrArg _ taken
  · exact List.append_ne_nil_of_right_ne_nil _ nonempty
  · rw [ofDigitChars_zeros]
    exact bounded

theorem versioned_unpadded {count : Nat} {digit : Char} {more : List Char} (decimal : digit.isDigit = true)
    (versioned : Versioned (padded count (digit :: more)) digits remainder) :
    Versioned (padded 0 (digit :: more)) ((digit :: more).takeWhile Char.isDigit) remainder := by
  obtain ⟨taken, dropped, -, bounded, ends⟩ := versioned_append.mp versioned
  obtain ⟨takenPadded, droppedPadded⟩ := scan_zeros count (digit :: more)
  refine versioned_append.mpr ⟨rfl, droppedPadded.symm.trans dropped, ?_, ?_, ends⟩
  · simp [decimal]
  · rw [← taken, takenPadded, ofDigitChars_zeros] at bounded
    exact bounded

end Zeros

/-- The prefix is found exactly in the paths that have one, with its number and the path without it; another
path is left as it is; and zeros in front of the number make no difference. -/
theorem versioned_path_exact (path : String) :
    ((parseVersionedPath path).hasPrefix = true ↔ ∃ digits remainder, Versioned path digits remainder) ∧
    (∀ digits remainder, Versioned path digits remainder →
      parseVersionedPath path = ⟨true, Nat.ofDigitChars 10 digits 0, String.ofList (apiPrefix ++ remainder)⟩) ∧
    ((parseVersionedPath path).hasPrefix = false → (parseVersionedPath path).normalised = path) ∧
    ∀ count digit more, digit.isDigit = true →
      let plain := parseVersionedPath (padded 0 (digit :: more))
      let zeros := parseVersionedPath (padded count (digit :: more))
      zeros.hasPrefix = plain.hasPrefix ∧ zeros.version = plain.version ∧
        (plain.hasPrefix = true → zeros.normalised = plain.normalised) := by
  refine ⟨hasPrefix_iff, fun digits remainder versioned => parseVersionedPath_eq versioned, ?_, ?_⟩
  · intro plain
    rw [normalised_eq_self plain]
  · intro count digit more decimal
    cases found : (parseVersionedPath (padded 0 (digit :: more))).hasPrefix with
    | true =>
      obtain ⟨digits, remainder, versioned⟩ := hasPrefix_iff.mp found
      rw [parseVersionedPath_eq versioned, parseVersionedPath_eq (versioned_padded count versioned),
        ofDigitChars_zeros]
      exact ⟨rfl, rfl, fun _ => rfl⟩
    | false =>
      have absent : (parseVersionedPath (padded count (digit :: more))).hasPrefix = false := by
        rw [← Bool.not_eq_true, hasPrefix_iff]
        rintro ⟨digits, remainder, versioned⟩
        have present := hasPrefix_iff.mpr ⟨_, _, versioned_unpadded decimal versioned⟩
        simp [found] at present
      rw [normalised_eq_self found, normalised_eq_self absent]
      exact ⟨rfl, rfl, nofun⟩

end RealtimeChat.Server
