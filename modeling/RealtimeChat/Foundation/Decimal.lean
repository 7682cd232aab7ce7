import Mathlib.Algebra.Group.Int.Defs
import Mathlib.Algebra.Group.Nat.Defs
import Mathlib.Data.List.TakeWhile

/-! Decimal numerals in texts.

Two integers with one numeral are equal, and a numeral holds digits and perhaps
a sign, so a separator that is neither splits a text of two numerals in one way.
-/

set_option autoImplicit false

namespace RealtimeChat.Foundation

theorem not_mem_toString_int {separator : Char} (digit : separator.isDigit = false) (sign : separator ≠ '-')
    (value : Int) : separator ∉ (toString value).toList := by
  have numeral (magnitude : Nat) : separator ∉ magnitude.repr.toList := by
    intro member
    rw [Nat.toList_repr] at member
    simp [Nat.isDigit_of_mem_toDigits (by decide) (by decide) member] at digit
  rw [Int.toString_eq_repr, Int.repr_eq_if]
  split
  · exact numeral value.toNat
  · rw [String.toList_append, List.mem_append, not_or]
    exact ⟨by simpa using sign, numeral (-value).toNat⟩

theorem toList_toString_int_ne_nil (value : Int) : (toString value).toList ≠ [] := by
  have numeral (magnitude : Nat) : magnitude.repr.toList ≠ [] := by
    rw [Nat.toList_repr]
    exact Nat.toDigits_ne_nil
  rw [Int.toString_eq_repr, Int.repr_eq_if]
  split
  · exact numeral value.toNat
  · rw [String.toList_append]
    exact List.append_ne_nil_of_right_ne_nil _ (numeral (-value).toNat)

def readDigits (text : List Char) : Nat := Nat.ofDigitChars 10 (text.takeWhile Char.isDigit) 0

/-- The numeral that the text begins with, and zero if there is none. -/
def readNumeral (text : String) : Int :=
  match text.toList with
  | '-' :: digits => -(readDigits digits : Int)
  | digits => readDigits digits

/-- What `std::from_chars` makes of a variable of 64 bits that is zero: a numeral out of range leaves it so. -/
def readInt (text : String) : Int :=
  if -2 ^ 63 ≤ readNumeral text ∧ readNumeral text < 2 ^ 63 then readNumeral text else 0

theorem readDigits_toDigits (magnitude : Nat) : readDigits (Nat.toDigits 10 magnitude) = magnitude := by
  have digits : ∀ c ∈ Nat.toDigits 10 magnitude, c.isDigit = true := fun c member =>
    Nat.isDigit_of_mem_toDigits (by decide) (by decide) member
  rw [readDigits, List.takeWhile_eq_self_iff.mpr digits, Nat.ofDigitChars_ten_toDigits]

theorem readNumeral_toString (value : Int) : readNumeral (toString value) = value := by
  rw [Int.toString_eq_repr, Int.repr_eq_if]
  split
  · next positive =>
    have unsigned : ∀ rest, Nat.toDigits 10 value.toNat ≠ '-' :: rest := fun rest same => by
      have sign : '-' ∈ Nat.toDigits 10 value.toNat := same ▸ List.mem_cons_self
      exact absurd (Nat.isDigit_of_mem_toDigits (by decide) (by decide) sign) (by decide)
    rw [readNumeral, Nat.toList_repr]
    split
    · next rest same => exact absurd same (unsigned rest)
    · rw [readDigits_toDigits]
      exact Int.toNat_of_nonneg positive
  · next negative =>
    rw [readNumeral, String.toList_append, Nat.toList_repr]
    change -(readDigits (Nat.toDigits 10 (-value).toNat) : Int) = value
    rw [readDigits_toDigits]
    omega

theorem readInt_toString {value : Int} (low : -2 ^ 63 ≤ value) (high : value < 2 ^ 63) :
    readInt (toString value) = value := by
  rw [readInt, readNumeral_toString, if_pos ⟨low, high⟩]

theorem toString_int_inj {first second : Int} : toString first = toString second ↔ first = second :=
  ⟨fun same => by rw [← readNumeral_toString first, same, readNumeral_toString], congrArg toString⟩

theorem append_cons_inj {A : Type} {separator : A} {left right left' right' : List A} (absent : separator ∉ left)
    (absent' : separator ∉ left') :
    left ++ separator :: right = left' ++ separator :: right' ↔ left = left' ∧ right = right' := by
  induction left generalizing left' with
  | nil =>
    cases left' with
    | nil => simp
    | cons first rest =>
      simp only [List.mem_cons, not_or] at absent'
      simp [absent'.1]
  | cons first rest ih =>
    simp only [List.mem_cons, not_or] at absent
    cases left' with
    | nil => simp [Ne.symm absent.1]
    | cons first' rest' =>
      simp only [List.mem_cons, not_or] at absent'
      simp [ih absent.2 absent'.2, and_assoc]

theorem pair_text_inj {first second first' second' : Int} :
    toString first ++ ":" ++ toString second = toString first' ++ ":" ++ toString second' ↔
      first = first' ∧ second = second' := by
  have colon (value : Int) : ':' ∉ (toString value).toList := not_mem_toString_int rfl (by decide) value
  rw [← toString_int_inj , ← toString_int_inj , ← String.toList_inj]
  simp only [String.toList_append, List.append_assoc]
  rw [← String.toList_inj, ← String.toList_inj]
  exact append_cons_inj (colon first) (colon first')

end RealtimeChat.Foundation
