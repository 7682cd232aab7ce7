import RealtimeChat.Foundation.Json
import Mathlib.Algebra.Group.Int.Defs

/-! The integers of JSON documents in 64 bits.

A document may hold integers of any size. A library that parses it keeps an
integer as a signed or an unsigned number of 64 bits, or as a floating-point
number if it fits neither. Both are read as signed ones, by two's complement, and
a stored document has them as they are read.
-/

set_option autoImplicit false

namespace RealtimeChat.Foundation.Json

def fitsSigned (value : Int) : Bool := -9223372036854775808 ≤ value && value < 9223372036854775808

def fitsUnsigned (value : Int) : Bool := 0 ≤ value && value < 18446744073709551616

def toSigned (value : Int) : Int := (BitVec.ofInt 64 value).toInt

def storeInteger (value : Int) : Json :=
  if fitsSigned value || fitsUnsigned value then .number (toSigned value) else .decimal value

mutual

def stored : Json → Json
  | .null => .null
  | .bool value => .bool value
  | .number value => storeInteger value
  | .decimal value => .decimal value
  | .string value => .string value
  | .array items => .array (storedItems items)
  | .object members => .object (storedMembers members)

def storedItems : List Json → List Json
  | [] => []
  | item :: rest => stored item :: storedItems rest

def storedMembers : List (String × Json) → List (String × Json)
  | [] => []
  | (name, value) :: rest => (name, stored value) :: storedMembers rest

end

section Integers

variable {value : Int}

theorem read_storeInteger {Outcome : Type} {outcome : Outcome} (read : Json → Outcome) (value : Int)
    (number : ∀ integer, read (.number integer) = outcome) (decimal : ∀ quantity, read (.decimal quantity) = outcome) :
    read (storeInteger value) = outcome := by
  unfold storeInteger
  split
  · exact number _
  · exact decimal _

theorem fitsSigned_iff : fitsSigned value = true ↔ -9223372036854775808 ≤ value ∧ value < 9223372036854775808 := by
  simp [fitsSigned]

theorem fitsUnsigned_iff : fitsUnsigned value = true ↔ 0 ≤ value ∧ value < 18446744073709551616 := by
  simp [fitsUnsigned]

theorem toSigned_of_fitsSigned (fits : fitsSigned value = true) : toSigned value = value := by
  obtain ⟨low, high⟩ := fitsSigned_iff.mp fits
  rw [toSigned, BitVec.toInt_ofInt]
  exact Int.bmod_eq_of_le (by omega) (by omega)

theorem toSigned_ne (large : fitsSigned value = false) (fits : fitsUnsigned value = true) : toSigned value ≠ value := by
  have range := mt fitsSigned_iff.mpr (Bool.eq_false_iff.mp large)
  obtain ⟨low, high⟩ := fitsUnsigned_iff.mp fits
  have wraps : (BitVec.ofInt 64 value).toInt = value - 18446744073709551616 := by
    rw [BitVec.toInt_ofInt, Int.bmod_def]
    omega
  rw [toSigned, wraps]
  omega

theorem integer?_storeInteger {used : Int} (read : (storeInteger value).integer? = some used) :
    used = value ↔ ¬ (fitsSigned value = false ∧ fitsUnsigned value = true) := by
  unfold storeInteger at read
  split at read
  · next fits =>
    obtain rfl : toSigned value = used := Option.some.inj read
    constructor
    · exact fun same wraps => toSigned_ne wraps.1 wraps.2 same
    · intro plain
      refine toSigned_of_fitsSigned ?_
      by_contra large
      exact plain ⟨Bool.not_eq_true _ ▸ large, by simpa [large] using fits⟩
  · cases read

end Integers

section Documents

theorem storedItems_eq_map (items : List Json) : storedItems items = items.map stored := by
  induction items with
  | nil => rfl
  | cons item rest ih => rw [storedItems, ih, List.map_cons]

theorem lookup_storedMembers (name : String) (members : List (String × Json)) :
    lookup name (storedMembers members) = (lookup name members).map stored := by
  induction members with
  | nil => rfl
  | cons member rest ih =>
    obtain ⟨first, value⟩ := member
    rw [storedMembers, lookup, lookup, ih]
    split <;> rfl

theorem find_stored (document : Json) (name : String) : document.stored.find name = (document.find name).map stored := by
  cases document with
  | object members => exact lookup_storedMembers name members
  | number value => exact read_storeInteger (Json.find · name) value (fun _ => rfl) fun _ => rfl
  | null | bool | decimal | string | array => rfl

theorem text?_stored (document : Json) : document.stored.text? = document.text? := by
  cases document with
  | number value => exact read_storeInteger Json.text? value (fun _ => rfl) fun _ => rfl
  | null | bool | decimal | string | array | object => rfl

theorem array?_stored (document : Json) : document.stored.array? = document.array?.map (List.map stored) := by
  cases document with
  | number value => exact read_storeInteger Json.array? value (fun _ => rfl) fun _ => rfl
  | array items => exact congrArg some (storedItems_eq_map items)
  | null | bool | decimal | string | object => rfl

end Documents

end RealtimeChat.Foundation.Json
