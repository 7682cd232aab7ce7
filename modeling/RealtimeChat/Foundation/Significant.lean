import RealtimeChat.Foundation.Exposition
import Mathlib.Data.List.DropRight
import Mathlib.Data.Nat.Digits.Defs

/-! Numerals with a bounded number of significant digits.

This is how `%g` and the default format of a stream print a natural number: up
to the precision in full, and beyond it rounded to so many digits, ties to even,
with a point after the first digit, without zeros at the end and with the
exponent after it. Such a numeral stands for the number itself exactly when the
number has no more significant digits than that.
-/

set_option autoImplicit false

namespace RealtimeChat.Foundation.Significant

section Reading

def exponentOf : List Char → Int
  | 'e' :: '+' :: digits => Nat.ofDigitChars 10 digits 0
  | 'e' :: '-' :: digits => -(Nat.ofDigitChars 10 digits 0 : Int)
  | _ => 0

def unsigned (text : List Char) : ℚ :=
  let mantissa := text.takeWhile (· ≠ 'e')
  let whole := mantissa.takeWhile (· ≠ '.')
  let fraction := (mantissa.dropWhile (· ≠ '.')).drop 1
  Nat.ofDigitChars 10 (whole ++ fraction) 0 * 10 ^ (exponentOf (text.dropWhile (· ≠ 'e')) - fraction.length)

def value : List Char → ℚ
  | '-' :: text => -unsigned text
  | text => unsigned text

end Reading

section Writing

/-- Division to the nearest number, and to the even one of two. -/
def roundDiv (number unit : Nat) : Nat :=
  let quotient := number / unit
  let rest := number % unit
  if 2 * rest < unit then quotient
  else if unit < 2 * rest then quotient + 1
  else quotient + quotient % 2

def surplus (precision number : Nat) : Nat := (Nat.toDigits 10 number).length - precision

/-- The leading digits and the power of ten that follows them; rounding up may carry into a new digit. -/
def leading (precision number : Nat) : Nat × Nat :=
  let places := surplus precision number
  let rounded := roundDiv number (10 ^ places)
  if rounded = 10 ^ precision then (10 ^ (precision - 1), places + 1) else (rounded, places)

def exponentText (exponent : Nat) : List Char :=
  'e' :: '+' :: (if exponent < 10 then '0' :: Nat.toDigits 10 exponent else Nat.toDigits 10 exponent)

def pointed : List Char → List Char
  | [] => []
  | first :: rest => first :: (if rest.isEmpty then [] else '.' :: rest)

def scientific (precision mantissa places : Nat) : List Char :=
  pointed ((Nat.toDigits 10 mantissa).rdropWhile (· = '0')) ++ exponentText (places + (precision - 1))

def text (precision number : Nat) : List Char :=
  if number < 10 ^ precision then Nat.toDigits 10 number
  else scientific precision (leading precision number).1 (leading precision number).2

end Writing

def Fits (precision number : Nat) : Prop := ∃ mantissa places, mantissa < 10 ^ precision ∧ number = mantissa * 10 ^ places

section Bounds

variable {precision number : Nat}

theorem lt_pow_length (number : Nat) : number < 10 ^ (Nat.toDigits 10 number).length :=
  (Nat.length_toDigits_le_iff (by decide) (List.length_pos_iff.mpr Nat.toDigits_ne_nil)).mp le_rfl

theorem pow_le_of_length {places : Nat} (positive : 0 < places) (long : places < (Nat.toDigits 10 number).length) :
    10 ^ places ≤ number := by
  by_contra small
  have short := (Nat.length_toDigits_le_iff (by decide : 1 < 10) positive).mpr (Nat.lt_of_not_le small)
  omega

theorem length_of_bounds (least : 10 ^ precision ≤ number) (most : number < 10 ^ (precision + 1)) :
    (Nat.toDigits 10 number).length = precision + 1 := by
  have short := (Nat.length_toDigits_le_iff (by decide : 1 < 10) (Nat.succ_pos precision)).mpr most
  have long := (Nat.pow_lt_pow_iff_right (by decide : 1 < 10)).mp (least.trans_lt (lt_pow_length number))
  omega

theorem roundDiv_of_dvd {unit : Nat} (positive : 0 < unit) (exact : unit ∣ number) :
    roundDiv number unit = number / unit := by
  simp [roundDiv, Nat.mod_eq_zero_of_dvd exact, positive]

theorem le_roundDiv (number unit : Nat) : number / unit ≤ roundDiv number unit := by
  simp only [roundDiv]
  split
  · exact le_rfl
  · split <;> omega

theorem roundDiv_le (number unit : Nat) : roundDiv number unit ≤ number / unit + 1 := by
  simp only [roundDiv]
  split
  · omega
  · split <;> omega

section

variable (large : 10 ^ precision ≤ number)

include large

theorem length_eq_surplus :
    (Nat.toDigits 10 number).length = surplus precision number + precision ∧ 0 < surplus precision number := by
  have long := (Nat.pow_lt_pow_iff_right (by decide : 1 < 10)).mp (large.trans_lt (lt_pow_length number))
  unfold surplus
  omega

theorem dvd_of_fits (positive : 0 < precision) (fits : Fits precision number) :
    10 ^ surplus precision number ∣ number := by
  obtain ⟨length, _⟩ := length_eq_surplus large
  obtain ⟨mantissa, places, small, rfl⟩ := fits
  have least : 10 ^ (surplus precision (mantissa * 10 ^ places) + precision - 1) ≤ mantissa * 10 ^ places :=
    pow_le_of_length (by omega) (by omega)
  have most : mantissa * 10 ^ places < 10 ^ (precision + places) := by
    rw [pow_add]
    exact Nat.mul_lt_mul_of_pos_right small (Nat.pow_pos (by decide))
  have shorter := (Nat.pow_lt_pow_iff_right (by decide : 1 < 10)).mp (least.trans_lt most)
  exact (Nat.pow_dvd_pow 10 (by omega)).trans (Nat.dvd_mul_left _ _)

theorem quotient_bounds (positive : 0 < precision) : 10 ^ (precision - 1) ≤ number / 10 ^ surplus precision number ∧
      number / 10 ^ surplus precision number < 10 ^ precision := by
  obtain ⟨length, _⟩ := length_eq_surplus large
  have unit : 0 < 10 ^ surplus precision number := Nat.pow_pos (by decide)
  constructor
  · rw [Nat.le_div_iff_mul_le unit, ← pow_add]
    exact pow_le_of_length (by omega) (by omega)
  · rw [Nat.div_lt_iff_lt_mul unit, ← pow_add, Nat.add_comm, ← length]
    exact lt_pow_length number

theorem leading_bounds (positive : 0 < precision) :
    10 ^ (precision - 1) ≤ (leading precision number).1 ∧ (leading precision number).1 < 10 ^ precision := by
  obtain ⟨least, most⟩ := quotient_bounds large positive
  have below := le_roundDiv number (10 ^ surplus precision number)
  have above := roundDiv_le number (10 ^ surplus precision number)
  simp only [leading]
  split
  · exact ⟨le_rfl, (Nat.pow_lt_pow_iff_right (by decide : 1 < 10)).mpr (by omega)⟩
  · omega

theorem leading_exact_iff (positive : 0 < precision) :
    (leading precision number).1 * 10 ^ (leading precision number).2 = number ↔ Fits precision number := by
  refine ⟨fun exact => ⟨_, _, (leading_bounds large positive).2, exact.symm⟩, fun fits => ?_⟩
  have unit : 0 < 10 ^ surplus precision number := Nat.pow_pos (by decide)
  have whole := dvd_of_fits large positive fits
  have rounded := roundDiv_of_dvd unit whole
  have most := (quotient_bounds large positive).2
  simp only [leading, rounded, if_neg (Nat.ne_of_lt most)]
  exact Nat.div_mul_cancel whole

end

end Bounds

variable {rest : List Char} {first : Char} (exponent : Nat)

section Values

variable {mark : Char} {digits : List Char} {mantissa : Nat}

theorem ne_of_isDigit {c : Char} (digit : c.isDigit = true) (other : mark.isDigit = false) : c ≠ mark :=
  ne_of_apply_ne Char.isDigit (by rw [digit, other]; decide)

theorem value_eq_unsigned {text : List Char} (positive : text.head? ≠ some '-') : value text = unsigned text := by
  unfold value
  split
  · exact absurd rfl positive
  · rfl

theorem head_of_digits (filled : digits ≠ []) (all : ∀ c ∈ digits, c.isDigit = true) : digits.head? ≠ some '-' := by
  cases digits with
  | nil => exact absurd rfl filled
  | cons first others =>
    rw [List.head?_cons, ne_eq, Option.some.injEq]
    exact ne_of_isDigit (all first List.mem_cons_self) rfl

theorem value_digits (filled : digits ≠ []) (all : ∀ c ∈ digits, c.isDigit = true) :
    value digits = Nat.ofDigitChars 10 digits 0 := by
  have noMark (mark : Char) (other : mark.isDigit = false) : ∀ c ∈ digits, decide (c ≠ mark) = true := fun c member =>
    decide_eq_true (ne_of_isDigit (all c member) other)
  rw [value_eq_unsigned (head_of_digits filled all)]
  simp only [unsigned, List.takeWhile_eq_self_iff.mpr (noMark 'e' rfl), List.takeWhile_eq_self_iff.mpr (noMark '.' rfl),
    List.dropWhile_eq_nil_iff.mpr (noMark 'e' rfl), List.dropWhile_eq_nil_iff.mpr (noMark '.' rfl), List.drop_nil,
    List.append_nil, exponentOf, List.length_nil]
  simp

theorem span_mark {before : List Char} (absent : mark ∉ before) :
    (before ++ mark :: rest).takeWhile (· ≠ mark) = before ∧
      (before ++ mark :: rest).dropWhile (· ≠ mark) = mark :: rest := by
  have others : ∀ c ∈ before, decide (c ≠ mark) = true := fun c member =>
    decide_eq_true fun same => absent (same ▸ member)
  rw [List.takeWhile_append_of_pos others, List.dropWhile_append_of_pos others]
  simp

theorem value_pointed {exponent : List Char} (all : ∀ c ∈ first :: rest, c.isDigit = true) :
    value (pointed (first :: rest) ++ 'e' :: '+' :: exponent) =
      Nat.ofDigitChars 10 (first :: rest) 0 * 10 ^ ((Nat.ofDigitChars 10 exponent 0 : Int) - rest.length) := by
  have absent (mark : Char) (other : mark.isDigit = false) : mark ∉ first :: rest := fun member =>
    ne_of_isDigit (all mark member) other rfl
  have start : (pointed (first :: rest) ++ 'e' :: '+' :: exponent).head? ≠ some '-' :=
    fun same => ne_of_isDigit (all first List.mem_cons_self) rfl (Option.some.inj same)
  have mantissa : 'e' ∉ pointed (first :: rest) := by
    have noMark := absent 'e' rfl
    unfold pointed
    split <;> simp_all
  rw [value_eq_unsigned start]
  simp only [unsigned, span_mark mantissa, exponentOf]
  by_cases none : rest.isEmpty
  · have other : first ≠ '.' := ne_of_isDigit (all first List.mem_cons_self) rfl
    rw [List.isEmpty_iff.mp none]
    simp [pointed, other]
  · have parts : pointed (first :: rest) = [first] ++ '.' :: rest := by simp [pointed, none]
    have head : '.' ∉ [first] := fun member => absent '.' rfl (by simpa using Or.inl member)
    rw [parts, (span_mark head).1, (span_mark head).2]
    rfl

theorem ofDigitChars_append_zeros {zeros : List Char} (all : ∀ c ∈ zeros, c = '0') :
    Nat.ofDigitChars 10 (digits ++ zeros) 0 = Nat.ofDigitChars 10 digits 0 * 10 ^ zeros.length := by
  rw [Nat.ofDigitChars_append]
  generalize Nat.ofDigitChars 10 digits 0 = start
  induction zeros generalizing start with
  | nil => simp [Nat.ofDigitChars]
  | cons c zeros ih =>
    obtain ⟨rfl, others⟩ := List.forall_mem_cons.mp all
    rw [Nat.ofDigitChars_cons, ih others, List.length_cons, pow_succ]
    ring_nf
    simp

theorem ofDigitChars_exponent : exponentText exponent = 'e' :: '+' :: (exponentText exponent).drop 2 ∧
      Nat.ofDigitChars 10 ((exponentText exponent).drop 2) 0 = exponent := by
  refine ⟨rfl, ?_⟩
  simp only [exponentText, List.drop_succ_cons, List.drop_zero]
  split
  · rw [Nat.ofDigitChars_cons]
    exact Nat.ofDigitChars_ten_toDigits
  · exact Nat.ofDigitChars_ten_toDigits

theorem kept_digits (positive : 0 < mantissa) :
    ∃ first rest zeros, (Nat.toDigits 10 mantissa).rdropWhile (· = '0') = first :: rest ∧
      (∀ c ∈ first :: rest, c.isDigit = true) ∧ Nat.ofDigitChars 10 (first :: rest) 0 * 10 ^ zeros = mantissa ∧
      rest.length + 1 + zeros = (Nat.toDigits 10 mantissa).length := by
  obtain ⟨kept, zeros, split, none, keeps⟩ : ∃ kept zeros, Nat.toDigits 10 mantissa = kept ++ zeros ∧
      (∀ c ∈ zeros, c = '0') ∧ (Nat.toDigits 10 mantissa).rdropWhile (· = '0') = kept :=
    ⟨_, _, List.rdropWhile_append_rtakeWhile.symm, fun c member => by simpa using List.mem_rtakeWhile_imp member, rfl⟩
  have number : Nat.ofDigitChars 10 kept 0 * 10 ^ zeros.length = mantissa := by
    rw [← ofDigitChars_append_zeros none, ← split, Nat.ofDigitChars_ten_toDigits]
  have digits : ∀ c ∈ kept, c.isDigit = true := fun c member =>
    Nat.isDigit_of_mem_toDigits (by decide) (by decide) (split ▸ List.mem_append_left zeros member)
  cases kept with
  | nil =>
    have zero : mantissa = 0 := by rw [← number]; simp [Nat.ofDigitChars]
    omega
  | cons first rest =>
    refine ⟨first, rest, zeros.length, keeps, digits, number, ?_⟩
    rw [split, List.length_append, List.length_cons]

theorem value_scientific {precision : Nat} (least : 10 ^ precision ≤ mantissa)
    (most : mantissa < 10 ^ (precision + 1)) (places : Nat) :
    value (scientific (precision + 1) mantissa places) = mantissa * 10 ^ places := by
  obtain ⟨first, rest, zeros, keeps, digits, number, length⟩ := kept_digits ((Nat.pow_pos (by decide)).trans_le least)
  rw [length_of_bounds least most] at length
  obtain ⟨shape, exponent⟩ := ofDigitChars_exponent (places + (precision + 1 - 1))
  have power : ((places + (precision + 1 - 1) : Nat) : Int) - rest.length = ((places + zeros : Nat) : Int) := by omega
  rw [scientific, keeps, shape, value_pointed digits, exponent, power, zpow_natCast, ← number]
  push_cast
  ring

theorem value_text (precision number : Nat) : value (text (precision + 1) number) =
      if number < 10 ^ (precision + 1) then (number : ℚ)
      else (leading (precision + 1) number).1 * 10 ^ (leading (precision + 1) number).2 := by
  unfold text
  split
  · rw [value_digits Nat.toDigits_ne_nil fun c member => Nat.isDigit_of_mem_toDigits (by decide) (by decide) member,
      Nat.ofDigitChars_ten_toDigits]
  · next large =>
    obtain ⟨least, most⟩ := leading_bounds (Nat.le_of_not_lt large) (Nat.succ_pos precision)
    exact value_scientific least most _

/-- A numeral stands for its number exactly when the number has no more significant digits than it keeps. -/
theorem value_text_iff (precision number : Nat) :
    value (text (precision + 1) number) = number ↔ Fits (precision + 1) number := by
  rw [value_text]
  split
  · next small => exact iff_of_true rfl ⟨number, 0, small, by simp⟩
  · next large =>
    rw [← leading_exact_iff (Nat.le_of_not_lt large) (Nat.succ_pos precision)]
    exact_mod_cast Iff.rfl

end Values

section Exposition

open Exposition

theorem digits_exponent :
    ∃ first rest, exponentText exponent = 'e' :: '+' :: first :: rest ∧ ∀ c ∈ first :: rest, c.isDigit = true := by
  have digits : ∀ c ∈ Nat.toDigits 10 exponent, c.isDigit = true := fun c member =>
    Nat.isDigit_of_mem_toDigits (by decide) (by decide) member
  unfold exponentText
  split
  · exact ⟨'0', _, rfl, List.forall_mem_cons.mpr ⟨rfl, digits⟩⟩
  · cases numeral : Nat.toDigits 10 exponent with
    | nil => exact absurd numeral Nat.toDigits_ne_nil
    | cons first rest => exact ⟨first, rest, rfl, numeral ▸ digits⟩

theorem foldlM_pointed (all : ∀ c ∈ first :: rest, c.isDigit = true) :
    ∃ read, (pointed (first :: rest)).foldlM Numeral.next .start = some read ∧ read.next 'e' = some .exponent := by
  obtain ⟨digit, digits⟩ := List.forall_mem_cons.mp all
  have start : Numeral.next .start first = some .whole := if_pos digit
  by_cases none : rest.isEmpty
  · exact ⟨.whole, by simp [pointed, none, start], rfl⟩
  · have point : Numeral.next .whole '.' = some .fraction := rfl
    refine ⟨.fraction, ?_, rfl⟩
    simp [pointed, none, start, point, foldlM_digits (fun _ => Numeral.next_fraction) digits]

theorem isNumber_scientific (all : ∀ c ∈ first :: rest, c.isDigit = true) (exponent : Nat) :
    isNumber (pointed (first :: rest) ++ exponentText exponent) = true := by
  obtain ⟨read, mantissa, mark⟩ := foldlM_pointed all
  obtain ⟨digit, digits, shape, places⟩ := digits_exponent exponent
  obtain ⟨one, others⟩ := List.forall_mem_cons.mp places
  have plus : Numeral.next .exponent '+' = some .exponentSigned := rfl
  have counted : Numeral.next .exponentSigned digit = some .exponentDigits := if_pos one
  rw [isNumber, List.foldlM_append, mantissa, shape]
  simp [mark, plus, counted, foldlM_digits (fun _ => Numeral.next_exponentDigits) others, Numeral.complete]

theorem isNumber_text (precision number : Nat) : isNumber (text (precision + 1) number) = true := by
  unfold text
  split
  · rw [← Nat.toList_repr]
    exact isNumber_repr number
  · next large =>
    obtain ⟨least, _⟩ := leading_bounds (Nat.le_of_not_lt large) (Nat.succ_pos precision)
    obtain ⟨first, rest, _, keeps, digits, _⟩ := kept_digits ((Nat.pow_pos (by decide)).trans_le least)
    rw [scientific, keeps]
    exact isNumber_scientific digits _

end Exposition

end RealtimeChat.Foundation.Significant
