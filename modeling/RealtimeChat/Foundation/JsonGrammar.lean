import RealtimeChat.Foundation.Assignments

/-! The grammar of JSON documents.

Each relation holds between a text, what its beginning stands for, and what is
left of it. A number is kept as it is written. Of all the ways to write a string
the one without escapes is the shortest, so a text that is no longer than its
strings has none.
-/

set_option autoImplicit false

namespace RealtimeChat.Foundation.JsonGrammar

inductive Value where
  | null
  | bool (value : Bool)
  | number (literal : List Char)
  | string (value : List Char)
  | array (items : List Value)
  | object (members : List (List Char × Value))

def isSpace (c : Char) : Bool := c = ' ' || c = '\t' || c = '\n' || c = '\r'

def Skip (text rest : List Char) : Prop := ∃ blank, text = blank ++ rest ∧ ∀ c ∈ blank, isSpace c

def isBare (c : Char) : Bool := 32 ≤ c.toNat && c ≠ '"' && c ≠ '\\'

def escape : Char → Option Char
  | '"' => some '"'
  | '\\' => some '\\'
  | '/' => some '/'
  | 'b' => some '\x08'
  | 'f' => some '\x0c'
  | 'n' => some '\n'
  | 'r' => some '\r'
  | 't' => some '\t'
  | _ => none

def hexDigit (c : Char) : Option Nat :=
  if c.isDigit then some (c.toNat - '0'.toNat)
  else if 'a' ≤ c ∧ c ≤ 'f' then some (c.toNat - 'a'.toNat + 10)
  else if 'A' ≤ c ∧ c ≤ 'F' then some (c.toNat - 'A'.toNat + 10)
  else none

def codeUnit (digits : List Char) : Option Nat :=
  if digits.length = 4 then
    digits.foldlM (fun value digit => (hexDigit digit).map (16 * value + ·)) 0
  else none

def pairValue (high low : Nat) : Option Char :=
  if 0xD800 ≤ high ∧ high < 0xDC00 ∧ 0xDC00 ≤ low ∧ low < 0xE000 then
    some (Char.ofNat (0x10000 + (high - 0xD800) * 0x400 + (low - 0xDC00)))
  else none

inductive Chars : List Char → List Char → List Char → Prop where
  | close {rest : List Char} : Chars ('"' :: rest) [] rest
  | bare {c : Char} {text value rest : List Char} (plain : isBare c) (more : Chars text value rest) :
      Chars (c :: text) (c :: value) rest
  | escaped {code c : Char} {text value rest : List Char} (known : escape code = some c)
      (more : Chars text value rest) : Chars ('\\' :: code :: text) (c :: value) rest
  | unicode {digits text value rest : List Char} {unit : Nat} (known : codeUnit digits = some unit)
      (scalar : unit.isValidChar) (more : Chars text value rest) :
      Chars ('\\' :: 'u' :: (digits ++ text)) (Char.ofNat unit :: value) rest
  | pair {first second text value rest : List Char} {high low : Nat} {c : Char} (upper : codeUnit first = some high)
      (lower : codeUnit second = some low) (known : pairValue high low = some c) (more : Chars text value rest) :
      Chars ('\\' :: 'u' :: (first ++ '\\' :: 'u' :: (second ++ text))) (c :: value) rest

def Digits (text : List Char) : Prop := text ≠ [] ∧ ∀ c ∈ text, c.isDigit

def Whole (text : List Char) : Prop := Digits text ∧ (text.head? = some '0' → text = ['0'])

def Fraction (text : List Char) : Prop := text = [] ∨ ∃ digits, Digits digits ∧ text = '.' :: digits

def Exponent (text : List Char) : Prop :=
  text = [] ∨ ∃ mark sign digits, (mark = 'e' ∨ mark = 'E') ∧ (sign = [] ∨ sign = ['+'] ∨ sign = ['-']) ∧
    Digits digits ∧ text = mark :: (sign ++ digits)

def Number (text : List Char) : Prop :=
  ∃ sign whole fraction exponent, (sign = [] ∨ sign = ['-']) ∧ Whole whole ∧ Fraction fraction ∧ Exponent exponent ∧
    text = sign ++ whole ++ fraction ++ exponent

inductive Items (reads : List Char → Value → List Char → Prop) : List Char → List Value → List Char → Prop where
  | last {text start after rest : List Char} {value : Value} (lead : Skip text start)
      (one : reads start value after) (ends : Skip after (']' :: rest)) : Items reads text [value] rest
  | next {text start after more rest : List Char} {value : Value} {values : List Value} (lead : Skip text start)
      (one : reads start value after) (comma : Skip after (',' :: more)) (others : Items reads more values rest) :
      Items reads text (value :: values) rest

def Named (text name start : List Char) : Prop :=
  ∃ key gap follow, Skip text ('"' :: key) ∧ Chars key name gap ∧ Skip gap (':' :: follow) ∧ Skip follow start

inductive Members (reads : List Char → Value → List Char → Prop) :
    List Char → List (List Char × Value) → List Char → Prop where
  | last {text name start after rest : List Char} {value : Value} (named : Named text name start)
      (one : reads start value after) (ends : Skip after ('}' :: rest)) : Members reads text [(name, value)] rest
  | next {text name start after more rest : List Char} {value : Value} {members : List (List Char × Value)}
      (named : Named text name start) (one : reads start value after) (comma : Skip after (',' :: more))
      (others : Members reads more members rest) : Members reads text ((name, value) :: members) rest

inductive Reads : List Char → Value → List Char → Prop where
  | null {rest : List Char} : Reads ('n' :: 'u' :: 'l' :: 'l' :: rest) .null rest
  | yes {rest : List Char} : Reads ('t' :: 'r' :: 'u' :: 'e' :: rest) (.bool true) rest
  | no {rest : List Char} : Reads ('f' :: 'a' :: 'l' :: 's' :: 'e' :: rest) (.bool false) rest
  | number {text literal rest : List Char} (numeral : Number literal) (split : text = literal ++ rest) :
      Reads text (.number literal) rest
  | string {text value rest : List Char} (chars : Chars text value rest) : Reads ('"' :: text) (.string value) rest
  | emptyArray {text rest : List Char} (inside : Skip text (']' :: rest)) : Reads ('[' :: text) (.array []) rest
  | array {text rest : List Char} {items : List Value} (inside : Items Reads text items rest) :
      Reads ('[' :: text) (.array items) rest
  | emptyObject {text rest : List Char} (inside : Skip text ('}' :: rest)) : Reads ('{' :: text) (.object []) rest
  | object {text rest : List Char} {members : List (List Char × Value)}
      (inside : Members Reads text members rest) : Reads ('{' :: text) (.object members) rest

def Document (text : List Char) (value : Value) : Prop := ∃ start rest, Skip text start ∧ Reads start value rest ∧ Skip rest []

section Skipping

variable {c : Char} {text rest : List Char}

theorem skip_refl (text : List Char) : Skip text text := ⟨[], rfl, nofun⟩

theorem Skip.length (skipped : Skip text rest) : rest.length ≤ text.length := by
  obtain ⟨blank, rfl, _⟩ := skipped
  simp

theorem Skip.eq_of_solid (skipped : Skip (c :: text) rest) (solid : isSpace c = false) : rest = c :: text := by
  obtain ⟨blank, split, spaces⟩ := skipped
  cases blank with
  | nil => exact split.symm
  | cons first others =>
    obtain ⟨rfl, _⟩ := List.cons.inj split
    have space := spaces c List.mem_cons_self
    rw [solid] at space
    cases space

end Skipping

variable {name start : List Char} {read : Value}

section Lengths

variable {text rest value : List Char}

theorem Chars.length (read : Chars text value rest) : value.length + 1 + rest.length ≤ text.length := by
  induction read <;> simp only [List.length_cons, List.length_append, List.length_nil] <;> omega

theorem Chars.bare_of_tight (read : Chars text value rest) (tight : text.length ≤ value.length + 1 + rest.length) :
    ∀ c ∈ value, isBare c := by
  induction read with
  | close => exact nofun
  | bare plain more ih =>
    simp only [List.length_cons] at tight
    exact List.forall_mem_cons.mpr ⟨plain, ih (by omega)⟩
  | escaped _ more _ | unicode _ _ more _ | pair _ _ _ more _ =>
    have length := more.length
    simp only [List.length_cons, List.length_append] at tight
    omega

/-- The characters that a value takes at least, for all that is asked here. -/
def least : Value → Nat
  | .string value => value.length + 2
  | _ => 0

theorem Named.length (named : Named text name start) : name.length + 3 + start.length ≤ text.length := by
  obtain ⟨key, gap, follow, lead, chars, colon, trail⟩ := named
  have sizes := lead.length
  have inside := chars.length
  have after := colon.length
  have last := trail.length
  simp only [List.length_cons] at sizes after
  omega

/-- Nothing that is read grows; the recursor goes through values, items and members together. -/
theorem Reads.length_rest (reads : Reads text read rest) : rest.length ≤ text.length := by
  refine @Reads.rec (fun text _ rest _ => rest.length ≤ text.length) (fun text _ rest _ => rest.length ≤ text.length)
    (fun text _ rest _ => rest.length ≤ text.length) ?_ ?_ ?_ ?_ ?_ ?_ ?_ ?_ ?_ ?_ ?_ ?_ ?_ _ _ _ reads
  iterate 3
    · simp only [List.length_cons]
      omega
  · rintro _ literal rest _ rfl
    rw [List.length_append]
    omega
  · intro _ _ _ chars
    have inside := chars.length
    rw [List.length_cons]
    omega
  iterate 2
    · intro _ _ inside
      have size := inside.length
      simp only [List.length_cons] at size ⊢
      omega
    · intro _ _ _ _ ih
      exact Nat.le_succ_of_le ih
  · intro _ _ _ _ _ lead _ ends ih
    have before := lead.length
    have after := ends.length
    rw [List.length_cons] at after
    omega
  · intro _ _ _ _ _ _ _ lead _ comma _ ih others
    have before := lead.length
    have after := comma.length
    rw [List.length_cons] at after
    omega
  · intro _ _ _ _ _ _ named _ ends ih
    have before := named.length
    have after := ends.length
    rw [List.length_cons] at after
    omega
  · intro _ _ _ _ _ _ _ _ named _ comma _ ih others
    have before := named.length
    have after := comma.length
    rw [List.length_cons] at after
    omega

theorem Reads.length (reads : Reads text read rest) : least read + rest.length ≤ text.length := by
  have shrinks := reads.length_rest
  cases reads with
  | string chars =>
    have inside := chars.length
    simp only [least, List.length_cons]
    omega
  | null | yes | no | number _ _ | emptyArray _ | array _ | emptyObject _ | object _ => simpa [least] using shrinks

def weight (member : List Char × Value) : Nat := member.1.length + 4 + least member.2

def total (members : List (List Char × Value)) : Nat := (members.map weight).sum

variable {members : List (List Char × Value)}

theorem total_nil : total [] = 0 := rfl

theorem total_cons (member : List Char × Value) (others : List (List Char × Value)) :
    total (member :: others) = weight member + total others := by
  simp [total]

theorem Members.length (read : Members Reads text members rest) : total members + rest.length ≤ text.length := by
  induction read with
  | last named one ends =>
    have before := named.length
    have value := one.length
    have after := ends.length
    rw [List.length_cons] at after
    simp only [total_cons, total_nil, weight]
    omega
  | next named one comma others ih =>
    have before := named.length
    have value := one.length
    have after := comma.length
    rw [List.length_cons] at after
    simp only [total_cons, weight]
    omega

theorem Reads.bare_of_tight (read : Reads text (.string value) rest) (tight : text.length ≤ value.length + 2 + rest.length) :
    ∀ c ∈ value, isBare c := by
  cases read with
  | string chars =>
    rw [List.length_cons] at tight
    exact chars.bare_of_tight (by omega)

theorem Members.bare_of_tight (read : Members Reads text members rest)
    (tight : text.length ≤ total members + rest.length) (member : (name, .string value) ∈ members) :
    ∀ c ∈ value, isBare c := by
  induction read with
  | last named one ends =>
    have before := named.length
    have after := ends.length
    cases List.mem_singleton.mp member
    simp only [total_cons, total_nil, weight, least, List.length_cons] at tight after
    exact one.bare_of_tight (by omega)
  | next named one comma others ih =>
    have before := named.length
    have value := one.length
    have after := comma.length
    have more := others.length
    simp only [total_cons, weight, List.length_cons] at tight after
    rcases List.mem_cons.mp member with same | other
    · cases same
      simp only [least] at tight
      exact one.bare_of_tight (by omega)
    · exact ih (by omega) other

end Lengths

section Writing

variable {text more rest value other : List Char}

theorem Number.head {c : Char} (numeral : Number (c :: text)) : c.isDigit ∨ c = '-' := by
  obtain ⟨sign, whole, fraction, exponent, signed, ⟨⟨filled, digits⟩, _⟩, _, _, split⟩ := numeral
  rcases signed with rfl | rfl
  · cases whole with
    | nil => exact absurd rfl filled
    | cons first others =>
      rw [List.nil_append, List.cons_append, List.cons_append] at split
      obtain ⟨rfl, _⟩ := List.cons.inj split
      exact Or.inl (digits c List.mem_cons_self)
  · exact Or.inr (List.cons.inj split).1

theorem not_number_nil : ¬ Number [] := by
  rintro ⟨sign, whole, fraction, exponent, _, ⟨⟨filled, _⟩, _⟩, _, _, split⟩
  simp only [List.nil_eq, List.append_eq_nil_iff] at split
  exact filled split.1.1.2

theorem chars_of_bare (bare : ∀ c ∈ value, isBare c) (more : List Char) : Chars (value ++ '"' :: more) value more := by
  induction value with
  | nil => exact .close
  | cons c value ih =>
    obtain ⟨plain, others⟩ := List.forall_mem_cons.mp bare
    exact .bare plain (ih others)

theorem Chars.unique (bare : ∀ c ∈ value, isBare c) (read : Chars (value ++ '"' :: more) other rest) :
    other = value ∧ rest = more := by
  induction value generalizing other with
  | nil =>
    cases read with
    | close => exact ⟨rfl, rfl⟩
    | bare plain _ => cases plain
  | cons c value ih =>
    obtain ⟨plain, others⟩ := List.forall_mem_cons.mp bare
    rw [List.cons_append] at read
    generalize split : c :: (value ++ '"' :: more) = text at read
    cases read with
    | bare _ chars =>
      obtain ⟨rfl, rfl⟩ := List.cons.inj split
      obtain ⟨rfl, rfl⟩ := ih others chars
      exact ⟨rfl, rfl⟩
    | close | escaped _ _ | unicode _ _ _ | pair _ _ _ _ =>
      rw [(List.cons.inj split).1] at plain
      cases plain

theorem Reads.string_inv (reads : Reads ('"' :: text) read rest) :
    ∃ value, read = .string value ∧ Chars text value rest := by
  generalize split : '"' :: text = whole at reads
  cases reads with
  | string chars =>
    obtain ⟨_, rfl⟩ := List.cons.inj split
    exact ⟨_, rfl, chars⟩
  | @number _ literal _ numeral parts =>
    subst parts
    cases literal with
    | nil => exact absurd numeral not_number_nil
    | cons first others =>
      obtain ⟨rfl, _⟩ := List.cons.inj split
      exact absurd numeral.head (by decide)
  | null | yes | no | emptyArray _ | array _ | emptyObject _ | object _ => cases (List.cons.inj split).1

theorem Named.unique {follow : List Char} (bare : ∀ c ∈ name, isBare c)
    (named : Named ('"' :: (name ++ '"' :: ':' :: follow)) other start) : other = name ∧ Skip follow start := by
  obtain ⟨key, gap, after, lead, chars, colon, trail⟩ := named
  obtain ⟨_, rfl⟩ := List.cons.inj (lead.eq_of_solid rfl)
  obtain ⟨rfl, rfl⟩ := chars.unique bare
  obtain ⟨_, rfl⟩ := List.cons.inj (colon.eq_of_solid rfl)
  exact ⟨rfl, trail⟩

theorem named_of_bare (bare : ∀ c ∈ name, isBare c) (follow : List Char) :
    Named ('"' :: (name ++ '"' :: ':' :: follow)) name follow :=
  ⟨_, _, _, skip_refl _, chars_of_bare bare _, skip_refl _, skip_refl _⟩

/-- A member whose text can be read in one way only when a comma follows it. -/
structure Piece where
  name : List Char
  text : List Char
  value : Value
  bare : ∀ c ∈ name, isBare c
  solid : ∀ {more start : List Char}, Skip (text ++ more) start → start = text ++ more
  reads : ∀ more, Reads (text ++ more) value more
  unique : ∀ {more after rest : List Char} {read : Value} {mark : Char}, Reads (text ++ ',' :: more) read after →
    Skip after (mark :: rest) → mark = ',' ∨ mark = '}' → read = value ∧ after = ',' :: more

def Piece.member (piece : Piece) : List Char × Value := (piece.name, piece.value)

def Piece.string (name value : List Char) (named : ∀ c ∈ name, isBare c) (bare : ∀ c ∈ value, isBare c) : Piece where
  name := name
  text := '"' :: (value ++ ['"'])
  value := .string value
  bare := named
  solid skipped := skipped.eq_of_solid rfl
  reads more := by
    have chars := chars_of_bare bare more
    rw [List.append_cons] at chars
    exact .string chars
  unique := by
    intro more after rest read mark reads _ _
    rw [List.cons_append, List.append_assoc, List.singleton_append] at reads
    obtain ⟨other, rfl, chars⟩ := reads.string_inv
    obtain ⟨rfl, rfl⟩ := chars.unique bare
    exact ⟨rfl, rfl⟩

theorem head_toDigits {number : Nat} (zero : (Nat.toDigits 10 number).head? = some '0') : number = 0 := by
  induction number using Nat.strongRecOn with
  | ind number ih =>
    by_cases small : number < 10
    · rw [Nat.toDigits_of_lt_base small, List.head?_singleton] at zero
      have digit : ∀ number < 10, Nat.digitChar number = '0' → number = 0 := by decide
      exact digit number small (Option.some.inj zero)
    · rw [Nat.toDigits_of_base_le (by decide) (by omega), List.head?_append_of_ne_nil _ Nat.toDigits_ne_nil] at zero
      have quotient := ih (number / 10) (by omega) zero
      omega

theorem whole_toString (number : Nat) : Whole (toString number).toList := by
  have digits : (toString number).toList = Nat.toDigits 10 number := Nat.toList_repr
  rw [digits]
  refine ⟨⟨Nat.toDigits_ne_nil, fun c member => Nat.isDigit_of_mem_toDigits (by decide) (by decide) member⟩, ?_⟩
  intro zero
  rw [head_toDigits zero]
  rfl

theorem Whole.number (whole : Whole text) : Number text :=
  ⟨[], text, [], [], Or.inl rfl, whole, Or.inl rfl, Or.inl rfl, by simp⟩

theorem Number.ne_comma {c : Char} (numeral : Number text) (member : c ∈ text) : c ≠ ',' := by
  rintro rfl
  obtain ⟨sign, whole, fraction, exponent, signed, ⟨⟨_, digits⟩, _⟩, fractional, exponential, rfl⟩ := numeral
  simp only [List.mem_append] at member
  rcases member with ((inSign | inWhole) | inFraction) | inExponent
  · rcases signed with rfl | rfl <;> simp at inSign
  · cases digits _ inWhole
  · rcases fractional with rfl | ⟨places, ⟨_, all⟩, rfl⟩
    · cases inFraction
    · cases all _ (List.mem_of_ne_of_mem (by decide) inFraction)
  · rcases exponential with rfl | ⟨mark, signs, places, marked, signed, ⟨_, all⟩, rfl⟩
    · cases inExponent
    · rcases List.mem_cons.mp inExponent with same | inside
      · rcases marked with rfl | rfl <;> simp at same
      · rcases List.mem_append.mp inside with inSigns | inPlaces
        · rcases signed with rfl | rfl | rfl <;> simp at inSigns
        · cases all _ inPlaces

theorem Reads.number_inv {c : Char} (digit : c.isDigit) (reads : Reads (c :: text) read rest) :
    ∃ literal, read = .number literal ∧ Number literal ∧ c :: text = literal ++ rest := by
  generalize split : c :: text = whole at reads
  cases reads with
  | number numeral parts => exact ⟨_, rfl, numeral, parts⟩
  | null | yes | no | string _ | emptyArray _ | array _ | emptyObject _ | object _ =>
    rw [(List.cons.inj split).1] at digit
    cases digit

theorem isSpace_of_isDigit {c : Char} (digit : c.isDigit) : isSpace c = false := by
  have other {d : Char} (letter : d.isDigit = false) : c ≠ d :=
    ne_of_apply_ne Char.isDigit (by rw [digit, letter]; decide)
  simp [isSpace, other (d := ' ') rfl, other (d := '\t') rfl, other (d := '\n') rfl, other (d := '\r') rfl]

/-- Digits before a comma are read to their end, since no value may end between two of them. -/
theorem Reads.digits_unique {digits after : List Char} {mark : Char} (numeral : Digits digits)
    (reads : Reads (digits ++ ',' :: more) read after) (ends : Skip after (mark :: rest))
    (marked : mark = ',' ∨ mark = '}') : read = .number digits ∧ after = ',' :: more := by
  obtain ⟨filled, all⟩ := numeral
  obtain ⟨literal, rfl, numeral, split⟩ : ∃ literal, read = .number literal ∧ Number literal ∧
      digits ++ ',' :: more = literal ++ after := by
    cases digits with
    | nil => exact absurd rfl filled
    | cons c others => exact reads.number_inv (all c List.mem_cons_self)
  rcases List.append_eq_append_iff.mp split with ⟨beyond, rfl, tail⟩ | ⟨left, rfl, rfl⟩
  · cases beyond with
    | nil => exact ⟨by rw [List.append_nil], tail.symm⟩
    | cons c others =>
      obtain ⟨rfl, _⟩ := List.cons.inj tail
      exact absurd rfl (numeral.ne_comma (List.mem_append_right _ List.mem_cons_self))
  · cases left with
    | nil => exact ⟨by rw [List.append_nil], rfl⟩
    | cons c others =>
      have digit := all c (List.mem_append_right _ List.mem_cons_self)
      obtain ⟨rfl, _⟩ := List.cons.inj (ends.eq_of_solid (isSpace_of_isDigit digit))
      rcases marked with rfl | rfl <;> cases digit

def Piece.number (name : List Char) (number : Nat) (named : ∀ c ∈ name, isBare c) : Piece where
  name := name
  text := (toString number).toList
  value := .number (toString number).toList
  bare := named
  solid := by
    intro more start skipped
    obtain ⟨⟨filled, digits⟩, _⟩ := whole_toString number
    cases parts : (toString number).toList with
    | nil => exact absurd parts filled
    | cons c others =>
      rw [parts] at skipped digits
      exact skipped.eq_of_solid (isSpace_of_isDigit (digits c List.mem_cons_self))
  reads more := .number (whole_toString number).number rfl
  unique reads ends marked := reads.digits_unique (whole_toString number).1 ends marked

def writePieces (pieces : List Piece) (more : List Char) : List Char :=
  pieces.foldr (fun piece text => '"' :: (piece.name ++ '"' :: ':' :: (piece.text ++ ',' :: text))) more

theorem Members.of_pieces {others : List (List Char × Value)} (read : Members Reads more others rest)
    (pieces : List Piece) : Members Reads (writePieces pieces more) (pieces.map Piece.member ++ others) rest := by
  induction pieces with
  | nil => exact read
  | cons piece pieces ih => exact .next (named_of_bare piece.bare _) (piece.reads _) (skip_refl _) ih

theorem Members.peel {pieces : List Piece} {members : List (List Char × Value)}
    (read : Members Reads (writePieces pieces more) members rest) :
    ∃ others, members = pieces.map Piece.member ++ others ∧ Members Reads more others rest := by
  induction pieces generalizing members with
  | nil => exact ⟨members, rfl, read⟩
  | cons piece pieces ih =>
    rw [writePieces, List.foldr_cons, ← writePieces] at read
    generalize split : '"' :: (piece.name ++ '"' :: ':' :: (piece.text ++ ',' :: writePieces pieces more)) = text at read
    cases read with
    | last named one ends =>
      subst split
      obtain ⟨rfl, trail⟩ := named.unique piece.bare
      rw [piece.solid trail] at one
      obtain ⟨rfl, rfl⟩ := piece.unique one ends (Or.inr rfl)
      cases (List.cons.inj (ends.eq_of_solid rfl)).1
    | next named one comma others =>
      subst split
      obtain ⟨rfl, trail⟩ := named.unique piece.bare
      rw [piece.solid trail] at one
      obtain ⟨rfl, rfl⟩ := piece.unique one comma (Or.inl rfl)
      obtain ⟨_, rfl⟩ := List.cons.inj (comma.eq_of_solid rfl)
      obtain ⟨known, rfl, unread⟩ := ih others
      exact ⟨known, rfl, unread⟩

end Writing

section Fields

structure Field where
  name : List Char
  value : List Char
  deriving DecidableEq, Repr

def Field.member (field : Field) : List Char × Value := (field.name, .string field.value)

/-- Fields whose values are written as they are, up to the closing brace. -/
def writeFields : List Field → List Char
  | [] => ['}']
  | [field] => '"' :: (field.name ++ '"' :: ':' :: '"' :: (field.value ++ ['"', '}']))
  | field :: rest => '"' :: (field.name ++ '"' :: ':' :: '"' :: (field.value ++ '"' :: ',' :: writeFields rest))

/-- The value of a name; of two members with one name the later one counts. -/
def lookup (members : List (List Char × Value)) (name : List Char) : Option Value :=
  (lastOf Prod.fst members name).map Prod.snd

def HasFields (text : List Char) (fields : List Field) : Prop :=
  ∃ members, Document text (.object members) ∧ ∀ field ∈ fields, lookup members field.name = some (.string field.value)

variable {fields : List Field} {members : List (List Char × Value)} {rest : List Char}

theorem length_writeFields (filled : fields ≠ []) : (writeFields fields).length = total (fields.map Field.member) := by
  fun_induction writeFields fields with
  | case1 => exact absurd rfl filled
  | case2 field =>
    simp only [List.length_cons, List.length_append, List.map_cons, List.map_nil, total_cons, total_nil, weight, least,
      Field.member, List.length_nil]
    omega
  | case3 field rest more ih =>
    have longer := ih (by rintro rfl; exact more rfl)
    simp only [List.length_cons, List.length_append, List.map_cons, total_cons, weight, least, Field.member, longer]
    omega

theorem members_of_fields (filled : fields ≠ []) (named : ∀ field ∈ fields, ∀ c ∈ field.name, isBare c)
    (bare : ∀ field ∈ fields, ∀ c ∈ field.value, isBare c) :
    Members Reads (writeFields fields) (fields.map Field.member) [] := by
  fun_induction writeFields fields with
  | case1 => exact absurd rfl filled
  | case2 field =>
    obtain ⟨name, _⟩ := List.forall_mem_cons.mp named
    obtain ⟨value, _⟩ := List.forall_mem_cons.mp bare
    exact .last (named_of_bare name _) (.string (chars_of_bare value _)) (skip_refl _)
  | case3 field rest more ih =>
    obtain ⟨name, names⟩ := List.forall_mem_cons.mp named
    obtain ⟨value, values⟩ := List.forall_mem_cons.mp bare
    exact .next (named_of_bare name _) (.string (chars_of_bare value _)) (skip_refl _)
      (ih (by rintro rfl; exact more rfl) names values)

theorem mem_of_lookup {value : Value} (found : lookup members name = some value) : (name, value) ∈ members := by
  obtain ⟨member, last, rfl⟩ := Option.map_eq_some_iff.mp found
  obtain ⟨there, rfl⟩ := mem_of_lastOf last
  exact there

theorem Document.object_inv {text : List Char} (document : Document ('{' :: text) (.object members))
    (quote : text.head? = some '"') : ∃ rest, Members Reads text members rest ∧ Skip rest [] := by
  obtain ⟨start, rest, lead, reads, trail⟩ := document
  rw [lead.eq_of_solid rfl] at reads
  cases reads with
  | emptyObject inside =>
    cases text with
    | nil => cases quote
    | cons c others =>
      cases quote
      cases (List.cons.inj (inside.eq_of_solid rfl)).1
  | object inside => exact ⟨rest, inside, trail⟩

theorem head_writePieces {pieces : List Piece} (filled : fields ≠ []) :
    (writePieces pieces (writeFields fields)).head? = some '"' := by
  cases pieces with
  | cons piece pieces => rfl
  | nil =>
    rw [writePieces, List.foldr_nil]
    fun_cases writeFields fields
    · exact absurd rfl filled
    · rfl
    · rfl

/-- An object that starts with pieces and goes on with fields whose values are written as they are has those
fields exactly when all of the values are bare. -/
theorem hasFields_iff {pieces : List Piece} (filled : fields ≠ []) (distinct : (fields.map Field.name).Nodup)
    (apart : ∀ field ∈ fields, ∀ piece ∈ pieces, piece.name ≠ field.name)
    (named : ∀ field ∈ fields, ∀ c ∈ field.name, isBare c) :
    HasFields ('{' :: writePieces pieces (writeFields fields)) fields ↔
      ∀ field ∈ fields, ∀ c ∈ field.value, isBare c := by
  have names : ((fields.map Field.member).map Prod.fst).Nodup := by
    rw [List.map_map]
    exact distinct
  constructor
  · rintro ⟨members, document, found⟩
    obtain ⟨rest, read, _⟩ := document.object_inv (head_writePieces filled)
    obtain ⟨others, rfl, unread⟩ := read.peel
    have included : fields.map Field.member ⊆ others := by
      intro member inside
      obtain ⟨field, listed, rfl⟩ := List.mem_map.mp inside
      rcases List.mem_append.mp (mem_of_lookup (found field listed)) with known | other
      · obtain ⟨piece, there, same⟩ := List.mem_map.mp known
        exact absurd (congrArg Prod.fst same) (apart field listed piece there)
      · exact other
    have heavier : total (fields.map Field.member) ≤ total others :=
      sum_map_le_of_subset weight (List.Nodup.of_map Prod.fst names) included
    have length := length_writeFields filled
    intro field listed
    exact unread.bare_of_tight (by omega) (included (List.mem_map_of_mem listed))
  · intro bare
    have read := (members_of_fields filled named bare).of_pieces pieces
    refine ⟨_, ⟨_, [], skip_refl _, .object read, skip_refl _⟩, fun field listed => ?_⟩
    have last := lastOf_of_mem names (List.mem_map_of_mem (f := Field.member) listed)
    exact congrArg (Option.map Prod.snd) (lastOf_append_of_some (pieces.map Piece.member) last)

end Fields

end RealtimeChat.Foundation.JsonGrammar
