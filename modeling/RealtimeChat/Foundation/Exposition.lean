import Mathlib.Data.List.Nodup
import Mathlib.Data.List.TakeWhile

/-! The text format in which metrics are exposed, version 0.0.4.

A document is a sequence of lines. A line declares the type of a metric family or
is a sample: a metric name, optional labels and a number. `wellFormed` reads a
text; `Family.lines` writes one.
-/

set_option autoImplicit false

namespace RealtimeChat.Foundation.Exposition

section Reading

def isNameStart (c : Char) : Bool := c.isAlpha || c = '_' || c = ':'

def isNameChar (c : Char) : Bool := c.isAlphanum || c = '_' || c = ':'

def isName : List Char → Bool
  | [] => false
  | first :: rest => isNameStart first && rest.all isNameChar

def isLabelStart (c : Char) : Bool := c.isAlpha || c = '_'

def isLabelChar (c : Char) : Bool := c.isAlphanum || c = '_'

inductive Numeral where
  | start
  | signed
  | whole
  | point
  | fraction
  | exponent
  | exponentSigned
  | exponentDigits
  deriving DecidableEq, Repr

def Numeral.complete : Numeral → Bool
  | .whole | .fraction | .exponentDigits => true
  | .start | .signed | .point | .exponent | .exponentSigned => false

def Numeral.next (read : Numeral) (c : Char) : Option Numeral :=
  match read with
  | .start =>
    if c.isDigit then some .whole else if c = '.' then some .point else if c = '+' || c = '-' then some .signed else none
  | .signed => if c.isDigit then some .whole else if c = '.' then some .point else none
  | .whole =>
    if c.isDigit then some .whole else if c = '.' then some .fraction else if c = 'e' || c = 'E' then some .exponent else none
  | .point => if c.isDigit then some .fraction else none
  | .fraction => if c.isDigit then some .fraction else if c = 'e' || c = 'E' then some .exponent else none
  | .exponent =>
    if c.isDigit then some .exponentDigits else if c = '+' || c = '-' then some .exponentSigned else none
  | .exponentSigned | .exponentDigits => if c.isDigit then some .exponentDigits else none

def words : List (List Char) := ["NaN", "nan", "Inf", "inf", "+Inf", "+inf", "-Inf", "-inf"].map String.toList

def isNumber (text : List Char) : Bool :=
  (text.foldlM Numeral.next .start).any Numeral.complete || words.contains text

inductive Labels where
  | first
  | name
  | quote
  | value
  | escape
  | next
  deriving DecidableEq, Repr

def readLabels : Labels → List Char → Option (List Char)
  | _, [] => none
  | .first, c :: rest =>
    if c = '}' then some rest else if isLabelStart c then readLabels .name rest else none
  | .name, c :: rest =>
    if c = '=' then readLabels .quote rest else if isLabelChar c then readLabels .name rest else none
  | .quote, c :: rest => if c = '\"' then readLabels .value rest else none
  | .value, c :: rest =>
    if c = '\"' then readLabels .next rest
    else if c = '\\' then readLabels .escape rest
    else readLabels .value rest
  | .escape, c :: rest => if c = '\"' || c = '\\' || c = 'n' then readLabels .value rest else none
  | .next, c :: rest => if c = ',' then readLabels .first rest else if c = '}' then some rest else none

def isValue : List Char → Bool
  | c :: rest => c = ' ' && isNumber rest
  | [] => false

def isSample (line : List Char) : Bool :=
  isName (line.takeWhile isNameChar) &&
    match line.dropWhile isNameChar with
    | [] => false
    | c :: rest => if c = '{' then (readLabels .first rest).any isValue else isValue (c :: rest)

def kinds : List (List Char) := ["counter", "gauge", "histogram", "summary", "untyped"].map String.toList

def typeMark : List Char := "# TYPE ".toList

def declared (line : List Char) : Option (List Char) :=
  if typeMark.isPrefixOf line then
    let text := line.drop typeMark.length
    let name := text.takeWhile isNameChar
    match text.dropWhile isNameChar with
    | c :: kind => if isName name && c = ' ' && kinds.contains kind then some name else none
    | [] => none
  else none

def isLine (line : List Char) : Bool := (declared line).isSome || isSample line

def readLines (line : List Char) : List Char → Option (List (List Char))
  | [] => if line.isEmpty then some [] else none
  | c :: rest =>
    if c = '\n' then (readLines [] rest).map (line :: ·) else readLines (line ++ [c]) rest

def wellFormed (text : List Char) : Bool :=
  match readLines [] text with
  | none => false
  | some lines => lines.all isLine && (lines.filterMap declared).Nodup

end Reading

section Writing

inductive Kind where
  | counter
  | gauge
  | histogram
  deriving DecidableEq, Repr

def Kind.text : Kind → List Char
  | .counter => "counter".toList
  | .gauge => "gauge".toList
  | .histogram => "histogram".toList

structure Sample where
  name : List Char
  label : Option (List Char × List Char)
  value : List Char

structure Family where
  name : List Char
  kind : Kind
  samples : List Sample

def Sample.line (sample : Sample) : List Char :=
  match sample.label with
  | none => sample.name ++ ' ' :: sample.value
  | some (key, text) => sample.name ++ '{' :: key ++ '=' :: '\"' :: text ++ '\"' :: '}' :: ' ' :: sample.value

def Family.lines (family : Family) : List (List Char) :=
  (typeMark ++ family.name ++ ' ' :: family.kind.text) :: family.samples.map Sample.line

def document (families : List Family) : List Char := (families.flatMap Family.lines).flatMap (· ++ ['\n'])

end Writing

section Lines

theorem readLines_append {line : List Char} (whole : '\n' ∉ line) (before rest : List Char) :
    readLines before (line ++ '\n' :: rest) = (readLines [] rest).map ((before ++ line) :: ·) := by
  induction line generalizing before with
  | nil => simp [readLines]
  | cons c line ih =>
    simp only [List.mem_cons, not_or] at whole
    rw [List.cons_append, readLines, if_neg (Ne.symm whole.1), ih whole.2, List.append_assoc, List.singleton_append]

theorem readLines_flatMap {lines : List (List Char)} (whole : ∀ line ∈ lines, '\n' ∉ line) :
    readLines [] (lines.flatMap (· ++ ['\n'])) = some lines := by
  induction lines with
  | nil => rfl
  | cons line rest ih =>
    have whole := List.forall_mem_cons.mp whole
    rw [List.flatMap_cons, List.append_assoc, List.singleton_append, readLines_append whole.1, ih whole.2]
    rfl

end Lines

variable {c stop : Char} {name rest : List Char}

section Names

theorem isNameChar_of_isNameStart (start : isNameStart c = true) : isNameChar c = true := by
  simp only [isNameStart, isNameChar, Char.isAlphanum, Bool.or_eq_true] at start ⊢
  tauto

theorem all_of_isName (valid : isName name = true) : name.all isNameChar = true := by
  cases name with
  | nil => cases valid
  | cons first rest =>
    simp only [isName, Bool.and_eq_true] at valid
    simp [isNameChar_of_isNameStart valid.1, valid.2]

theorem isName_append (valid : isName name = true) (all : rest.all isNameChar = true) :
    isName (name ++ rest) = true := by
  cases name with
  | nil => cases valid
  | cons first others =>
    simp only [isName, List.cons_append, List.all_append, Bool.and_eq_true] at valid ⊢
    exact ⟨valid.1, valid.2, all⟩

-- A literal stands for the list of its characters, which is quicker to look at than its encoding.

theorem all_literal {characters : List Char} {property : Char → Bool} (all : characters.all property = true) :
    (String.ofList characters).toList.all property = true :=
  String.toList_ofList.symm ▸ all

theorem contains_literal {characters : List Char} (contains : characters.contains c = true) :
    (String.ofList characters).toList.contains c = true :=
  String.toList_ofList.symm ▸ contains

theorem isName_literal {characters : List Char} (valid : isName characters = true) :
    isName (String.ofList characters).toList = true :=
  String.toList_ofList.symm ▸ valid

theorem span_name (all : name.all isNameChar = true) (stops : isNameChar stop = false) (rest : List Char) :
    (name ++ stop :: rest).takeWhile isNameChar = name ∧ (name ++ stop :: rest).dropWhile isNameChar = stop :: rest := by
  have every : ∀ c ∈ name, isNameChar c = true := List.all_eq_true.mp all
  rw [List.takeWhile_append_of_pos every, List.dropWhile_append_of_pos every]
  simp [stops]

theorem dropWhile_of_not_all (bad : ¬ name.all isNameChar = true) (rest : List Char) :
    ∃ c ∈ name, ∃ tail, (name ++ rest).dropWhile isNameChar = c :: tail := by
  cases dropped : name.dropWhile isNameChar with
  | nil => exact absurd (List.all_eq_true.mpr (List.dropWhile_eq_nil_iff.mp dropped)) bad
  | cons c tail =>
    refine ⟨c, ?_, tail ++ rest, ?_⟩
    · exact (List.dropWhile_sublist isNameChar).subset (dropped ▸ List.mem_cons_self)
    · rw [List.dropWhile_append, dropped]
      rfl

end Names

section Written

def Plain (name : List Char) : Prop := ∀ c ∈ name, c ≠ ' ' ∧ c ≠ '{' ∧ c ≠ '#' ∧ c ≠ '\n'

theorem Plain.append {first second : List Char} (plain : Plain first) (plainToo : Plain second) :
    Plain (first ++ second) :=
  fun c member => (List.mem_append.mp member).elim (plain c) (plainToo c)

theorem plain_of_all (all : name.all isNameChar = true) : Plain name := by
  intro c member
  have valid := List.all_eq_true.mp all c member
  refine ⟨?_, ?_, ?_, ?_⟩ <;>
  · rintro rfl
    exact absurd valid (by decide)

structure PlainLabel (key text : List Char) : Prop where
  start : ∃ first rest, key = first :: rest ∧ isLabelStart first = true ∧ rest.all isLabelChar = true
  text : ∀ c ∈ text, c ≠ '\"' ∧ c ≠ '\\' ∧ c ≠ '\n'

structure Sample.Plain (sample : Sample) : Prop where
  name : Exposition.Plain sample.name
  label : ∀ key text, sample.label = some (key, text) → PlainLabel key text
  value : '\n' ∉ sample.value

structure Family.Plain (family : Family) : Prop where
  name : Exposition.Plain family.name
  samples : ∀ sample ∈ family.samples, sample.Plain

variable {key : List Char} {sample : Sample} {family : Family}

theorem readLabels_name (all : key.all isLabelChar = true) (rest : List Char) :
    readLabels .name (key ++ '=' :: rest) = readLabels .quote rest := by
  induction key with
  | nil => rfl
  | cons c key ih =>
    simp only [List.all_cons, Bool.and_eq_true] at all
    have other : c ≠ '=' := by
      rintro rfl
      exact absurd all.1 (by decide)
    rw [List.cons_append, readLabels, if_neg other, if_pos all.1, ih all.2]

theorem readLabels_value {text : List Char} (clean : ∀ c ∈ text, c ≠ '\"' ∧ c ≠ '\\' ∧ c ≠ '\n') (rest : List Char) :
    readLabels .value (text ++ '\"' :: rest) = readLabels .next rest := by
  induction text with
  | nil => rfl
  | cons c text ih =>
    obtain ⟨⟨noQuote, noEscape, -⟩, clean⟩ := List.forall_mem_cons.mp clean
    rw [List.cons_append, readLabels, if_neg noQuote, if_neg noEscape, ih clean]

theorem PlainLabel.read {text : List Char} (plain : PlainLabel key text) (rest : List Char) :
    readLabels .first (key ++ '=' :: '\"' :: (text ++ '\"' :: '}' :: rest)) = some rest := by
  obtain ⟨⟨first, others, rfl, start, all⟩, clean⟩ := plain
  have other : first ≠ '}' := by
    rintro rfl
    exact absurd start (by decide)
  rw [List.cons_append, readLabels, if_neg other, if_pos start, readLabels_name all, readLabels, if_pos rfl, readLabels_value clean]
  rfl

theorem PlainLabel.whole_key {text : List Char} (plain : PlainLabel key text) : '\n' ∉ key := by
  obtain ⟨⟨first, rest, rfl, start, all⟩, -⟩ := plain
  rintro (_ | ⟨_, breaks⟩)
  · exact absurd start (by decide)
  · exact absurd (List.all_eq_true.mp all _ breaks) (by decide)

theorem isSample_append (plain : Plain name) (stops : isNameChar stop = false) :
    isSample (name ++ stop :: rest) =
      (isName name && if stop = '{' then (readLabels .first rest).any isValue else isValue (stop :: rest)) := by
  by_cases all : name.all isNameChar = true
  · obtain ⟨taken, dropped⟩ := span_name all stops rest
    rw [isSample, taken, dropped]
  · obtain ⟨c, member, tail, dropped⟩ := dropWhile_of_not_all all (stop :: rest)
    obtain ⟨noBlank, noBrace, -⟩ := plain c member
    have invalid : isName name = false := Bool.eq_false_iff.mpr fun valid => all (all_of_isName valid)
    rw [isSample, dropped, invalid]
    simp [noBrace, isValue, noBlank]

theorem Sample.Plain.isSample_line (plain : sample.Plain) :
    isSample sample.line = (isName sample.name && isNumber sample.value) := by
  unfold Sample.line
  split
  · rw [isSample_append plain.name (by decide)]
    simp [isValue]
  · next key text labelled =>
    simp only [List.append_assoc, List.cons_append]
    rw [isSample_append plain.name (by decide), if_pos rfl, (plain.label key text labelled).read]
    simp [isValue]

theorem declared_type (plain : Plain name) (kind : Kind) :
    declared (typeMark ++ name ++ ' ' :: kind.text) = if isName name then some name else none := by
  have marked : typeMark.isPrefixOf (typeMark ++ name ++ ' ' :: kind.text) = true :=
    List.isPrefixOf_iff_prefix.mpr (by simp)
  have known : kinds.contains kind.text = true := by cases kind <;> decide
  rw [declared, if_pos marked, List.append_assoc, List.drop_left]
  by_cases all : name.all isNameChar = true
  · have stops : isNameChar ' ' = false := by decide
    obtain ⟨taken, dropped⟩ := span_name all stops kind.text
    simp [taken, dropped, -List.contains_eq_mem, known]
  · obtain ⟨c, member, tail, dropped⟩ := dropWhile_of_not_all all (' ' :: kind.text)
    have invalid : ¬ isName name = true := fun valid => all (all_of_isName valid)
    simp [dropped, (plain c member).1, invalid]

theorem not_isPrefixOf_typeMark {first : Char} (other : first ≠ '#') (rest : List Char) :
    typeMark.isPrefixOf (first :: rest) = false := by
  have hash : typeMark = '#' :: " TYPE ".toList := by decide
  rw [hash, List.isPrefixOf_cons_cons, beq_eq_false_iff_ne.mpr (Ne.symm other), Bool.false_and]

theorem Sample.Plain.declared_line (plain : sample.Plain) : declared sample.line = none := by
  have other : typeMark.isPrefixOf sample.line = false := by
    unfold Sample.line
    cases name : sample.name with
    | nil => split <;> exact not_isPrefixOf_typeMark (by decide) _
    | cons first rest =>
      have hash := (plain.name first (name ▸ List.mem_cons_self)).2.2.1
      split <;> exact not_isPrefixOf_typeMark hash _
  rw [declared, other]
  rfl

theorem isSample_type (text : List Char) : isSample (typeMark ++ text) = false := by
  rfl

theorem Family.Plain.whole (plain : family.Plain) : ∀ line ∈ family.lines, '\n' ∉ line := by
  intro line member
  rcases List.mem_cons.mp member with rfl | member
  · have name : '\n' ∉ family.name := fun breaks => (plain.name _ breaks).2.2.2 rfl
    have kind : '\n' ∉ family.kind.text := by cases family.kind <;> decide
    have mark : '\n' ∉ typeMark := by decide
    simp [mark, name, kind]
  · obtain ⟨sample, listed, rfl⟩ := List.mem_map.mp member
    obtain ⟨plainName, label, value⟩ := plain.samples sample listed
    have name : '\n' ∉ sample.name := fun breaks => (plainName _ breaks).2.2.2 rfl
    unfold Sample.line
    split
    · simp [name, value]
    · next key text labelled =>
      have clean := label key text labelled
      have key : '\n' ∉ key := clean.whole_key
      have text : '\n' ∉ text := fun breaks => (clean.text _ breaks).2.2 rfl
      simp [name, value, key, text]

structure Family.Valid (family : Family) : Prop where
  name : isName family.name = true
  samples : ∀ sample ∈ family.samples, isName sample.name = true ∧ isNumber sample.value = true

theorem Family.Plain.all_isLine (plain : family.Plain) : family.lines.all isLine = true ↔ family.Valid := by
  have head : isLine (typeMark ++ family.name ++ ' ' :: family.kind.text) = isName family.name := by
    rw [isLine, declared_type plain.name, List.append_assoc, isSample_type]
    cases isName family.name <;> rfl
  have others : ∀ sample ∈ family.samples, isLine sample.line = (isName sample.name && isNumber sample.value) := by
    intro sample listed
    rw [isLine, (plain.samples sample listed).declared_line, (plain.samples sample listed).isSample_line]
    rfl
  rw [Family.lines, List.all_cons, head, Bool.and_eq_true, List.all_map, List.all_eq_true]
  constructor
  · rintro ⟨name, samples⟩
    refine ⟨name, fun sample listed => ?_⟩
    exact Bool.and_eq_true_iff.mp ((others sample listed).symm.trans (samples sample listed))
  · rintro ⟨name, samples⟩
    refine ⟨name, fun sample listed => ?_⟩
    exact (others sample listed).trans (Bool.and_eq_true_iff.mpr (samples sample listed))

theorem Family.Plain.filterMap_declared (plain : family.Plain) (valid : isName family.name = true) :
    family.lines.filterMap declared = [family.name] := by
  rw [Family.lines, List.filterMap_cons, declared_type plain.name, if_pos valid]
  have none : (family.samples.map Sample.line).filterMap declared = [] := by
    simp only [List.filterMap_eq_nil_iff, List.mem_map]
    rintro _ ⟨sample, listed, rfl⟩
    exact (plain.samples sample listed).declared_line
  rw [none]

/-- What is written is well formed exactly if the names are names, the values are numbers, and no
family is declared twice. -/
theorem wellFormed_document {families : List Family} (plain : ∀ family ∈ families, family.Plain) :
    wellFormed (document families) = true ↔
      (∀ family ∈ families, family.Valid) ∧ (families.map Family.name).Nodup := by
  have whole : ∀ line ∈ families.flatMap Family.lines, '\n' ∉ line := by
    intro line member
    obtain ⟨family, listed, written⟩ := List.mem_flatMap.mp member
    exact (plain family listed).whole line written
  rw [wellFormed, document, readLines_flatMap whole]
  simp only [Bool.and_eq_true, decide_eq_true_eq, List.all_flatMap]
  have readable : (families.all fun family => family.lines.all isLine) = true ↔ ∀ family ∈ families, family.Valid := by
    rw [List.all_eq_true]
    exact forall₂_congr fun family listed => (plain family listed).all_isLine
  rw [readable]
  refine and_congr_right fun valid => ?_
  have names : (families.flatMap Family.lines).filterMap declared = families.map Family.name := by
    rw [List.filterMap_flatMap, List.map_eq_flatMap]
    exact List.flatMap_congr fun family listed => (plain family listed).filterMap_declared (valid family listed).name
  rw [names]

end Written

section Numbers

def isNumeric (c : Char) : Bool := c.isDigit || "+-.eENanIif".toList.contains c

theorem Numeral.isNumeric_of_next {read next : Numeral} (goes : read.next c = some next) : isNumeric c = true := by
  by_contra other
  simp only [isNumeric, Bool.or_eq_true, not_or, Bool.not_eq_true] at other
  obtain ⟨digit, others⟩ := other
  have absent (mark : Char) (listed : "+-.eENanIif".toList.contains mark = true) : c ≠ mark := by
    rintro rfl
    exact absurd (others.symm.trans listed) (by decide)
  have marks := And.intro (absent '+' (by decide)) (And.intro (absent '-' (by decide))
    (And.intro (absent '.' (by decide)) (And.intro (absent 'e' (by decide)) (absent 'E' (by decide)))))
  cases read <;> simp [Numeral.next, digit, marks] at goes

theorem isNumeric_of_isNumber {text : List Char} (number : isNumber text = true) : ∀ c ∈ text, isNumeric c = true := by
  have read (numeral final : Numeral) (reads : text.foldlM Numeral.next numeral = some final) :
      ∀ c ∈ text, isNumeric c = true := by
    clear number
    induction text generalizing numeral with
    | nil => simp
    | cons first rest ih =>
      rw [List.foldlM_cons] at reads
      obtain ⟨next, goes, reads⟩ := Option.bind_eq_some_iff.mp reads
      exact List.forall_mem_cons.mpr ⟨Numeral.isNumeric_of_next goes, ih next reads⟩
  rw [isNumber, Bool.or_eq_true, Option.any_eq_true] at number
  rcases number with ⟨final, reads, -⟩ | word
  · exact read .start final reads
  · have all : words.all (List.all · isNumeric) = true := by decide +kernel
    exact List.all_eq_true.mp (List.all_eq_true.mp all text (List.contains_iff_mem.mp word))

theorem foldlM_digits {read : Numeral} (stays : ∀ c, c.isDigit = true → read.next c = some read) {text : List Char}
    (digits : ∀ c ∈ text, c.isDigit = true) : text.foldlM Numeral.next read = some read := by
  induction text with
  | nil => rfl
  | cons first rest ih =>
    have digits := List.forall_mem_cons.mp digits
    rw [List.foldlM_cons, stays first digits.1]
    exact ih digits.2

theorem Numeral.next_whole (digit : c.isDigit = true) : Numeral.next .whole c = some .whole := if_pos digit

theorem Numeral.next_fraction (digit : c.isDigit = true) : Numeral.next .fraction c = some .fraction :=
  if_pos digit

theorem Numeral.next_exponentDigits (digit : c.isDigit = true) :
    Numeral.next .exponentDigits c = some .exponentDigits := if_pos digit

theorem isNumber_repr (value : Nat) : isNumber value.repr.toList = true := by
  rw [Nat.toList_repr]
  have digits : ∀ c ∈ Nat.toDigits 10 value, c.isDigit = true := fun c member =>
    Nat.isDigit_of_mem_toDigits (by decide) (by decide) member
  cases text : Nat.toDigits 10 value with
  | nil => exact absurd text Nat.toDigits_ne_nil
  | cons first rest =>
    have digits := List.forall_mem_cons.mp (text ▸ digits)
    have start : Numeral.next .start first = some .whole := if_pos digits.1
    rw [isNumber, List.foldlM_cons, start]
    simp [foldlM_digits (fun _ => Numeral.next_whole) digits.2, Numeral.complete]

end Numbers

end RealtimeChat.Foundation.Exposition
