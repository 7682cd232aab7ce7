import RealtimeChat.Foundation.Assignments
import RealtimeChat.Foundation.Program
import Mathlib.Data.List.TakeWhile

/-! Connection strings of `name=value` settings.

The reader is that of libpq. White space separates settings and may stand around
the equals sign; a value is bare or in single quotes, and a backslash takes the
character after it as it is. Of two values for one name the later one counts. A
writer that puts values down without quotes is read back exactly when none of
them needs quotes: every other way to spell a value is longer than the value, so
that a text of the bare length has no room for it.
-/

set_option autoImplicit false

namespace RealtimeChat.Foundation.Conninfo

structure Setting where
  name : List Char
  value : List Char
  deriving DecidableEq, Repr

inductive Fault where
  | missingEquals (name : List Char)
  | unterminatedQuote
  deriving DecidableEq, Repr

def isSpace (c : Char) : Bool := c = ' ' || (9 ≤ c.toNat && c.toNat ≤ 13)

inductive Mode where
  | between
  | name (read : List Char)
  | afterName (name : List Char)
  | beforeValue (name : List Char)
  | bare (name read : List Char)
  | bareEscape (name read : List Char)
  | quoted (name read : List Char)
  | quotedEscape (name read : List Char)
  deriving DecidableEq, Repr

/-- One character: the mode after it, and the setting that it ends. -/
def step : Mode → Char → Except Fault (Mode × Option Setting)
  | .between, c =>
    if isSpace c then .ok (.between, none)
    else if c = '=' then .ok (.beforeValue [], none)
    else .ok (.name [c], none)
  | .name read, c =>
    if c = '=' then .ok (.beforeValue read, none)
    else if isSpace c then .ok (.afterName read, none)
    else .ok (.name (read ++ [c]), none)
  | .afterName name, c =>
    if c = '=' then .ok (.beforeValue name, none)
    else if isSpace c then .ok (.afterName name, none)
    else .error (.missingEquals name)
  | .beforeValue name, c =>
    if isSpace c then .ok (.beforeValue name, none)
    else if c = '\'' then .ok (.quoted name [], none)
    else if c = '\\' then .ok (.bareEscape name [], none)
    else .ok (.bare name [c], none)
  | .bare name read, c =>
    if isSpace c then .ok (.between, some ⟨name, read⟩)
    else if c = '\\' then .ok (.bareEscape name read, none)
    else .ok (.bare name (read ++ [c]), none)
  | .bareEscape name read, c => .ok (.bare name (read ++ [c]), none)
  | .quoted name read, c =>
    if c = '\\' then .ok (.quotedEscape name read, none)
    else if c = '\'' then .ok (.between, some ⟨name, read⟩)
    else .ok (.quoted name (read ++ [c]), none)
  | .quotedEscape name read, c => .ok (.quoted name (read ++ [c]), none)

/-- The end of the text; a backslash there stands for nothing. -/
def finish : Mode → Except Fault (List Setting)
  | .between => .ok []
  | .name name | .afterName name => .error (.missingEquals name)
  | .beforeValue name => .ok [⟨name, []⟩]
  | .bare name read | .bareEscape name read => .ok [⟨name, read⟩]
  | .quoted _ _ | .quotedEscape _ _ => .error .unterminatedQuote

def scan : Mode → List Char → Except Fault (List Setting)
  | mode, [] => finish mode
  | mode, c :: rest =>
    match step mode c with
    | .error fault => .error fault
    | .ok (next, ended) => (scan next rest).map (ended.toList ++ ·)

/-- The reader gets a C string, which ends at the first NUL. -/
def parse (text : List Char) : Except Fault (List Setting) :=
  scan .between (text.takeWhile (· ≠ '\x00'))

/-- The value that counts for a name, the last one given. -/
def lookup (settings : List Setting) (name : List Char) : Option (List Char) :=
  (lastOf Setting.name settings name).map Setting.value

/-- A text is read as settings: for every name the same value, or none. -/
def Reads (text : List Char) (settings : List Setting) : Prop :=
  ∃ read, parse text = .ok read ∧ ∀ name, lookup read name = lookup settings name

structure Plain (value : List Char) : Prop where
  filled : value ≠ []
  unquoted : value.head? ≠ some '\''
  bare : ∀ c ∈ value, isSpace c = false ∧ c ≠ '\\'

structure Word (name : List Char) : Prop where
  filled : name ≠ []
  bare : ∀ c ∈ name, isSpace c = false ∧ c ≠ '='
  whole : '\x00' ∉ name

-- The characters of the text are looked at, and not all characters.
instance (value : List Char) : Decidable (Plain value) :=
  letI : Decidable (∀ c ∈ value, isSpace c = false ∧ c ≠ '\\') := List.decidableBAll _ _
  decidable_of_iff (value ≠ [] ∧ value.head? ≠ some '\'' ∧ ∀ c ∈ value, isSpace c = false ∧ c ≠ '\\')
    ⟨fun plain => ⟨plain.1, plain.2.1, plain.2.2⟩, fun plain => ⟨plain.1, plain.2, plain.3⟩⟩

instance (name : List Char) : Decidable (Word name) :=
  letI : Decidable (∀ c ∈ name, isSpace c = false ∧ c ≠ '=') := List.decidableBAll _ _
  decidable_of_iff (name ≠ [] ∧ (∀ c ∈ name, isSpace c = false ∧ c ≠ '=') ∧ '\x00' ∉ name)
    ⟨fun word => ⟨word.1, word.2.1, word.2.2⟩, fun word => ⟨word.1, word.2, word.3⟩⟩

def Setting.text (setting : Setting) : List Char := setting.name ++ '=' :: setting.value

def render : List Setting → List Char
  | [] => []
  | [setting] => setting.text
  | setting :: rest => setting.text ++ ' ' :: render rest

variable {value name : List Char}

section Bounds

def Setting.weight (setting : Setting) : Nat := setting.name.length + setting.value.length + 2

def total (settings : List Setting) : Nat := (settings.map Setting.weight).sum

def Mode.size : Mode → Nat
  | .between => 0
  | .name read | .afterName read => read.length
  | .beforeValue word => word.length + 1
  | .bare word read | .bareEscape word read | .quoted word read | .quotedEscape word read =>
    word.length + read.length + 1

/-- The modes of a reader that has met nothing but plain settings, with no blank to spare. -/
def Mode.Clean : Mode → Prop
  | .between | .name _ | .beforeValue _ => True
  | .bare _ read => Plain read
  | .afterName _ | .bareEscape _ _ | .quoted _ _ | .quotedEscape _ _ => False

variable {mode next : Mode} {c : Char} {ended : Option Setting} {settings : List Setting} {text : List Char}

theorem total_append (first second : List Setting) : total (first ++ second) = total first + total second := by
  simp [total]

theorem step_size (stepped : step mode c = .ok (next, ended)) : total ended.toList + next.size ≤ mode.size + 1 := by
  cases mode <;> simp only [step] at stepped <;> (repeat' split at stepped) <;> cases stepped <;>
    simp [total, Mode.size, Setting.weight] <;> omega

theorem finish_size (finished : finish mode = .ok settings) : total settings ≤ mode.size + 1 := by
  cases mode <;> cases finished <;> simp [total, Mode.size, Setting.weight]

theorem total_scan_le (scanned : scan mode text = .ok settings) : total settings ≤ mode.size + text.length + 1 := by
  induction text generalizing mode settings with
  | nil => exact finish_size scanned
  | cons c rest ih =>
    rw [scan] at scanned
    split at scanned
    · cases scanned
    · next next ended stepped =>
      obtain ⟨later, ahead, rfl⟩ := map_eq_ok.mp scanned
      have one := step_size stepped
      have more := ih ahead
      rw [total_append, List.length_cons]
      omega

theorem Plain.singleton (blank : isSpace c = false) (quote : c ≠ '\'') (backslash : c ≠ '\\') : Plain [c] := by
  refine ⟨List.cons_ne_nil c [], ?_, ?_⟩
  · simpa using quote
  · simpa using ⟨blank, backslash⟩

theorem Plain.push (plain : Plain value) (blank : isSpace c = false) (backslash : c ≠ '\\') : Plain (value ++ [c]) := by
  refine ⟨by simp, ?_, ?_⟩
  · rw [List.head?_append_of_ne_nil _ plain.filled]
    exact plain.unquoted
  · intro d member
    rcases List.mem_append.mp member with old | new
    · exact plain.bare d old
    · rw [List.mem_singleton.mp new]
      exact ⟨blank, backslash⟩

theorem step_clean (clean : mode.Clean) (stepped : step mode c = .ok (next, ended))
    (tight : mode.size + 1 ≤ total ended.toList + next.size) :
    next.Clean ∧ (∀ setting ∈ ended, Plain setting.value) ∧ ∀ word, next = .beforeValue word → c = '=' := by
  cases mode with
  | between =>
    simp only [step] at stepped
    repeat' split at stepped
    · cases stepped
      exact absurd tight (by simp [total, Mode.size])
    · next equals =>
      cases stepped
      exact ⟨trivial, nofun, fun _ _ => equals⟩
    · cases stepped
      exact ⟨trivial, nofun, nofun⟩
  | name read =>
    simp only [step] at stepped
    repeat' split at stepped
    · next equals =>
      cases stepped
      exact ⟨trivial, nofun, fun _ _ => equals⟩
    · cases stepped
      exact absurd tight (by simp [total, Mode.size])
    · cases stepped
      exact ⟨trivial, nofun, nofun⟩
  | beforeValue word =>
    simp only [step] at stepped
    repeat' split at stepped
    iterate 3
      · cases stepped
        exact absurd tight (by simp [total, Mode.size])
    · next blank quote backslash =>
      cases stepped
      exact ⟨Plain.singleton (by simpa using blank) quote backslash, nofun, nofun⟩
  | bare word read =>
    simp only [step] at stepped
    repeat' split at stepped
    · cases stepped
      refine ⟨trivial, fun setting same => ?_, nofun⟩
      cases same
      exact clean
    · cases stepped
      exact absurd tight (by simp [total, Mode.size])
    · next blank backslash =>
      cases stepped
      exact ⟨Plain.push clean (by simpa using blank) backslash, nofun, nofun⟩
  | afterName _ | bareEscape _ _ | quoted _ _ | quotedEscape _ _ => cases clean

theorem plain_of_finish (clean : mode.Clean) (awaiting : ∀ word, mode ≠ .beforeValue word)
    (finished : finish mode = .ok settings) : ∀ setting ∈ settings, Plain setting.value := by
  cases mode with
  | between =>
    cases finished
    exact nofun
  | name _ => cases finished
  | beforeValue word => exact absurd rfl (awaiting word)
  | bare word read =>
    cases finished
    intro setting member
    rw [List.mem_singleton.mp member]
    exact clean
  | afterName _ | bareEscape _ _ | quoted _ _ | quotedEscape _ _ => cases clean

/-- A text with no character to spare has plain settings only. It must not end at an equals sign, which
would give an empty value at no cost. -/
theorem plain_of_scan (clean : mode.Clean) (scanned : scan mode text = .ok settings)
    (ends : (text = [] → ∀ word, mode ≠ .beforeValue word) ∧ text.getLast? ≠ some '=')
    (tight : mode.size + text.length + 1 ≤ total settings) : ∀ setting ∈ settings, Plain setting.value := by
  induction text generalizing mode settings with
  | nil => exact plain_of_finish clean (ends.1 rfl) scanned
  | cons c rest ih =>
    rw [scan] at scanned
    split at scanned
    · cases scanned
    · next next ended stepped =>
      obtain ⟨later, ahead, rfl⟩ := map_eq_ok.mp scanned
      rw [total_append, List.length_cons] at tight
      have one := step_size stepped
      have more := total_scan_le ahead
      obtain ⟨nextClean, endedPlain, equals⟩ := step_clean clean stepped (by omega)
      have endsLater : (rest = [] → ∀ word, next ≠ .beforeValue word) ∧ rest.getLast? ≠ some '=' := by
        constructor
        · rintro rfl word same
          exact ends.2 (by rw [equals word same]; rfl)
        · intro last
          exact ends.2 (by rw [List.getLast?_cons, last]; rfl)
      intro setting member
      rcases List.mem_append.mp member with now | later
      · exact endedPlain setting (by simpa using now)
      · exact ih nextClean ahead endsLater (by omega) setting later

end Bounds

section Rendering

variable {mode next : Mode} {c : Char} {setting : Setting} {settings : List Setting} {text : List Char}

theorem scan_continue (stepped : step mode c = .ok (next, none)) : scan mode (c :: text) = scan next text := by
  rw [scan, stepped]
  dsimp only
  cases scan next text <;> rfl

theorem scan_collects (mode : List Char → Mode) {more : List Char}
    (collects : ∀ c ∈ more, ∀ read, step (mode read) c = .ok (mode (read ++ [c]), none)) (read : List Char) :
    scan (mode read) (more ++ text) = scan (mode (read ++ more)) text := by
  induction more generalizing read with
  | nil => rw [List.nil_append, List.append_nil]
  | cons first rest ih =>
    obtain ⟨now, later⟩ := List.forall_mem_cons.mp collects
    rw [List.cons_append, scan_continue (now read), ih later, List.append_assoc, List.singleton_append]

theorem scan_name {more : List Char} (bare : ∀ c ∈ more, isSpace c = false ∧ c ≠ '=') :
    scan (.name name) (more ++ '=' :: text) = scan (.beforeValue (name ++ more)) text := by
  rw [scan_collects .name fun c member read => by simp [step, bare c member]]
  exact scan_continue (by simp [step])

theorem scan_word (word : Word name) : scan .between (name ++ '=' :: text) = scan (.beforeValue name) text := by
  cases name with
  | nil => exact absurd rfl word.filled
  | cons first rest =>
    obtain ⟨blank, equals⟩ := word.bare first List.mem_cons_self
    have stepped : step .between first = .ok (.name [first], none) := by simp [step, blank, equals]
    rw [List.cons_append, scan_continue stepped]
    exact scan_name fun c member => word.bare c (List.mem_cons_of_mem first member)

theorem scan_bare {more : List Char} (bare : ∀ c ∈ more, isSpace c = false ∧ c ≠ '\\') :
    scan (.bare name value) (more ++ text) = scan (.bare name (value ++ more)) text :=
  scan_collects (.bare name) (fun c member read => by simp [step, bare c member]) value

theorem scan_value (plain : Plain value) : scan (.beforeValue name) (value ++ text) = scan (.bare name value) text := by
  cases value with
  | nil => exact absurd rfl plain.filled
  | cons first rest =>
    obtain ⟨blank, backslash⟩ := plain.bare first List.mem_cons_self
    have quote : first ≠ '\'' := fun same => plain.unquoted (by rw [List.head?_cons, same])
    have stepped : step (.beforeValue name) first = .ok (.bare name [first], none) := by
      simp [step, blank, quote, backslash]
    rw [List.cons_append, scan_continue stepped]
    exact scan_bare fun c member => plain.bare c (List.mem_cons_of_mem first member)

theorem scan_setting (word : Word setting.name) (plain : Plain setting.value) :
    scan .between (setting.text ++ text) = scan (.bare setting.name setting.value) text := by
  rw [Setting.text, List.append_assoc, List.cons_append, scan_word word, scan_value plain]

theorem scan_render (words : ∀ setting ∈ settings, Word setting.name)
    (plain : ∀ setting ∈ settings, Plain setting.value) : scan .between (render settings) = .ok settings := by
  fun_induction render settings with
  | case1 => rfl
  | case2 setting =>
    have read := @scan_setting setting [] (words setting List.mem_cons_self) (plain setting List.mem_cons_self)
    rw [List.append_nil] at read
    exact read
  | case3 setting rest _ ih =>
    rw [scan_setting (words setting List.mem_cons_self) (plain setting List.mem_cons_self)]
    have stepped : step (.bare setting.name setting.value) ' ' = .ok (.between, some setting) := rfl
    rw [scan, stepped]
    dsimp only
    rw [ih (fun other member => words other (List.mem_cons_of_mem setting member))
      fun other member => plain other (List.mem_cons_of_mem setting member)]
    rfl

theorem length_render (filled : settings ≠ []) : (render settings).length + 1 = total settings := by
  fun_induction render settings with
  | case1 => exact absurd rfl filled
  | case2 setting => simp [Setting.text, total, Setting.weight]; omega
  | case3 setting rest more ih =>
    have longer := ih (by rintro rfl; exact more rfl)
    simp only [List.length_append, List.length_cons, Setting.text, total, List.map_cons, List.sum_cons, Setting.weight]
      at longer ⊢
    omega

theorem mem_render_iff (blank : c ≠ ' ') : c ∈ render settings ↔ ∃ setting ∈ settings, c ∈ setting.text := by
  fun_induction render settings with
  | case1 | case2 => simp
  | case3 setting rest _ ih => simp [ih, blank]

end Rendering

theorem not_reads {settings : List Setting} {text : List Char} {value : Option (List Char)}
    (found : (parse text).map (lookup · name) = .ok value) (different : value ≠ lookup settings name) :
    ¬ Reads text settings := by
  rintro ⟨read, parsed, same⟩
  rw [parsed] at found
  cases found
  exact different (same name)

theorem subset_of_lookup {settings read : List Setting} (distinct : (settings.map Setting.name).Nodup)
    (same : ∀ name, lookup read name = lookup settings name) : settings ⊆ read := by
  intro setting member
  have found : lookup read setting.name = some setting.value := by
    rw [same, lookup, lastOf_of_mem distinct member, Option.map_some]
  obtain ⟨other, last, value⟩ := Option.map_eq_some_iff.mp found
  obtain ⟨there, name⟩ := mem_of_lastOf last
  have equal : other = setting := by
    cases other
    cases setting
    exact congrArg₂ Setting.mk name value
  exact equal ▸ there

/-- Settings that are written without quotes are read back exactly when none of their values needs quotes. -/
theorem reads_render_iff {settings : List Setting} (filled : settings ≠ [])
    (distinct : (settings.map Setting.name).Nodup) (words : ∀ setting ∈ settings, Word setting.name)
    (ends : (render settings).getLast? ≠ some '=') :
    Reads (render settings) settings ↔ ∀ setting ∈ settings, Plain setting.value ∧ '\x00' ∉ setting.value := by
  have whole : (render settings).takeWhile (· ≠ '\x00') = render settings ↔
      ∀ setting ∈ settings, '\x00' ∉ setting.value := by
    rw [List.takeWhile_eq_self_iff]
    constructor
    · intro kept setting member inside
      have there : '\x00' ∈ render settings := (mem_render_iff (by decide)).mpr
        ⟨setting, member, List.mem_append_right _ (List.mem_cons_of_mem '=' inside)⟩
      simpa using kept _ there
    · intro clear c there
      refine decide_eq_true fun nul => ?_
      subst nul
      obtain ⟨setting, member, inside⟩ := (mem_render_iff (by decide)).mp there
      rcases List.mem_append.mp inside with name | value
      · exact (words setting member).whole name
      · exact clear setting member (List.mem_of_ne_of_mem (by decide) value)
  constructor
  · rintro ⟨read, parsed, same⟩
    have included := subset_of_lookup distinct same
    have heavier : total settings ≤ total read :=
      sum_map_le_of_subset Setting.weight (List.Nodup.of_map Setting.name distinct) included
    have bound := total_scan_le parsed
    have length := length_render filled
    have cut : (render settings).takeWhile (· ≠ '\x00') = render settings := by
      refine (List.takeWhile_prefix _).eq_of_length_le ?_
      simp only [Mode.size] at bound
      omega
    unfold parse at parsed
    rw [cut] at parsed
    have clean : Mode.between.Clean := trivial
    have plain := plain_of_scan clean parsed ⟨fun _ => nofun, ends⟩ (by simp only [Mode.size]; omega)
    exact fun setting member => ⟨plain setting (included member), whole.mp cut setting member⟩
  · intro plain
    refine ⟨settings, ?_, fun _ => rfl⟩
    rw [parse, whole.mpr fun setting member => (plain setting member).2]
    exact scan_render words fun setting member => (plain setting member).1

end RealtimeChat.Foundation.Conninfo
