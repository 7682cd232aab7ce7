import RealtimeChat.Foundation.Decimal
import RealtimeChat.Foundation.Scanning
import RealtimeChat.Tracing.Exporter

/-! The endpoint of a collector.

An address is a host with a port and a path, each of which may be left out. It is
written with or without the `http` scheme, the only one the exporter can use.
-/

set_option autoImplicit false

namespace RealtimeChat.Tracing

open Foundation

def isPlain (c : Char) : Bool := c ≠ '/' && c ≠ ':'

structure Part where
  text : List Char
  nonempty : text ≠ []
  plain : ∀ c ∈ text, isPlain c = true

structure Address where
  host : Part
  port : Option Part
  path : Option (List Char)

def Address.authority (address : Address) : List Char :=
  address.host.text ++ (address.port.elim [] fun port => ':' :: port.text)

def Address.render (address : Address) (scheme : Bool) : String :=
  String.ofList ((if scheme then httpScheme else []) ++
    (address.authority ++ (address.path.elim [] fun path => '/' :: path)))

def Address.parsed (address : Address) (format : TraceWireFormat) : ParsedEndpoint where
  host := String.ofList address.host.text
  port := address.port.elim format.defaultPort fun port => String.ofList port.text
  target := address.path.elim format.defaultTarget fun path => String.ofList ('/' :: path)
  valid := true

/-- A letter, and then letters, digits and the marks that a scheme may have. -/
def IsScheme (scheme : List Char) : Prop :=
  scheme.head?.any Char.isAlpha = true ∧
    scheme.all (fun c => c.isAlphanum || c == '+' || c == '-' || c == '.') = true

/-- The endpoint carries a scheme other than `http`; letter case counts, as in the source. -/
def OtherScheme (endpoint : String) : Prop :=
  ∃ scheme rest, endpoint.toList = scheme ++ "://".toList ++ rest ∧ IsScheme scheme ∧ scheme ≠ "http".toList

variable {text : List Char} (address : Address) (format : TraceWireFormat)

section Parts

theorem splitAtLast_append {mark : Char} {before after : List Char} (absent : mark ∉ after) :
    splitAtLast mark (before ++ mark :: after) = some (before, after) := by
  have reversed : (before ++ mark :: after).reverse = after.reverse ++ (mark :: before.reverse) := by simp
  have last : (before ++ mark :: after).reverse.takeWhile (· ≠ mark) = after.reverse := by
    rw [reversed]
    refine (scan_append ?_ ?_).1
    · intro c member
      rw [List.mem_reverse] at member
      exact decide_eq_true fun same => absent (same ▸ member)
    · exact stops_cons.mpr (by simp)
  unfold splitAtLast
  rw [last, List.reverse_reverse, if_pos (by simp)]
  congr 2
  have long : (before ++ mark :: after).length - after.length - 1 = before.length := by
    simp only [List.length_append, List.length_cons]
    omega
  rw [long, List.take_left]

theorem splitAtLast_eq_none {mark : Char} (absent : mark ∉ text) : splitAtLast mark text = none :=
  if_neg absent

theorem Part.ne_slash (part : Part) {c : Char} (member : c ∈ part.text) : c ≠ '/' := by
  have plain := part.plain c member
  simp only [isPlain, Bool.and_eq_true, decide_eq_true_eq] at plain
  exact plain.1

theorem Part.colon_notMem (part : Part) : ':' ∉ part.text := by
  intro member
  exact absurd (part.plain _ member) (by decide)

theorem Address.slash_notMem_authority : ∀ c ∈ address.authority, c ≠ '/' := by
  intro c member
  unfold authority at member
  rcases List.mem_append.mp member with member | member
  · exact address.host.ne_slash member
  · cases port : address.port with
    | none => simp [port] at member
    | some part =>
      simp only [port, Option.elim_some, List.mem_cons] at member
      rcases member with rfl | member
      · decide
      · exact part.ne_slash member

def Address.tail (address : Address) : List Char := address.path.elim [] fun path => '/' :: path

theorem Address.scan_slash :
    (address.authority ++ address.tail).takeWhile (· ≠ '/') = address.authority ∧
      (address.authority ++ address.tail).dropWhile (· ≠ '/') = address.tail := by
  apply scan_append
  · intro c member
    exact decide_eq_true (address.slash_notMem_authority c member)
  · unfold tail
    cases address.path with
    | none => exact stops_nil _
    | some path => exact stops_cons.mpr (by simp)

theorem Address.authority_ne : address.authority ≠ "http:".toList := by
  unfold authority
  cases address.port with
  | none =>
    intro same
    rw [Option.elim_none, List.append_nil] at same
    exact address.host.colon_notMem (by rw [same]; decide)
  | some part =>
    intro same
    have split : "http:".toList = "http".toList ++ ':' :: [] := by decide
    rw [split] at same
    exact part.nonempty ((append_cons_inj address.host.colon_notMem (by decide)).mp same).2

/-- An address does not begin with the scheme: what stands before the first slash is another text. -/
theorem Address.not_httpScheme : httpScheme.isPrefixOf (address.authority ++ address.tail) = false := by
  rw [← Bool.not_eq_true, List.isPrefixOf_iff_prefix]
  rintro ⟨rest, same⟩
  have first := address.scan_slash.1
  rw [← same] at first
  have scheme : (httpScheme ++ rest).takeWhile (· ≠ '/') = "http:".toList := by
    have split : httpScheme ++ rest = "http:".toList ++ ('/' :: '/' :: rest) := by
      rw [show httpScheme = "http:".toList ++ ['/', '/'] by decide]
      simp
    rw [split]
    refine (scan_append ?_ (stops_cons.mpr (by decide))).1
    rw [← List.all_eq_true]
    decide
  exact address.authority_ne (first.symm.trans scheme)

theorem splitAtLast_authority :
    splitAtLast ':' address.authority = address.port.map fun port => (address.host.text, port.text) := by
  unfold Address.authority
  cases address.port with
  | none =>
    rw [Option.elim_none, List.append_nil]
    exact splitAtLast_eq_none address.host.colon_notMem
  | some part => exact splitAtLast_append part.colon_notMem

end Parts

/-- The port of the text before the first slash, and what is left as the host. -/
def hostAndPort (authority : List Char) (format : TraceWireFormat) : List Char × String :=
  (splitAtLast ':' authority).elim (authority, format.defaultPort) fun (host, port) =>
    (host, if port.isEmpty then format.defaultPort else String.ofList port)

theorem parseEndpoint_parts (scheme : Bool) {authority path host : List Char} {port : String}
    {format : TraceWireFormat} (plain : httpScheme.isPrefixOf text = false)
    (scan : text.takeWhile (· ≠ '/') = authority ∧ text.dropWhile (· ≠ '/') = path)
    (split : hostAndPort authority format = (host, port)) (nonempty : host ≠ []) (given : text ≠ []) :
    parseEndpoint (String.ofList ((if scheme then httpScheme else []) ++ text)) format =
      ⟨String.ofList host, port, if path.isEmpty then format.defaultTarget else String.ofList path, true⟩ := by
  have behind : (if httpScheme.isPrefixOf ((if scheme then httpScheme else []) ++ text) then
      ((if scheme then httpScheme else []) ++ text).drop httpScheme.length
      else (if scheme then httpScheme else []) ++ text) = text := by
    cases scheme with
    | true =>
      rw [if_pos rfl, if_pos (List.isPrefixOf_iff_prefix.mpr (List.prefix_append _ _)), List.drop_left]
    | false =>
      rw [if_neg Bool.false_ne_true, List.nil_append, plain, if_neg Bool.false_ne_true]
  simp only [parseEndpoint, String.toList_ofList, behind, scan.1, scan.2]
  rw [if_neg (by simpa using given)]
  have found : ¬ host.isEmpty = true := by simpa using nonempty
  unfold hostAndPort at split
  cases parts : splitAtLast ':' authority with
  | none | some pair =>
    rw [parts] at split
    cases split
    exact if_neg found

theorem hostAndPort_authority :
    hostAndPort address.authority format =
      (address.host.text, address.port.elim format.defaultPort fun port => String.ofList port.text) := by
  rw [hostAndPort, splitAtLast_authority]
  cases port : address.port with
  | none => simp [Address.authority, port]
  | some part => simp [part.nonempty]

theorem parseEndpoint_render (scheme : Bool) (format : TraceWireFormat) :
    parseEndpoint (address.render scheme) format = address.parsed format := by
  have given : address.authority ++ address.tail ≠ [] := by simp [Address.authority, address.host.nonempty]
  rw [Address.render, ← Address.tail, parseEndpoint_parts _ address.not_httpScheme address.scan_slash
    (hostAndPort_authority address format) address.host.nonempty given, Address.parsed, Address.tail]
  cases address.path <;> rfl

/-- A scheme other than `http` is taken for the host. -/
theorem parseEndpoint_otherScheme {scheme rest : List Char} (isScheme : IsScheme scheme)
    (other : scheme ≠ "http".toList) (format : TraceWireFormat) :
    parseEndpoint (String.ofList (scheme ++ "://".toList ++ rest)) format =
      ⟨String.ofList scheme, format.defaultPort, String.ofList ('/' :: '/' :: rest), true⟩ := by
  have marks : ∀ c ∈ scheme, c ≠ '/' ∧ c ≠ ':' := by
    intro c member
    have allowed := List.all_eq_true.mp isScheme.2 c member
    constructor <;> rintro rfl <;> exact absurd allowed (by decide)
  have nonempty : scheme ≠ [] := by
    rintro rfl
    exact absurd isScheme.1 (by decide)
  have text : scheme ++ "://".toList ++ rest = (scheme ++ [':']) ++ ('/' :: '/' :: rest) := by
    rw [show "://".toList = [':', '/', '/'] by decide]
    simp
  have plain : httpScheme.isPrefixOf ((scheme ++ [':']) ++ ('/' :: '/' :: rest)) = false := by
    rw [← Bool.not_eq_true, List.isPrefixOf_iff_prefix]
    rintro ⟨after, same⟩
    rw [show httpScheme = "http".toList ++ ':' :: "//".toList by decide, List.append_assoc, List.append_assoc] at same
    exact other ((append_cons_inj (by decide) fun member => (marks _ member).2 rfl).mp same).1.symm
  have scan : ((scheme ++ [':']) ++ ('/' :: '/' :: rest)).takeWhile (· ≠ '/') = scheme ++ [':'] ∧
      ((scheme ++ [':']) ++ ('/' :: '/' :: rest)).dropWhile (· ≠ '/') = '/' :: '/' :: rest := by
    refine scan_append ?_ (stops_cons.mpr (by decide))
    intro c member
    rcases List.mem_append.mp member with member | member
    · exact decide_eq_true (marks c member).1
    · rw [List.mem_singleton.mp member]
      rfl
  have split : hostAndPort (scheme ++ [':']) format = (scheme, format.defaultPort) := by
    rw [hostAndPort, splitAtLast_append List.not_mem_nil]
    rfl
  rw [text]
  exact parseEndpoint_parts false plain scan split nonempty (by simp)

/-- The endpoint is read as it was written, and not taken for valid with a scheme other than `http`. -/
def ReadAsWritten (endpoint : String) (format : TraceWireFormat) : Prop :=
  (∀ (address : Address) scheme, endpoint = address.render scheme →
    parseEndpoint endpoint format = address.parsed format) ∧
  (OtherScheme endpoint → (parseEndpoint endpoint format).valid = false)

/-- Every address is read as it was written; a scheme other than `http` is never noticed. -/
theorem read_as_written_iff (endpoint : String) (format : TraceWireFormat) :
    ReadAsWritten endpoint format ↔ ¬ OtherScheme endpoint := by
  constructor
  · rintro ⟨-, rejects⟩ other
    have invalid := rejects other
    obtain ⟨scheme, rest, text, isScheme, different⟩ := other
    rw [← String.ofList_toList (s := endpoint), text, parseEndpoint_otherScheme isScheme different] at invalid
    cases invalid
  · intro plain
    refine ⟨?_, fun other => absurd other plain⟩
    rintro address scheme rfl
    exact parseEndpoint_render address scheme format

theorem https_taken_for_host :
    parseEndpoint "https://collector:4318" .otlpHttpJson = ⟨"https", "4318", "//collector:4318", true⟩ ∧
    OtherScheme "https://collector:4318" := by
  refine ⟨by decide +kernel, "https".toList, "collector:4318".toList, by decide +kernel, ?_, by decide +kernel⟩
  exact ⟨by decide +kernel, by decide +kernel⟩

end RealtimeChat.Tracing
