import RealtimeChat.Foundation.Assignments
import RealtimeChat.Foundation.SortedMap
import Mathlib.Data.List.Induction
import Mathlib.Data.List.Lex

/-! JSON documents whose strings are bytes.

A string may hold any bytes until the document is printed. The printer gives up
at the first one that is not valid UTF-8, and then there is no text at all. The
keys of an object are kept in order, and the last value for a key counts.
-/

set_option autoImplicit false

namespace RealtimeChat.Foundation

instance byteArrayEquality : DecidableEq ByteArray := fun first second =>
  decidable_of_iff (first.data = second.data) ByteArray.ext_iff.symm

abbrev bytewise : LinearOrder ByteArray :=
  LinearOrder.lift' (fun bytes : ByteArray => bytes.data.toList.map UInt8.toNat) fun _ _ same =>
    ByteArray.ext (Array.toList_inj.mp (List.map_injective_iff.mpr (fun _ _ => UInt8.toNat_inj.mp) same))

instance byteArrayOrder : LinearOrder ByteArray :=
  { bytewise with
    toDecidableEq := inferInstance
    compare_eq_compareOfLessAndEq := fun first second =>
      (bytewise.compare_eq_compareOfLessAndEq first second).trans (by congr) }

namespace SortedMap

variable {K V : Type} [LinearOrder K]

def ofRows (rows : List (K × V)) : SortedMap K V := rows.foldl (fun map row => map.alter row.1 fun _ => row.2) .empty

theorem map_find?_entries (map : SortedMap K V) (key : K) :
    (map.entries.find? fun entry => entry.1 = key).map Prod.snd = map.find key := by
  rw [find]
  induction map.entries with
  | nil => rfl
  | cons entry rest ih =>
    rw [lookup_cons, List.find?_cons]
    by_cases same : key = entry.1
    · simp [same]
    · simpa [same, Ne.symm same] using ih

theorem find_ofRows (rows : List (K × V)) (key : K) :
    (ofRows rows).find key = (lastOf Prod.fst rows key).map Prod.snd := by
  induction rows using List.reverseRecOn with
  | nil => rfl
  | append_singleton rows row ih =>
    rw [ofRows, List.foldl_append, List.foldl_cons, List.foldl_nil, find_alter, lastOf, List.reverse_concat,
      List.find?_cons]
    by_cases same : key = row.1
    · simp [same]
    · simpa [same, Ne.symm same, ofRows, lastOf] using ih

theorem mem_entries_ofRows {rows : List (K × V)} {row : K × V} :
    row ∈ (ofRows rows).entries ↔ lastOf Prod.fst rows row.1 = some row := by
  refine mem_entries_iff.trans ((find_ofRows rows row.1).symm ▸ ?_)
  constructor
  · intro found
    obtain ⟨last, there, same⟩ := Option.map_eq_some_iff.mp found
    rw [there, Prod.ext (mem_of_lastOf there).2 same]
  · intro found
    rw [found]
    rfl

end SortedMap

inductive Document where
  | number (value : Int)
  | text (bytes : ByteArray)
  | list (elements : List Document)
  | record (members : List (ByteArray × Document))

namespace Document

section Printing

def hexDigits (value : Nat) : String := String.ofList [Nat.digitChar (value / 16), Nat.digitChar (value % 16)]

def escape : Char → String
  | '"' => "\\\""
  | '\\' => "\\\\"
  | '\x08' => "\\b"
  | '\x0c' => "\\f"
  | '\n' => "\\n"
  | '\r' => "\\r"
  | '\t' => "\\t"
  | c => if c.toNat < 32 then "\\u00" ++ hexDigits c.toNat else c.toString

def quote (bytes : ByteArray) : Option String :=
  (String.fromUTF8? bytes).map fun text => "\"" ++ String.join (text.toList.map escape) ++ "\""

mutual

def dump : Document → Option String
  | .number value => some (toString value)
  | .text bytes => quote bytes
  | .list elements => (dumpElements elements).map fun texts => "[" ++ ",".intercalate texts ++ "]"
  | .record members => (dumpMembers members).map fun texts => "\x7b" ++ ",".intercalate texts ++ "\x7d"

def dumpElements : List Document → Option (List String)
  | [] => some []
  | element :: rest => do return (← dump element) :: (← dumpElements rest)

def dumpMembers : List (ByteArray × Document) → Option (List String)
  | [] => some []
  | (key, value) :: rest => do return ((← quote key) ++ ":" ++ (← dump value)) :: (← dumpMembers rest)

end

end Printing

variable {bytes : ByteArray}

section Strings

mutual

def strings : Document → List ByteArray
  | .number _ => []
  | .text bytes => [bytes]
  | .list elements => elementStrings elements
  | .record members => memberStrings members

def elementStrings : List Document → List ByteArray
  | [] => []
  | element :: rest => element.strings ++ elementStrings rest

def memberStrings : List (ByteArray × Document) → List ByteArray
  | [] => []
  | (key, value) :: rest => key :: value.strings ++ memberStrings rest

end

def Encodable (document : Document) : Prop := ∀ bytes ∈ document.strings, bytes.IsValidUTF8

theorem isValidUTF8_of_isEmpty (empty : bytes.isEmpty = true) : bytes.IsValidUTF8 := by
  have none : bytes = ByteArray.empty := by simpa [ByteArray.isEmpty] using empty
  subst none
  exact ByteArray.isValidUTF8_empty

theorem isSome_quote : (quote bytes).isSome ↔ bytes.IsValidUTF8 := by
  rw [quote, Option.isSome_map, String.fromUTF8?]
  split
  · next valid => simp [valid]
  · next invalid => simp [invalid]

theorem encodable_number (value : Int) : (number value).Encodable := nofun

theorem encodable_text : (text bytes).Encodable ↔ bytes.IsValidUTF8 := List.forall_mem_singleton

theorem encodable_list {elements : List Document} :
    (list elements).Encodable ↔ ∀ element ∈ elements, element.Encodable := by
  rw [Encodable, strings]
  induction elements with
  | nil => simp [elementStrings]
  | cons element rest ih =>
    rw [elementStrings, List.forall_mem_append, List.forall_mem_cons, ih]
    rfl

theorem encodable_record {members : List (ByteArray × Document)} :
    (record members).Encodable ↔ ∀ member ∈ members, member.1.IsValidUTF8 ∧ member.2.Encodable := by
  rw [Encodable, strings]
  induction members with
  | nil => simp [memberStrings]
  | cons member rest ih =>
    rw [memberStrings, List.forall_mem_append, List.forall_mem_cons, List.forall_mem_cons, ih]
    rfl

mutual

theorem isSome_dump : (document : Document) → (document.dump.isSome ↔ document.Encodable)
  | .number value => by simp [dump, encodable_number]
  | .text bytes => by rw [dump, isSome_quote, encodable_text]
  | .list elements => by rw [dump, Option.isSome_map, isSome_dumpElements elements, encodable_list]
  | .record members => by rw [dump, Option.isSome_map, isSome_dumpMembers members, encodable_record]

theorem isSome_dumpElements : (elements : List Document) →
    ((dumpElements elements).isSome ↔ ∀ element ∈ elements, element.Encodable)
  | [] => by simp [dumpElements]
  | element :: rest => by
    rw [List.forall_mem_cons, ← isSome_dump element, ← isSome_dumpElements rest, dumpElements]
    cases element.dump <;> cases dumpElements rest <;> simp

theorem isSome_dumpMembers : (members : List (ByteArray × Document)) →
    ((dumpMembers members).isSome ↔ ∀ member ∈ members, member.1.IsValidUTF8 ∧ member.2.Encodable)
  | [] => by simp [dumpMembers]
  | (key, value) :: rest => by
    rw [List.forall_mem_cons, ← isSome_quote, ← isSome_dump value, ← isSome_dumpMembers rest, dumpMembers]
    cases quote key <;> cases value.dump <;> cases dumpMembers rest <;> simp

end

end Strings

section Objects

def object (rows : List (ByteArray × Document)) : Document := .record (SortedMap.ofRows rows).entries

def field (name : String) (value : Document) : ByteArray × Document := (name.toByteArray, value)

def filled (name : String) (bytes : ByteArray) : List (ByteArray × Document) :=
  if bytes.isEmpty then [] else [field name (.text bytes)]

def member (name : String) : Document → Option Document
  | .record members => (members.find? fun member => member.1 = name.toByteArray).map Prod.snd
  | .number _ | .text _ | .list _ => none

def elements : Document → List Document
  | .list elements => elements
  | .number _ | .text _ | .record _ => []

variable {rows : List (ByteArray × Document)}

theorem encodable_object : (object rows).Encodable ↔
    ∀ row, lastOf Prod.fst rows row.1 = some row → row.1.IsValidUTF8 ∧ row.2.Encodable := by
  simp only [object, encodable_record, SortedMap.mem_entries_ofRows]

def Named (names : List String) (rows : List (ByteArray × Document)) : Prop :=
  (rows.map Prod.fst).Sublist (names.map String.toByteArray)

theorem named_of_eq (names : List String) (same : rows.map Prod.fst = names.map String.toByteArray) :
    Named names rows := by
  simp [Named, same]

theorem named_filled (name : String) (bytes : ByteArray) : Named [name] (filled name bytes) := by
  unfold filled
  split
  · exact List.nil_sublist _
  · exact List.Sublist.refl _

theorem Named.append {names others : List String} {more : List (ByteArray × Document)} (named : Named names rows)
    (also : Named others more) : Named (names ++ others) (rows ++ more) := by
  rw [Named, List.map_append, List.map_append]
  exact List.Sublist.append named also

theorem Named.encodable_iff {names : List String} (named : Named names rows) (distinct : names.Nodup) :
    (object rows).Encodable ↔ ∀ row ∈ rows, row.1.IsValidUTF8 ∧ row.2.Encodable := by
  have once : (rows.map Prod.fst).Nodup := List.Sublist.nodup named (distinct.map fun _ _ => String.toByteArray_inj.mp)
  rw [encodable_object]
  exact ⟨fun all row member => all row (lastOf_of_mem once member), fun all row found => all row (mem_of_lastOf found).1⟩

theorem member_object (name : String) :
    (object rows).member name = (lastOf Prod.fst rows name.toByteArray).map Prod.snd := by
  rw [object, member, SortedMap.map_find?_entries, SortedMap.find_ofRows]

theorem field_encodable {name : String} {value : Document} :
    (field name value).1.IsValidUTF8 ∧ (field name value).2.Encodable ↔ value.Encodable :=
  and_iff_right name.isValidUTF8

theorem filled_encodable {name : String} :
    (∀ row ∈ filled name bytes, row.1.IsValidUTF8 ∧ row.2.Encodable) ↔ bytes.IsValidUTF8 := by
  unfold filled
  split
  · next empty => exact iff_of_true nofun (isValidUTF8_of_isEmpty empty)
  · rw [List.forall_mem_singleton, field_encodable, encodable_text]

end Objects

end Document

end RealtimeChat.Foundation
