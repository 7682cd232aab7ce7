import RealtimeChat.Basic
import Mathlib.Data.List.TakeWhile

/-! Texts on their way into a table.

The driver sends a text as a C string, up to its first zero byte. The server
refuses bytes that are not UTF-8 as soon as it reads them. Of a text that is too
long for its column it cuts off blanks at the end, and refuses it if anything
else is there, before it looks at the indexes or the foreign keys.
-/

set_option autoImplicit false

namespace RealtimeChat.Database

/-- What the server gets of a text. -/
def sent (text : String) : String := String.ofList (text.toList.takeWhile (· ≠ '\x00'))

/-- Beyond the width of its column the text has only blanks. -/
def Fits (width : Nat) (text : String) : Prop := ∀ c ∈ (sent text).toList.drop width, c = ' '

instance (width : Nat) (text : String) : Decidable (Fits width text) :=
  List.decidableBAll (· = ' ') ((sent text).toList.drop width)

/-- What the column holds of a text that fits. -/
def stored (width : Nat) (text : String) : String := String.ofList ((sent text).toList.take width)

/-- The width of the first column whose text does not fit; a null always does. -/
def tooLong (columns : List (Nat × Option String)) : Option Nat :=
  (columns.find? fun column => column.2.any fun text => ¬ Fits column.1 text).map Prod.fst

/-- The text of a parameter, unless it is not one. -/
def decode (bytes : Bytes) : Option String := String.fromUTF8? (bytes.takeWhile (· ≠ 0)).toByteArray

/-- What is left of the bytes at the first place where they are no character. -/
def unread : Nat → Bytes → Bytes
  | 0, bytes => bytes
  | fuel + 1, bytes =>
    match bytes.toByteArray.utf8DecodeChar? 0 with
    | some c => unread fuel (bytes.drop c.utf8Size)
    | none => bytes

/-- As many bytes as the first one announces, in hexadecimal. -/
def quoteSequence (bytes : Bytes) : String :=
  let length := (bytes.head?.map fun byte => if byte &&& 0xe0 = 0xc0 then 2 else if byte &&& 0xf0 = 0xe0 then 3
    else if byte &&& 0xf8 = 0xf0 then 4 else 1).getD 1
  " ".intercalate ((bytes.take length).map fun byte =>
    "0x" ++ String.ofList [Nat.digitChar (byte.toNat / 16), Nat.digitChar (byte.toNat % 16)])

def misread (bytes : Bytes) : Option String :=
  if (decode bytes).isSome then none else some (quoteSequence (unread bytes.length bytes))

inductive Refusal where
  | encoding (sequence : String)
  | width (limit : Nat)
  deriving DecidableEq, Repr

def valueTooLong (width : Nat) : AppException :=
  databaseFailure ("ERROR:  value too long for type character varying(" ++ toString width ++ ")\n")

def Refusal.error : Refusal → AppException
  | .encoding sequence => databaseFailure ("ERROR:  invalid byte sequence for encoding \"UTF8\": " ++ sequence ++ "\n")
  | .width limit => valueTooLong limit

/-- The first thing the server has against a row: all parameters are read before any column is filled. -/
def refusal (texts : List (Nat × Option String)) (parameters : List (Nat × Option Bytes)) : Option Refusal :=
  match parameters.findSome? fun parameter => parameter.2.bind misread with
  | some sequence => some (.encoding sequence)
  | none => (tooLong (texts ++ parameters.map fun parameter => (parameter.1, parameter.2.bind decode))).map .width

variable {width : Nat} {text : String} {columns : List (Nat × Option String)}

theorem length_sent_le (text : String) : (sent text).toList.length ≤ text.length := by
  rw [sent, String.toList_ofList, ← String.length_toList]
  exact (List.takeWhile_sublist _).length_le

theorem sent_of_whole (whole : '\x00' ∉ text.toList) : sent text = text := by
  have kept : text.toList.takeWhile (· ≠ '\x00') = text.toList := by
    refine List.takeWhile_eq_self_iff.mpr fun c member => decide_eq_true ?_
    rintro rfl
    exact whole member
  rw [sent, kept, String.ofList_toList]

theorem fits_of_length (short : text.length ≤ width) : Fits width text := by
  intro c member
  rw [List.drop_eq_nil_of_le ((length_sent_le text).trans short)] at member
  cases member

theorem tooLong_cons (fits : Fits width text) : tooLong ((width, some text) :: columns) = tooLong columns := by
  simp [tooLong, fits]

theorem tooLong_eq_none : tooLong columns = none ↔ ∀ column ∈ columns, ∀ text ∈ column.2, Fits column.1 text := by
  simp only [tooLong, Option.map_eq_none_iff, List.find?_eq_none, Option.any_eq_true, decide_eq_true_eq, not_exists,
    not_and, not_not]
  rfl

theorem refusal_cons (fits : Fits width text) (parameters : List (Nat × Option Bytes)) :
    refusal ((width, some text) :: columns) parameters = refusal columns parameters := by
  rw [refusal, List.cons_append, tooLong_cons fits]
  rfl

theorem refusal_eq_none {parameters : List (Nat × Option Bytes)} :
    refusal ((width, some text) :: columns) parameters = none ↔
      Fits width text ∧ refusal columns parameters = none := by
  unfold refusal
  split
  · simp
  · simp [tooLong_eq_none]

end RealtimeChat.Database
