import Mathlib.Data.List.Basic

/-! JSON values.

A number is an integer or has a fraction. An object is the list of its members;
`find` reads the first member of a name and `set` replaces it in place or
appends a new one. Values are the same document when their members have the same
values, in whatever order.
-/

set_option autoImplicit false

namespace RealtimeChat.Foundation

inductive Json where
  | null
  | bool (value : Bool)
  | number (value : Int)
  | decimal (value : Rat)
  | string (value : String)
  | array (items : List Json)
  | object (members : List (String × Json))
  deriving Repr, BEq

namespace Json

def lookup (name : String) : List (String × Json) → Option Json
  | [] => none
  | (first, value) :: rest => if first = name then some value else lookup name rest

def find (value : Json) (name : String) : Option Json :=
  match value with
  | .object members => lookup name members
  | _ => none

def put (name : String) (value : Json) : List (String × Json) → List (String × Json)
  | [] => [(name, value)]
  | (first, old) :: rest => if first = name then (name, value) :: rest else (first, old) :: put name value rest

def set (target : Json) (name : String) (value : Json) : Json :=
  match target with
  | .object members => .object (put name value members)
  | _ => target

def isObject : Json → Bool
  | .object _ => true
  | _ => false

def text? : Json → Option String
  | .string value => some value
  | _ => none

def integer? : Json → Option Int
  | .number value => some value
  | _ => none

def boolean? : Json → Option Bool
  | .bool value => some value
  | _ => none

def array? : Json → Option (List Json)
  | .array items => some items
  | _ => none

/-- Conversion to a 64-bit integer, which drops the fraction of a number; `none` is the type
error, also of a Boolean. -/
def toInt? : Json → Option Int
  | .number value => some value
  | .decimal value => some (value.num.tdiv value.den)
  | _ => none

def toInts? : Json → Option (List Int)
  | .array items => items.mapM toInt?
  | _ => none

mutual

/-- The texts in a value, the names of members included. -/
def strings : Json → List String
  | .string value => [value]
  | .array items => itemStrings items
  | .object members => memberStrings members
  | _ => []

def itemStrings : List Json → List String
  | [] => []
  | item :: rest => item.strings ++ itemStrings rest

def memberStrings : List (String × Json) → List String
  | [] => []
  | (name, value) :: rest => name :: (value.strings ++ memberStrings rest)

end

variable {name : String} {target : Json}

theorem lookup_put (name other : String) (value : Json) (members : List (String × Json)) :
    lookup other (put name value members) = if other = name then some value else lookup other members := by
  induction members with
  | nil => simp [put, lookup, eq_comm]
  | cons first rest ih =>
    obtain ⟨first, old⟩ := first
    by_cases same : first = name
    · subst same
      by_cases here : other = first
      · simp [put, lookup, here]
      · simp [put, lookup, here, Ne.symm here]
    · by_cases here : first = other
      · subst here
        simp [put, lookup, same]
      · simp [put, lookup, same, here, ih]

theorem mem_of_lookup {value : Json} {members : List (String × Json)} (found : lookup name members = some value) :
    (name, value) ∈ members := by
  induction members with
  | nil => cases found
  | cons first rest ih =>
    rw [lookup] at found
    split at found
    · next same =>
      cases found
      exact same ▸ List.mem_cons_self
    · exact List.mem_cons_of_mem _ (ih found)

theorem find_set (isObject : target.isObject) (name other : String) (value : Json) :
    (target.set name value).find other = if other = name then some value else target.find other := by
  cases target with
  | object members => exact lookup_put name other value members
  | null | bool | number | decimal | string | array => cases isObject

theorem isObject_set (name : String) (value : Json) : (target.set name value).isObject = target.isObject := by
  cases target <;> rfl

theorem toInts?_numbers (values : List Int) : (Json.array (values.map .number)).toInts? = some values := by
  induction values with
  | nil => rfl
  | cons first rest ih =>
    simp only [toInts?, List.map_cons, List.mapM_cons] at ih ⊢
    simp [toInt?, ih]

inductive Same : Json → Json → Prop where
  | null : Same .null .null
  | bool (value : Bool) : Same (.bool value) (.bool value)
  | number (value : Int) : Same (.number value) (.number value)
  | decimal (value : Rat) : Same (.decimal value) (.decimal value)
  | string (value : String) : Same (.string value) (.string value)
  | array {first second : List Json} (length : first.length = second.length)
      (items : ∀ (position : Nat) (one other : Json), first[position]? = some one → second[position]? = some other →
        Same one other) : Same (.array first) (.array second)
  | object {first second : List (String × Json)}
      (names : ∀ name, (lookup name first).isSome = (lookup name second).isSome)
      (members : ∀ name one other, lookup name first = some one → lookup name second = some other → Same one other) :
      Same (.object first) (.object second)

namespace Same

variable {first second : Json}

theorem refl (value : Json) : value.Same value :=
  match value with
  | .null => .null
  | .bool value => .bool value
  | .number value => .number value
  | .decimal value => .decimal value
  | .string value => .string value
  | .array items => .array rfl fun position one other here there => by
    obtain rfl := Option.some.inj (here.symm.trans there)
    have := List.sizeOf_lt_of_mem (List.mem_of_getElem? here)
    exact refl one
  | .object members => .object (fun _ => rfl) fun name one other here there => by
    obtain rfl := Option.some.inj (here.symm.trans there)
    have := List.sizeOf_lt_of_mem (mem_of_lookup here)
    exact refl one
termination_by value
decreasing_by all_goals simp_wf; simp at *; omega

variable (same : first.Same second)

include same

theorem isObject : first.isObject = second.isObject := by
  cases same <;> rfl

theorem text? : first.text? = second.text? := by
  cases same <;> rfl

theorem find_some {other : Json} (found : second.find name = some other) :
    ∃ one, first.find name = some one ∧ one.Same other := by
  cases same with
  | @object members others names values =>
    have there : (lookup name members).isSome := by rw [names name, show lookup name others = some other from found]; rfl
    obtain ⟨one, here⟩ := Option.isSome_iff_exists.mp there
    exact ⟨one, here, values name one other here found⟩
  | null | bool | number | decimal | string | array => cases found

theorem find_none (absent : second.find name = none) : first.find name = none := by
  cases same with
  | @object members others names values =>
    have gone : (lookup name members).isSome = false := by
      rw [names name, show lookup name others = none from absent]
      rfl
    exact Option.not_isSome_iff_eq_none.mp (Bool.eq_false_iff.mp gone)
  | null | bool | number | decimal | string | array => rfl

end Same

end Json

end RealtimeChat.Foundation
