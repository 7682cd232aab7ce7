import Mathlib.Data.Option.Basic

/-! Partial updates of a record.

A record gives each field a value. A patch names a value for some of the fields,
and a field that it does not name keeps the one it has.
-/

set_option autoImplicit false

namespace RealtimeChat.Foundation

variable {Field Value : Type}

def Patch (Field Value : Type) := Field → Option Value

namespace Patch

def apply (patch : Patch Field Value) (record : Field → Value) : Field → Value :=
  fun field => (patch field).getD (record field)

def andThen (first second : Patch Field Value) : Patch Field Value := fun field => (second field).or (first field)

theorem apply_andThen (first second : Patch Field Value) (record : Field → Value) :
    (first.andThen second).apply record = second.apply (first.apply record) := by
  funext field
  cases named : second field <;> simp [apply, andThen, named]

end Patch

end RealtimeChat.Foundation
