import ServiceCatalog.Json.Printer

/-!
# Arguments of a call

The arguments of a call are JSON values under the names of parameters.  An argument that is
`null` counts as absent: it is stored and counted as an entry, but asking for it finds nothing.
-/

namespace ServiceCatalog

set_option autoImplicit false

open ServiceCatalog.Json

/-- The arguments of a call, in the order in which their names first came. -/
structure Arguments where
  entries : List (String × Value)
  deriving Inhabited, Repr

namespace Arguments

/-- No arguments. -/
def empty : Arguments := ⟨[]⟩

/-- Sets an argument; an earlier one of that name is replaced in its place. -/
def insert (name : String) (value : Value) (arguments : Arguments) : Arguments :=
  ⟨assign name value arguments.entries⟩

/-- The arguments that a sequence of settings leaves. -/
def ofList (settings : List (String × Value)) : Arguments := ⟨assignAll settings⟩

/-- The members of an object as arguments. -/
def ofValue? : Value → Option Arguments
  | .object members => some ⟨members⟩
  | _ => none

/-- The argument of a name, if there is one other than `null`. -/
def get? (arguments : Arguments) (name : String) : Option Value :=
  (arguments.entries.lookup name).filter fun value => !value.isNull

/-- There is an argument of a name other than `null`. -/
def contains (arguments : Arguments) (name : String) : Bool := (arguments.get? name).isSome

/-- The number of entries, `null` included. -/
def size (arguments : Arguments) : Nat := arguments.entries.length

/-- There are no entries. -/
def isEmpty (arguments : Arguments) : Bool := arguments.entries.isEmpty

end Arguments

end ServiceCatalog
