import FacetedQuery.Json.Value

/-!
# Taking JSON values apart

Readers of the parts of which documents are made.  A structure is an object, in which unknown
members are not looked at and known ones occur at most once, or an array of its fields in order.
A choice is the name of an alternative, or an object whose only member names it.
-/

namespace FacetedQuery.Json

def Value.boolean? : Value → Option Bool
  | .boolean value => some value
  | _ => none

def Value.text? : Value → Option String
  | .text value => some value
  | _ => none

/-- A number as a double-precision number; integers are numbers too. -/
def Value.float? : Value → Option Float
  | .number (.natural value) => some (UInt64.ofNat value).toFloat
  | .number (.negative magnitude) => some (-(UInt64.ofNat magnitude).toFloat)
  | .number (.real value) => some value
  | _ => none

/-- An integer; a number written with fraction or exponent is none. -/
def Value.integer? : Value → Option Int
  | .number (.natural value) => some value
  | .number (.negative magnitude) => some (-(magnitude : Int))
  | _ => none

/-- An integer between inclusive bounds. -/
def Value.integerIn? (low high : Int) (value : Value) : Option Int :=
  value.integer?.filter fun value => low ≤ value && value ≤ high

/-- A natural number below a limit. -/
def Value.naturalBelow? (limit : Nat) (value : Value) : Option Nat :=
  match value with
  | .number (.natural found) => if found < limit then some found else none
  | _ => none

/-- An unsigned integer of 32 bits. -/
def Value.unsigned32? (value : Value) : Option UInt32 :=
  (value.naturalBelow? UInt32.size).map UInt32.ofNat

/-- An unsigned integer of 64 bits. -/
def Value.unsigned64? (value : Value) : Option UInt64 :=
  (value.naturalBelow? UInt64.size).map UInt64.ofNat

/-- A signed integer of 32 bits. -/
def Value.signed32? (value : Value) : Option Int32 :=
  (value.integerIn? Int32.minValue.toInt Int32.maxValue.toInt).map Int32.ofInt

/-- A signed integer of 64 bits. -/
def Value.signed64? (value : Value) : Option Int64 :=
  (value.integerIn? Int64.minValue.toInt Int64.maxValue.toInt).map Int64.ofInt

/-- An array whose items are all of one kind. -/
def Value.list? (item? : Value → Option α) : Value → Option (List α)
  | .array items => items.mapM item?
  | _ => none

/-- A value that may be `null`. -/
def Value.nullable? (inner? : Value → Option α) : Value → Option (Option α)
  | .null => some none
  | value => (inner? value).map some

/-- The first member with a key. -/
def lookup (key : String) (members : List (String × Value)) : Option Value :=
  (members.find? (·.1 == key)).map (·.2)

/-- How often a key occurs. -/
def occurrences (key : String) (members : List (String × Value)) : Nat :=
  (members.filter (·.1 == key)).length

/-- The fields of a structure by their names. -/
structure Fields where
  members : List (String × Value)

/-- The fields of a structure with the given field names in order. -/
def Value.fields? (names : List String) : Value → Option Fields
  | .object members =>
    if names.all fun name => occurrences name members ≤ 1 then some ⟨members⟩ else none
  | .array items =>
    if items.length ≤ names.length then some ⟨names.zip items⟩ else none
  | _ => none

/-- A field that has to be there. -/
def Fields.required? (fields : Fields) (name : String) (inner? : Value → Option α) : Option α :=
  (lookup name fields.members).bind inner?

/-- A field that has a value of its own when it is not there. -/
def Fields.withDefault? (fields : Fields) (name : String) (default : α)
    (inner? : Value → Option α) : Option α :=
  match lookup name fields.members with
  | none => some default
  | some value => inner? value

/-- A field that may be absent or `null`. -/
def Fields.optional? (fields : Fields) (name : String) (inner? : Value → Option α) :
    Option (Option α) :=
  fields.withDefault? name none (Value.nullable? inner?)

/-- An alternative of a choice: its name, and its content if it has one. -/
structure Alternative where
  name : String
  content : Option Value

def Value.alternative? : Value → Option Alternative
  | .text name => some ⟨name, none⟩
  | .object [(name, content)] => some ⟨name, some content⟩
  | _ => none

/-- An alternative without content may still be given `null`. -/
def Alternative.isBare (alternative : Alternative) : Bool :=
  match alternative.content with
  | none => true
  | some .null => true
  | some _ => false

end FacetedQuery.Json
