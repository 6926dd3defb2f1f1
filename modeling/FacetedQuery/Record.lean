import FacetedQuery.Json.Value

/-!
# Records

Result objects.  A property holds one value or several distinct ones in the order of their
arrival; nested records with the same id are merged.  `RecordValue.same` decides equality.
-/

namespace FacetedQuery

mutual

/-- A value of a property: the lexical value of a term, or a nested record. -/
inductive RecordValue where
  | term (text : String)
  | record (content : Record)

/-- A property with its first value and the further ones. -/
inductive Property where
  | of (name : String) (first : RecordValue) (others : List RecordValue)

/-- Properties in the order in which they were first given. -/
inductive Record where
  | of (properties : List Property)

end

mutual

def RecordValue.same : RecordValue → RecordValue → Bool
  | .term left, .term right => left == right
  | .record left, .record right => left.same right
  | .term _, .record _ => false
  | .record _, .term _ => false

def sameValues : List RecordValue → List RecordValue → Bool
  | [], [] => true
  | left :: lefts, right :: rights => left.same right && sameValues lefts rights
  | [], _ :: _ => false
  | _ :: _, [] => false

def Property.same : Property → Property → Bool
  | .of name first others, .of name' first' others' =>
    name == name' && first.same first' && sameValues others others'

def sameProperties : List Property → List Property → Bool
  | [], [] => true
  | left :: lefts, right :: rights => left.same right && sameProperties lefts rights
  | [], _ :: _ => false
  | _ :: _, [] => false

def Record.same : Record → Record → Bool
  | .of left, .of right => sameProperties left right

end

mutual

theorem RecordValue.same_iff : (left right : RecordValue) → (left.same right = true ↔ left = right)
  | .term left, .term right => by simp [RecordValue.same]
  | .record left, .record right => by simp [RecordValue.same, Record.same_iff left right]
  | .term _, .record _ => by simp [RecordValue.same]
  | .record _, .term _ => by simp [RecordValue.same]

theorem sameValues_iff :
    (left right : List RecordValue) → (sameValues left right = true ↔ left = right)
  | [], [] => by simp [sameValues]
  | left :: lefts, right :: rights => by
    simp [sameValues, RecordValue.same_iff left right, sameValues_iff lefts rights]
  | [], _ :: _ => by simp [sameValues]
  | _ :: _, [] => by simp [sameValues]

theorem Property.same_iff : (left right : Property) → (left.same right = true ↔ left = right)
  | .of name first others, .of name' first' others' => by
    simp [Property.same, RecordValue.same_iff first first', sameValues_iff others others',
      and_assoc]

theorem sameProperties_iff :
    (left right : List Property) → (sameProperties left right = true ↔ left = right)
  | [], [] => by simp [sameProperties]
  | left :: lefts, right :: rights => by
    simp [sameProperties, Property.same_iff left right, sameProperties_iff lefts rights]
  | [], _ :: _ => by simp [sameProperties]
  | _ :: _, [] => by simp [sameProperties]

theorem Record.same_iff : (left right : Record) → (left.same right = true ↔ left = right)
  | .of left, .of right => by simp [Record.same, sameProperties_iff left right]

end

instance : DecidableEq RecordValue := fun left right =>
  decidable_of_iff _ (RecordValue.same_iff left right)

instance : DecidableEq Property := fun left right =>
  decidable_of_iff _ (Property.same_iff left right)

instance : DecidableEq Record := fun left right =>
  decidable_of_iff _ (Record.same_iff left right)

namespace RecordValue

def term? : RecordValue → Option String
  | .term text => some text
  | .record _ => none

def record? : RecordValue → Option Record
  | .term _ => none
  | .record content => some content

end RecordValue

namespace Property

def name : Property → String
  | .of name _ _ => name

/-- The values of a property in order. -/
def values : Property → List RecordValue
  | .of _ first others => first :: others

end Property

namespace Record

def empty : Record :=
  .of []

def properties : Record → List Property
  | .of properties => properties

def size (record : Record) : Nat :=
  record.properties.length

def isEmpty (record : Record) : Bool :=
  record.properties.isEmpty

def keys (record : Record) : List String :=
  record.properties.map Property.name

/-- The property with a name. -/
def get? (record : Record) (name : String) : Option Property :=
  record.properties.find? (·.name == name)

/-- The id of a record: the only value of its property `id`, if that is a term. -/
def id? (record : Record) : Option String :=
  match record.get? "id" with
  | some (.of _ (.term text) []) => some text
  | _ => none

/-- Whether a value is a record with an id. -/
def holdsId (id : String) (value : RecordValue) : Bool :=
  match value with
  | .term _ => false
  | .record content => content.id? == some id

/-- Changes the first record with an id. -/
def joinFirst (id : String) (join : Record → Record) : List RecordValue → List RecordValue
  | [] => []
  | .record content :: rest =>
    if content.id? == some id then .record (join content) :: rest
    else .record content :: joinFirst id join rest
  | .term text :: rest => .term text :: joinFirst id join rest

/-- The values of a property after one more arrived.  A record joins the one that has its id. -/
def arrive (value : RecordValue) (join : Record → Record) (values : List RecordValue) :
    List RecordValue :=
  let append := if values.contains value then values else values ++ [value]
  match value with
  | .term _ => append
  | .record content =>
    match content.id? with
    | none => append
    | some id => if values.any (holdsId id) then joinFirst id join values else append

/-- A property of a list of values, which keeps its first value if there is no other. -/
def withValues (name : String) (first : RecordValue) : List RecordValue → Property
  | [] => .of name first []
  | head :: tail => .of name head tail

/-- The properties after one more value arrived for a name. -/
def place (name : String) (value : RecordValue) (join : Record → Record) :
    List Property → List Property
  | [] => [.of name value []]
  | .of found first others :: rest =>
    if found == name then withValues found first (arrive value join (first :: others)) :: rest
    else .of found first others :: place name value join rest

mutual

/-- Adds a value to a property.  Distinct values accumulate, and a nested record is merged into the
one with the same id. -/
def push (record : Record) (name : String) : RecordValue → Record
  | .term text => .of (place name (.term text) (fun content => content) record.properties)
  | .record incoming =>
    .of (place name (.record incoming) (fun content => merge content incoming) record.properties)
termination_by structural value => value

/-- Adds values to a property. -/
def pushAll (record : Record) (name : String) : List RecordValue → Record
  | [] => record
  | value :: values => pushAll (push record name value) name values
termination_by structural values => values

def mergeProperty (record : Record) : Property → Record
  | .of name first others => pushAll (push record name first) name others
termination_by structural property => property

def mergeProperties (record : Record) : List Property → Record
  | [] => record
  | property :: rest => mergeProperties (mergeProperty record property) rest
termination_by structural properties => properties

/-- Adds every value of another record. -/
def merge (record : Record) : Record → Record
  | .of properties => mergeProperties record properties
termination_by structural other => other

end

/-- The record that holds an id and nothing else. -/
def withId (id : String) : Record :=
  empty.push "id" (.term id)

end Record

mutual

def RecordValue.toJson : RecordValue → Json.Value
  | .term text => .text text
  | .record content => content.toJson

def jsonOfValues : List RecordValue → List Json.Value
  | [] => []
  | value :: values => value.toJson :: jsonOfValues values

/-- A single value stands for itself, several ones as an array. -/
def Property.toJson : Property → Json.Value
  | .of _ first [] => first.toJson
  | .of _ first (second :: others) =>
    .array (first.toJson :: second.toJson :: jsonOfValues others)

def jsonOfProperties : List Property → List (String × Json.Value)
  | [] => []
  | .of name first others :: rest =>
    (name, (Property.of name first others).toJson) :: jsonOfProperties rest

def Record.toJson : Record → Json.Value
  | .of properties => .object (jsonOfProperties properties)

end

end FacetedQuery
