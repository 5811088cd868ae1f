/-!
# JSON values

Commands arrive and documents leave as JSON. A number remembers whether it was
written as an integer, because the two kinds are written differently: `5` and
`5.0` are different documents.

An object is a list of fields in the order they are to be written. Objects
that are read are kept sorted by name, each name once, with `Json.assign`.
-/

namespace CommandLink

inductive Number where
  | integer (value : Int)
  | real (value : Float)
  deriving Repr

inductive Json where
  | null
  | boolean (value : Bool)
  | number (value : Number)
  | text (value : String)
  | list (items : List Json)
  | object (fields : List (String × Json))
  deriving Inhabited, Repr

namespace Json

def ofNat (n : Nat) : Json := .number (.integer n)

/-- Give `name` the value `value`, in a list of fields sorted by name. -/
def assign (name : String) (value : Json) : List (String × Json) → List (String × Json)
  | [] => [(name, value)]
  | (other, held) :: rest =>
    if name = other then
      (name, value) :: rest
    else if name < other then
      (name, value) :: (other, held) :: rest
    else
      (other, held) :: assign name value rest

/-- The object with these fields, sorted by name; of two fields with one name
the later one stays. -/
def ofFields (fields : List (String × Json)) : Json :=
  .object (fields.foldl (fun sorted field => assign field.1 field.2 sorted) [])

def field? (name : String) : Json → Option Json
  | .object fields => (fields.find? (·.1 == name)).map (·.2)
  | _ => none

def text? : Json → Option String
  | .text value => some value
  | _ => none

end Json

end CommandLink
