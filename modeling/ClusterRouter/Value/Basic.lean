import ClusterRouter.Binary64.Basic

/-!
# Document values

A document is a tree of values. The fields of a map stand in strictly ascending order of their
keys; `Fields.insert` and `Fields.erase` keep that order, so a map has one representation.
-/

namespace ClusterRouter

inductive Value where
  | null
  | bool (b : Bool)
  | int (i : Int64)
  | float (x : Binary64)
  | string (s : String)
  | list (items : List Value)
  | map (fields : List (String × Value))
deriving Inhabited

abbrev Fields := List (String × Value)

namespace Fields

def get? : Fields → String → Option Value
  | [], _ => none
  | (k, v) :: rest, key => if k = key then some v else get? rest key

def contains (fields : Fields) (key : String) : Bool := (get? fields key).isSome

/-- Overwrites the entry of `key`, or puts a new one in front of the first greater key. -/
def insert : Fields → String → Value → Fields
  | [], key, value => [(key, value)]
  | (k, v) :: rest, key, value =>
    if k = key then (key, value) :: rest
    else if key < k then (key, value) :: (k, v) :: rest
    else (k, v) :: insert rest key value

def erase : Fields → String → Fields
  | [], _ => []
  | (k, v) :: rest, key => if k = key then rest else (k, v) :: erase rest key

def keys (fields : Fields) : List String := fields.map Prod.fst

/-- Every entry of `incoming` overwrites the entry of the same key. -/
def merge (fields incoming : Fields) : Fields :=
  incoming.foldl (fun fields entry => insert fields entry.1 entry.2) fields

/-- Of entries with one key the last one stays. -/
def ofList (entries : List (String × Value)) : Fields := merge [] entries

end Fields

namespace Value

/-- The kinds of values, as error messages name them. -/
def typeName : Value → String
  | .null => "null"
  | .bool _ => "boolean"
  | .int _ => "int"
  | .float _ => "float"
  | .string _ => "string"
  | .list _ => "list"
  | .map _ => "map"

def isNull : Value → Bool
  | .null => true
  | _ => false

def isContainer : Value → Bool
  | .list _ | .map _ => true
  | _ => false

def asBool : Value → Option Bool
  | .bool b => some b
  | _ => none

def asInt : Value → Option Int64
  | .int i => some i
  | _ => none

def asString : Value → Option String
  | .string s => some s
  | _ => none

def asList : Value → Option (List Value)
  | .list items => some items
  | _ => none

def asMap : Value → Option Fields
  | .map fields => some fields
  | _ => none

/-- The entry of `key` when the value is a map. -/
def field? (value : Value) (key : String) : Option Value :=
  value.asMap.bind (Fields.get? · key)

def ofFields (entries : List (String × Value)) : Value := .map (Fields.ofList entries)

end Value

end ClusterRouter
