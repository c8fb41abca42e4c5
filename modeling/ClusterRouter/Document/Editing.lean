import ClusterRouter.Document.Basic
import ClusterRouter.Value.Equality

/-!
# Editing documents

An edit tells whether it changed the document. One that fails leaves the document as it was before
the step that failed, and what earlier steps did stays.
-/

namespace ClusterRouter

/-- A run of edits on one document. -/
abbrev Editing := EStateM DocumentError Document

namespace Document

def target (text : String) : Editing Path := do
  match (← get).parsePath text with
  | .ok path => pure path
  | .error e => throw e

/-- Takes over a new root; without one nothing changes. -/
def replaceRoot : Option Value → Editing Bool
  | some root => do
    modify fun document => { document with root }
    pure true
  | none => pure false

def putAt (path : Path) (value : Value) : Editing Bool := do
  let root := (← get).root
  if root.lookup path == some value then pure false
  else replaceRoot (root.create? path value)

/-- Sets the value at a path, creating maps on the way. Nothing changes where an equal value is
there already or the path cannot be created. -/
def put (text : String) (value : Value) : Editing Bool := do
  putAt (← target text) value

/-- Like `put`, but only as long as the document's file does not exist. -/
def create (files : FileSystem) (text : String) (value : Value) : Editing Bool := do
  if (← get).filename.any files.contains then pure false else put text value

/-- Removes the entry at a path. The root path empties the document. -/
def remove (text : String) : Editing Bool := do
  let path ← target text
  let root := (← get).root
  match path.getLast? with
  | none => replaceRoot root.clear?
  | some last => replaceRoot (root.modify? (Value.removeStep? · last) path.dropLast)

/-- Removes what an entry names: a key of a map, or the first equal item of a list. -/
def popFrom (wanted : Value) : Value → Option Value
  | .map fields => wanted.asString.bind fun key => Value.removeStep? (.map fields) (.key key)
  | .list items => (positionOf? items wanted).map fun place => .list (items.eraseIdx place)
  | _ => none

def pop (text : String) (wanted : Value) : Editing Bool := do
  let path ← target text
  replaceRoot ((← get).root.modify? (popFrom wanted) path)

def pushTo (item : Value) : Value → Option Value
  | .list items => some (.list (items ++ [item]))
  | _ => none

/-- Adds an item at the end of the list at a path. Where nothing or null is there, an empty list is
put first. -/
def append (text : String) (item : Value) : Editing Bool := do
  let path ← target text
  match (← get).root.lookup path with
  | none | some .null => discard (putAt path (.list []))
  | some _ => pure ()
  replaceRoot ((← get).root.modify? (pushTo item) path)

/-- The place of the item to be replaced, if one is asked for: that of an item equal to `current`,
else the one `index` leads to. -/
inductive Replacement where
  | noneWanted
  | notThere
  | outOfRange (index : Int64)
  | at (place : Nat)

def Replacement.of (items : List Value) (index : Option Int64) (current : Option Value) :
    Replacement :=
  match current, index with
  | some wanted, _ => (positionOf? items wanted).elim .notThere .at
  | none, some i => (resolveIndex i items.length).elim (.outOfRange i) .at
  | none, none => .noneWanted

/-- Adds an item unless an equal one is there. -/
def ensure (items : List Value) (value : Value) : Option Value :=
  if items.contains value then none else some (.list (items ++ [value]))

/-- A list with `value` in the place that is asked for, or else somewhere. -/
def updatedList (items : List Value) (value : Value) (place : Option Nat) : Option Value :=
  match place with
  | some place =>
    if items[place]?.all (· == value) then ensure items value
    else some (.list (items.set place value))
  | none => ensure items value

/-- What an update makes of the value it meets; `none` where that stays. -/
def updated (text : String) (value : Value) (index : Option Int64) (current : Option Value) :
    Value → Except DocumentError (Option Value)
  | .map fields =>
    match value with
    | .map incoming => .ok (some (.map (Fields.merge fields incoming)))
    | other => .error (.typeMismatch text "map" other.typeName)
  | .list items =>
    match Replacement.of items index current with
    | .noneWanted => .ok (updatedList items value none)
    | .notThere => .ok none
    | .outOfRange i => .error (.indexOutOfRange text i items.length)
    | .at place => .ok (updatedList items value (some place))
  | _ => .ok none

/-- Makes sure that a value is present: a map is merged into the map at the path, and a list at the
path gets the value in place of one of its items or as a further item. -/
def update (text : String) (value : Value) (index : Option Int64) (current : Option Value) :
    Editing Bool := do
  let path ← target text
  let root := (← get).root
  match root.lookup path with
  | none => pure false
  | some entry =>
    match updated text value index current entry with
    | .error e => throw e
    | .ok none => pure false
    | .ok (some changed) => replaceRoot (root.modify? (fun _ => some changed) path)

/-- A map has every entry of a wanted map or a wanted key, a list has an equal item, and anything
else is equal itself. -/
def includes (entry value : Value) : Bool :=
  match entry with
  | .list items => items.contains value
  | .map fields =>
    match value with
    | .map wanted => wanted.all fun (key, v) => Fields.get? fields key == some v
    | .string key => Fields.contains fields key
    | _ => false
  | scalar => scalar == value

/-- The value is present at a path. -/
def contains (document : Document) (text : String) (value : Value) : Except DocumentError Bool :=
  (document.lookup text).map fun found => found.any (includes · value)

end Document

end ClusterRouter
