import ClusterRouter.Path.Basic
import ClusterRouter.Value.Basic

/-!
# Going down a tree of values

Keys lead into maps and indices into lists. `lookup` only looks, `modify?` changes what is there,
and `create?` makes the maps that are missing on the way.
-/

namespace ClusterRouter.Value

/-- The value at a path, if every step leads somewhere. -/
def lookup : Value → Path → Option Value
  | value, [] => some value
  | .map fields, .key name :: path => (Fields.get? fields name).bind (lookup · path)
  | .list items, .index i :: path =>
    (resolveIndex i items.length).bind fun place => items[place]?.bind (lookup · path)
  | _, _ :: _ => none

/-- Changes the value at a path by `f`, which may refuse. -/
def modify? (f : Value → Option Value) : Value → Path → Option Value
  | value, [] => f value
  | .map fields, .key name :: path =>
    (Fields.get? fields name).bind fun entry =>
      (modify? f entry path).map fun changed => .map (Fields.insert fields name changed)
  | .list items, .index i :: path =>
    (resolveIndex i items.length).bind fun place =>
      items[place]?.bind fun item =>
        (modify? f item path).map fun changed => .list (items.set place changed)
  | _, _ :: _ => none

/-- What a key leads to when a path is being created: a missing or null entry counts as an empty
map. -/
def entryOrMap (fields : Fields) (name : String) : Value :=
  match Fields.get? fields name with
  | none | some .null => .map []
  | some entry => entry

/-- Puts `item` at a path. Lists never grow, and nothing leads through a scalar. -/
def create? : Value → Path → Value → Option Value
  | _, [], item => some item
  | .map fields, .key name :: path, item =>
    ((entryOrMap fields name).create? path item).map fun entry =>
      .map (Fields.insert fields name entry)
  | .list items, .index i :: path, item =>
    (resolveIndex i items.length).bind fun place =>
      items[place]?.bind fun old =>
        (old.create? path item).map fun changed => .list (items.set place changed)
  | _, _ :: _, _ => none

/-- Removes the entry or the item that one step leads to. -/
def removeStep? : Value → Segment → Option Value
  | .map fields, .key name =>
    if Fields.contains fields name then some (.map (Fields.erase fields name)) else none
  | .list items, .index i =>
    (resolveIndex i items.length).map fun place => .list (items.eraseIdx place)
  | _, _ => none

/-- Removes all that a container holds. -/
def clear? : Value → Option Value
  | .map _ => some (.map [])
  | .list _ => some (.list [])
  | _ => none

end ClusterRouter.Value
