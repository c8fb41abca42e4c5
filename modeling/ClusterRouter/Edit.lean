import ClusterRouter.Document.Editing

/-!
# Edits as data

An edit names one operation on a document with all its arguments.
-/

namespace ClusterRouter

inductive EditAction where
  | put
  | update
  | append
deriving DecidableEq, Inhabited

def EditAction.name : EditAction → String
  | .put => "put"
  | .update => "update"
  | .append => "append"

def EditAction.ofName? (text : String) : Option EditAction :=
  [EditAction.put, .update, .append].find? fun action => action.name = text

structure Edit where
  action : EditAction
  key : String
  value : Value := .null
  index : Option Int64 := none
  current : Option Value := none
deriving Inhabited

namespace Edit

def apply (edit : Edit) : Editing Bool :=
  match edit.action with
  | .put => Document.put edit.key edit.value
  | .update => Document.update edit.key edit.value edit.index edit.current
  | .append => Document.append edit.key edit.value

/-- The fields of an edit, those of arguments that are not given left out. -/
def toValue (edit : Edit) : Value :=
  .map ([("action", .string edit.action.name), ("key", .string edit.key), ("value", edit.value)] ++
    (edit.index.map fun i => ("index", .int i)).toList ++
    (edit.current.map fun v => ("curr_value", v)).toList)

/-- Two edits are equal when their arguments are. -/
def equal (a b : Edit) : Bool :=
  a.action == b.action && a.key == b.key && a.value == b.value && a.index == b.index &&
    a.current == b.current

/-- An edit without index and current value. -/
def plain (action : EditAction) (key : String) (value : Value) : Edit := { action, key, value }

end Edit

end ClusterRouter
