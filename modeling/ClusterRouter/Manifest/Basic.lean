import ClusterRouter.Document.Editing
import ClusterRouter.Manifest.Kind

/-!
# Managed objects

A manifest is the document of one object of a router with its kind and name. The views of the
kinds read and edit the document itself, mostly lists of entries that have names.
-/

namespace ClusterRouter

structure Manifest where
  kind : Kind
  name : String
  document : Document
deriving Inhabited

namespace Manifest

/-- The kind that a document states. -/
def kindOf? (root : Value) : Option Kind :=
  ((root.field? "kind").bind Value.asString).bind Kind.ofName?

/-- The name that a document states, or the empty one. -/
def nameOf (root : Value) : String :=
  (((root.field? "metadata").bind (Value.field? · "name")).bind Value.asString).getD ""

/-- A document of one of the managed kinds as a manifest. -/
def ofDocument? (document : Document) : Option Manifest :=
  (kindOf? document.root).map fun kind => ⟨kind, nameOf document.root, document⟩

end Manifest

/-- The list at a path, empty where there is none. -/
def listAt (document : Document) (path : String) : List Value :=
  match document.lookup path with
  | .ok (some (.list items)) => items
  | _ => []

/-- The name of an entry. -/
def entryName (entry : Value) : Option String := (entry.field? "name").bind Value.asString

def hasName (name : String) (entry : Value) : Bool := entryName entry == some name

def findNamed? (document : Document) (path name : String) : Option Value :=
  (listAt document path).find? (hasName name)

def placeOfName? (document : Document) (path name : String) : Option Nat :=
  (listAt document path).findIdx? (hasName name)

/-- The text of a path to one item of a list. -/
def itemPath (path : String) (place : Nat) : String :=
  path ++ "[" ++ String.ofList (Text.ofNat place) ++ "]"

/-- Removes the first entry of a name. -/
def removeNamed (path name : String) : Editing Bool := do
  match placeOfName? (← get) path name with
  | some place => Document.remove (itemPath path place)
  | none => pure false

/-- Runs an edit for every item; the outcome is whether one of them changed anything. -/
def editEach {α : Type} (edit : α → Editing Bool) : List α → Editing Bool
  | [] => pure false
  | item :: items => do
    let changed ← edit item
    let later ← editEach edit items
    pure (changed || later)

/-- Sets the protocol of the ports in a list, or of those ports that name none. -/
def setPortProtocol (path protocol : String) (onlyMissing : Bool) : Editing Bool := do
  let ports := (listAt (← get) path).zipIdx
  editEach
    (fun (port, place) =>
      if port.asMap.isNone || onlyMissing && (port.field? "protocol").isSome then pure false
      else Document.put (itemPath path place ++ ".protocol") (.string protocol))
    ports

end ClusterRouter
