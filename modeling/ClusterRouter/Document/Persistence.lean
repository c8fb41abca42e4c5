import ClusterRouter.Document.Basic
import ClusterRouter.Json.Decoder
import ClusterRouter.Json.Printer
import ClusterRouter.Text.Blank
import ClusterRouter.Yaml.Decoder
import ClusterRouter.Yaml.Printer

/-!
# Documents in files

A document is written beside its file first and then moved over it, so that the file holds either
its old contents or all of the new ones.
-/

namespace ClusterRouter.Document

def decode (contentType : ContentType) (text : String) : Except DocumentError Value :=
  match contentType with
  | .yaml => (Yaml.decode? text).elim (.error .yaml) .ok
  | .json => (Json.decode? text).elim (.error .json) .ok

def ofText (contentType : ContentType) (text : String) : Except DocumentError Document :=
  (decode contentType text).map ofRoot

/-- The document of a file. A missing or blank file holds an empty map. -/
def openFile (files : FileSystem) (name : String) (contentType : ContentType) :
    Except DocumentError Document := do
  let root ←
    match files.readText name with
    | .ok text => if Text.isBlank text then .ok .null else decode contentType text
    | .error .notFound => .ok .null
    | .error e => .error (.file name e)
  pure { ofRoot root with filename := some name, contentType }

/-- The text of a document in its own encoding. -/
def serialize (document : Document) : String :=
  match document.contentType with
  | .yaml => Yaml.render document.root
  | .json => Json.pretty document.root

/-- Changes to the file system, of which those before a failure stay. -/
abbrev Storing := EStateM DocumentError FileSystem

/-- One change to the file of a name. -/
def attempt (name : String) (change : FileSystem → Except FileError FileSystem) :
    Storing Unit := do
  match change (← get) with
  | .ok files => set files
  | .error e => throw (.file name e)

/-- Writes a document to its file, with a copy of the old contents if one is wanted. -/
def write (document : Document) : Storing Unit := do
  match document.filename with
  | none => throw .missingFilename
  | some name =>
    if document.backup && (← get).contains name then
      let copied := name ++ ".orig"
      attempt copied fun files => files.copy name copied
    let draft := name ++ ".yedit"
    attempt draft fun files => files.write draft document.serialize.toUTF8
    attempt name fun files => files.rename draft name

end ClusterRouter.Document
