import ClusterRouter.Document.Navigation
import ClusterRouter.Path.Parser
import ClusterRouter.Storage.FileSystem
import ClusterRouter.Text.Numeral

/-!
# Documents

A document is a tree of values with the separator of its paths and, possibly, the file that it
belongs to.
-/

namespace ClusterRouter

/-- The encoding of a document in its file. -/
inductive ContentType where
  | yaml
  | json
deriving DecidableEq, Inhabited

namespace ContentType

def parse? (text : String) : Option ContentType :=
  if text = "yaml" ∨ text = "yml" then some .yaml
  else if text = "json" then some .json
  else none

/-- What is said of a text that names no content type. -/
def unknownMessage (text : String) : String := "unknown content type '" ++ text ++ "'"

end ContentType

inductive DocumentError where
  | path (cause : PathError)
  | typeMismatch (text expected actual : String)
  | indexOutOfRange (text : String) (index : Int64) (length : Nat)
  | missingFilename
  | file (name : String) (cause : FileError)
  | yaml
  | json
deriving DecidableEq

def DocumentError.message : DocumentError → String
  | .path cause => cause.message
  | .typeMismatch text expected actual =>
    text ++ ": type mismatch: cannot merge " ++ actual ++ " into " ++ expected
  | .indexOutOfRange text index length =>
    text ++ ": index " ++ String.ofList (Text.ofInt64 index) ++
      " out of range for list of length " ++ String.ofList (Text.ofNat length)
  | .missingFilename => "document has no filename to write to"
  | .file name cause => name ++ ": " ++ cause.message
  | .yaml => "problem with YAML document"
  | .json => "problem with JSON document"

structure Document where
  root : Value
  separator : Separator := .dot
  filename : Option String := none
  contentType : ContentType := .yaml
  backup : Bool := false
deriving Inhabited

namespace Document

/-- A document in memory. A null root becomes an empty map. -/
def ofRoot (root : Value) : Document := { root := if root.isNull then .map [] else root }

def parsePath (document : Document) (text : String) : Except DocumentError Path :=
  (Path.parse text document.separator).mapError .path

/-- The value at a path. -/
def lookup (document : Document) (text : String) : Except DocumentError (Option Value) :=
  (document.parsePath text).map document.root.lookup

end Document

end ClusterRouter
