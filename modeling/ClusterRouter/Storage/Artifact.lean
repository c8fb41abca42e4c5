import ClusterRouter.Document.Basic
import ClusterRouter.Storage.FileSystem
import ClusterRouter.Text.Quoted
import ClusterRouter.Yaml.Printer

/-!
# Temporary files

An artifact is a file that commands read and that is gone afterwards. Its name consists of a
beginning, a token and an ending. One token serves for a whole run, as the artifacts that exist at
the same time differ in their beginnings.

Making an artifact can fail twice: its file may be refused, and its contents may find no room. What
the system says to either is a part of the place. The text of a document is not in the way, as every
value can be rendered.
-/

namespace ClusterRouter

structure Artifact where
  path : String
  contents : ByteArray

/-- Where artifacts are put, the token of their names, and what the system says to their files.
Unless told otherwise, the place is an empty directory with room for everything. -/
structure ArtifactPlace where
  directory : String
  token : String
  /-- Why no file can be made under a name: nothing may be made in the directory, it is missing, or
  the name leads away from it. -/
  obstacle? : String → Option FileError := (FileSystem.ofDirectory directory).refusal?
  /-- Why the contents of a file cannot be written. -/
  shortage? : Artifact → Option FileError := fun _ => none

inductive ArtifactError where
  | notCreated (path : String) (cause : FileError)
  | notRead (source : String) (cause : FileError)
  | notWritten (path : String) (cause : FileError)
deriving DecidableEq

namespace ArtifactError

/-- What the system said. Of temporary files it tells the name. -/
def reason : ArtifactError → String
  | .notCreated path cause | .notWritten path cause =>
    cause.message ++ " at path " ++ Text.quotedName path
  | .notRead _ cause => cause.message

def message (e : ArtifactError) : String :=
  match e with
  | .notCreated .. => "cannot create temporary file: " ++ e.reason
  | .notRead source _ => "cannot read " ++ source ++ ": " ++ e.reason
  | .notWritten path _ => "cannot write " ++ path ++ ": " ++ e.reason

end ArtifactError

namespace ArtifactPlace

/-- A beginning that is an absolute name leads away from the place. -/
def artifact (place : ArtifactPlace) (beginning ending : String) (contents : ByteArray) :
    Artifact :=
  let name := beginning ++ place.token ++ ending
  ⟨if isAbsolute name then name else place.directory ++ "/" ++ name, contents⟩

/-- Makes the file of an artifact, where nothing has its name, and writes its contents. -/
def create (place : ArtifactPlace) (artifact : Artifact) : Except ArtifactError Artifact :=
  match place.obstacle? artifact.path with
  | some cause => .error (.notCreated artifact.path cause)
  | none =>
    match place.shortage? artifact with
    | some cause => .error (.notWritten artifact.path cause)
    | none => .ok artifact

/-- A document in YAML. -/
def ofDocument (place : ArtifactPlace) (beginning : String) (document : Document) : Artifact :=
  place.artifact beginning ".yml" (Yaml.render document.root).toUTF8

/-- The contents of a file that an artifact is made from. -/
def readSource (files : FileSystem) (source : String) : Except ArtifactError ByteArray :=
  (files.readBytes source).mapError (.notRead source)

def copyOf (place : ArtifactPlace) (files : FileSystem) (beginning source : String) :
    Except ArtifactError Artifact := do
  place.create (place.artifact beginning "" (← readSource files source))

/-- The contents of several files, one behind the other. -/
def concat (place : ArtifactPlace) (files : FileSystem) (beginning ending : String)
    (sources : List String) : Except ArtifactError Artifact := do
  let parts ← sources.mapM (readSource files)
  place.create (place.artifact beginning ending (parts.foldl (· ++ ·) ByteArray.empty))

end ArtifactPlace

end ClusterRouter
