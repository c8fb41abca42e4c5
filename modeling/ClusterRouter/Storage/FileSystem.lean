import ClusterRouter.Storage.FileName

/-!
# Files

A file system is what its names lead to. Names are read from the working directory unless they
start with a slash; every step of a name but the last must lead to a directory. Every file has one
place: there are no links, so two places never hold one and the same file. An operation that fails
leaves all files as they are.
-/

namespace ClusterRouter

inductive FileError where
  | notFound
  | notADirectory
  | isADirectory
  | notAFile
  | notUtf8
  | nulInName
  | nameTooLong
  | busy
  | denied
  | noSpace
deriving DecidableEq

def FileError.message : FileError → String
  | .notFound => "No such file or directory (os error 2)"
  | .notADirectory => "Not a directory (os error 20)"
  | .isADirectory => "Is a directory (os error 21)"
  | .notAFile => "the source path is neither a regular file nor a symlink to a regular file"
  | .notUtf8 => "stream did not contain valid UTF-8"
  | .nulInName => "file name contained an unexpected NUL byte"
  | .nameTooLong => "File name too long (os error 36)"
  | .busy => "Device or resource busy (os error 16)"
  | .denied => "Permission denied (os error 13)"
  | .noSpace => "No space left on device (os error 28)"

inductive Entry where
  | file (contents : ByteArray)
  | directory

def Entry.isDirectory : Entry → Bool
  | .directory => true
  | .file _ => false

/-- The steps from the root to an entry. -/
abbrev Location := List (List Char)

/-- A tree of files. Different places hold different files, as no entry is a hard or symbolic link
to another one. -/
structure FileSystem where
  entries : List (Location × Entry)
  workingDirectory : Location

/-- The files of a directory that is empty, as far as they are known. -/
def FileSystem.ofDirectory (name : String) : FileSystem :=
  let steps := (splitName name.toList).filter (! ·.isEmpty)
  ⟨(List.range steps.length).map fun n => (steps.take (n + 1), .directory), steps⟩

namespace FileSystem

def entry? (files : FileSystem) (location : Location) : Option Entry :=
  if location = [] then some .directory else files.entries.lookup location

def insert (files : FileSystem) (location : Location) (entry : Entry) : FileSystem :=
  { files with entries := (location, entry) :: files.entries.filter (·.1 ≠ location) }

def erase (files : FileSystem) (location : Location) : FileSystem :=
  { files with entries := files.entries.filter (·.1 ≠ location) }

/-- Goes on from a location, which must be a directory before each step. -/
def walk (files : FileSystem) : Location → List (List Char) → Except FileError Location
  | location, [] => .ok location
  | location, step :: steps =>
    match files.entry? location with
    | none => .error .notFound
    | some (.file _) => .error .notADirectory
    | some .directory =>
      if step = [] ∨ step = ['.'] then walk files location steps
      else if step = ['.', '.'] then walk files location.dropLast steps
      else if isTooLong step then .error .nameTooLong
      else walk files (location ++ [step]) steps

/-- The place where the way of a name starts. -/
def origin (files : FileSystem) (name : String) : Except FileError Location :=
  if name.toList.contains '\x00' then .error .nulInName
  else if name.isEmpty then .error .notFound
  else if nameLimit ≤ name.utf8ByteSize then .error .nameTooLong
  else .ok (if isAbsolute name then [] else files.workingDirectory)

/-- The place that a name leads to; nothing need be there yet. -/
def locate (files : FileSystem) (name : String) : Except FileError Location :=
  (files.origin name).bind fun start => files.walk start (splitName name.toList)

/-- The directory in which the last step of a name is taken. -/
def locateParent (files : FileSystem) (name : String) : Except FileError Location :=
  (files.origin name).bind fun start => files.walk start (parentSteps name ++ [[]])

def find? (files : FileSystem) (name : String) : Except FileError (Option Entry) :=
  (files.locate name).bind fun location =>
    match files.entry? location with
    | some (.file _) =>
      if namesDirectory name then .error .notADirectory else .ok (files.entry? location)
    | found => .ok found

def contains (files : FileSystem) (name : String) : Bool :=
  match files.find? name with
  | .ok (some _) => true
  | _ => false

def readBytes (files : FileSystem) (name : String) : Except FileError ByteArray :=
  (files.find? name).bind fun
    | none => .error .notFound
    | some .directory => .error .isADirectory
    | some (.file contents) => .ok contents

def readText (files : FileSystem) (name : String) : Except FileError String :=
  (files.readBytes name).bind fun contents =>
    (String.fromUTF8? contents).elim (.error .notUtf8) .ok

/-- Creates a file or replaces its contents. -/
def write (files : FileSystem) (name : String) (contents : ByteArray) :
    Except FileError FileSystem :=
  if namesDirectory name then (files.locateParent name).bind fun _ => .error .isADirectory
  else
    (files.locate name).bind fun location =>
      if (files.entry? location).any Entry.isDirectory then .error .isADirectory
      else .ok (files.insert location (.file contents))

/-- Why no file can be written under a name. -/
def refusal? (files : FileSystem) (name : String) : Option FileError :=
  match files.write name ByteArray.empty with
  | .ok _ => none
  | .error cause => some cause

def copy (files : FileSystem) (source target : String) : Except FileError FileSystem :=
  (files.find? source).bind fun
    | none => .error .notFound
    | some .directory => .error .notAFile
    | some (.file contents) => files.write target contents

/-- Moves a file, in place of what file was at the target. -/
def rename (files : FileSystem) (source target : String) : Except FileError FileSystem :=
  (files.readBytes source).bind fun contents =>
    (files.locate source).bind fun start =>
      (files.locateParent target).bind fun _ =>
        if staysAround target then .error .busy
        else if namesDirectory target then .error .notADirectory
        else
          (files.locate target).bind fun location =>
            if (files.entry? location).any Entry.isDirectory then .error .isADirectory
            else .ok ((files.erase start).insert location (.file contents))

end FileSystem

end ClusterRouter
