import ClusterRouter.Text.Numeral

/-!
# Paths into a document

A path is a list of steps, each by key into a map or by position into a list. A position counts
from the end where it is negative. `Path.display` writes a path with a separator that none of its
keys contains, if there is one.
-/

namespace ClusterRouter

/-- The character that stands between the steps of a path. The ones that are not in use are
characters of keys. -/
inductive Separator where
  | dot
  | hash
  | pipe
  | colon
deriving DecidableEq, Inhabited

inductive PathError where
  | invalid (path : String) (separator : Separator)
  | unsupportedSeparator (c : Char)
deriving DecidableEq

namespace Separator

def all : List Separator := [.dot, .hash, .pipe, .colon]

def char : Separator → Char
  | .dot => '.'
  | .hash => '#'
  | .pipe => '|'
  | .colon => ':'

def ofChar? (c : Char) : Option Separator := all.find? fun separator => separator.char = c

/-- A separator is written as one character. -/
def parse (text : String) : Except PathError Separator :=
  match text.toList with
  | [c] => (ofChar? c).elim (.error (.unsupportedSeparator c)) .ok
  | c :: _ => .error (.unsupportedSeparator c)
  | [] => .error (.unsupportedSeparator ' ')

end Separator

def PathError.message : PathError → String
  | .invalid path separator =>
    "invalid path '" ++ path ++ "' for separator '" ++ separator.char.toString ++ "'"
  | .unsupportedSeparator c =>
    "unsupported path separator '" ++ c.toString ++ "', expected one of . # | :"

/-- One step of a path. -/
inductive Segment where
  | key (name : String)
  | index (position : Int64)
deriving DecidableEq, Inhabited

abbrev Path := List Segment

/-- The place in a list of `length` items that an index means. -/
def resolveIndex (index : Int64) (length : Nat) : Option Nat :=
  if (length : Int) ≤ Int64.maxValue.toInt then
    let place := if index < 0 then Int64.ofNat length + index else index
    if 0 ≤ place ∧ place < Int64.ofNat length then some place.toInt.toNat else none
  else none

namespace Segment

def resolve? : Segment → Nat → Option Nat
  | .index position, length => resolveIndex position length
  | .key _, _ => none

def display : Segment → List Char
  | .key name => name.toList
  | .index position => '[' :: Text.ofInt64 position ++ [']']

/-- The separator does not occur in a key. -/
def avoids (separator : Separator) : Segment → Bool
  | .key name => !name.toList.contains separator.char
  | .index _ => true

end Segment

namespace Path

/-- The first separator that occurs in none of the keys. -/
def displaySeparator (path : Path) : Separator :=
  (Separator.all.find? fun separator => path.all (Segment.avoids separator)).getD .dot

/-- The steps behind the first one: keys follow a separator, brackets do not. -/
def displayRest (separator : Separator) : Path → List Char
  | [] => []
  | .key name :: rest => separator.char :: name.toList ++ displayRest separator rest
  | segment :: rest => segment.display ++ displayRest separator rest

def displayWith (separator : Separator) : Path → List Char
  | [] => []
  | segment :: rest => segment.display ++ displayRest separator rest

def display (path : Path) : String := String.ofList (displayWith path.displaySeparator path)

end Path

end ClusterRouter
