import ClusterRouter.Decimal.Layout
import ClusterRouter.Value.Basic
import ClusterRouter.Text.Escape
import ClusterRouter.Text.Numeral

/-!
# JSON text of a value

`compact` writes without blanks, `pretty` writes one item or entry a line. Values that are no
finite number are written as null.
-/

namespace ClusterRouter.Json

/-- Numbers from `1e-5` up to `1e16` are positional, a positive exponent has a plus sign. -/
def numberLayout : Decimal.Layout :=
  { least := -5, greatest := 15, positiveMark := "e+"
    nan := "null", infinity := "null", negativeInfinity := "null" }

/-- Quotes, backslashes and control characters are escaped, all else stands for itself. -/
def escapeChar (c : Char) : List Char :=
  match c with
  | '"' => ['\\', '"']
  | '\\' => ['\\', '\\']
  | '\x08' => ['\\', 'b']
  | '\t' => ['\\', 't']
  | '\n' => ['\\', 'n']
  | '\x0c' => ['\\', 'f']
  | '\r' => ['\\', 'r']
  | _ => if c.toNat < 0x20 then '\\' :: 'u' :: Text.hexPadded 4 c.toNat else [c]

def quoted (s : String) : List Char := '"' :: s.toList.flatMap escapeChar ++ ['"']

mutual

def compactChars : Value → List Char
  | .null => ['n', 'u', 'l', 'l']
  | .bool true => ['t', 'r', 'u', 'e']
  | .bool false => ['f', 'a', 'l', 's', 'e']
  | .int i => Text.ofInt64 i
  | .float x => (Decimal.render numberLayout x).toList
  | .string s => quoted s
  | .list [] => ['[', ']']
  | .list (item :: items) => '[' :: compactChars item ++ compactItems items
  | .map [] => ['\x7b', '\x7d']
  | .map ((key, value) :: fields) =>
    '\x7b' :: quoted key ++ ':' :: compactChars value ++ compactFields fields

/-- The items behind the first one, and the closing bracket. -/
def compactItems : List Value → List Char
  | [] => [']']
  | item :: items => ',' :: compactChars item ++ compactItems items

/-- The entries behind the first one, and the closing brace. -/
def compactFields : List (String × Value) → List Char
  | [] => ['\x7d']
  | (key, value) :: fields =>
    ',' :: quoted key ++ ':' :: compactChars value ++ compactFields fields

end

def compact (value : Value) : String := String.ofList (compactChars value)

/-- A new line, indented by two blanks a level. -/
def lineBreak (level : Nat) : List Char := '\n' :: List.replicate (2 * level) ' '

mutual

def prettyChars (level : Nat) : Value → List Char
  | .list [] => ['[', ']']
  | .list (item :: items) =>
    '[' :: lineBreak (level + 1) ++ prettyChars (level + 1) item ++ prettyItems level items
  | .map [] => ['\x7b', '\x7d']
  | .map ((key, value) :: fields) =>
    '\x7b' :: lineBreak (level + 1) ++ quoted key ++ ':' :: ' ' :: prettyChars (level + 1) value ++
      prettyFields level fields
  | scalar => compactChars scalar

/-- The items behind the first one, and the closing bracket on a line of its own. -/
def prettyItems (level : Nat) : List Value → List Char
  | [] => lineBreak level ++ [']']
  | item :: items =>
    ',' :: lineBreak (level + 1) ++ prettyChars (level + 1) item ++ prettyItems level items

/-- The entries behind the first one, and the closing brace on a line of its own. -/
def prettyFields (level : Nat) : List (String × Value) → List Char
  | [] => lineBreak level ++ ['\x7d']
  | (key, value) :: fields =>
    ',' :: lineBreak (level + 1) ++ quoted key ++ ':' :: ' ' :: prettyChars (level + 1) value ++
      prettyFields level fields

end

def pretty (value : Value) : String := String.ofList (prettyChars 0 value)

end ClusterRouter.Json
