import ClusterRouter.Json.Number
import ClusterRouter.Text.Escape

/-!
# JSON text as a value

The reader takes the content of one value off the front of a text and gives the rest. Containers may
nest as deep as a limit says. What kind of value the content is comes after that, for a whole text.
Of repeated keys the last entry stays.
-/

namespace ClusterRouter.Json

def isBlank (c : Char) : Bool := c = ' ' || c = '\t' || c = '\n' || c = '\r'

def skipBlanks (text : List Char) : List Char := text.dropWhile isBlank

/-- The nesting of containers that is read. -/
def nestingLimit : Nat := 127

/-- The four hexadecimal digits of an escape. -/
def takeUnit? : List Char → Option (Nat × List Char)
  | a :: b :: c :: d :: rest => (Text.hexNumber? [a, b, c, d]).map (·, rest)
  | _ => none

/-- A character written by its number: a surrogate stands only in front of its partner. -/
def takeEscapedUnit? (text : List Char) : Option (Char × List Char) := do
  let (unit, rest) ← takeUnit? text
  if 0xd800 ≤ unit ∧ unit < 0xdc00 then
    match rest with
    | '\\' :: 'u' :: more =>
      let (low, after) ← takeUnit? more
      if 0xdc00 ≤ low ∧ low < 0xe000 then
        let c ← Text.charOf? (0x10000 + (unit - 0xd800) * 0x400 + (low - 0xdc00))
        pure (c, after)
      else none
    | _ => none
  else
    let c ← Text.charOf? unit
    pure (c, rest)

/-- The character behind a backslash. -/
def takeEscape? : List Char → Option (Char × List Char)
  | '"' :: rest => some ('"', rest)
  | '\\' :: rest => some ('\\', rest)
  | '/' :: rest => some ('/', rest)
  | 'b' :: rest => some ('\x08', rest)
  | 'f' :: rest => some ('\x0c', rest)
  | 'n' :: rest => some ('\n', rest)
  | 'r' :: rest => some ('\r', rest)
  | 't' :: rest => some ('\t', rest)
  | 'u' :: rest => takeEscapedUnit? rest
  | _ => none

/-- The characters of a string up to its closing quote. Control characters must be escaped. -/
def takeCharacters? : Nat → List Char → Option (List Char × List Char)
  | 0, _ => none
  | _ + 1, [] => none
  | _ + 1, '"' :: rest => some ([], rest)
  | fuel + 1, '\\' :: rest => do
    let (c, afterEscape) ← takeEscape? rest
    let (cs, after) ← takeCharacters? fuel afterEscape
    pure (c :: cs, after)
  | fuel + 1, c :: rest =>
    if c.toNat < 0x20 then none
    else do
      let (cs, after) ← takeCharacters? fuel rest
      pure (c :: cs, after)

/-- The text of a string behind its opening quote. -/
def takeString? (text : List Char) : Option (String × List Char) :=
  (takeCharacters? (text.length + 1) text).map fun (cs, rest) => (String.ofList cs, rest)

/-- The rest of a text that starts with `word`. -/
def dropWord? : List Char → List Char → Option (List Char)
  | [], text => some text
  | c :: word, d :: text => if c = d then dropWord? word text else none
  | _ :: _, [] => none

mutual

/-- The content at the front of a text, with `depth` more levels of containers allowed. -/
def takeContent? : Nat → Nat → List Char → Option (Content × List Char)
  | 0, _, _ => none
  | fuel + 1, depth, text =>
    match skipBlanks text with
    | '"' :: rest => (takeString? rest).map fun (s, after) => (.string s, after)
    | '[' :: rest =>
      match depth with
      | 0 => none
      | depth + 1 =>
        match skipBlanks rest with
        | ']' :: after => some (.sequence [], after)
        | _ => (takeItems? fuel depth rest).map fun (items, after) => (.sequence items, after)
    | '\x7b' :: rest =>
      match depth with
      | 0 => none
      | depth + 1 =>
        match skipBlanks rest with
        | '\x7d' :: after => some (.mapping [], after)
        | _ =>
          (takeEntries? fuel depth rest).map fun (entries, after) => (.mapping entries, after)
    | 'n' :: rest => (dropWord? ['u', 'l', 'l'] rest).map (.unit, ·)
    | 't' :: rest => (dropWord? ['r', 'u', 'e'] rest).map (.bool true, ·)
    | 'f' :: rest => (dropWord? ['a', 'l', 's', 'e'] rest).map (.bool false, ·)
    | other => do
      let (numeral, after) ← takeNumeral? other
      let content ← numeral.toContent?
      pure (content, after)

/-- The items of a list up to its closing bracket. -/
def takeItems? : Nat → Nat → List Char → Option (List Content × List Char)
  | 0, _, _ => none
  | fuel + 1, depth, text => do
    let (item, rest) ← takeContent? fuel depth text
    match skipBlanks rest with
    | ']' :: after => pure ([item], after)
    | ',' :: more =>
      let (items, after) ← takeItems? fuel depth more
      pure (item :: items, after)
    | _ => none

/-- The entries of a map up to its closing brace. -/
def takeEntries? : Nat → Nat → List Char → Option (List (String × Content) × List Char)
  | 0, _, _ => none
  | fuel + 1, depth, text =>
    match skipBlanks text with
    | '"' :: keyText => do
      let (key, afterKey) ← takeString? keyText
      match skipBlanks afterKey with
      | ':' :: valueText =>
        let (content, rest) ← takeContent? fuel depth valueText
        match skipBlanks rest with
        | '\x7d' :: after => pure ([(key, content)], after)
        | ',' :: more =>
          let (entries, after) ← takeEntries? fuel depth more
          pure ((key, content) :: entries, after)
        | _ => none
      | _ => none
    | _ => none

end

/-- The value of a whole text, with containers nested at most `limit` deep. Each step of the
reader that calls another one takes at most two steps for one character, so the length bounds
them. -/
def decodeWithin? (limit : Nat) (text : String) : Option Value :=
  let chars := text.toList
  match takeContent? (2 * chars.length + 2) limit chars with
  | some (content, rest) => if (skipBlanks rest).isEmpty then content.toValue? else none
  | none => none

def decode? (text : String) : Option Value := decodeWithin? nestingLimit text

end ClusterRouter.Json
