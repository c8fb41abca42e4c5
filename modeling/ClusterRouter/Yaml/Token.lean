import ClusterRouter.Yaml.Scalar
import ClusterRouter.Yaml.Tag

/-!
# Tokens of YAML text

Block structure is told by indentation, so the lexer writes the start and the end of block
collections as tokens of their own. A key of a mapping is known only when the colon behind it is
met: the lexer remembers where it began and puts the key token there afterwards.
-/

namespace ClusterRouter.Yaml

inductive Token where
  | version (major minor : Nat)
  | tagHandle (handle : List Char) (start : List Nat)
  | documentStart
  | documentEnd
  | blockSequenceStart
  | blockMappingStart
  | blockEnd
  | flowSequenceStart
  | flowSequenceEnd
  | flowMappingStart
  | flowMappingEnd
  | blockEntry
  | flowEntry
  | key
  | value
  | alias (name : List Char)
  | anchor (name : List Char)
  | tag (handle : List Char) (rest : List Nat)
  | scalar (text : List Char) (style : ScalarStyle)
  | streamEnd
deriving DecidableEq, Inhabited

/-- The place of a possible key. -/
structure PendingKey where
  /-- Nothing else can stand here. -/
  required : Bool
  /-- How many tokens stand in front of it. -/
  position : Nat
  index : Nat
  line : Nat
  column : Nat

structure Lexer where
  cursor : Cursor
  /-- The tokens so far, the last one first. -/
  tokens : List Token := []
  count : Nat := 0
  /-- The columns of the open block collections, `-1` outside of all. -/
  indent : Int := -1
  outerIndents : List Int := []
  keyAllowed : Bool := true
  /-- The possible key of each open level, the block level last. -/
  pendingKey : Option PendingKey := none
  outerKeys : List (Option PendingKey) := []

namespace Lexer

/-- How many brackets and braces are open. -/
def flowLevel (l : Lexer) : Nat := l.outerKeys.length

def inFlow (l : Lexer) : Bool := !l.outerKeys.isEmpty

def push (l : Lexer) (t : Token) : Lexer :=
  { l with tokens := t :: l.tokens, count := l.count + 1 }

/-- Puts a token behind the first `position` ones. -/
def insertAt (l : Lexer) (position : Nat) (t : Token) : Lexer :=
  let behind := l.count - position
  { l with tokens := l.tokens.take behind ++ t :: l.tokens.drop behind, count := l.count + 1 }

def isStale (cursor : Cursor) (key : PendingKey) : Bool :=
  key.line < cursor.line || key.index + 1024 < cursor.index

/-- A key stays possible for one line and 1024 octets; a required one must not get lost. -/
def dropStale? (cursor : Cursor) : Option PendingKey → Option (Option PendingKey)
  | some key =>
    if isStale cursor key then (if key.required then none else some none) else some (some key)
  | none => some none

def dropStaleKeys? (l : Lexer) : Option Lexer := do
  let pendingKey ← dropStale? l.cursor l.pendingKey
  let outerKeys ← l.outerKeys.mapM (dropStale? l.cursor)
  pure { l with pendingKey, outerKeys }

/-- Gives up the possible key of this level. -/
def dropKey? (l : Lexer) : Option Lexer :=
  if l.pendingKey.any PendingKey.required then none else some { l with pendingKey := none }

/-- Takes the place of the cursor as that of a possible key. -/
def saveKey? (l : Lexer) : Option Lexer :=
  if l.keyAllowed then
    (dropKey? l).map fun l =>
      { l with
        pendingKey := some {
          required := !l.inFlow && l.indent == l.cursor.column
          position := l.count
          index := l.cursor.index
          line := l.cursor.line
          column := l.cursor.column } }
  else some l

/-- Opens a block collection at a column right of the current one; its token goes to `position`. -/
def openBlock (l : Lexer) (column : Nat) (position : Nat) (t : Token) : Lexer :=
  if !l.inFlow && l.indent < column then
    { l with indent := column, outerIndents := l.indent :: l.outerIndents }.insertAt position t
  else l

/-- Closes the block collections that are right of `column`. -/
def closeBlocks (column : Int) : List Int → Lexer → Lexer
  | [], l => l
  | outer :: rest, l =>
    if column < l.indent then
      closeBlocks column rest ({ l with indent := outer, outerIndents := rest }.push .blockEnd)
    else l

def closeTo (l : Lexer) (column : Int) : Lexer :=
  if l.inFlow then l else closeBlocks column l.outerIndents l

/-- Passes blanks, comments and line breaks. Behind a line break of a block a key may begin, and a
tab there is no indentation. -/
def skipToToken : Nat → Lexer → Lexer
  | 0, l => l
  | fuel + 1, l =>
    let cursor := l.cursor
    let cursor :=
      if cursor.column == 0 && cursor.rest.head? == some '\ufeff' then cursor.advance 1 else cursor
    let cursor :=
      cursor.skipWhile fun c => c == ' ' || c == '\t' && (l.inFlow || !l.keyAllowed)
    let cursor := if cursor.rest.head? == some '#' then cursor.skipToBreak else cursor
    match cursor.takeBreak? with
    | some (_, after) =>
      skipToToken fuel { l with cursor := after, keyAllowed := l.keyAllowed || !l.inFlow }
    | none => { l with cursor }

def advance (l : Lexer) (n : Nat) : Lexer := { l with cursor := l.cursor.advance n }

def streamEnd? (l : Lexer) : Option Lexer :=
  (l.closeTo (-1)).dropKey?.map fun l => { l with keyAllowed := false }.push .streamEnd

def documentMarker? (l : Lexer) (t : Token) : Option Lexer :=
  (l.closeTo (-1)).dropKey?.map fun l => ({ l with keyAllowed := false }.advance 3).push t

def flowStart? (l : Lexer) (t : Token) : Option Lexer :=
  l.saveKey?.map fun l =>
    ({ l with
        outerKeys := l.pendingKey :: l.outerKeys
        pendingKey := none
        keyAllowed := true }.advance 1).push t

def flowEnd? (l : Lexer) (t : Token) : Option Lexer :=
  l.dropKey?.map fun l =>
    let l :=
      match l.outerKeys with
      | outer :: rest => { l with pendingKey := outer, outerKeys := rest }
      | [] => l
    ({ l with keyAllowed := false }.advance 1).push t

def flowEntry? (l : Lexer) : Option Lexer :=
  l.dropKey?.map fun l => ({ l with keyAllowed := true }.advance 1).push .flowEntry

def blockEntry? (l : Lexer) : Option Lexer :=
  if !l.inFlow && !l.keyAllowed then none
  else
    (l.openBlock l.cursor.column l.count .blockSequenceStart).dropKey?.map fun l =>
      ({ l with keyAllowed := true }.advance 1).push .blockEntry

/-- A key marked by its indicator. -/
def key? (l : Lexer) : Option Lexer :=
  if !l.inFlow && !l.keyAllowed then none
  else
    (l.openBlock l.cursor.column l.count .blockMappingStart).dropKey?.map fun l =>
      ({ l with keyAllowed := !l.inFlow }.advance 1).push .key

/-- A colon makes a key of the possible key in front of it. -/
def value? (l : Lexer) : Option Lexer :=
  match l.pendingKey with
  | some key =>
    let l := (l.insertAt key.position .key).openBlock key.column key.position .blockMappingStart
    some (({ l with pendingKey := none, keyAllowed := false }.advance 1).push .value)
  | none =>
    if !l.inFlow && !l.keyAllowed then none
    else
      let l := l.openBlock l.cursor.column l.count .blockMappingStart
      some (({ l with keyAllowed := !l.inFlow }.advance 1).push .value)

/-- The characters that may stand behind the name of an anchor. -/
def endsName (rest : List Char) : Bool :=
  blankAhead rest ||
    rest.head?.any fun c => ['?', ':', ',', ']', '\x7d', '%', '@', '\x60'].contains c

def anchor? (l : Lexer) (make : List Char → Token) : Option Lexer := do
  let l ← l.saveKey?
  let l := { l with keyAllowed := false }.advance 1
  let name := l.cursor.rest.takeWhile isWordChar
  let l := l.advance name.length
  if name.isEmpty || !endsName l.cursor.rest then none else pure (l.push (make name))

def isTagChar (verbatim : Bool) (c : Char) : Bool :=
  isWordChar c ||
    [';', '/', '?', ':', '@', '&', '=', '+', '$', '.', '!', '~', '*', '\x27', '(', ')'].contains
      c ||
    verbatim && [',', '[', ']'].contains c

/-- The octet of a percent escape. -/
def takeOctet? : List Char → Option (Nat × List Char)
  | '%' :: a :: b :: rest => (Text.hexNumber? [a, b]).map (·, rest)
  | _ => none

/-- Further octets of one escaped character. -/
def takeTrailingOctets? : Nat → List Char → Option (List Nat × List Char)
  | 0, rest => some ([], rest)
  | n + 1, rest => do
    let (octet, rest) ← takeOctet? rest
    if 0x80 ≤ octet ∧ octet < 0xc0 then
      let (octets, rest) ← takeTrailingOctets? n rest
      pure (octet :: octets, rest)
    else none

/-- The octets of a character that is written as their percent escapes. The first one tells how
many they are. -/
def takeEscapedOctets? (text : List Char) : Option (List Nat × List Char) := do
  let (octet, rest) ← takeOctet? text
  let (octets, rest) ←
    if octet < 0x80 then some ([], rest)
    else if 0xc0 ≤ octet ∧ octet < 0xe0 then takeTrailingOctets? 1 rest
    else if 0xe0 ≤ octet ∧ octet < 0xf0 then takeTrailingOctets? 2 rest
    else if 0xf0 ≤ octet ∧ octet < 0xf8 then takeTrailingOctets? 3 rest
    else none
  pure (octet :: octets, rest)

/-- The octets of a tag. -/
def takeTagOctets? (verbatim : Bool) : Nat → List Char → Option (List Nat × List Char)
  | 0, _ => none
  | _ + 1, [] => some ([], [])
  | fuel + 1, c :: rest =>
    if c == '%' then do
      let (meant, rest) ← takeEscapedOctets? (c :: rest)
      let (octets, rest) ← takeTagOctets? verbatim fuel rest
      pure (meant ++ octets, rest)
    else if isTagChar verbatim c then do
      let (octets, rest) ← takeTagOctets? verbatim fuel rest
      pure (c.toNat :: octets, rest)
    else some ([], c :: rest)

/-- A part of a tag behind the text in `start`, with one octet at least. It ends in front of a
zero. -/
def takeTagPart? (verbatim : Bool) (start : List Char) (cursor : Cursor) :
    Option (List Nat × Cursor) := do
  let (octets, rest) ← takeTagOctets? verbatim (cursor.rest.length + 1) cursor.rest
  if start.isEmpty && octets.isEmpty then none
  else
    pure (((start.drop 1).map Char.toNat ++ octets).takeWhile (· ≠ 0),
      cursor.advance (cursor.rest.length - rest.length))

/-- An exclamation mark, the word behind it and another mark, as far as they are there. -/
def takeHandle? (cursor : Cursor) : Option (List Char × Cursor) :=
  match cursor.rest with
  | '!' :: rest =>
    let word := rest.takeWhile isWordChar
    let handle :=
      if (rest.drop word.length).head? == some '!' then '!' :: word ++ ['!'] else '!' :: word
    some (handle, cursor.advance handle.length)
  | _ => none

/-- A tag's handle and its remainder. -/
def takeTag? (cursor : Cursor) : Option (List Char × List Nat × Cursor) := do
  if (cursor.rest.drop 1).head? == some '<' then
    let (rest, cursor) ← takeTagPart? true [] (cursor.advance 2)
    if cursor.rest.head? == some '>' then pure ([], rest, cursor.advance 1) else none
  else
    let (handle, cursor) ← takeHandle? cursor
    if 1 < handle.length && handle.getLast? == some '!' then
      let (rest, cursor) ← takeTagPart? false [] cursor
      pure (handle, rest, cursor)
    else
      let (rest, cursor) ← takeTagPart? false handle cursor
      if rest.isEmpty then pure ([], [Tag.markOctet], cursor) else pure (['!'], rest, cursor)

def tag? (l : Lexer) : Option Lexer := do
  let l ← l.saveKey?
  let (handle, rest, cursor) ← takeTag? l.cursor
  if blankAhead cursor.rest || l.inFlow && cursor.rest.head? == some ',' then
    pure ({ l with keyAllowed := false, cursor }.push (.tag handle rest))
  else none

/-- A number of a version, nine digits at most. -/
def takeVersionNumber? (cursor : Cursor) : Option (Nat × Cursor) :=
  let digits := cursor.rest.takeWhile Char.isDigit
  if digits.isEmpty || 9 < digits.length then none
  else some (digits.foldl (fun n c => n * 10 + (c.toNat - 48)) 0, cursor.advance digits.length)

def takeVersion? (cursor : Cursor) : Option (Token × Cursor) := do
  let (major, cursor) ← takeVersionNumber? cursor.skipBlanks
  if cursor.rest.head? == some '.' then
    let (minor, cursor) ← takeVersionNumber? (cursor.advance 1)
    pure (.version major minor, cursor)
  else none

/-- The handle that a directive declares ends in an exclamation mark. -/
def takeTagDirective? (cursor : Cursor) : Option (Token × Cursor) := do
  let (handle, cursor) ← takeHandle? cursor.skipBlanks
  if handle.getLast? == some '!' && cursor.rest.head?.any isBlank then
    let (start, cursor) ← takeTagPart? true [] cursor.skipBlanks
    if blankAhead cursor.rest then pure (.tagHandle handle start, cursor) else none
  else none

def directive? (l : Lexer) : Option Lexer := do
  let l ← (l.closeTo (-1)).dropKey?
  let cursor := l.cursor.advance 1
  let name := cursor.rest.takeWhile isWordChar
  let cursor := cursor.advance name.length
  let (t, cursor) ←
    if !blankAhead cursor.rest then none
    else if name == ['Y', 'A', 'M', 'L'] then takeVersion? cursor
    else if name == ['T', 'A', 'G'] then takeTagDirective? cursor
    else none
  let cursor := cursor.skipBlanks
  let cursor := if cursor.rest.head? == some '#' then cursor.skipToBreak else cursor
  if breakAhead cursor.rest then
    pure ({ l with keyAllowed := false, cursor := cursor.skipBreak }.push t)
  else none

def blockScalar? (l : Lexer) (style : ScalarStyle) : Option Lexer := do
  let l ← l.dropKey?
  let (text, cursor) ← takeBlock? (style == .literal) l.indent (l.cursor.advance 1)
  pure ({ l with keyAllowed := true, cursor }.push (.scalar text style))

def quotedScalar? (l : Lexer) (style : ScalarStyle) : Option Lexer := do
  let l ← l.saveKey?
  let cursor := l.cursor.advance 1
  let (text, cursor) ← takeQuoted? (style == .doubleQuoted) (cursor.rest.length + 1) cursor
  pure ({ l with keyAllowed := false, cursor }.push (.scalar text style))

/-- Behind a plain scalar that ran over a line break a key may begin. -/
def plainScalar? (l : Lexer) : Option Lexer := do
  let l ← l.saveKey?
  let (text, broken, cursor) ←
    takePlain? l.inFlow (l.indent + 1) (l.cursor.rest.length + 1) l.cursor {}
  pure ({ l with keyAllowed := broken, cursor }.push (.scalar text .plain))

/-- The characters that never begin a plain scalar by themselves. -/
def indicators : List Char :=
  ['-', '?', ':', ',', '[', ']', '\x7b', '\x7d', '#', '&', '*', '!', '|', '>', '\x27', '"', '%',
    '@', '\x60']

def startsPlain (flow : Bool) (c : Char) (rest : List Char) : Bool :=
  !(isBlank c || isBreak c || indicators.contains c) ||
    c == '-' && !rest.head?.any isBlank ||
    !flow && (c == '?' || c == ':') && !blankAhead rest

/-- The token that begins with `c`. -/
def dispatch? (l : Lexer) (c : Char) (rest : List Char) : Option Lexer :=
  let blockOrBlank := l.inFlow || blankAhead rest
  if l.cursor.column == 0 && c == '%' then l.directive?
  else if l.cursor.atMarker '-' then l.documentMarker? .documentStart
  else if l.cursor.atMarker '.' then l.documentMarker? .documentEnd
  else if c == '[' then l.flowStart? .flowSequenceStart
  else if c == '\x7b' then l.flowStart? .flowMappingStart
  else if c == ']' then l.flowEnd? .flowSequenceEnd
  else if c == '\x7d' then l.flowEnd? .flowMappingEnd
  else if c == ',' then l.flowEntry?
  else if c == '-' && blankAhead rest then l.blockEntry?
  else if c == '?' && blockOrBlank then l.key?
  else if c == ':' && blockOrBlank then l.value?
  else if c == '*' then l.anchor? .alias
  else if c == '&' then l.anchor? .anchor
  else if c == '!' then l.tag?
  else if c == '|' && !l.inFlow then l.blockScalar? .literal
  else if c == '>' && !l.inFlow then l.blockScalar? .folded
  else if c == '\x27' then l.quotedScalar? .singleQuoted
  else if c == '"' then l.quotedScalar? .doubleQuoted
  else if startsPlain l.inFlow c rest then l.plainScalar?
  else none

/-- Reads tokens up to the end of the text. -/
def run? : Nat → Lexer → Option Lexer
  | 0, _ => none
  | fuel + 1, l => do
    let l ← (skipToToken (l.cursor.rest.length + 1) l).dropStaleKeys?
    let l := l.closeTo l.cursor.column
    match l.cursor.rest with
    | [] => l.streamEnd?
    | c :: rest => run? fuel (← l.dispatch? c rest)

end Lexer

/-- The tokens of a text, the last one being the end of the stream. -/
def Token.ofText? (text : String) : Option (List Token) :=
  let chars := text.toList
  if chars.all isAllowed then
    (Lexer.run? (chars.length + 1) { cursor := .start chars }).map fun l => l.tokens.reverse
  else none

end ClusterRouter.Yaml
