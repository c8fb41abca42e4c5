import ClusterRouter.Yaml.Cursor
import ClusterRouter.Yaml.Style
import ClusterRouter.Text.Escape

/-!
# Scalars in YAML text

Each reader takes the text of one scalar off a cursor that stands on its first character. Inside a
scalar a single line break reads as a blank and further ones stay, except in literal blocks, which
keep every line.
-/

namespace ClusterRouter.Yaml

/-- The end of a plain scalar inside brackets or braces. -/
def isFlowIndicator (c : Char) : Bool :=
  c == ',' || c == '[' || c == ']' || c == '\x7b' || c == '\x7d'

/-- The plain characters in front of a text. Inside brackets a colon in front of an indicator is
refused. -/
def plainRun? (flow : Bool) : List Char → Option (List Char)
  | [] => some []
  | c :: rest =>
    if isBlank c || isBreak c then some []
    else if flow && c == ':' && rest.head?.any (fun d => isFlowIndicator d || d == '?') then none
    else if c == ':' && blankAhead rest || flow && isFlowIndicator c then some []
    else (plainRun? flow rest).map (c :: ·)

/-- A plain scalar goes on over lines that are indented to `indent` at least. The answer tells
whether it ended behind a line break. -/
def takePlain? (flow : Bool) (indent : Int) :
    Nat → Cursor → Gap → Option (List Char × Bool × Cursor)
  | 0, _, _ => none
  | fuel + 1, cursor, gap =>
    if cursor.atDocumentMarker || cursor.rest.head? == some '#' then some ([], gap.broken, cursor)
    else do
      let run ← plainRun? flow cursor.rest
      let (text, gap) := if run.isEmpty then ([], gap) else (gap.text ++ run, {})
      let cursor := cursor.advance run.length
      if cursor.rest.isEmpty || !blankAhead cursor.rest then pure (text, gap.broken, cursor)
      else
        let (gap, cursor) ← takeGap? (some indent) (cursor.rest.length + 1) cursor gap
        if !flow && (cursor.column : Int) < indent then pure (text, gap.broken, cursor)
        else
          let (more, broken, cursor) ← takePlain? flow indent fuel cursor gap
          pure (text ++ more, broken, cursor)

/-- The characters that an escape of one character stands for. -/
def shortEscape? : Char → Option Char
  | '0' => some '\x00'
  | 'a' => some '\x07'
  | 'b' => some '\x08'
  | 't' => some '\t'
  | '\t' => some '\t'
  | 'n' => some '\n'
  | 'v' => some '\x0b'
  | 'f' => some '\x0c'
  | 'r' => some '\r'
  | 'e' => some '\x1b'
  | ' ' => some ' '
  | '"' => some '"'
  | '/' => some '/'
  | '\\' => some '\\'
  | 'N' => some '\u0085'
  | '_' => some '\u00a0'
  | 'L' => some '\u2028'
  | 'P' => some '\u2029'
  | _ => none

/-- How many hexadecimal digits follow the mark of a numeric escape. -/
def escapeWidth? : Char → Option Nat
  | 'x' => some 2
  | 'u' => some 4
  | 'U' => some 8
  | _ => none

/-- The character of an escape, behind the backslash, and how long the escape is. -/
def escapedChar? : List Char → Option (Char × Nat)
  | [] => none
  | c :: rest =>
    match shortEscape? c, escapeWidth? c with
    | some meant, _ => some (meant, 1)
    | none, some width =>
      if rest.length < width then none
      else do
        let code ← Text.hexNumber? (rest.take width)
        let meant ← Text.charOf? code
        pure (meant, width + 1)
    | none, none => none

/-- The characters of a quoted scalar up to the next blank, break or closing quote. The flag tells
that the run ended at an escaped line break. -/
def takeQuotedRun? (double : Bool) : Nat → Cursor → Option (List Char × Bool × Cursor)
  | 0, _ => none
  | fuel + 1, cursor =>
    let andThen (c : Char) (width : Nat) : Option (List Char × Bool × Cursor) :=
      (takeQuotedRun? double fuel (cursor.advance width)).map fun (cs, more) => (c :: cs, more)
    match cursor.rest with
    | [] => some ([], false, cursor)
    | c :: rest =>
      if isBlank c || isBreak c then some ([], false, cursor)
      else if !double && c == '\x27' then
        if rest.head? == some '\x27' then andThen c 2 else some ([], false, cursor)
      else if double && c == '"' then some ([], false, cursor)
      else if double && c == '\\' then
        if rest.head?.any isBreak then some ([], true, (cursor.advance 1).skipBreak)
        else
          match escapedChar? rest with
          | some (meant, width) => andThen meant (width + 1)
          | none => none
      else andThen c 1

/-- A quoted scalar behind its opening quote. A document mark at the start of a line is refused. -/
def takeQuoted? (double : Bool) : Nat → Cursor → Option (List Char × Cursor)
  | 0, _ => none
  | fuel + 1, cursor =>
    if cursor.atDocumentMarker || cursor.rest.isEmpty then none
    else do
      let (run, escapedBreak, cursor) ← takeQuotedRun? double (cursor.rest.length + 1) cursor
      if cursor.rest.head? == some (if double then '"' else '\x27') then
        pure (run, cursor.advance 1)
      else
        let (gap, cursor) ←
          takeGap? none (cursor.rest.length + 1) cursor { broken := escapedBreak }
        let (more, cursor) ← takeQuoted? double fuel cursor
        pure (run ++ gap.text ++ more, cursor)

/-- What becomes of the line breaks at the end of a block. -/
inductive Chomping where
  | strip
  | clip
  | keep
deriving DecidableEq

def chompingMark? : Char → Option Chomping
  | '+' => some .keep
  | '-' => some .strip
  | _ => none

/-- An indentation digit; zero is refused. -/
def indentDigit? (c : Char) : Option Nat := if c.isDigit then some (c.toNat - 48) else none

/-- The header of a block scalar: chomping and indentation in either order. -/
def takeHeader? (cursor : Cursor) : Option (Chomping × Option Nat × Cursor) :=
  let digitAt (c : Cursor) : Option Nat := c.rest.head?.bind indentDigit?
  let markAt (c : Cursor) : Option Chomping := c.rest.head?.bind chompingMark?
  match markAt cursor with
  | some chomping =>
    let next := cursor.advance 1
    match digitAt next with
    | some 0 => none
    | some digit => some (chomping, some digit, next.advance 1)
    | none => some (chomping, none, next)
  | none =>
    match digitAt cursor with
    | some 0 => none
    | some digit =>
      let next := cursor.advance 1
      match markAt next with
      | some chomping => some (chomping, some digit, next.advance 1)
      | none => some (.clip, some digit, next)
    | none => some (.clip, none, cursor)

/-- Passes blank lines of a block. While the indentation is not known, the widest of them is
remembered. -/
def takeBlockBreaks? (indent : Option Nat) :
    Nat → Cursor → Nat → List Char → Option (Nat × List Char × Cursor)
  | 0, _, _, _ => none
  | fuel + 1, cursor, widest, breaks =>
    let margin :=
      match indent with
      | none => (cursor.rest.takeWhile (· == ' ')).length
      | some n => min (cursor.rest.takeWhile (· == ' ')).length (n - cursor.column)
    let cursor := cursor.advance margin
    let widest := max widest cursor.column
    if indent.all (fun n => cursor.column < n) && cursor.rest.head? == some '\t' then none
    else
      match cursor.takeBreak? with
      | some (kept, after) => takeBlockBreaks? indent fuel after widest (breaks ++ [kept])
      | none => some (widest, breaks, cursor)

/-- The lines of a block, given its indentation: the text, the break behind it and the blank lines
behind that one. -/
def takeBlockLines? (literal : Bool) (indent : Nat) :
    Nat → Cursor → List Char → List Char → Bool →
      Option (List Char × List Char × List Char × Cursor)
  | 0, _, _, _, _ => none
  | fuel + 1, cursor, leading, trailing, leadingBlank =>
    if cursor.column ≠ indent ∨ cursor.rest.isEmpty then some ([], leading, trailing, cursor)
    else do
      let startsBlank := cursor.rest.head?.any isBlank
      let joint :=
        if !literal && leading == ['\n'] && !leadingBlank && !startsBlank then
          (if trailing.isEmpty then [' '] else trailing)
        else leading ++ trailing
      let line := cursor.rest.takeWhile fun c => !isBreak c
      let cursor := cursor.advance line.length
      let (leading, cursor) :=
        match cursor.takeBreak? with
        | some (kept, after) => ([kept], after)
        | none => ([], cursor)
      let (_, trailing, cursor) ←
        takeBlockBreaks? (some indent) (cursor.rest.length + 1) cursor 0 []
      let (more, ending) ← takeBlockLines? literal indent fuel cursor leading trailing startsBlank
      pure (joint ++ line ++ more, ending)

/-- A block scalar behind its indicator, inside a block indented to `parent`. -/
def takeBlock? (literal : Bool) (parent : Int) (cursor : Cursor) :
    Option (List Char × Cursor) := do
  let (chomping, digit, cursor) ← takeHeader? cursor
  let cursor := cursor.skipBlanks
  let cursor := if cursor.rest.head? == some '#' then cursor.skipToBreak else cursor
  if !breakAhead cursor.rest then none
  else
    let cursor := cursor.skipBreak
    let stated := digit.map fun n => (max parent 0).toNat + n
    let (widest, trailing, cursor) ←
      takeBlockBreaks? stated (cursor.rest.length + 1) cursor 0 []
    let indent := stated.getD (max widest (max (parent + 1) 1).toNat)
    let (text, leading, trailing, cursor) ←
      takeBlockLines? literal indent (cursor.rest.length + 1) cursor [] trailing false
    let kept :=
      match chomping with
      | .strip => []
      | .clip => leading
      | .keep => leading ++ trailing
    pure (text ++ kept, cursor)

end ClusterRouter.Yaml
