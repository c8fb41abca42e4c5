/-!
# Positions in YAML text

A cursor is the rest of a text with the place where it starts. A carriage return with the line feed
behind it is one line break.
-/

namespace ClusterRouter.Yaml

/-- The characters that a text may hold. -/
def isAllowed (c : Char) : Bool :=
  let n := c.toNat
  n == 0x09 || n == 0x0a || n == 0x0d || 0x20 ≤ n && n ≤ 0x7e || n == 0x85 ||
    0xa0 ≤ n && n ≤ 0xd7ff || 0xe000 ≤ n && n ≤ 0xfffd || 0x10000 ≤ n

def isBlank (c : Char) : Bool := c == ' ' || c == '\t'

def isBreak (c : Char) : Bool :=
  c == '\r' || c == '\n' || c == '\u0085' || c == '\u2028' || c == '\u2029'

/-- The characters of anchor names and tag handles. -/
def isWordChar (c : Char) : Bool := c.isAlphanum || c == '_' || c == '-'

/-- A blank, a line break or the end of the text comes first. -/
def blankAhead : List Char → Bool
  | [] => true
  | c :: _ => isBlank c || isBreak c

/-- A line break or the end of the text comes first. -/
def breakAhead : List Char → Bool
  | [] => true
  | c :: _ => isBreak c

/-- How many octets a text has in UTF-8. -/
def octets (cs : List Char) : Nat := cs.foldr (fun c n => c.utf8Size + n) 0

structure Cursor where
  rest : List Char
  /-- How many octets have been passed. -/
  index : Nat
  line : Nat
  column : Nat

namespace Cursor

def start (text : List Char) : Cursor := ⟨text, 0, 0, 0⟩

/-- Passes `n` characters of the line. -/
def advance (c : Cursor) (n : Nat) : Cursor :=
  { c with
    rest := c.rest.drop n
    index := c.index + octets (c.rest.take n)
    column := c.column + n }

/-- Passes the characters in front that satisfy `p`, none of which is a line break. -/
def skipWhile (c : Cursor) (p : Char → Bool) : Cursor :=
  c.advance (c.rest.takeWhile p).length

def skipBlanks (c : Cursor) : Cursor := c.skipWhile isBlank

/-- Passes the rest of the line, its break left out. -/
def skipToBreak (c : Cursor) : Cursor := c.skipWhile fun ch => !isBreak ch

/-- Passes a line break, giving the character that it counts as. -/
def takeBreak? (c : Cursor) : Option (Char × Cursor) :=
  match c.rest with
  | '\r' :: '\n' :: rest => some ('\n', ⟨rest, c.index + 2, c.line + 1, 0⟩)
  | ch :: rest =>
    if isBreak ch then
      let kept := if ch == '\u2028' || ch == '\u2029' then ch else '\n'
      some (kept, ⟨rest, c.index + ch.utf8Size, c.line + 1, 0⟩)
    else none
  | [] => none

/-- Passes a line break if there is one. -/
def skipBreak (c : Cursor) : Cursor :=
  match c.takeBreak? with
  | some (_, after) => after
  | none => c

/-- A line starts with three equal marks that stand alone. -/
def atMarker (c : Cursor) (mark : Char) : Bool :=
  c.column == 0 &&
    match c.rest with
    | a :: b :: d :: rest => a == mark && b == mark && d == mark && blankAhead rest
    | _ => false

/-- A line starts with the mark of a document's start or end. -/
def atDocumentMarker (c : Cursor) : Bool := c.atMarker '-' || c.atMarker '.'

end Cursor

/-- Line breaks inside a scalar: one becomes a blank, of several all but the first stay. -/
def foldBreaks (first others : List Char) : List Char :=
  if first == ['\n'] then (if others.isEmpty then [' '] else others) else first ++ others

/-- Blanks and line breaks met inside a scalar, before it is known whether it goes on. -/
structure Gap where
  /-- Blanks on the line of the last character. -/
  blanks : List Char := []
  /-- A line has ended. -/
  broken : Bool := false
  first : List Char := []
  others : List Char := []

/-- What a gap contributes to the text of a scalar. -/
def Gap.text (gap : Gap) : List Char :=
  if gap.broken then foldBreaks gap.first gap.others else gap.blanks

/-- Passes blanks and line breaks. Where `tabLimit` is given, a tab left of that column on a later
line is refused. -/
def takeGap? (tabLimit : Option Int) : Nat → Cursor → Gap → Option (Gap × Cursor)
  | 0, _, _ => none
  | fuel + 1, cursor, gap =>
    match cursor.rest with
    | c :: _ =>
      if isBlank c then
        if gap.broken then
          if c == '\t' && tabLimit.any (fun limit => (cursor.column : Int) < limit) then none
          else takeGap? tabLimit fuel (cursor.advance 1) gap
        else takeGap? tabLimit fuel (cursor.advance 1) { gap with blanks := gap.blanks ++ [c] }
      else
        match cursor.takeBreak? with
        | some (kept, after) =>
          if gap.broken then
            takeGap? tabLimit fuel after { gap with others := gap.others ++ [kept] }
          else
            takeGap? tabLimit fuel after
              { gap with blanks := [], broken := true, first := [kept] }
        | none => some (gap, cursor)
    | [] => some (gap, cursor)

end ClusterRouter.Yaml
