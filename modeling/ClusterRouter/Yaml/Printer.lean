import ClusterRouter.Decimal.Layout
import ClusterRouter.Yaml.Cursor
import ClusterRouter.Yaml.Plain
import ClusterRouter.Yaml.Style
import ClusterRouter.Text.Numeral

/-!
# YAML text of a value

Collections are written in block style, empty ones as brackets or braces. A string is plain where
its text reads back as that string, quoted where it would read back as something else, and a
literal block where it has more than one line.
-/

namespace ClusterRouter.Yaml

/-- Numbers from `1e-5` up to `1e16` are positional; an exponent has no plus sign. -/
def numberLayout : Decimal.Layout :=
  { least := -5, greatest := 15, positiveMark := "e"
    nan := ".nan", infinity := ".inf", negativeInfinity := "-.inf" }

/-- The characters that are written as they are. -/
def isPrintable (c : Char) : Bool :=
  let n := c.toNat
  n == 0x0a || 0x20 ≤ n && n ≤ 0x7e ||
    0xa0 ≤ n && n != 0xfeff && n != 0xfffe && n != 0xffff

/-- What the characters of a text allow. -/
structure Traits where
  multiline : Bool
  plainAllowed : Bool
  singleAllowed : Bool
  blockAllowed : Bool

/-- A character somewhere in a text that would be read as structure, given its neighbours. -/
def isStructural (first : Bool) (before : Option Char) (c : Char) (after : List Char) : Bool :=
  if first then
    ['#', ',', '[', ']', '\x7b', '\x7d', '&', '*', '!', '|', '>', '\x27', '"', '%', '@',
      '\x60'].contains c ||
    (c == '?' || c == ':' || c == '-') && blankAhead after
  else
    c == ':' && blankAhead after ||
    c == '#' && before.any fun b => isBlank b || isBreak b

def hasStructure : Bool → Option Char → List Char → Bool
  | _, _, [] => false
  | first, before, c :: rest =>
    isStructural first before c rest || hasStructure false (some c) rest

/-- Two neighbours of which the first satisfies `p` and the second `q`. -/
def hasPair (p q : Char → Bool) : List Char → Bool
  | a :: b :: rest => p a && q b || hasPair p q (b :: rest)
  | _ => false

def isSpace (c : Char) : Bool := c == ' '

def Traits.ofText (text : List Char) : Traits :=
  match text with
  | [] => ⟨false, true, true, false⟩
  | head :: _ =>
    let last := text.getLastD head
    let special := text.any fun c => !isPrintable c
    let spaceBreak := hasPair isSpace isBreak text
    let breakSpace := hasPair isBreak isSpace text
    let multiline := text.any isBreak
    let marker := text.take 3 == ['-', '-', '-'] || text.take 3 == ['.', '.', '.']
    let quotable := !special && !spaceBreak
    { multiline
      plainAllowed := quotable && !multiline && !isSpace head && !isSpace last && !marker &&
        !hasStructure true none text
      singleAllowed := quotable && !breakSpace
      blockAllowed := quotable && !isSpace last }

/-- The style of a string: as a plain scalar it must read back as a string. -/
def wantedStyle (s : String) : ScalarStyle :=
  if s.toList.contains '\n' then .literal
  else if Plain.ofText s == .text && !Plain.isPadded s.toList then .plain
  else .singleQuoted

/-- The style that is used in place of the wanted one where the text does not allow that one. -/
def allowedStyle (traits : Traits) (simpleKey : Bool) (wanted : ScalarStyle) : ScalarStyle :=
  let style := if simpleKey && traits.multiline then .doubleQuoted else wanted
  let style := if style = .plain ∧ !traits.plainAllowed then .singleQuoted else style
  let style := if style = .singleQuoted ∧ !traits.singleAllowed then .doubleQuoted else style
  if style = .literal ∧ (!traits.blockAllowed || simpleKey) then .doubleQuoted else style

/-- Text under construction, with what is known of its last line. -/
structure Page where
  /-- The characters so far, the last one first. -/
  written : List Char := []
  column : Nat := 0
  /-- The last character separates what comes next. -/
  spaced : Bool := true
  /-- The line holds indentation and indicators alone. -/
  indented : Bool := true

namespace Page

def put (p : Page) (c : Char) : Page :=
  { p with written := c :: p.written, column := p.column + 1 }

def putAll (p : Page) (cs : List Char) : Page := cs.foldl put p

def newLine (p : Page) (c : Char) : Page := { p with written := c :: p.written, column := 0 }

def padTo (p : Page) (column : Nat) : Page :=
  p.putAll (List.replicate (column - p.column) ' ')

/-- Goes to a column, on a new line unless this one leads there. -/
def indentTo (p : Page) (column : Nat) : Page :=
  let p :=
    if !p.indented || column < p.column || p.column == column && !p.spaced then p.newLine '\n'
    else p
  { p.padTo column with spaced := true, indented := true }

/-- Writes an indicator, apart from what stands in front of it where `apart` says so. -/
def indicator (p : Page) (mark : List Char) (apart spaced indented : Bool) : Page :=
  let p := if apart && !p.spaced then p.put ' ' else p
  { p.putAll mark with spaced, indented := p.indented && indented }

def plain (p : Page) (text : List Char) : Page :=
  let p := if !p.spaced && !text.isEmpty then p.put ' ' else p
  { p.putAll text with spaced := false, indented := false }

/-- The body of a text over lines: breaks stand as they are, and the next character goes to the
given column. -/
def lines (column : Nat) (expand : Char → List Char) : List Char → Bool → Page → Page × Bool
  | [], broken, p => (p, broken)
  | c :: rest, broken, p =>
    if isBreak c then lines column expand rest true { p.newLine c with indented := true }
    else
      let p := if broken then p.indentTo column else p
      lines column expand rest false { p.putAll (expand c) with indented := false }

def singleQuoted (p : Page) (column : Nat) (text : List Char) : Page :=
  let double (c : Char) : List Char := if c == '\x27' then [c, c] else [c]
  let (p, broken) := lines column double text false (p.indicator ['\x27'] true false false)
  let p := if broken then p.indentTo column else p
  { p.indicator ['\x27'] false false false with spaced := false, indented := false }

/-- The letter of a short escape. -/
def escapeLetter? (c : Char) : Option Char :=
  match c with
  | '\x00' => some '0'
  | '\x07' => some 'a'
  | '\x08' => some 'b'
  | '\t' => some 't'
  | '\n' => some 'n'
  | '\x0b' => some 'v'
  | '\x0c' => some 'f'
  | '\r' => some 'r'
  | '\x1b' => some 'e'
  | '"' => some '"'
  | '\\' => some '\\'
  | '\u0085' => some 'N'
  | '\u00a0' => some '_'
  | '\u2028' => some 'L'
  | '\u2029' => some 'P'
  | _ => none

def escape (c : Char) : List Char :=
  if isPrintable c && !isBreak c && c != '"' && c != '\\' then [c]
  else
    match escapeLetter? c with
    | some letter => ['\\', letter]
    | none =>
      let numeric (mark : Char) (width : Nat) : List Char :=
        '\\' :: mark :: (Text.hexPadded width c.toNat).map Char.toUpper
      if c.toNat ≤ 0xff then numeric 'x' 2
      else if c.toNat ≤ 0xffff then numeric 'u' 4
      else numeric 'U' 8

def doubleQuoted (p : Page) (text : List Char) : Page :=
  let p := p.indicator ['"'] true false false
  let p := p.putAll (text.flatMap escape)
  { p.indicator ['"'] false false false with spaced := false, indented := false }

/-- The header of a literal block tells its indentation where the text begins blank, and whether
the breaks at its end are kept or absent. -/
def literalHeader (text : List Char) : List Char :=
  let hint := if text.head?.any fun c => isSpace c || isBreak c then ['2'] else []
  let chomping :=
    match text.reverse with
    | [] => ['-']
    | [c] => if isBreak c then ['+'] else ['-']
    | c :: d :: _ => if !isBreak c then ['-'] else if isBreak d then ['+'] else []
  '|' :: hint ++ chomping

def literal (p : Page) (column : Nat) (text : List Char) : Page :=
  let p := p.indicator (literalHeader text) true false false
  (lines column (fun c => [c]) text true
    { p.newLine '\n' with spaced := true, indented := true }).1

/-- Writes a scalar whose further lines go to the given column. -/
def scalar (p : Page) (column : Nat) (simpleKey : Bool) (wanted : ScalarStyle)
    (text : List Char) : Page :=
  match allowedStyle (.ofText text) simpleKey wanted with
  | .plain => p.plain text
  | .singleQuoted => p.singleQuoted column text
  | .literal => p.literal column text
  | _ => p.doubleQuoted text

/-- A key of one line and at most 128 octets stands in front of its colon. -/
def isSimpleKey (key : String) : Bool := key.utf8ByteSize ≤ 128 && !key.toList.any isBreak

end Page

/-- The text of a value that is neither a string nor a collection. -/
def scalarText : Value → List Char
  | .bool b => if b then ['t', 'r', 'u', 'e'] else ['f', 'a', 'l', 's', 'e']
  | .int i => Text.ofInt64 i
  | .float x => (Decimal.render numberLayout x).toList
  | _ => ['n', 'u', 'l', 'l']

/-- The column of a block collection inside the one at `column`; the outermost begins at zero. -/
def innerColumn : Option Nat → Nat
  | none => 0
  | some column => column + 2

mutual

/-- Writes a value inside a collection at the given column. A sequence that is the value of a key
on the same line is not indented. -/
def writeValue (outer : Option Nat) (ofKey : Bool) : Value → Page → Page
  | .list [], p => (p.indicator ['['] true true false).indicator [']'] false false false
  | .map [], p => (p.indicator ['\x7b'] true true false).indicator ['\x7d'] false false false
  | .list (item :: items), p =>
    let column := if ofKey && !p.indented then outer.getD 0 else innerColumn outer
    writeItems column (item :: items) p
  | .map (entry :: entries), p => writeEntries (innerColumn outer) (entry :: entries) p
  | .string s, p => p.scalar (outer.getD 0 + 2) false (wantedStyle s) s.toList
  | atom, p => p.scalar (outer.getD 0 + 2) false .plain (scalarText atom)

def writeItems (column : Nat) : List Value → Page → Page
  | [], p => p
  | item :: items, p =>
    let p := (p.indentTo column).indicator ['-'] true false true
    writeItems column items (writeValue (some column) false item p)

def writeEntries (column : Nat) : List (String × Value) → Page → Page
  | [], p => p
  | (key, value) :: entries, p =>
    let p := p.indentTo column
    let p :=
      if Page.isSimpleKey key then
        (p.scalar (column + 2) true (wantedStyle key) key.toList).indicator [':'] false false false
      else
        let p := p.indicator ['?'] true false true
        let p := p.scalar (column + 2) false (wantedStyle key) key.toList
        (p.indentTo column).indicator [':'] true false true
    writeEntries column entries (writeValue (some column) true value p)

end

def render (value : Value) : String :=
  String.ofList ((writeValue none false value {}).indentTo 0).written.reverse

end ClusterRouter.Yaml
