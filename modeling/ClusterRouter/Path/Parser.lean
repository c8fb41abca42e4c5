import ClusterRouter.Path.Basic
import ClusterRouter.Text.DecimalDigit

/-!
# Path text

A path text is empty or a row of tokens, each with one separator behind it or none. A token is an
index in brackets or a run of key characters; a run is always read to its end.
-/

namespace ClusterRouter.Path

def isKeyChar (separator : Separator) (c : Char) : Bool :=
  c.isAlphanum || ['/', '_', '%', '-'].contains c ||
    Separator.all.any fun other => other != separator && other.char == c

/-- An integer cut off at the ends of the signed 64-bit range. -/
def saturate (i : Int) : Int64 :=
  Int64.ofInt (max Int64.minValue.toInt (min i Int64.maxValue.toInt))

/-- The index that sign and digits mean. Digits that are not ASCII mean no number; as an index
beyond the range they resolve nowhere. -/
def indexOf (negative : Bool) (digits : List Char) : Int64 :=
  if digits.all Char.isDigit then
    let magnitude : Int := Text.natOfDigits digits
    saturate (if negative then -magnitude else magnitude)
  else if negative then Int64.minValue
  else Int64.maxValue

/-- Drops the minus sign of an index. -/
def takeMinus : List Char → Bool × List Char
  | '-' :: rest => (true, rest)
  | rest => (false, rest)

/-- The index behind an opening bracket, and the text behind the closing one. -/
def takeIndex? (text : List Char) : Option (Int64 × List Char) :=
  let (negative, unsigned) := takeMinus text
  let digits := unsigned.takeWhile Text.isDecimalDigit
  match digits, unsigned.dropWhile Text.isDecimalDigit with
  | _ :: _, ']' :: rest => some (indexOf negative digits, rest)
  | _, _ => none

/-- Drops one separator from the front of a text. -/
def dropSeparator (separator : Separator) : List Char → List Char
  | c :: rest => if c = separator.char then rest else c :: rest
  | [] => []

theorem length_takeMinus_le (text : List Char) : (takeMinus text).2.length ≤ text.length := by
  unfold takeMinus
  split <;> simp

theorem length_dropSeparator_le (separator : Separator) (text : List Char) :
    (dropSeparator separator text).length ≤ text.length := by
  unfold dropSeparator
  split
  · split <;> simp
  · simp

theorem length_dropWhile_le (p : Char → Bool) (text : List Char) :
    (text.dropWhile p).length ≤ text.length :=
  (List.dropWhile_sublist p).length_le

theorem length_lt_of_takeIndex? {text rest : List Char} {index : Int64}
    (h : takeIndex? text = some (index, rest)) : rest.length < text.length := by
  simp only [takeIndex?] at h
  split at h
  · rename_i after hdigits heq
    have hle := length_dropWhile_le Text.isDecimalDigit (takeMinus text).2
    have := length_takeMinus_le text
    simp only [heq, List.length_cons] at hle
    simp only [Option.some.injEq, Prod.mk.injEq] at h
    obtain ⟨_, rfl⟩ := h
    omega
  · contradiction

/-- The steps that a text writes. -/
def segments? (separator : Separator) (text : List Char) : Option (List Segment) :=
  match text with
  | [] => some []
  | '[' :: rest =>
    match _h : takeIndex? rest with
    | some (index, after) =>
      (segments? separator (dropSeparator separator after)).map (.index index :: ·)
    | none => none
  | c :: rest =>
    if isKeyChar separator c then
      let run := rest.takeWhile (isKeyChar separator)
      (segments? separator (dropSeparator separator (rest.dropWhile (isKeyChar separator)))).map
        (.key (String.ofList (c :: run)) :: ·)
    else none
termination_by text.length
decreasing_by
  · have := length_lt_of_takeIndex? _h
    have := length_dropSeparator_le separator after
    simp only [List.length_cons]
    omega
  · have := length_dropWhile_le (isKeyChar separator) rest
    have := length_dropSeparator_le separator (rest.dropWhile (isKeyChar separator))
    simp only [List.length_cons]
    omega

/-- Reads a path; the empty text is the root. -/
def parse (text : String) (separator : Separator) : Except PathError Path :=
  match segments? separator text.toList with
  | some path => .ok path
  | none => .error (.invalid text separator)

end ClusterRouter.Path
