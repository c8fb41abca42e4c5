/-!
# Text from octets

Octets are read as UTF-8. Each longest run that begins a character and cannot complete it, and each
octet that begins none, is read as the replacement character U+FFFD.
-/

namespace ClusterRouter.Text

def replacement : Char := '\ufffd'

/-- How a character of several octets begins. -/
structure Lead where
  /-- The octets that follow. -/
  tail : Nat
  /-- The bits of the first octet. -/
  bits : Nat
  /-- The bounds of the second octet, which keep out long forms and surrogates. -/
  low : Nat := 0x80
  high : Nat := 0xbf

def Lead.ofOctet? (octet : Nat) : Option Lead :=
  if 0xc2 ≤ octet ∧ octet ≤ 0xdf then some { tail := 1, bits := octet - 0xc0 }
  else if 0xe0 ≤ octet ∧ octet ≤ 0xef then
    some { tail := 2, bits := octet - 0xe0, low := if octet = 0xe0 then 0xa0 else 0x80,
           high := if octet = 0xed then 0x9f else 0xbf }
  else if 0xf0 ≤ octet ∧ octet ≤ 0xf4 then
    some { tail := 3, bits := octet - 0xf0, low := if octet = 0xf0 then 0x90 else 0x80,
           high := if octet = 0xf4 then 0x8f else 0xbf }
  else none

/-- Reads the further octets of a character, and tells what is left where that ends. -/
def takeTail : Nat → Nat → Nat → Nat → List UInt8 → Char × List UInt8
  | 0, _, _, bits, rest => (Char.ofNat bits, rest)
  | tail + 1, low, high, bits, octet :: rest =>
    if low ≤ octet.toNat ∧ octet.toNat ≤ high then
      takeTail tail 0x80 0xbf (bits * 64 + octet.toNat % 64) rest
    else (replacement, octet :: rest)
  | _ + 1, _, _, _, [] => (replacement, [])

/-- One character behind its first octet. -/
def takeCharacter (first : UInt8) (rest : List UInt8) : Char × List UInt8 :=
  if first.toNat < 0x80 then (Char.ofNat first.toNat, rest)
  else
    match Lead.ofOctet? first.toNat with
    | some lead => takeTail lead.tail lead.low lead.high lead.bits rest
    | none => (replacement, rest)

theorem length_takeTail_le (tail low high bits : Nat) (octets : List UInt8) :
    (takeTail tail low high bits octets).2.length ≤ octets.length := by
  induction tail generalizing low high bits octets with
  | zero => simp [takeTail]
  | succ tail ih =>
    cases octets with
    | nil => simp [takeTail]
    | cons octet rest =>
      simp only [takeTail]
      split
      · exact Nat.le_succ_of_le (ih _ _ _ _)
      · simp

theorem length_takeCharacter_le (first : UInt8) (rest : List UInt8) :
    (takeCharacter first rest).2.length ≤ rest.length := by
  unfold takeCharacter
  split
  · simp
  · split
    · exact length_takeTail_le _ _ _ _ _
    · simp

def charactersOf : List UInt8 → List Char
  | [] => []
  | first :: rest =>
    (takeCharacter first rest).1 :: charactersOf (takeCharacter first rest).2
termination_by octets => octets.length
decreasing_by
  have := length_takeCharacter_le first rest
  simp only [List.length_cons]
  omega

def ofOctets (octets : ByteArray) : String := String.ofList (charactersOf octets.toList)

end ClusterRouter.Text
