import ClusterRouter.Proofs.Document.Exactness
import ClusterRouter.Proofs.Path.Composition
import Mathlib.Data.Nat.Digits.Defs

/-!
# Places that index texts lead to

An index text denotes an integer, however many digits it has, and leads to the place that this
integer counts to, from the end of a list where it is negative. Cutting it off at the ends of the
64-bit range makes it lead nowhere that it would not lead to by itself. No sum on the way leaves the
range, and no list is asked for a place that it does not have.
-/

namespace ClusterRouter

/-! ### Integers of index texts -/

/-- The number that decimal digits form is the sum of their values, each times its power of ten. -/
theorem Text.natOfDigits_eq_ofDigits (digits : List Char) :
    natOfDigits digits = Nat.ofDigits 10 (digits.reverse.map fun c ↦ c.toNat - '0'.toNat) := by
  induction digits using List.reverseRecOn with
  | nil => rfl
  | append_singleton digits c ih =>
    have hlast : natOfDigits (digits ++ [c]) = natOfDigits digits * 10 + (c.toNat - '0'.toNat) :=
      List.foldl_concat ..
    rw [hlast, ih, List.reverse_concat, List.map_cons, Nat.ofDigits_cons]
    omega

namespace Path

/-- The text of an index: brackets around digits, perhaps with a minus sign in front of them. -/
def indexText (negative : Bool) (digits : List Char) : String :=
  "[" ++ (if negative then "-" else "") ++ String.ofList digits ++ "]"

/-- The integer that decimal digits and their sign denote. -/
def denoted (negative : Bool) (digits : List Char) : Int :=
  let magnitude : Nat := Nat.ofDigits 10 (digits.reverse.map fun c ↦ c.toNat - '0'.toNat)
  if negative then -magnitude else magnitude

variable {negative : Bool} {digits : List Char}

theorem indexOf_eq_saturate (hdigits : ∀ c ∈ digits, c.isDigit = true) :
    indexOf negative digits = saturate (denoted negative digits) := by
  rw [indexOf, if_pos (List.all_eq_true.mpr hdigits), Text.natOfDigits_eq_ofDigits, denoted]

/-- An index text is read behind every path text. -/
theorem parse_push_indexText {text : String} {separator : Separator} {path : Path}
    (h : parse text separator = .ok path) (hne : digits ≠ [])
    (hdigits : ∀ c ∈ digits, c.isDigit = true) :
    parse (text ++ indexText negative digits) separator =
      .ok (path ++ [.index (saturate (denoted negative digits))]) := by
  have htoken : (Token.index negative digits).WellFormed separator :=
    ⟨hne, fun c hc ↦ isDecimalDigit_of_isDigit (hdigits c hc)⟩
  have htext : indexText negative digits = String.ofList (Token.index negative digits).text := by
    rw [← String.toList_inj]
    cases negative <;> simp [indexText, Token.text, sign]
  rw [htext, parse_push_token h htoken rfl, Token.segment, indexOf_eq_saturate hdigits]

end Path

/-! ### Places of lists -/

variable {items : List Value} {place : Nat}

/-- The place of a list that an index means. -/
def placeOf? (items : List Value) (i : Int64) : Option (Fin items.length) :=
  (resolveIndex i items.length).pmap Fin.mk fun _ ↦ resolveIndex_lt

/-- The place of the first item that is equal to a value. -/
def equalPlace? (items : List Value) (wanted : Value) : Option (Fin items.length) :=
  (positionOf? items wanted).pmap Fin.mk fun _ ↦ Document.positionOf?_lt

/-- Where an index means no place, a list need not be asked. -/
theorem bind_item (items : List Value) (i : Int64) (next : Nat → Value → Option Value) :
    ((resolveIndex i items.length).bind fun place ↦ items[place]?.bind (next place)) =
      (placeOf? items i).bind fun place ↦ next place (items.get place) := by
  cases hplace : resolveIndex i items.length with
  | none => simp [placeOf?, hplace]
  | some place =>
    have hlt := resolveIndex_lt hplace
    simp [placeOf?, hplace, List.getElem?_eq_getElem hlt]

/-- The sum by which an index counts from the end of a list is that of integers, and fits. -/
theorem int64?_length_add {index : Int64} {length : Nat} (hnegative : index < 0)
    (hlength : (length : Int) ≤ Int64.maxValue.toInt) :
    Text.int64? (length + index.toInt) = some (Int64.ofNat length + index) := by
  have hmin : Int64.minValue.toInt = -2 ^ 63 := rfl
  have hmax : Int64.maxValue.toInt = 2 ^ 63 - 1 := rfl
  have hzero : (0 : Int64).toInt = 0 := rfl
  have hleast := index.le_toInt
  have hindex : index.toInt < 0 := by rwa [Int64.lt_iff_toInt_lt, hzero] at hnegative
  have hsum : Int64.ofInt (length + index.toInt) = Int64.ofNat length + index := by
    rw [Int64.ofInt_add, Int64.ofInt_toInt]
    rfl
  rw [Text.int64?, if_pos (by omega), hsum]

/-- A text is read as one index, which leads to the place of a list that an integer counts to. -/
structure LeadsTo (separator : Separator) (text : String) (i : Int) (index : Int64) : Prop where
  alone : Path.parse text separator = .ok [.index index]
  behind (front : String) (path : Path) : Path.parse front separator = .ok path →
    Path.parse (front ++ text) separator = .ok (path ++ [.index index])
  /-- Integers that are not negative count from the front of a list, and others from its end. -/
  place_iff (length place : Nat) : (length : Int) ≤ Int64.maxValue.toInt →
    (resolveIndex index length = some place ↔
      -(length : Int) ≤ i ∧ i < length ∧ (place : Int) = if 0 ≤ i then i else i + length)
  /-- Cut off, an integer leads to no place. -/
  beyond (length : Nat) : i < Int64.minValue.toInt ∨ Int64.maxValue.toInt < i →
    resolveIndex index length = none

/-- Counting to places never overflows, and no list is asked for a place that it does not have: all
reading, replacing and removing of items is at places below the length of the list. -/
structure PlacesInside : Prop where
  sum (index : Int64) (length : Nat) : index < 0 → (length : Int) ≤ Int64.maxValue.toInt →
    Text.int64? (length + index.toInt) = some (Int64.ofNat length + index)
  lookup (items : List Value) (i : Int64) (path : Path) :
    (Value.list items).lookup (.index i :: path) =
      (placeOf? items i).bind fun place ↦ (items.get place).lookup path
  modify (f : Value → Option Value) (items : List Value) (i : Int64) (path : Path) :
    (Value.list items).modify? f (.index i :: path) =
      (placeOf? items i).bind fun place ↦ ((items.get place).modify? f path).map fun changed ↦
        .list (items.set place changed)
  create (items : List Value) (i : Int64) (path : Path) (new : Value) :
    (Value.list items).create? (.index i :: path) new =
      (placeOf? items i).bind fun place ↦ ((items.get place).create? path new).map fun changed ↦
        .list (items.set place changed)
  remove (items : List Value) (i : Int64) : (Value.list items).removeStep? (.index i) =
    (placeOf? items i).map fun place ↦ .list (items.eraseIdx place)
  pop (items : List Value) (wanted : Value) : Document.popFrom wanted (.list items) =
    (equalPlace? items wanted).map fun place ↦ .list (items.eraseIdx place)
  update (items : List Value) (index : Option Int64) (current : Option Value) (place : Nat)
    (value : Value) : Document.Replacement.of items index current = .at place →
      ∃ hlt : place < items.length, Document.updatedList items value (some place) =
        if items[place] == value then Document.ensure items value
        else some (.list (items.set place value))

theorem placesInside : PlacesInside where
  sum _ _ := int64?_length_add
  lookup items i path := bind_item items i fun _ item ↦ item.lookup path
  modify f items i path := bind_item items i fun place item ↦
    (item.modify? f path).map fun changed ↦ .list (items.set place changed)
  create items i path new := bind_item items i fun place item ↦
    (item.create? path new).map fun changed ↦ .list (items.set place changed)
  remove items i := by
    rw [Value.removeStep?, placeOf?, Option.map_pmap]
    exact (Option.pmap_eq_map _ _ _ _).symm
  pop items wanted := by
    rw [Document.popFrom, equalPlace?, Option.map_pmap]
    exact (Option.pmap_eq_map _ _ _ _).symm
  update _ _ _ _ value h :=
    have hlt := Document.place_lt_of_replacement h
    ⟨hlt, Document.updatedList_at hlt value⟩

/-- Index texts mean integers: one of any number of ASCII digits leads to the place that it counts
to and nowhere else, without an overflow and inside the list. -/
theorem index_texts_mean_integers {digits : List Char} (hne : digits ≠ [])
    (hdigits : ∀ c ∈ digits, c.isDigit = true) (separator : Separator) (negative : Bool) :
    (∃ index, LeadsTo separator (Path.indexText negative digits) (Path.denoted negative digits)
      index) ∧ PlacesInside := by
  have hbehind (front : String) (path : Path) (h : Path.parse front separator = .ok path) :
      Path.parse (front ++ Path.indexText negative digits) separator =
        .ok (path ++ [.index (Path.saturate (Path.denoted negative digits))]) :=
    Path.parse_push_indexText h hne hdigits
  refine ⟨⟨Path.saturate (Path.denoted negative digits), ?_, hbehind, ?_, ?_⟩, placesInside⟩
  · simpa using hbehind "" [] (by simp [Path.parse, Path.segments?])
  · intro length place hlength
    rw [Path.resolveIndex_saturate_iff, and_iff_right hlength]
  · intro length hbeyond
    refine Option.eq_none_iff_forall_ne_some.mpr fun place hplace ↦ ?_
    have hmin : Int64.minValue.toInt = -2 ^ 63 := rfl
    have hmax : Int64.maxValue.toInt = 2 ^ 63 - 1 := rfl
    obtain ⟨hlength, hleast, hlt, -⟩ := Path.resolveIndex_saturate_iff.mp hplace
    omega

/-- The digits of 2 ^ 64 + 1, which words of 64 bits take for 1. -/
def roundTheWord : List Char := "18446744073709551617".toList

theorem index_texts_mean_integers_round_the_word :
    roundTheWord ≠ [] ∧ (∀ c ∈ roundTheWord, c.isDigit = true) ∧
      ∃ index, Path.parse "[18446744073709551617]" .dot = .ok [.index index] ∧
        ∀ length, resolveIndex index length = none := by
  have hne : roundTheWord ≠ [] := by decide
  have hdigits : ∀ c ∈ roundTheWord, c.isDigit = true := List.all_eq_true.mp (by decide +kernel)
  obtain ⟨⟨index, hindex⟩, -⟩ := index_texts_mean_integers hne hdigits .dot false
  have hbeyond : Int64.maxValue.toInt < Path.denoted false roundTheWord := by decide
  refine ⟨hne, hdigits, index, ?_, fun length ↦ hindex.beyond length (.inr hbeyond)⟩
  have htext : Path.indexText false roundTheWord = "[18446744073709551617]" := by
    decide +kernel
  exact htext ▸ hindex.alone

end ClusterRouter
