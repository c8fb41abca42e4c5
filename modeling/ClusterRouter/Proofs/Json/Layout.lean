import ClusterRouter.Json.Decoder
import ClusterRouter.Json.Printer
import Mathlib.Tactic.Common

/-!
# Layouts of JSON text

The compact and the pretty text of a value differ in blanks alone: those in front of each item and
of the closing bracket, and those behind a colon.
-/

namespace ClusterRouter.Json

/-- The blanks of a layout. -/
structure Spacing where
  /-- In front of an item at a level, and of the bracket that closes the level. -/
  lineBreak : Nat → List Char
  /-- Behind a colon. -/
  gap : List Char
  blank_lineBreak : ∀ level, ∀ c ∈ lineBreak level, isBlank c = true
  blank_gap : ∀ c ∈ gap, isBlank c = true

namespace Spacing

def none : Spacing where
  lineBreak _ := []
  gap := []
  blank_lineBreak := by simp
  blank_gap := by simp

def lines : Spacing where
  lineBreak := Json.lineBreak
  gap := [' ']
  blank_lineBreak level c hc := by
    rcases List.mem_cons.mp hc with rfl | hc
    · rfl
    · rw [List.eq_of_mem_replicate hc]
      rfl
  blank_gap := List.forall_mem_singleton.mpr rfl

mutual

/-- The text of a value in a layout. -/
def chars (spacing : Spacing) (level : Nat) : Value → List Char
  | .list [] => ['[', ']']
  | .list (item :: items) =>
    '[' :: (spacing.lineBreak (level + 1) ++
      (chars spacing (level + 1) item ++ charsItems spacing level items))
  | .map [] => ['\x7b', '\x7d']
  | .map ((key, value) :: fields) =>
    '\x7b' :: (spacing.lineBreak (level + 1) ++ (quoted key ++
      ':' :: (spacing.gap ++ (chars spacing (level + 1) value ++ charsFields spacing level fields))))
  | scalar => compactChars scalar

/-- The items behind the first one, and the closing bracket. -/
def charsItems (spacing : Spacing) (level : Nat) : List Value → List Char
  | [] => spacing.lineBreak level ++ [']']
  | item :: items =>
    ',' :: (spacing.lineBreak (level + 1) ++
      (chars spacing (level + 1) item ++ charsItems spacing level items))

/-- The entries behind the first one, and the closing brace. -/
def charsFields (spacing : Spacing) (level : Nat) : List (String × Value) → List Char
  | [] => spacing.lineBreak level ++ ['\x7d']
  | (key, value) :: fields =>
    ',' :: (spacing.lineBreak (level + 1) ++ (quoted key ++
      ':' :: (spacing.gap ++ (chars spacing (level + 1) value ++ charsFields spacing level fields))))

end

mutual

theorem chars_none (level : Nat) (value : Value) : none.chars level value = compactChars value := by
  match value with
  | .list [] | .map [] => rfl
  | .list (item :: items) =>
    rw [chars, compactChars, chars_none _ item, charsItems_none level items]
    rfl
  | .map ((key, value) :: fields) =>
    rw [chars, compactChars, chars_none _ value, charsFields_none level fields]
    simp [none]
  | .null | .bool _ | .int _ | .float _ | .string _ => rfl

theorem charsItems_none (level : Nat) (items : List Value) :
    none.charsItems level items = compactItems items := by
  match items with
  | [] => rfl
  | item :: items =>
    rw [charsItems, compactItems, chars_none _ item, charsItems_none level items]
    rfl

theorem charsFields_none (level : Nat) (fields : List (String × Value)) :
    none.charsFields level fields = compactFields fields := by
  match fields with
  | [] => rfl
  | (key, value) :: fields =>
    rw [charsFields, compactFields, chars_none _ value, charsFields_none level fields]
    simp [none]

end

mutual

theorem chars_lines (level : Nat) (value : Value) :
    lines.chars level value = prettyChars level value := by
  match value with
  | .list [] | .map [] => rfl
  | .list (item :: items) =>
    rw [chars, prettyChars, chars_lines _ item, charsItems_lines level items]
    simp [lines]
  | .map ((key, value) :: fields) =>
    rw [chars, prettyChars, chars_lines _ value, charsFields_lines level fields]
    simp [lines]
  | .null | .bool _ | .int _ | .float _ | .string _ => rfl

theorem charsItems_lines (level : Nat) (items : List Value) :
    lines.charsItems level items = prettyItems level items := by
  match items with
  | [] => rfl
  | item :: items =>
    rw [charsItems, prettyItems, chars_lines _ item, charsItems_lines level items]
    simp [lines]

theorem charsFields_lines (level : Nat) (fields : List (String × Value)) :
    lines.charsFields level fields = prettyFields level fields := by
  match fields with
  | [] => rfl
  | (key, value) :: fields =>
    rw [charsFields, prettyFields, chars_lines _ value, charsFields_lines level fields]
    simp [lines]

end

end Spacing

end ClusterRouter.Json
