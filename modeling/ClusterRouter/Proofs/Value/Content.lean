import ClusterRouter.Proofs.Text.Numeral
import ClusterRouter.Proofs.Value.Equality
import ClusterRouter.Value.Content

/-!
# Content of values

The content that a value is written as is taken for that value again: of the kinds that are tried
before its own, none can hold it.
-/

namespace ClusterRouter

namespace Value

mutual

/-- The content that a value is written as. Only negative integers have a sign. -/
def content : Value → Content
  | .null => .unit
  | .bool b => .bool b
  | .int i => if i.toInt < 0 then .signed i else .unsigned (UInt64.ofNat i.toInt.natAbs)
  | .float x => .float x
  | .string s => .string s
  | .list items => .sequence (contents items)
  | .map fields => .mapping (fieldContents fields)

def contents : List Value → List Content
  | [] => []
  | item :: items => content item :: contents items

def fieldContents : List (String × Value) → List (String × Content)
  | [] => []
  | (key, value) :: fields => (key, content value) :: fieldContents fields

end

end Value

namespace Content

theorem int?_content (i : Int64) : (Value.int i).content.int? = some (.int i) := by
  rw [Value.content]
  split
  · rfl
  next hsign =>
    have hword : (UInt64.ofNat i.toInt.natAbs).toNat = i.toInt.natAbs := by
      have hsize : UInt64.size = 2 ^ 64 := rfl
      have hhigh := i.toInt_lt
      exact UInt64.toNat_ofNat_of_lt' (by omega)
    have hnatAbs : (i.toInt.natAbs : Int) = i.toInt := by omega
    rw [int?, hword, hnatAbs, Text.int64?_toInt, Option.map_some]

/-- What an integer can hold is held by nothing else, a floating point number least of all. -/
theorem toValue?_of_int? {content : Content} {value : Value} (h : content.int? = some value) :
    content.toValue? = some value := by
  cases content with
  | unsigned n | signed i =>
    simp only [toValue?, h]
    rfl
  | _ => contradiction

mutual

theorem toValue?_content (value : Value) (h : value.WellFormed) :
    value.content.toValue? = some value := by
  match value with
  | .null | .bool _ | .float _ | .string _ => rfl
  | .int i => exact toValue?_of_int? (int?_content i)
  | .list items =>
    have hitems := toValues?_contents items h
    simp only [Value.content, toValue?, hitems]
    rfl
  | .map fields =>
    have hfields := toFields?_contents fields h.2
    simp only [Value.content, toValue?, hfields, Option.map_some, Value.ofFields,
      Fields.ofList_of_ascending h.1]
    rfl

theorem toValues?_contents (items : List Value) (h : Value.ItemsWellFormed items) :
    toValues? (Value.contents items) = some items := by
  match items with
  | [] => rfl
  | item :: items =>
    rw [Value.contents, toValues?, toValue?_content item h.1, toValues?_contents items h.2]
    rfl

theorem toFields?_contents (fields : List (String × Value)) (h : Value.FieldsWellFormed fields) :
    toFields? (Value.fieldContents fields) = some fields := by
  match fields with
  | [] => rfl
  | (key, value) :: fields =>
    rw [Value.fieldContents, toFields?, toValue?_content value h.1, toFields?_contents fields h.2]
    rfl

end

end Content

end ClusterRouter
