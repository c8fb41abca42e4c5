import ClusterRouter.Text.Numeral
import ClusterRouter.Value.Basic

/-!
# Untyped content

What a reader finds in a text is content that no kind of value has been asked for yet. A value is
made of it by trying the kinds in a fixed order, and the first kind that can hold the content holds
it. Integers are tried before floating point numbers, which can hold every integer.
-/

namespace ClusterRouter

inductive Content where
  | unit
  | bool (b : Bool)
  /-- An integer without a sign. -/
  | unsigned (n : UInt64)
  | signed (i : Int64)
  | float (x : Binary64)
  | string (s : String)
  | sequence (items : List Content)
  | mapping (entries : List (String × Content))

namespace Content

def null? : Content → Option Value
  | .unit => some .null
  | _ => none

def bool? : Content → Option Value
  | .bool b => some (.bool b)
  | _ => none

def int? : Content → Option Value
  | .unsigned n => (Text.int64? n.toNat).map .int
  | .signed i => some (.int i)
  | _ => none

def float? : Content → Option Value
  | .unsigned n => some (.float (Binary64.ofNat n.toNat))
  | .signed i => some (.float (Binary64.ofInt i.toInt))
  | .float x => some (.float x)
  | _ => none

def string? : Content → Option Value
  | .string s => some (.string s)
  | _ => none

mutual

/-- The value of the first kind that can hold the content. -/
def toValue? (content : Content) : Option Value :=
  content.null? <|> content.bool? <|> content.int? <|> content.float? <|> content.string? <|>
    (match content with
      | .sequence items => (toValues? items).map .list
      | _ => none) <|>
    match content with
    | .mapping entries => (toFields? entries).map .ofFields
    | _ => none

def toValues? : List Content → Option (List Value)
  | [] => some []
  | item :: items => do pure ((← toValue? item) :: (← toValues? items))

def toFields? : List (String × Content) → Option (List (String × Value))
  | [] => some []
  | (key, content) :: entries => do pure ((key, ← toValue? content) :: (← toFields? entries))

end

end Content

end ClusterRouter
