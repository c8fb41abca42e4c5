import ClusterRouter.Yaml.Decoder

/-!
# YAML nodes as typed data

Where the reader knows what it wants, a scalar that stands for a text is taken as it is written,
and only plain scalars stand for flags, numbers and absent values.
-/

namespace ClusterRouter.Yaml

namespace Stream

/-- The node itself, or the one that an alias stands for. -/
def resolve (stream : Stream) : Node → Decoding Node
  | .alias anchor => stream.follow anchor
  | node => pure node

/-- The source text of a scalar of any style. -/
def text (stream : Stream) (node : Node) : Decoding String := do
  match ← stream.resolve node with
  | .scalar text _ _ => pure text
  | _ => failure

/-- A scalar whose text alone decides its meaning: a plain one, or a literal block that a standard
tag says to be of the wanted kind. -/
def isBare (style : ScalarStyle) (tag : Option Tag) (kind : String) : Bool :=
  style == .plain || style == .literal && tag == some (.core kind)

def flag (stream : Stream) (node : Node) : Decoding Bool := do
  match ← stream.resolve node with
  | .scalar text style properties =>
    if isBare style properties.tag "bool" then liftM (Plain.bool? text) else failure
  | _ => failure

/-- A signed integer of 64 bits. -/
def int (stream : Stream) (node : Node) : Decoding Int64 := do
  match ← stream.resolve node with
  | .scalar text style properties =>
    match Plain.integer? text.toList with
    | some n =>
      if isBare style properties.tag "int" then liftM (Text.int64? n) else failure
    | none => failure
  | _ => failure

/-- Whether a node stands for nothing; `none` where a tag says so and the text does not. -/
def isAbsent? : Node → Option Bool
  | .scalar text style properties =>
    if style ≠ .plain then some false
    else
      match properties.tag with
      | some tag =>
        if tag == .core "null" then (if Plain.isNull text then some true else none)
        else some false
      | none => some (text.isEmpty || Plain.isNull text)
  | _ => some false

def optional {α : Type} (stream : Stream) (read : Node → Decoding α) (node : Node) :
    Decoding (Option α) := do
  let node ← stream.resolve node
  if ← liftM (isAbsent? node) then pure none else some <$> read node

/-- An empty plain scalar, whatever its tag, stands for a collection without members. -/
def isNothing : Node → Bool
  | .scalar text style _ => text.isEmpty && style == .plain
  | _ => false

/-- A list. -/
def list {α : Type} (stream : Stream) (depth : Nat) (read : Nat → Node → Decoding α)
    (node : Node) : Decoding (List α) := do
  match ← stream.resolve node, depth with
  | .sequence items _, depth + 1 => items.mapM (read depth)
  | node, _ => if isNothing node then pure [] else failure

/-- The entries of a mapping by the names of their fields, in the order of the text. -/
def entries (stream : Stream) (depth : Nat) (node : Node) :
    Decoding (List (String × Node) × Nat) := do
  match ← stream.resolve node, depth with
  | .mapping entries _, depth + 1 =>
    let named ← entries.mapM fun (key, value) => do pure (← stream.text key, value)
    pure (named, depth)
  | node, _ => if isNothing node then pure ([], depth) else failure

/-- A record: each entry of a known field is read once, and unknown fields are left out or
refused. -/
def record {α : Type} (stream : Stream) (fieldNames : List String) (strict : Bool)
    (read : Nat → String → Node → α → Decoding α) (depth : Nat) (initial : α) (node : Node) :
    Decoding α := do
  let (entries, depth) ← stream.entries depth node
  let known := entries.filter fun entry => fieldNames.contains entry.1
  if strict && known.length ≠ entries.length then failure
  if ¬ (known.map Prod.fst).Nodup then failure
  known.foldlM (fun partly (field, value) => read depth field value partly) initial

/-- A word of a closed set. It may also stand as a tag in front of nothing. -/
def word (stream : Stream) (node : Node) : Decoding String := do
  match ← stream.resolve node with
  | .scalar text style properties =>
    match properties.tag.bind Tag.localName? with
    | some name =>
      if style = .plain ∧ (text.isEmpty || Plain.isNull text) then pure name else failure
    | none => pure text
  | _ => failure

end Stream

/-- Reads the document of a text by `read`; an empty text gives `absent`. -/
def decodeTyped? {α : Type} (text : String) (absent : α) (read : Stream → Node → Decoding α) :
    Option α := do
  let stream ← Stream.ofText? text
  match stream.root with
  | none => pure absent
  | some root =>
    let (value, _) ← (read stream root).run 0
    pure value

end ClusterRouter.Yaml
