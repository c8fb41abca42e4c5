import ClusterRouter.Yaml.Node
import ClusterRouter.Yaml.Plain

/-!
# YAML text as a value

Collections may nest 128 deep, aliases included, and a document may follow a hundred aliases for
each of its marks. The keys of a mapping must be strings, and of repeated keys the last entry
stays. Tags of the document's own are refused, those of the standard decide what a scalar means.
-/

namespace ClusterRouter.Yaml

/-- The nesting of collections that is read. -/
def nestingLimit : Nat := 128

/-- The state of a reader of nodes is how many aliases it has followed. -/
abbrev Decoding := StateT Nat Option

/-- The node that an alias stands for. -/
def Stream.follow (stream : Stream) (anchor : Nat) : Decoding Node := do
  let followed ← get
  if stream.size * 100 ≤ followed then failure
  set (followed + 1)
  liftM (stream.anchors.lookup anchor)

/-- The integer that a text writes, if it has at most 128 bits. -/
def integerText? (text : String) : Option Int := (Plain.integer? text.toList).filter Plain.isWide

/-- The value of a scalar. A tag of the document's own that has no name does not count. -/
def scalarValue? (text : String) (style : ScalarStyle) (tag : Option Tag) : Option Value :=
  match tag with
  | none | some (.nameless true) =>
    if style = .plain then Plain.value? text else some (.string text)
  | some tag =>
    if tag == .core "bool" then (Plain.bool? text).map .bool
    else if tag == .core "int" then (integerText? text).bind Plain.integerValue?
    else if tag == .core "float" then (Plain.float? text).map .float
    else if tag == .core "null" then (if Plain.isNull text then some .null else none)
    else if tag.localName?.isSome then none
    else some (.string text)

/-- A collection has no value where the document itself gives its tag a meaning. -/
def hasLocalTag (properties : Properties) : Bool := (properties.tag.bind Tag.localName?).isSome

/-- The value of a node, with `depth` more levels of collections allowed. -/
def Stream.value (stream : Stream) : Nat → Nat → Node → Decoding Value
  | 0, _, _ => failure
  | fuel + 1, depth, .alias anchor => do
    stream.value fuel depth (← stream.follow anchor)
  | _ + 1, _, .scalar text style properties => liftM (scalarValue? text style properties.tag)
  | _ + 1, 0, _ => failure
  | fuel + 1, depth + 1, .sequence items properties =>
    if hasLocalTag properties then failure
    else do
      let items ← items.mapM (stream.value fuel depth)
      pure (.list items)
  | fuel + 1, depth + 1, .mapping entries properties =>
    if hasLocalTag properties then failure
    else do
      let entries ← entries.mapM fun (key, value) => do
        match ← stream.value fuel depth key with
        | .string key => pure (key, ← stream.value fuel depth value)
        | _ => failure
      pure (.ofFields entries)

/-- Each level of collections is entered through one alias at most. -/
def Stream.nodeValue (stream : Stream) (depth : Nat) (node : Node) : Decoding Value :=
  stream.value (2 * depth + 2) depth node

/-- The value of a whole text; an empty one is null. -/
def decode? (text : String) : Option Value := do
  let stream ← Stream.ofText? text
  match stream.root with
  | none => pure .null
  | some root =>
    let (value, _) ← (stream.nodeValue nestingLimit root).run 0
    pure value

end ClusterRouter.Yaml
