import ClusterRouter.Yaml.Token

/-!
# Nodes of a YAML document

A stream of tokens holds at most one document here. Its nodes keep the text of their scalars with
style and tag, and an alias keeps the number of its anchor: what a number stands for is settled
only when the whole document is known, since an anchor may be declared more than once.
-/

namespace ClusterRouter.Yaml

/-- What may stand in front of a node's content. -/
structure Properties where
  tag : Option Tag := none
  anchor : Option Nat := none
deriving Inhabited

inductive Node where
  | scalar (text : String) (style : ScalarStyle) (properties : Properties)
  | sequence (items : List Node) (properties : Properties)
  | mapping (entries : List (Node × Node)) (properties : Properties)
  | alias (anchor : Nat)
deriving Inhabited

namespace Node

def empty : Node := .scalar "" .plain {}

/-- Handles of tags and the octets that they stand for. -/
abbrev Handles := List (List Char × List Nat)

/-- The tokens ahead and the anchors declared so far, each with its number. -/
structure Reader where
  tokens : List Token
  anchors : List (String × Nat) := []
  handles : Handles := []

namespace Reader

def skip (r : Reader) : Reader := { r with tokens := r.tokens.drop 1 }

/-- The next token is one of these. -/
def ahead (r : Reader) (tokens : List Token) : Bool := r.tokens.head?.any tokens.contains

/-- The number of an anchor is how many names were declared before it. A name declared again does
not count twice, so two anchors may share a number. -/
def declare (r : Reader) (name : String) : Reader × Nat :=
  let number := r.anchors.length
  ({ r with anchors := (name, number) :: r.anchors.filter (·.1 != name) }, number)

/-- The tag of a handle and a remainder. -/
def resolveTag? (r : Reader) (handle : List Char) (rest : List Nat) : Option Tag :=
  if handle.isEmpty then some (.ofOctets rest)
  else (r.handles.lookup handle).map fun start => .ofOctets (start ++ rest)

/-- An anchor and a tag in front of a node, in either order. -/
def takeProperties? (r : Reader) : Option (Option (List Char) × Option Tag × Reader) :=
  match r.tokens with
  | .anchor name :: .tag handle rest :: tokens =>
    (r.resolveTag? handle rest).map fun tag => (some name, some tag, { r with tokens })
  | .tag handle rest :: .anchor name :: tokens =>
    (r.resolveTag? handle rest).map fun tag => (some name, some tag, { r with tokens })
  | .anchor name :: tokens => some (some name, none, { r with tokens })
  | .tag handle rest :: tokens =>
    (r.resolveTag? handle rest).map fun tag => (none, some tag, { r with tokens })
  | _ => some (none, none, r)

mutual

/-- A node. Block collections are accepted where `block` says so, and a sequence that is not
indented where `indentless` does. Properties without content belong to an empty scalar. -/
def takeNode? (block indentless : Bool) : Nat → Reader → Option (Node × Reader)
  | 0, _ => none
  | fuel + 1, r =>
    match r.tokens with
    | .alias name :: tokens =>
      (r.anchors.lookup (String.ofList name)).map fun number => (.alias number, { r with tokens })
    | _ => do
      let (name, tag, r) ← r.takeProperties?
      let (r, properties) :=
        match name with
        | some name =>
          let (r, number) := r.declare (String.ofList name)
          (r, { tag, anchor := some number : Properties })
        | none => (r, { tag })
      match r.tokens, block, indentless with
      | .scalar text style :: tokens, _, _ =>
        pure (.scalar (String.ofList text) style properties, { r with tokens })
      | .flowSequenceStart :: tokens, _, _ =>
        let (items, r) ← takeFlowItems? true fuel { r with tokens }
        pure (.sequence items properties, r)
      | .flowMappingStart :: tokens, _, _ =>
        let (entries, r) ← takeFlowEntries? true fuel { r with tokens }
        pure (.mapping entries properties, r)
      | .blockSequenceStart :: tokens, true, _ =>
        let (items, r) ← takeBlockItems? fuel { r with tokens }
        pure (.sequence items properties, r)
      | .blockMappingStart :: tokens, true, _ =>
        let (entries, r) ← takeBlockEntries? fuel { r with tokens }
        pure (.mapping entries properties, r)
      | .blockEntry :: _, _, true =>
        let (items, r) ← takeIndentlessItems? fuel r
        pure (.sequence items properties, r)
      | _, _, _ =>
        if name.isSome || tag.isSome then pure (.scalar "" .plain properties, r) else none

/-- A node, or nothing where one of the tokens in `absent` comes next. -/
def takeOptional? (block indentless : Bool) (absent : List Token) :
    Nat → Reader → Option (Node × Reader)
  | 0, _ => none
  | fuel + 1, r =>
    if r.ahead absent then some (.empty, r) else takeNode? block indentless fuel r

def takeBlockItems? : Nat → Reader → Option (List Node × Reader)
  | 0, _ => none
  | fuel + 1, r =>
    match r.tokens with
    | .blockEntry :: tokens => do
      let (item, r) ← takeOptional? true false [.blockEntry, .blockEnd] fuel { r with tokens }
      let (items, r) ← takeBlockItems? fuel r
      pure (item :: items, r)
    | .blockEnd :: tokens => some ([], { r with tokens })
    | _ => none

def takeIndentlessItems? : Nat → Reader → Option (List Node × Reader)
  | 0, _ => none
  | fuel + 1, r =>
    match r.tokens with
    | .blockEntry :: tokens => do
      let (item, r) ←
        takeOptional? true false [.blockEntry, .key, .value, .blockEnd] fuel { r with tokens }
      let (items, r) ← takeIndentlessItems? fuel r
      pure (item :: items, r)
    | _ => some ([], r)

def takeBlockEntries? : Nat → Reader → Option (List (Node × Node) × Reader)
  | 0, _ => none
  | fuel + 1, r =>
    match r.tokens with
    | .key :: tokens => do
      let (key, r) ← takeOptional? true true [.key, .value, .blockEnd] fuel { r with tokens }
      let (value, r) ←
        if r.ahead [.value] then
          takeOptional? true true [.key, .value, .blockEnd] fuel r.skip
        else some (.empty, r)
      let (entries, r) ← takeBlockEntries? fuel r
      pure ((key, value) :: entries, r)
    | .blockEnd :: tokens => some ([], { r with tokens })
    | _ => none

/-- The items of a sequence in brackets; a single entry there is a mapping of its own. -/
def takeFlowItems? (first : Bool) : Nat → Reader → Option (List Node × Reader)
  | 0, _ => none
  | fuel + 1, r =>
    if r.ahead [.flowSequenceEnd] then some ([], r.skip)
    else if !first && !r.ahead [.flowEntry] then none
    else
      let r := if first then r else r.skip
      if r.ahead [.flowSequenceEnd] then some ([], r.skip)
      else do
        let (item, r) ←
          if r.ahead [.key] then takeSinglePair? fuel r.skip else takeNode? false false fuel r
        let (items, r) ← takeFlowItems? false fuel r
        pure (item :: items, r)

/-- The entry of a mapping without braces. Where its key is missing the token in its place is
passed over. -/
def takeSinglePair? : Nat → Reader → Option (Node × Reader)
  | 0, _ => none
  | fuel + 1, r => do
    let (key, r) ←
      if r.ahead [.value, .flowEntry, .flowSequenceEnd] then some (.empty, r.skip)
      else takeNode? false false fuel r
    let (value, r) ←
      if r.ahead [.value] then
        takeOptional? false false [.flowEntry, .flowSequenceEnd] fuel r.skip
      else some (.empty, r)
    pure (.mapping [(key, value)] {}, r)

def takeFlowEntries? (first : Bool) : Nat → Reader → Option (List (Node × Node) × Reader)
  | 0, _ => none
  | fuel + 1, r =>
    if r.ahead [.flowMappingEnd] then some ([], r.skip)
    else if !first && !r.ahead [.flowEntry] then none
    else
      let r := if first then r else r.skip
      if r.ahead [.flowMappingEnd] then some ([], r.skip)
      else do
        let (entry, r) ←
          if r.ahead [.key] then takeFlowEntry? fuel r.skip
          else (takeNode? false false fuel r).map fun (key, r) => ((key, Node.empty), r)
        let (entries, r) ← takeFlowEntries? false fuel r
        pure (entry :: entries, r)

def takeFlowEntry? : Nat → Reader → Option ((Node × Node) × Reader)
  | 0, _ => none
  | fuel + 1, r => do
    let (key, r) ← takeOptional? false false [.value, .flowEntry, .flowMappingEnd] fuel r
    let (value, r) ←
      if r.ahead [.value] then
        takeOptional? false false [.flowEntry, .flowMappingEnd] fuel r.skip
      else some (.empty, r)
    pure ((key, value), r)

end

/-- The handles that need no directive. -/
def standardHandles : Handles :=
  [(['!'], [Tag.markOctet]), (['!', '!'], Tag.coreStart.toList.map Char.toNat)]

/-- The directives in front of a document: one version at most, each handle once. -/
def takeDirectives? : List Token → Bool → Handles → Option (Handles × List Token)
  | .version major minor :: rest, versioned, handles =>
    if versioned || major != 1 || minor != 1 && minor != 2 then none
    else takeDirectives? rest true handles
  | .tagHandle handle start :: rest, versioned, handles =>
    if (handles.lookup handle).isSome then none
    else takeDirectives? rest versioned (handles ++ [(handle, start)])
  | rest, _, handles => some (handles ++ standardHandles, rest)

def isDirective : Token → Bool
  | .version _ _ | .tagHandle _ _ => true
  | _ => false

/-- The root of the first document and the tokens behind it. -/
def takeRoot? (tokens : List Token) : Option (Node × List Token) := do
  let (handles, rest) ← takeDirectives? tokens false []
  let fuel := 4 * tokens.length + 4
  match rest with
  | .documentStart :: content =>
    if content.head?.any fun t =>
        isDirective t || [Token.documentStart, .documentEnd, .streamEnd].contains t then
      pure (.empty, content)
    else
      let (root, r) ← takeNode? true false fuel { tokens := content, handles }
      pure (root, r.tokens)
  | _ =>
    if tokens.head?.any isDirective then none
    else
      let (root, r) ← takeNode? true false fuel { tokens := rest, handles }
      pure (root, r.tokens)

end Reader

/-- All nodes in the order of their beginnings. -/
def anchored : Node → List (Nat × Node)
  | node@(.scalar _ _ properties) => (properties.anchor.map (·, node)).toList
  | node@(.sequence items properties) =>
    (properties.anchor.map (·, node)).toList ++ anchoredItems items
  | node@(.mapping entries properties) =>
    (properties.anchor.map (·, node)).toList ++ anchoredEntries entries
  | .alias _ => []
where
  anchoredItems : List Node → List (Nat × Node)
    | [] => []
    | item :: items => anchored item ++ anchoredItems items
  anchoredEntries : List (Node × Node) → List (Nat × Node)
    | [] => []
    | (key, value) :: entries => anchored key ++ anchored value ++ anchoredEntries entries

/-- How many marks a node consists of: one for a scalar, a start and an end for a collection. -/
def size : Node → Nat
  | .scalar _ _ _ | .alias _ => 1
  | .sequence items _ => 2 + sizeItems items
  | .mapping entries _ => 2 + sizeEntries entries
where
  sizeItems : List Node → Nat
    | [] => 0
    | item :: items => size item + sizeItems items
  sizeEntries : List (Node × Node) → Nat
    | [] => 0
    | (key, value) :: entries => size key + size value + sizeEntries entries

end Node

/-- A document: its root, unless the text holds none, and what the numbers of its anchors stand
for. -/
structure Stream where
  root : Option Node
  anchors : List (Nat × Node)
  size : Nat

/-- The only document of a text. Further documents are refused. -/
def Stream.ofText? (text : String) : Option Stream := do
  let tokens ← Token.ofText? text
  if tokens == [.streamEnd] then pure ⟨none, [], 1⟩
  else
    let (root, rest) ← Node.Reader.takeRoot? tokens
    if rest.dropWhile (· == .documentEnd) == [.streamEnd] then
      pure ⟨some root, root.anchored.reverse, root.size⟩
    else none

end ClusterRouter.Yaml
