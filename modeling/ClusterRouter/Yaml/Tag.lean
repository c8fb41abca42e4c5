/-!
# Tags of YAML nodes

The octets of a tag are its name where they are text. Otherwise it is told only whether they start
with the exclamation mark of a tag of the document's own.
-/

namespace ClusterRouter.Yaml

inductive Tag where
  | named (name : String)
  | nameless (marked : Bool)
deriving DecidableEq

namespace Tag

/-- The octet of the exclamation mark. -/
def markOctet : Nat := 0x21

def ofOctets (octets : List Nat) : Tag :=
  match String.fromUTF8? ⟨(octets.map UInt8.ofNat).toArray⟩ with
  | some name => .named name
  | none => .nameless (octets.head? == some markOctet)

/-- What the tags of the standard start with. -/
def coreStart : String := "tag:yaml.org,2002:"

def core (kind : String) : Tag := .named (coreStart ++ kind)

/-- The name of a tag that the document itself gives a meaning, without its mark. -/
def localName? : Tag → Option String
  | .named name =>
    match name.toList with
    | '!' :: rest => some (String.ofList rest)
    | _ => none
  | .nameless _ => none

end Tag

end ClusterRouter.Yaml
