import ClusterRouter.Drift.SkipSet
import ClusterRouter.Json.Printer
import ClusterRouter.Path.Basic
import ClusterRouter.Text.Quoted
import ClusterRouter.Value.Equality

/-!
# Comparing a desired document with an observed one

Only what is observed is looked at. Maps inside a document must have the same keys, those of the
skip-set left out; at the root the desired document may have keys of its own. Lists must agree in
length and order; where both items are maps these are compared like maps, and all other items must
be equal.
-/

namespace ClusterRouter

/-- Why two documents differ at one place. -/
inductive Difference where
  | missingKey
  | types (desired observed : String)
  | lengths (desired observed : Nat)
  | keySets (onlyDesired onlyObserved : List String)
  | values (desired observed : Value)

/-- The first place where two documents differ. -/
structure Mismatch where
  path : Path
  difference : Difference

namespace Drift

def typesDiffer (path : Path) (desired observed : Value) : Option Mismatch :=
  some ⟨path, .types desired.typeName observed.typeName⟩

/-- Two values that are not compared any deeper. -/
def valueMismatch? (path : Path) (desired observed : Value) : Option Mismatch :=
  if desired == observed then none else some ⟨path, .values desired observed⟩

/-- Two maps inside a document must have the same keys. -/
def keyMismatch? (skip : SkipSet) (path : Path) (desired observed : Fields) : Option Mismatch :=
  let wanted := skip.retain (Fields.keys desired)
  let found := skip.retain (Fields.keys observed)
  if wanted = found then none
  else
    some ⟨path, .keySets (wanted.filter fun k => !found.contains k)
      (found.filter fun k => !wanted.contains k)⟩

/-- Two lists must have the same length. -/
def lengthMismatch? (path : Path) (desired observed : List Value) : Option Mismatch :=
  if desired.length = observed.length then none
  else some ⟨path, .lengths desired.length observed.length⟩

mutual

/-- The observed entries, one after the other. -/
def fieldsMismatch? (skip : SkipSet) (path : Path) (desired : Fields) :
    List (String × Value) → Option Mismatch
  | [] => none
  | (key, observed) :: rest =>
    if skip.contains key then fieldsMismatch? skip path desired rest
    else
      match entryMismatch? skip (path ++ [.key key]) (Fields.get? desired key) observed with
      | some mismatch => some mismatch
      | none => fieldsMismatch? skip path desired rest

/-- An observed entry and what is desired under its key. -/
def entryMismatch? (skip : SkipSet) (path : Path) : Option Value → Value → Option Mismatch
  | none, _ => some ⟨path, .missingKey⟩
  | some (.list desired), .list observed =>
    match lengthMismatch? path desired observed with
    | some mismatch => some mismatch
    | none => itemsMismatch? skip path 0 desired observed
  | some (.map desired), .map observed =>
    match keyMismatch? skip path desired observed with
    | some mismatch => some mismatch
    | none => fieldsMismatch? skip path desired observed
  | some desired, .list observed => typesDiffer path desired (.list observed)
  | some desired, .map observed => typesDiffer path desired (.map observed)
  | some desired, observed => valueMismatch? path desired observed

/-- The observed items, one after the other; `place` is that of the first. -/
def itemsMismatch? (skip : SkipSet) (path : Path) (place : Nat) :
    List Value → List Value → Option Mismatch
  | desired :: wanted, observed :: rest =>
    match itemMismatch? skip (path ++ [.index (Int64.ofNat place)]) desired observed with
    | some mismatch => some mismatch
    | none => itemsMismatch? skip path (place + 1) wanted rest
  | _, _ => none

/-- Keys of maps in lists need not be the same. -/
def itemMismatch? (skip : SkipSet) (path : Path) : Value → Value → Option Mismatch
  | .map desired, .map observed => fieldsMismatch? skip path desired observed
  | desired, observed => valueMismatch? path desired observed

end

/-- The first mismatch of two documents. -/
def mismatch? (skip : SkipSet) : Value → Value → Option Mismatch
  | .map desired, .map observed => fieldsMismatch? skip [] desired observed
  | desired, .map observed => typesDiffer [] desired (.map observed)
  | desired, observed => valueMismatch? [] desired observed

/-- The documents agree outside of the skip-set. -/
def agree (skip : SkipSet) (desired observed : Value) : Bool :=
  (mismatch? skip desired observed).isNone

end Drift

def Difference.message : Difference → String
  | .missingKey => "missing from desired document"
  | .types desired observed => "desired is " ++ desired ++ ", observed is " ++ observed
  | .lengths desired observed =>
    "list lengths differ (desired " ++ String.ofList (Text.ofNat desired) ++ ", observed " ++
      String.ofList (Text.ofNat observed) ++ ")"
  | .keySets onlyDesired onlyObserved =>
    "keys differ (only desired: " ++ Text.quotedList onlyDesired ++ ", only observed: " ++
      Text.quotedList onlyObserved ++ ")"
  | .values desired observed => Json.compact desired ++ " != " ++ Json.compact observed

def Mismatch.message (mismatch : Mismatch) : String :=
  (if mismatch.path.isEmpty then "<root>" else mismatch.path.display) ++ ": " ++
    mismatch.difference.message

end ClusterRouter
