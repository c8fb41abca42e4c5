import ClusterRouter.Proofs.Document.Exactness

/-!
# What edits decide

Every edit but a removal decides by what is found at its path alone: its `Reaction` is an error, or
nothing, or something to put there. The rest is the same for all of them, as it is put there where
the path can be created.
-/

namespace ClusterRouter.Document

/-- What is to be put at a path for what is found there; none where nothing changes. -/
abbrev Reaction := Option Value → Except DocumentError (Option Value)

/-- What becomes of a root when a reaction has its way at a path that can be created. -/
def Reaction.change (reaction : Reaction) : Change := fun path root ↦
  (reaction (root.lookup path)).map fun decided ↦ decided.bind (root.create? path)

def putReaction (value : Value) : Reaction := fun found ↦
  .ok (if found == some value then none else some value)

def appendReaction (item : Value) : Reaction
  | none | some .null => .ok (some (.list [item]))
  | some entry => .ok (pushTo item entry)

def updateReaction (text : String) (value : Value) (index : Option Int64)
    (current : Option Value) : Reaction
  | none => .ok none
  | some entry => updated text value index current entry

def popReaction (wanted : Value) : Reaction := fun found ↦
  .ok (found.bind (popFrom wanted))

theorem putChange_eq (value : Value) : putChange value = (putReaction value).change := by
  funext path root
  unfold putChange Reaction.change putReaction
  split <;> rfl

theorem updateChange_eq (text : String) (value : Value) (index : Option Int64)
    (current : Option Value) :
    updateChange text value index current = (updateReaction text value index current).change := by
  funext path root
  unfold updateChange Reaction.change
  cases hfound : root.lookup path with
  | none => rfl
  | some entry =>
    have hmodify : (fun new ↦ root.modify? (fun _ ↦ some new) path) = root.create? path := by
      funext new
      rw [Value.modify?_eq, hfound, Option.bind_some, Option.bind_some]
    simp only [updateReaction, hmodify]

theorem popChange_eq (wanted : Value) : popChange wanted = (popReaction wanted).change := by
  funext path root
  unfold popChange Reaction.change popReaction
  rw [Value.modify?_eq, ← Option.bind_assoc]
  rfl

/-- A list is put where nothing or null is, as if it were put with its item. -/
theorem modify?_pushTo_withList {root : Value} {path : Path} (item : Value)
    (hmissing : root.lookup path = none ∨ root.lookup path = some .null) :
    (withList path root).modify? (pushTo item) path = root.create? path (.list [item]) := by
  have hwith : withList path root = (root.create? path (.list [])).getD root := by
    unfold withList
    rcases hmissing with h | h <;> rw [h]
  rw [hwith]
  cases hcreate : root.create? path (.list []) with
  | some created => exact Value.modify?_of_create? hcreate rfl
  | none =>
    have hnot : root.create? path (.list [item]) = none := by
      have hcreatable : ¬root.Creatable path := by
        rw [Value.creatable_iff (.list []), hcreate]
        exact Bool.false_ne_true
      rw [Value.creatable_iff (.list [item])] at hcreatable
      simpa using hcreatable
    have hrefused : root.modify? (pushTo item) path = none := by
      rw [Value.modify?_eq]
      rcases hmissing with h | h <;> rw [h] <;> rfl
    rw [Option.getD_none, hrefused, hnot]

theorem appendChange_eq (item : Value) : appendChange item = (appendReaction item).change := by
  funext path root
  have hput (hmissing : root.lookup path = none ∨ root.lookup path = some .null) :
      appendChange item path root = .ok (root.create? path (.list [item])) :=
    congrArg Except.ok (modify?_pushTo_withList item hmissing)
  unfold Reaction.change
  unfold appendReaction
  split
  · next hfound => exact hput (.inl hfound)
  · next hfound => exact hput (.inr hfound)
  · next entry hnull hfound =>
    have hwith : withList path root = root := by
      rw [withList, hfound]
      cases entry <;> first | rfl | exact absurd rfl hnull
    rw [appendChange, hwith, Value.modify?_eq, hfound]
    rfl

/-- What an edit makes of what is found at its path. -/
def reactionOf (edit : Edit) : Reaction :=
  match edit.action with
  | .put => putReaction edit.value
  | .update => updateReaction edit.key edit.value edit.index edit.current
  | .append => appendReaction edit.value

theorem Operation.change_apply {document : Document} {edit : Edit} {path : Path}
    (hpath : document.parsePath edit.key = .ok path) :
    (Operation.apply edit).change document = (reactionOf edit).change path document.root := by
  rw [Operation.change, reactionOf]
  cases edit.action <;>
    simp only [changeAt_of_parsePath hpath, putChange_eq, updateChange_eq, appendChange_eq]

/-- At a key of a map, a reaction decides on the entry of that key. -/
theorem Reaction.change_key (reaction : Reaction) (fields : Fields) (name : String) :
    reaction.change [.key name] (.map fields) =
      (reaction (Fields.get? fields name)).map fun decided ↦ decided.map fun new ↦
        .map (Fields.insert fields name new) := by
  have hlookup : (Value.map fields).lookup [.key name] = Fields.get? fields name :=
    Value.lookup_key _ _
  have hcreate : (Value.map fields).create? [.key name] =
      some ∘ fun new ↦ .map (Fields.insert fields name new) :=
    funext (Value.create?_key fields name)
  rw [Reaction.change, hlookup, hcreate]
  simp only [Option.map_eq_bind]

theorem Reaction.exists_of_change {reaction : Reaction} {path : Path} {root after : Value}
    (h : reaction.change path root = .ok (some after)) :
    ∃ item, reaction (root.lookup path) = .ok (some item) ∧
      root.create? path item = some after := by
  unfold Reaction.change at h
  rcases hdecided : reaction (root.lookup path) with e | _ | item
  · rw [hdecided] at h
    contradiction
  · rw [hdecided] at h
    cases h
  · rw [hdecided] at h
    exact ⟨item, rfl, Except.ok.inj h⟩

end ClusterRouter.Document
