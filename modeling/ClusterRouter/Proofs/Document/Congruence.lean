import ClusterRouter.Proofs.Document.Locality
import ClusterRouter.Proofs.Value.Congruence

/-!
# Equal documents answer alike

Equal values may be different trees, as an integer is equal to every floating point number of its
exact value. No edit and no question tells them apart: what is found in equal documents is equal,
every edit answers alike in both, and what it leaves is equal again.
-/

namespace ClusterRouter

namespace Value

/-! ### Navigation in equal values -/

theorem childOrMap?_beq {a b : Value} (h : (a == b) = true) (segment : Segment) :
    (a.childOrMap? segment == b.childOrMap? segment) = true := by
  have hchild := child?_beq h segment
  cases segment with
  | index => cases a <;> cases b <;> exact hchild
  | key name =>
    cases a with
    | map xs =>
      obtain ⟨ys, rfl, -⟩ := exists_map_of_beq h
      rw [childOrMap?, childOrMap?, entryOrMap, entryOrMap]
      rcases cases_of_option_beq hchild with ⟨hx, hy⟩ | ⟨x, y, hx, hy, hequal⟩
      · rw [show Fields.get? xs name = none from hx, show Fields.get? ys name = none from hy]
        rfl
      · rw [show Fields.get? xs name = some x from hx, show Fields.get? ys name = some y from hy]
        cases x <;> cases y <;> first | exact hequal | contradiction
    | _ => cases b <;> first | rfl | contradiction

theorem setChild_beq {a b : Value} (h : (a == b) = true) (segment : Segment) {x y : Value}
    (hnew : (x == y) = true) : (a.setChild segment x == b.setChild segment y) = true := by
  cases segment with
  | key name => cases a with
    | map xs =>
      obtain ⟨ys, rfl, hfields⟩ := exists_map_of_beq h
      exact equalFields_insert hfields name hnew
    | _ => cases b <;> exact h
  | index i => cases a with
    | list xs =>
      obtain ⟨ys, rfl, hitems⟩ := exists_list_of_beq h
      rw [setChild, setChild, length_eq_of_equalItems hitems]
      cases resolveIndex i ys.length with
      | none => exact h
      | some place => exact equalItems_set hitems place hnew
    | _ => cases b <;> exact h

theorem create?_beq {a b : Value} (h : (a == b) = true) (path : Path) {x y : Value}
    (hitem : (x == y) = true) : (a.create? path x == b.create? path y) = true := by
  induction path generalizing a b with
  | nil => simpa using hitem
  | cons segment path ih =>
    rw [create?_cons, create?_cons]
    apply bind_beq (childOrMap?_beq h segment)
    intro child other hchild
    rcases cases_of_option_beq (ih hchild) with ⟨hx, hy⟩ | ⟨new, last, hx, hy, hequal⟩
    · rw [hx, hy]
      rfl
    · rw [hx, hy]
      exact setChild_beq h segment hequal

theorem modify?_beq {f g : Value → Option Value}
    (hfg : ∀ a b, (a == b) = true → (f a == g b) = true) {a b : Value} (h : (a == b) = true)
    (path : Path) : (a.modify? f path == b.modify? g path) = true := by
  rw [modify?_eq, modify?_eq]
  apply bind_beq (lookup_beq h path)
  intro old other hold
  apply bind_beq (hfg old other hold)
  intro new last hnew
  exact create?_beq h path hnew

theorem removeStep?_beq {a b : Value} (h : (a == b) = true) (segment : Segment) :
    (a.removeStep? segment == b.removeStep? segment) = true := by
  cases segment with
  | key name => cases a with
    | map xs =>
      obtain ⟨ys, rfl, hfields⟩ := exists_map_of_beq h
      rw [removeStep?, removeStep?, contains_key_congr hfields]
      split
      · exact equalFields_erase hfields name
      · rfl
    | _ => cases b <;> first | rfl | contradiction
  | index i => cases a with
    | list xs =>
      obtain ⟨ys, rfl, hitems⟩ := exists_list_of_beq h
      rw [removeStep?, removeStep?, length_eq_of_equalItems hitems]
      cases resolveIndex i ys.length with
      | none => rfl
      | some place => exact equalItems_eraseIdx hitems place
    | _ => cases b <;> first | rfl | contradiction

theorem clear?_beq {a b : Value} (h : (a == b) = true) : (a.clear? == b.clear?) = true := by
  cases a <;> cases b <;> first | rfl | contradiction

end Value

namespace Document

/-! ### Equal decisions -/

/-- Two answers that tell equal documents not apart: one error, nothing in both, or equal values. -/
inductive SameAnswer :
    Except DocumentError (Option Value) → Except DocumentError (Option Value) → Prop where
  | error (e : DocumentError) : SameAnswer (.error e) (.error e)
  | ok {found other : Option Value} (h : (found == other) = true) :
    SameAnswer (.ok found) (.ok other)

/-- A reaction decides alike for equal values. -/
def Reaction.Respects (reaction : Reaction) : Prop :=
  ∀ found other, (found == other) = true → SameAnswer (reaction found) (reaction other)

/-- A change makes equal roots of equal roots. -/
def Change.Respects (change : Change) : Prop :=
  ∀ path a b, (a == b) = true → SameAnswer (change path a) (change path b)

theorem Reaction.Respects.change {reaction : Reaction} (h : reaction.Respects) :
    reaction.change.Respects := by
  intro path a b hequal
  unfold Reaction.change
  have hdecided := h _ _ (Value.lookup_beq hequal path)
  generalize reaction (a.lookup path) = decided at hdecided ⊢
  generalize reaction (b.lookup path) = decided' at hdecided ⊢
  cases hdecided with
  | error e => exact .error e
  | ok hdecided =>
    apply SameAnswer.ok
    apply Value.bind_beq hdecided
    intro item new hitem
    exact Value.create?_beq hequal path hitem

theorem respects_putReaction {value : Value} (hvalue : value.hasNaN = false) :
    (putReaction value).Respects := by
  intro found other h
  apply SameAnswer.ok
  rw [Value.some_beq_congr h]
  split
  · rfl
  · exact Value.beq_self hvalue

theorem pushTo_beq {item : Value} (hitem : item.hasNaN = false) {a b : Value}
    (h : (a == b) = true) : (pushTo item a == pushTo item b) = true := by
  cases a with
  | list xs =>
    obtain ⟨ys, rfl, hitems⟩ := Value.exists_list_of_beq h
    exact Value.equalItems_append hitems (Value.beq_self hitem)
  | _ => cases b <;> first | rfl | contradiction

theorem respects_appendReaction {item : Value} (hitem : item.hasNaN = false) :
    (appendReaction item).Respects := by
  intro found other h
  have hlist : (some (Value.list [item]) == some (.list [item])) = true :=
    Value.equalItems_cons.mpr ⟨Value.beq_self hitem, rfl⟩
  rcases Value.cases_of_option_beq h with ⟨rfl, rfl⟩ | ⟨a, b, rfl, rfl, hequal⟩
  · exact .ok hlist
  · cases a <;> cases b <;> first | contradiction | exact .ok hlist | exact .ok (pushTo_beq hitem h)

theorem popFrom_beq (wanted : Value) {a b : Value} (h : (a == b) = true) :
    (popFrom wanted a == popFrom wanted b) = true := by
  cases a with
  | map xs =>
    obtain ⟨ys, rfl, -⟩ := Value.exists_map_of_beq h
    rw [popFrom, popFrom]
    cases wanted.asString with
    | none => rfl
    | some key => exact Value.removeStep?_beq h (.key key)
  | list xs =>
    obtain ⟨ys, rfl, hitems⟩ := Value.exists_list_of_beq h
    rw [popFrom, popFrom, Value.positionOf?_congr hitems]
    cases positionOf? ys wanted with
    | none => rfl
    | some place => exact Value.equalItems_eraseIdx hitems place
  | _ => cases b <;> first | rfl | contradiction

theorem respects_popReaction (wanted : Value) : (popReaction wanted).Respects := by
  intro found other h
  apply SameAnswer.ok
  apply Value.bind_beq h
  intro a b hequal
  exact popFrom_beq wanted hequal

theorem replacement_congr {xs ys : List Value} (h : Value.equalItems xs ys = true)
    (index : Option Int64) (current : Option Value) :
    Replacement.of xs index current = Replacement.of ys index current := by
  have hposition : positionOf? xs = positionOf? ys := funext (Value.positionOf?_congr h)
  unfold Replacement.of
  rw [hposition, Value.length_eq_of_equalItems h]

section

variable {value : Value} {xs ys : List Value}

theorem ensure_beq (hvalue : value.hasNaN = false) (h : Value.equalItems xs ys = true) :
    (ensure xs value == ensure ys value) = true := by
  unfold ensure
  rw [Value.contains_congr h]
  split
  · rfl
  · exact Value.equalItems_append h (Value.beq_self hvalue)

theorem updatedList_beq (hvalue : value.hasNaN = false) (h : Value.equalItems xs ys = true)
    (place : Option Nat) : (updatedList xs value place == updatedList ys value place) = true := by
  cases place with
  | none => exact ensure_beq hvalue h
  | some place =>
    have hplace : xs[place]?.all (· == value) = ys[place]?.all (· == value) := by
      rcases Value.cases_of_option_beq (Value.getElem?_beq_of_equalItems h place) with
        ⟨hx, hy⟩ | ⟨x, y, hx, hy, hequal⟩
      · rw [hx, hy]
      · rw [hx, hy]
        exact Value.beq_congr hequal value
    rw [updatedList, updatedList, hplace]
    split
    · exact ensure_beq hvalue h
    · exact Value.equalItems_set h place (Value.beq_self hvalue)

end

theorem updated_sameAnswer (text : String) {value : Value} (hvalue : value.hasNaN = false)
    (index : Option Int64) (current : Option Value) {a b : Value} (h : (a == b) = true) :
    SameAnswer (updated text value index current a) (updated text value index current b) := by
  cases a with
  | map xs =>
    obtain ⟨ys, rfl, hfields⟩ := Value.exists_map_of_beq h
    cases value with
    | map incoming => exact .ok (Value.equalFields_merge hfields hvalue)
    | _ => exact .error _
  | list xs =>
    obtain ⟨ys, rfl, hitems⟩ := Value.exists_list_of_beq h
    rw [updated, updated, replacement_congr hitems]
    cases Replacement.of ys index current with
    | noneWanted => exact .ok (updatedList_beq hvalue hitems none)
    | notThere => exact .ok rfl
    | outOfRange i =>
      rw [Value.length_eq_of_equalItems hitems]
      exact .error _
    | «at» place => exact .ok (updatedList_beq hvalue hitems (some place))
  | _ => cases b <;> first | exact .ok rfl | contradiction

theorem respects_updateReaction (text : String) {value : Value} (hvalue : value.hasNaN = false)
    (index : Option Int64) (current : Option Value) :
    (updateReaction text value index current).Respects := by
  intro found other h
  rcases Value.cases_of_option_beq h with ⟨rfl, rfl⟩ | ⟨a, b, rfl, rfl, hequal⟩
  · exact .ok rfl
  · exact updated_sameAnswer text hvalue index current hequal

theorem respects_removeChange : removeChange.Respects := by
  intro path a b h
  unfold removeChange
  apply SameAnswer.ok
  cases path.getLast? with
  | none => exact Value.clear?_beq h
  | some last =>
    apply Value.modify?_beq _ h
    intro old other hold
    exact Value.removeStep?_beq hold last

/-! ### Equal documents -/

/-- The edits that look at nothing but the root and put nothing with NaN there. Creating a document
also asks for its file. -/
def Operation.Plain : Operation → Prop
  | .put _ value | .append _ value | .update _ value _ _ => value.hasNaN = false
  | .apply edit => edit.value.hasNaN = false
  | .remove _ | .pop _ _ => True
  | .create _ _ _ => False

section

variable {a b : Document}

theorem parsePath_congr (hseparator : a.separator = b.separator) (text : String) :
    a.parsePath text = b.parsePath text := by
  rw [parsePath, parsePath, hseparator]

theorem lookup_sameAnswer (hseparator : a.separator = b.separator)
    (hroot : (a.root == b.root) = true) (text : String) :
    SameAnswer (a.lookup text) (b.lookup text) := by
  rw [lookup, lookup, parsePath_congr hseparator]
  cases b.parsePath text with
  | error e => exact .error e
  | ok path => exact .ok (Value.lookup_beq hroot path)

theorem changeAt_sameAnswer (hseparator : a.separator = b.separator)
    (hroot : (a.root == b.root) = true) (text : String) {change : Change}
    (hchange : change.Respects) : SameAnswer (a.changeAt text change) (b.changeAt text change) := by
  rw [changeAt, changeAt, parsePath_congr hseparator]
  cases b.parsePath text with
  | error e => exact .error e
  | ok path => exact hchange path a.root b.root hroot

theorem Operation.change_sameAnswer (hseparator : a.separator = b.separator)
    (hroot : (a.root == b.root) = true) {operation : Operation} (hplain : operation.Plain) :
    SameAnswer (operation.change a) (operation.change b) := by
  have hreacts (text : String) {change : Change} {reaction : Reaction}
      (hchange : change = reaction.change) (h : reaction.Respects) :
      SameAnswer (a.changeAt text change) (b.changeAt text change) :=
    changeAt_sameAnswer hseparator hroot text (hchange ▸ h.change)
  cases operation with
  | put text value => exact hreacts text (putChange_eq value) (respects_putReaction hplain)
  | create => contradiction
  | append text item => exact hreacts text (appendChange_eq item) (respects_appendReaction hplain)
  | update text value index current =>
    exact hreacts text (updateChange_eq text value index current)
      (respects_updateReaction text hplain index current)
  | remove text => exact changeAt_sameAnswer hseparator hroot text respects_removeChange
  | pop text wanted => exact hreacts text (popChange_eq wanted) (respects_popReaction wanted)
  | apply edit =>
    have hvalue : edit.value.hasNaN = false := hplain
    rw [change, change]
    cases edit.action with
    | put => exact hreacts edit.key (putChange_eq _) (respects_putReaction hvalue)
    | append => exact hreacts edit.key (appendChange_eq _) (respects_appendReaction hvalue)
    | update =>
      exact hreacts edit.key (updateChange_eq _ _ _ _)
        (respects_updateReaction edit.key hvalue edit.index edit.current)

theorem includes_congr {entry other : Value} (h : (entry == other) = true) (value : Value) :
    includes entry value = includes other value := by
  cases entry with
  | list xs =>
    obtain ⟨ys, rfl, hitems⟩ := Value.exists_list_of_beq h
    exact Value.contains_congr hitems value
  | map xs =>
    obtain ⟨ys, rfl, hfields⟩ := Value.exists_map_of_beq h
    cases value with
    | map wanted =>
      change wanted.all _ = wanted.all _
      congr 1
      funext entry
      exact Value.some_beq_congr (Value.get?_beq_of_equalFields hfields entry.1) entry.2
    | string key => exact Value.contains_key_congr hfields key
    | _ => rfl
  | _ => cases other <;> first | exact Value.beq_congr h value | contradiction

theorem contains_document_congr (hseparator : a.separator = b.separator)
    (hroot : (a.root == b.root) = true) (text : String) (value : Value) :
    a.contains text value = b.contains text value := by
  rw [Document.contains, Document.contains, lookup, lookup, parsePath_congr hseparator]
  cases b.parsePath text with
  | error e => rfl
  | ok path =>
    apply congrArg Except.ok
    rcases Value.cases_of_option_beq (Value.lookup_beq hroot path) with
      ⟨hx, hy⟩ | ⟨x, y, hx, hy, hequal⟩
    · rw [hx, hy]
    · rw [hx, hy]
      exact includes_congr hequal value

/-- Equal decisions are reported alike, and carried out they leave equal roots. -/
theorem Operation.after_sameAnswer (hroot : (a.root == b.root) = true) {operation : Operation}
    (h : SameAnswer (operation.change a) (operation.change b)) :
    operation.answer a = operation.answer b ∧
      ((operation.after a).root == (operation.after b).root) = true := by
  generalize hx : operation.change a = x at h
  generalize hy : operation.change b = y at h
  have hone : operation.answer a = x.map Option.isSome := by rw [answer_eq, hx]
  have htwo : operation.answer b = y.map Option.isSome := by rw [answer_eq, hy]
  have hstays (hnot : x.map Option.isSome ≠ .ok true)
      (hsame : x.map Option.isSome = y.map Option.isSome) :
      ((operation.after a).root == (operation.after b).root) = true := by
    rw [after_of_answer_ne (hone ▸ hnot), after_of_answer_ne (htwo ▸ hsame ▸ hnot)]
    exact hroot
  rw [hone, htwo]
  cases h with
  | error e => exact ⟨rfl, hstays nofun rfl⟩
  | ok h =>
    rcases Value.cases_of_option_beq h with ⟨rfl, rfl⟩ | ⟨root, root', rfl, rfl, hequal⟩
    · exact ⟨rfl, hstays nofun rfl⟩
    · rw [after_of_change hx, after_of_change hy]
      exact ⟨rfl, hequal⟩

/-- Equal documents answer every question alike, and every edit answers alike in both and leaves
equal documents. -/
theorem equal_documents (hseparator : a.separator = b.separator)
    (hroot : (a.root == b.root) = true) :
    (∀ text, SameAnswer (a.lookup text) (b.lookup text)) ∧
      (∀ text value, a.contains text value = b.contains text value) ∧
      ∀ operation : Operation, operation.Plain →
        operation.answer a = operation.answer b ∧
          ((operation.after a).root == (operation.after b).root) = true := by
  refine ⟨lookup_sameAnswer hseparator hroot, contains_document_congr hseparator hroot, ?_⟩
  intro operation hplain
  exact Operation.after_sameAnswer hroot (Operation.change_sameAnswer hseparator hroot hplain)

/-- A port held as an integer and as a floating point number, and replaced in both documents. -/
theorem equal_documents_of_ports :
    let whole : Document := { root := .map [("ports", .list [.int 80])] }
    let point : Document := { root := .map [("ports", .list [.float ⟨0x4054000000000000⟩])] }
    let replaced : Operation := .update "ports" (.int 443) none (some (.int 80))
    whole.separator = point.separator ∧ (whole.root == point.root) = true ∧ replaced.Plain ∧
      SameAnswer (whole.lookup "ports[0]") (point.lookup "ports[0]") ∧
      whole.contains "ports" (.int 80) = point.contains "ports" (.int 80) ∧
      replaced.answer whole = .ok true ∧ replaced.answer point = .ok true ∧
      ((replaced.after whole).root == (replaced.after point).root) = true := by
  intro whole point replaced
  have hroot : (whole.root == point.root) = true := by decide +kernel
  have hpath : Path.parse "ports" .dot = .ok [.key "ports"] := by decide +kernel
  have hchange : replaced.change whole = .ok (some (.map [("ports", .list [.int 443])])) := by
    rw [Operation.change, changeAt, parsePath, hpath]
    rfl
  have hanswer : replaced.answer whole = .ok true := by
    rw [Operation.answer_eq, hchange]
    rfl
  have hseparator : whole.separator = point.separator := rfl
  obtain ⟨hlookup, hcontains, hedits⟩ := equal_documents hseparator hroot
  obtain ⟨hsame, hequal⟩ := hedits replaced rfl
  exact ⟨rfl, hroot, rfl, hlookup "ports[0]", hcontains "ports" (.int 80), hanswer,
    hsame.symm.trans hanswer, hequal⟩

end

end Document

end ClusterRouter
