import ClusterRouter.Manifest.DeploymentConfig
import ClusterRouter.Proofs.Document.Modification
import ClusterRouter.Proofs.Path.Composition

/-!
# Entries of lists

The views of manifests read and edit lists of entries. The path text of a field of a list's item
leads to that field, and a put there changes nothing but that item. Equal documents have equal
lists, with the entries of a name at the same places.
-/

namespace ClusterRouter

open Document (Reaches)

/-! ### Paths to the fields of items -/

/-- A position behind the text of a path. -/
theorem parse_itemPath {text : String} {separator : Separator} {base : Path}
    (h : Path.parse text separator = .ok base) (place : Nat) :
    Path.parse (itemPath text place) separator = .ok (base ++ [.index (Path.saturate place)]) := by
  have htext : itemPath text place =
      text ++ String.ofList (Path.Token.index false (Text.ofNat place)).text := by
    rw [← String.toList_inj]
    simp [itemPath, Path.Token.text, Path.sign]
  rw [htext, Path.parse_push_token h (Path.Token.wellFormed_ofNat separator false place) rfl,
    Path.Token.segment, Path.indexOf_ofNat]

/-- A position and a name behind the text of a path. -/
theorem parse_itemPath_name {text name : String} {separator : Separator} {base : Path}
    (h : Path.parse text separator = .ok base) (place : Nat) (hne : name ≠ "")
    (hname : ∀ c ∈ name.toList, Path.IsKeyCharacter separator c) :
    Path.parse (itemPath text place ++ separator.char.toString ++ name) separator =
      .ok (base ++ [.index (Path.saturate place), .key name]) := by
  have hlast : (itemPath text place).toList.getLast? = some ']' := by
    rw [itemPath, String.toList_append]
    exact List.getLast?_concat
  have hnonempty : itemPath text place ≠ "" := by
    rintro hempty
    simp [hempty] at hlast
  have hbracket : (itemPath text place).toList.getLast? ≠ some separator.char := by
    rw [hlast]
    cases separator <;> decide
  rw [Path.parse_joined (parse_itemPath h place) hnonempty hbracket (Path.parse_name hne hname)]
  exact congrArg Except.ok (List.append_assoc _ _ _)

/-- The field of an item of the list at a path. -/
def fieldPath (base : Path) (place : Nat) (name : String) : Path :=
  base ++ [.index (Path.saturate place), .key name]

/-! ### Fields of items -/

namespace Value

/-- A map of which one field is set and all others are as they were. -/
structure FieldSet (name : String) (value old new : Value) : Prop where
  isMap : new.asMap.isSome = true
  set : new.field? name = some value
  others : ∀ key, key ≠ name → new.field? key = old.field? key

/-- A map with a field set to a value, unless an equal one is there. -/
def setField? (name : String) (value : Value) : Value → Option Value
  | .map fields =>
    if Fields.get? fields name == some value then none
    else some (.map (Fields.insert fields name value))
  | _ => none

def withField (name : String) (value found : Value) : Value :=
  (setField? name value found).getD found

theorem wellFormed_withField {name : String} {value found : Value} (hvalue : value.WellFormed)
    (hfound : found.WellFormed) : (withField name value found).WellFormed := by
  unfold withField setField?
  split
  · split
    · exact hfound
    · exact ⟨Fields.ascending_insert hfound.1 name value,
        fieldsWellFormed_insert hfound.2 name hvalue⟩
  · exact hfound

/-- Setting a field to the value that it has changes nothing. -/
theorem withField_of_field? {name : String} {value found : Value}
    (h : (found.field? name == some value) = true) : withField name value found = found := by
  cases found <;> try rfl
  case map fields =>
    have hequal : (Fields.get? fields name == some value) = true := h
    rw [withField, setField?, if_pos hequal, Option.getD_none]

/-- A map in which a field was set has a value there that is or equals the one that was set, and
its other entries. -/
theorem exists_withField (name : String) (value : Value) (fields : Fields) :
    ∃ after set, withField name value (.map fields) = .map after ∧
      Fields.get? after name = some set ∧ (set = value ∨ (set == value) = true) ∧
      ∀ key, key ≠ name → Fields.get? after key = Fields.get? fields key := by
  rw [withField, setField?]
  split
  · next hequal =>
    rcases cases_of_option_beq hequal with ⟨-, hnone⟩ | ⟨set, other, hset, hother, hsame⟩
    · contradiction
    · cases hother
      exact ⟨fields, set, rfl, hset, .inr hsame, fun _ _ ↦ rfl⟩
  · exact ⟨_, value, rfl, Fields.get?_insert_self _ _ _, .inl rfl,
      fun key hkey ↦ Fields.get?_insert_of_ne hkey _ _⟩

/-- A change of the items of a list, as long as indices reach them all. -/
def onItems (f : List Value → List Value) : Value → Value
  | .list items =>
    if (items.length : Int) ≤ Int64.maxValue.toInt then .list (f items) else .list items
  | other => other

theorem onItems_eq_self {f : List Value → List Value} {value : Value}
    (h : ∀ items, value = .list items → f items = items) : onItems f value = value := by
  unfold onItems
  split
  · rw [h _ rfl, ite_self]
  · rfl

theorem onItems_onItems {f g : List Value → List Value}
    (hlength : ∀ items, (f items).length = items.length) (value : Value) :
    onItems g (onItems f value) = onItems (g ∘ f) value := by
  cases value <;> try rfl
  case list items =>
    unfold onItems
    by_cases h : (items.length : Int) ≤ Int64.maxValue.toInt
    · have hsame : ((f items).length : Int) ≤ Int64.maxValue.toInt := by rwa [hlength]
      simp only [if_pos h, if_pos hsame, Function.comp_apply]
    · simp only [if_neg h]

theorem wellFormed_onItems {f : List Value → List Value} {value : Value}
    (hf : ∀ items, ItemsWellFormed items → ItemsWellFormed (f items)) (hvalue : value.WellFormed) :
    (onItems f value).WellFormed := by
  unfold onItems
  split
  · split
    · exact hf _ hvalue
    · exact hvalue
  · exact hvalue

end Value

/-- Every place of the list has an index, as in every list that memory holds. -/
def Indexable (items : List Value) : Prop := (items.length : Int) ≤ Int64.maxValue.toInt

instance (items : List Value) : Decidable (Indexable items) :=
  inferInstanceAs (Decidable ((items.length : Int) ≤ Int64.maxValue.toInt))

/-- A change of the items at a path where a list is. -/
theorem modifyRoot_onItems {document : Document} {base : Path} {items : List Value}
    (hwell : document.root.WellFormed) (hbase : document.root.lookup base = some (.list items))
    (f : List Value → List Value) :
    document.modifyRoot (Value.onItems f) base =
      if Indexable items then document.modifyRoot (fun _ ↦ .list (f items)) base else document := by
  split
  · next hlength =>
    apply Document.modifyRoot_congr
    intro found hfound
    cases hbase.symm.trans hfound
    exact if_pos hlength
  · next hlength =>
    apply Document.modifyRoot_eq_self hwell
    intro found hfound
    cases hbase.symm.trans hfound
    exact if_neg hlength

section

variable {base : Path} {place : Nat} {name : String} {root : Value} {items : List Value}

theorem resolveIndex_indexable (hlt : place < items.length) :
    resolveIndex (Path.saturate place) items.length =
      if Indexable items then some place else none :=
  Path.resolveIndex_saturate hlt

/-- What is found behind an item, if an index reaches it. -/
theorem lookup_behind_item (hbase : root.lookup base = some (.list items))
    (hlt : place < items.length) (rest : Path) :
    root.lookup (base ++ .index (Path.saturate place) :: rest) =
      if Indexable items then items[place].lookup rest else none := by
  rw [Value.lookup_append, hbase, Option.bind_some, Value.lookup_cons, Value.child?,
    resolveIndex_indexable hlt]
  split
  · rw [Option.bind_some, List.getElem?_eq_getElem hlt, Option.bind_some]
  · rfl

/-- What a change behind an item makes of the root. -/
theorem modify?_behind_item (hbase : root.lookup base = some (.list items))
    (hlt : place < items.length) (rest : Path) (f : Value → Option Value) :
    root.modify? f (base ++ .index (Path.saturate place) :: rest) =
      if Indexable items then
        (items[place].modify? f rest).map fun new ↦
          root.modify (fun _ ↦ .list (items.set place new)) base
      else none := by
  have hresolve := resolveIndex_indexable hlt
  rw [Value.modify?_append, Value.modify?_of_lookup hbase, Value.modify?_cons, Value.child?,
    hresolve]
  by_cases hlength : Indexable items
  · rw [if_pos hlength] at hresolve
    simp only [if_pos hlength, Option.bind_some, List.getElem?_eq_getElem hlt, Option.map_map,
      Function.comp_def, Value.setChild_index hresolve]
  · simp only [if_neg hlength]
    rfl

/-- What a put behind an item makes of the root. -/
theorem putChange_behind_item (hbase : root.lookup base = some (.list items))
    (hlt : place < items.length) (rest : Path) (value : Value) :
    Document.putChange value (base ++ .index (Path.saturate place) :: rest) root =
      .ok (if Indexable items then
        if items[place].lookup rest == some value then none
        else (items[place].create? rest value).map fun new ↦
          root.modify (fun _ ↦ .list (items.set place new)) base
      else none) := by
  -- creating goes through a list as a change does
  have hcreate : root.create? (base ++ .index (Path.saturate place) :: rest) value =
      root.modify? (fun item ↦ item.create? rest value) (base ++ [.index (Path.saturate place)]) := by
    rw [Value.create?_append hbase rfl, Value.modify?_append, Value.modify?_of_lookup hbase,
      Value.modify?_of_lookup hbase, Value.create?_cons, Value.modify?_cons]
    simp only [Value.childOrMap?, Value.child?, Value.modify?_nil]
  rw [Document.putChange, lookup_behind_item hbase hlt, hcreate, modify?_behind_item hbase hlt,
    Value.modify?_nil]
  by_cases hlength : Indexable items
  · simp only [if_pos hlength]
  · simp only [if_neg hlength]
    rfl

theorem setField?_eq (name : String) (value found : Value) :
    Value.setField? name value found =
      if found.lookup [.key name] == some value then none else found.create? [.key name] value := by
  rw [Value.lookup_key]
  cases found <;> rfl

/-- What a put at a field of an item makes of the root. -/
theorem putChange_fieldPath (hbase : root.lookup base = some (.list items))
    (hlt : place < items.length) (value : Value) :
    Document.putChange value (fieldPath base place name) root =
      .ok (if (items.length : Int) ≤ Int64.maxValue.toInt then
        (Value.setField? name value items[place]).map fun new ↦
          root.modify (fun _ ↦ .list (items.set place new)) base
      else none) := by
  rw [fieldPath, putChange_behind_item hbase hlt, setField?_eq]
  refine congrArg Except.ok (ite_congr rfl (fun _ ↦ ?_) fun _ ↦ rfl)
  split <;> rfl

variable {text : String} {document : Document}

/-- Putting a value behind an item where an equal one is does nothing. -/
theorem put_run_behind_item {rest : Path} {value : Value}
    (hpath : document.parsePath text = .ok (base ++ .index (Path.saturate place) :: rest))
    (hbase : document.root.lookup base = some (.list items)) (hlt : place < items.length)
    (hequal : Indexable items → (items[place].lookup rest == some value) = true) :
    (Document.put text value).run document = .ok false document := by
  rw [Document.put_run, Document.changeAt_of_parsePath hpath, putChange_behind_item hbase hlt]
  split
  · next hlength =>
    rw [if_pos (hequal hlength)]
    rfl
  · rfl

/-- Putting a field of an item sets that field, if indices reach the item. -/
theorem reaches_putField (hpath : document.parsePath text = .ok (fieldPath base place name))
    (hwell : document.root.WellFormed) (hbase : document.root.lookup base = some (.list items))
    (hlt : place < items.length) (value : Value) :
    Reaches (Document.put text value) document
      (· = document.modifyRoot (Value.onItems (·.modify place (Value.withField name value))) base) := by
  have hrun := Document.put_run document text value
  rw [Document.changeAt_of_parsePath hpath, putChange_fieldPath hbase hlt] at hrun
  have hchange : Value.onItems (·.modify place (Value.withField name value)) (.list items) =
      if (items.length : Int) ≤ Int64.maxValue.toInt then
        .list (items.set place (Value.withField name value items[place])) else .list items := by
    rw [Value.onItems, List.modify_eq_set_getElem?, List.getElem?_eq_getElem hlt]
    rfl
  have hsame (h : Value.onItems (·.modify place (Value.withField name value)) (.list items) =
      .list items) :
      document = document.modifyRoot
        (Value.onItems (·.modify place (Value.withField name value))) base := by
    symm
    apply Document.modifyRoot_eq_self hwell
    intro found hfound
    cases hbase.symm.trans hfound
    exact h
  by_cases hlength : (items.length : Int) ≤ Int64.maxValue.toInt
  · rw [if_pos hlength] at hrun hchange
    cases hset : Value.setField? name value items[place] with
    | none =>
      rw [Value.withField, hset, Option.getD_none, List.set_getElem_self] at hchange
      rw [hset] at hrun
      exact ⟨false, document, hrun, hsame hchange⟩
    | some new =>
      rw [Value.withField, hset, Option.getD_some] at hchange
      rw [hset] at hrun
      refine ⟨true, _, hrun, ?_⟩
      apply Document.modifyRoot_congr
      intro found hfound
      cases hbase.symm.trans hfound
      exact hchange.symm
  · rw [if_neg hlength] at hrun hchange
    exact ⟨false, document, hrun, hsame hchange⟩

end

/-! ### Lists of documents -/

theorem listAt_of_parsePath {document : Document} {text : String} {base : Path}
    (h : document.parsePath text = .ok base) :
    listAt document text = ((document.root.lookup base).bind Value.asList).getD [] := by
  rw [listAt, Document.lookup_of_parsePath h]
  cases document.root.lookup base with
  | none => rfl
  | some found => cases found <;> rfl

theorem listAt_eq {text : String} {base : Path} (h : Path.parse text .dot = .ok base)
    {document : Document} (hdot : document.separator = .dot) :
    listAt document text = ((document.root.lookup base).bind Value.asList).getD [] :=
  listAt_of_parsePath (Document.parsePath_of_parse (hdot ▸ h))

theorem itemsWellFormed_listAt {document : Document} (h : document.root.WellFormed)
    (text : String) : Value.ItemsWellFormed (listAt document text) := by
  unfold listAt
  split
  · next items hitems =>
    obtain ⟨path, -, hentry⟩ := Document.exists_path_of_lookup hitems
    exact Value.wellFormed_of_lookup h hentry
  · trivial

/-- A list that has an item is there. -/
theorem lookup_of_getElem?_listAt {text : String} {base : Path}
    (h : Path.parse text .dot = .ok base) {document : Document} (hdot : document.separator = .dot)
    {place : Nat} {item : Value} (hitem : (listAt document text)[place]? = some item) :
    document.root.lookup base = some (.list (listAt document text)) := by
  rw [listAt_eq h hdot] at hitem ⊢
  cases hbase : document.root.lookup base with
  | none =>
    rw [hbase] at hitem
    contradiction
  | some found =>
    rw [hbase] at hitem
    cases found <;> first | rfl | contradiction

/-- What an index behind the path of a list leads to is one of its items. -/
theorem mem_listAt_of_lookup {text : String} {base : Path} (h : Path.parse text .dot = .ok base)
    {document : Document} (hdot : document.separator = .dot) {i : Int64} {item : Value}
    (hitem : document.root.lookup (base ++ [.index i]) = some item) :
    item ∈ listAt document text := by
  obtain ⟨items, place, found, hbase, -, hget, hnil⟩ := Value.lookup_item_iff.mp hitem
  cases (Value.lookup_nil found).symm.trans hnil
  rw [listAt_eq h hdot, hbase]
  exact List.mem_of_getElem? hget

theorem parsePath_field {text name field : String} {base : Path}
    (h : Path.parse text .dot = .ok base) {document : Document} (hdot : document.separator = .dot)
    (place : Nat) (hfield : field = Separator.dot.char.toString ++ name) (hne : name ≠ "")
    (hname : name.toList.all (Path.isKeyChar .dot) = true) :
    document.parsePath (itemPath text place ++ field) = .ok (fieldPath base place name) := by
  have hkey : ∀ c ∈ name.toList, Path.IsKeyCharacter .dot c := fun c hc ↦
    Path.isKeyChar_iff.mp (List.all_eq_true.mp hname c hc)
  rw [hfield, ← String.append_assoc]
  exact Document.parsePath_of_parse (hdot ▸ parse_itemPath_name h place hne hkey)

theorem parsePath_item {text : String} {base : Path} (h : Path.parse text .dot = .ok base)
    {document : Document} (hdot : document.separator = .dot) (place : Nat) :
    document.parsePath (itemPath text place) = .ok (base ++ [.index (Path.saturate place)]) :=
  Document.parsePath_of_parse (hdot ▸ parse_itemPath h place)

/-- A change of the items at the path of a list is a change of the list. -/
theorem listAt_modifyRoot_onItems {text : String} {base : Path}
    (h : Path.parse text .dot = .ok base) {document : Document} (hdot : document.separator = .dot)
    {f : List Value → List Value} (hnil : f [] = [])
    (hlength : Indexable (listAt document text)) :
    listAt (document.modifyRoot (Value.onItems f) base) text = f (listAt document text) := by
  have hafter : (document.modifyRoot (Value.onItems f) base).separator = .dot := hdot
  rw [listAt_eq h hdot] at hlength ⊢
  rw [listAt_eq h hafter, Document.modifyRoot, Value.lookup_modify]
  cases hbase : document.root.lookup base with
  | none => exact hnil.symm
  | some found =>
    rw [hbase] at hlength
    cases found <;> try exact hnil.symm
    case list items =>
      have hitems : (items.length : Int) ≤ Int64.maxValue.toInt := hlength
      rw [Option.map_some, Value.onItems, if_pos hitems]
      rfl

/-- A list that is put in place of what is found at its path. -/
theorem listAt_modifyRoot_list {text : String} {base : Path} (h : Path.parse text .dot = .ok base)
    {document : Document} (hdot : document.separator = .dot) {found : Value}
    (hbase : document.root.lookup base = some found) (items : List Value) :
    listAt (document.modifyRoot (fun _ ↦ .list items) base) text = items := by
  have hafter : (document.modifyRoot (fun _ ↦ .list items) base).separator = .dot := hdot
  rw [listAt_eq h hafter, Document.modifyRoot, Value.lookup_modify, hbase]
  rfl

/-- A change behind one key of a part leaves a list behind another one. -/
theorem listAt_modifyRoot_of_ne {text name next : String} (base rest : Path) {others : Path}
    (h : Path.parse text .dot = .ok (base ++ .key next :: others)) {document : Document}
    (hdot : document.separator = .dot) (hne : name ≠ next) (f : Value → Value) :
    listAt (document.modifyRoot f (base ++ .key name :: rest)) text = listAt document text := by
  have hafter : (document.modifyRoot f (base ++ .key name :: rest)).separator = .dot := hdot
  rw [listAt_eq h hafter, listAt_eq h hdot, Document.modifyRoot, Value.lookup_modify_of_ne hne]

/-- The lists of equal documents are equal. -/
theorem equalItems_listAt {text : String} {base : Path} (h : Path.parse text .dot = .ok base)
    {a b : Document} (ha : a.separator = .dot) (hb : b.separator = .dot)
    (hequal : (a.root == b.root) = true) :
    Value.equalItems (listAt a text) (listAt b text) = true := by
  rw [listAt_eq h ha, listAt_eq h hb]
  rcases Value.cases_of_option_beq (Value.lookup_beq hequal base) with
    ⟨ha, hb⟩ | ⟨found, other, ha, hb, hfound⟩
  · rw [ha, hb]
    rfl
  · rw [ha, hb]
    cases found <;> cases other <;> first | exact hfound | rfl | contradiction

theorem entryName_congr {a b : Value} (h : (a == b) = true) : entryName a = entryName b :=
  Value.asString_field?_congr h "name"

/-- In equal lists, what has a name stands at the same place. -/
theorem find?_hasName_of_findIdx? {xs ys : List Value} (h : Value.equalItems xs ys = true)
    {name : String} {place : Nat} (hplace : xs.findIdx? (hasName name) = some place) :
    ∃ x y, xs[place]? = some x ∧ ys.find? (hasName name) = some y ∧ (x == y) = true := by
  induction xs generalizing ys place with
  | nil => contradiction
  | cons x xs ih => cases ys with
    | nil => contradiction
    | cons y ys =>
      obtain ⟨hhead, htail⟩ := Value.equalItems_cons.mp h
      have hname : hasName name y = hasName name x := by
        rw [hasName, hasName, entryName_congr hhead]
      rw [List.findIdx?_cons] at hplace
      cases hfound : hasName name x with
      | true =>
        rw [hfound, if_pos rfl] at hplace
        cases hplace
        exact ⟨x, y, rfl, List.find?_cons_of_pos (hname.trans hfound), hhead⟩
      | false =>
        rw [hfound, if_neg Bool.false_ne_true] at hplace
        obtain ⟨earlier, hearlier, rfl⟩ := Option.map_eq_some_iff.mp hplace
        obtain ⟨x', y', hx, hy, hequal⟩ := ih htail hearlier
        refine ⟨x', y', hx, ?_, hequal⟩
        rw [List.find?_cons_of_neg (by rw [hname, hfound]; exact Bool.false_ne_true), hy]

namespace DeploymentConfig

def envSteps : Path :=
  [.key "spec", .key "template", .key "spec", .key "containers", .index 0, .key "env"]

def portsSteps : Path :=
  [.key "spec", .key "template", .key "spec", .key "containers", .index 0, .key "ports"]

def volumesSteps : Path := [.key "spec", .key "template", .key "spec", .key "volumes"]

def volumeMountsSteps : Path :=
  [.key "spec", .key "template", .key "spec", .key "containers", .index 0, .key "volumeMounts"]

theorem parse_envPath : Path.parse envPath .dot = .ok envSteps := by decide +kernel

theorem parse_portsPath : Path.parse portsPath .dot = .ok portsSteps := by decide +kernel

theorem parse_volumesPath : Path.parse volumesPath .dot = .ok volumesSteps := by decide +kernel

theorem parse_volumeMountsPath : Path.parse volumeMountsPath .dot = .ok volumeMountsSteps := by
  decide +kernel

theorem parsePath_envValue {document : Document} (hdot : document.separator = .dot) (place : Nat) :
    document.parsePath (itemPath envPath place ++ ".value") =
      .ok (fieldPath envSteps place "value") :=
  parsePath_field parse_envPath hdot place rfl (by decide) (by decide)

/-- Setting a variable succeeds on every document. -/
theorem updateEnvVar_succeeds (name : String) (value : Value) {document : Document}
    (hdot : document.separator = .dot) :
    Reaches (updateEnvVar name value) document fun after ↦ after.separator = .dot := by
  apply Document.reaches_get
  cases placeOfName? document envPath name with
  | some place => exact Document.reaches_put (parsePath_envValue hdot place) hdot fun _ _ _ ↦ hdot
  | none =>
    have hpath : document.parsePath envPath = .ok envSteps :=
      Document.parsePath_of_parse (hdot ▸ parse_envPath)
    exact Document.reaches_append hpath fun _ ↦ hdot

/-- Setting a variable to the value that it has in an equal document changes nothing. -/
theorem updateEnvVar_of_equal {live document : Document} {name : String} {value : Value}
    (hlive : live.separator = .dot) (hdot : document.separator = .dot)
    (hequal : (document.root == live.root) = true) (hkey : hasEnvKey document name = true)
    (hvalue : envValue? live name = some value) :
    Reaches (updateEnvVar name value) document (· = document) := by
  obtain ⟨place, hplace⟩ := Option.isSome_iff_exists.mp hkey
  obtain ⟨x, y, hx, hy, hxy⟩ :=
    find?_hasName_of_findIdx? (equalItems_listAt parse_envPath hdot hlive hequal) hplace
  have hbase := lookup_of_getElem?_listAt parse_envPath hdot hx
  have hfield : (x.field? "value" == some value) = true := by
    rw [envValue?, findNamed?, hy, Option.bind_some] at hvalue
    rw [← hvalue]
    exact Value.field?_beq hxy "value"
  obtain ⟨hlt, hitem⟩ := List.getElem?_eq_some_iff.mp hx
  have hset : ((listAt document envPath)[place].lookup [.key "value"] == some value) = true := by
    rwa [hitem, Value.lookup_key]
  apply Document.reaches_get
  rw [hplace]
  exact ⟨false, document,
    put_run_behind_item (parsePath_envValue hdot place) hbase hlt fun _ ↦ hset, rfl⟩

/-- The variables with the value of the first one of a name set. -/
def withVariable (name : String) (value : Value) (entries : List Value) : List Value :=
  entries.modify (entries.findIdx (hasName name)) (Value.withField "value" value)

theorem itemsWellFormed_withVariable {name : String} {value : Value} {entries : List Value}
    (hvalue : value.WellFormed) (h : Value.ItemsWellFormed entries) :
    Value.ItemsWellFormed (withVariable name value entries) :=
  Value.itemsWellFormed_modify h _ fun _ ↦ Value.wellFormed_withField hvalue

theorem wellFormed_of_envValue? {document : Document} {name : String} {value : Value}
    (hwell : document.root.WellFormed) (h : envValue? document name = some value) :
    value.WellFormed := by
  obtain ⟨entry, hentry, hvalue⟩ := Option.bind_eq_some_iff.mp h
  have hformed : entry.WellFormed :=
    Value.itemsWellFormed_iff.mp (itemsWellFormed_listAt hwell envPath) entry
      (List.mem_of_find?_eq_some hentry)
  cases entry <;> try contradiction
  case map fields => exact Value.WellFormed.get? hformed.2 hvalue

/-- Setting a variable that is there changes the list of variables and nothing else. -/
theorem updateEnvVar_effect {document : Document} {name : String} (hdot : document.separator = .dot)
    (hwell : document.root.WellFormed) (hkey : hasEnvKey document name = true) (value : Value) :
    Reaches (updateEnvVar name value) document
      (· = document.modifyRoot (Value.onItems (withVariable name value)) envSteps) := by
  obtain ⟨place, hplace⟩ := Option.isSome_iff_exists.mp hkey
  obtain ⟨hlt, hfirst⟩ := List.findIdx?_eq_some_iff_findIdx_eq.mp hplace
  have hbase : document.root.lookup envSteps = some (.list (listAt document envPath)) :=
    lookup_of_getElem?_listAt parse_envPath hdot (List.getElem?_eq_getElem hlt)
  obtain ⟨changed, after, hrun, rfl⟩ :=
    reaches_putField (parsePath_envValue hdot place) hwell hbase hlt value
  apply Document.reaches_get
  rw [hplace]
  refine ⟨changed, _, hrun, ?_⟩
  apply Document.modifyRoot_congr
  intro found hfound
  cases hbase.symm.trans hfound
  rw [Value.onItems, Value.onItems, withVariable, hfirst]

end DeploymentConfig

end ClusterRouter
