import ClusterRouter.Proofs.Document.Locality
import ClusterRouter.Proofs.Manifest.Entries

/-!
# Setting entries by name

Setting a variable, a volume or a mount changes the first entry of its name, or adds an entry at the
end of the list where none has the name. Nothing but the list changes, except that the list and maps
above it may be made. Once that is done, doing it again does nothing.
-/

namespace ClusterRouter

/-! ### Lists of named entries -/

/-- A list after an upsert: the first entry of the name is changed and all others stay in their
places, or no entry had the name and one is added at the end. -/
inductive Upserted (name : String) (change : Value → Value → Prop) (added : Value) :
    List Value → List Value → Prop where
  | changed {front back : List Value} {old new : Value}
      (hfront : ∀ entry ∈ front, hasName name entry = false) (hold : hasName name old = true)
      (hchange : change old new) :
      Upserted name change added (front ++ old :: back) (front ++ new :: back)
  | added {entries : List Value} (hnone : ∀ entry ∈ entries, hasName name entry = false) :
      Upserted name change added entries (entries ++ [added])

namespace Upserted

variable {name : String} {change other : Value → Value → Prop} {added : Value}
  {before after : List Value}

theorem imp (h : Upserted name change added before after)
    (himp : ∀ old new, hasName name old = true → change old new → other old new) :
    Upserted name other added before after := by
  cases h with
  | changed hfront hold hchange => exact .changed hfront hold (himp _ _ hold hchange)
  | added hnone => exact .added hnone

theorem of_place {place : Nat} {new : Value}
    (hplace : before.findIdx? (hasName name) = some place) (hlt : place < before.length)
    (hchange : change before[place] new) :
    Upserted name change added before (before.set place new) := by
  obtain ⟨_, hold, hfirst⟩ := List.findIdx?_eq_some_iff_getElem.mp hplace
  have hsplit : before.take place ++ before[place] :: before.drop (place + 1) = before := by
    rw [← List.drop_eq_getElem_cons hlt, List.take_append_drop]
  have hfront : ∀ entry ∈ before.take place, hasName name entry = false := by
    intro entry hentry
    obtain ⟨earlier, hearlier, rfl⟩ := List.mem_take_iff_getElem.mp hentry
    exact Bool.eq_false_of_not_eq_true (hfirst earlier (by omega))
  have hset : before.set place new = before.take place ++ new :: before.drop (place + 1) := by
    rw [List.set_eq_take_append_cons_drop, if_pos hlt]
  have hchanged : Upserted name change added
      (before.take place ++ before[place] :: before.drop (place + 1))
      (before.take place ++ new :: before.drop (place + 1)) := .changed hfront hold hchange
  rwa [hsplit, ← hset] at hchanged

/-- The first entry of the name is the one that was changed or added. -/
theorem exists_find? (h : Upserted name change added before after)
    (hkeeps : ∀ old new, hasName name old = true → change old new → hasName name new = true)
    (hadded : hasName name added = true) :
    ∃ entry, after.find? (hasName name) = some entry ∧
      (entry = added ∨ ∃ old, hasName name old = true ∧ change old entry) := by
  have hnot {front : List Value} (hfront : ∀ entry ∈ front, hasName name entry = false) :
      front.find? (hasName name) = none := by
    rw [List.find?_eq_none]
    exact fun entry hentry ↦ Bool.not_eq_true _ ▸ hfront entry hentry
  cases h with
  | @changed front back old new hfront hold hchange =>
    have hnew := hkeeps old new hold hchange
    refine ⟨new, ?_, .inr ⟨old, hold, hchange⟩⟩
    rw [List.find?_append, hnot hfront, Option.none_or, List.find?_cons_of_pos hnew]
  | added hnone =>
    refine ⟨added, ?_, .inl rfl⟩
    rw [List.find?_append, hnot hnone, Option.none_or, List.find?_cons_of_pos hadded]

end Upserted

/-! ### Edits that are done once -/

/-- An edit that succeeds. When it reports a change the assertion holds afterwards, else the
document is as it was, and doing it again does nothing. -/
def Settles (edit : Editing Bool) (document : Document) (post : Document → Prop) : Prop :=
  ∃ reported after, edit.run document = .ok reported after ∧
    (reported = true → post after) ∧ (reported = false → after = document) ∧
    edit.run after = .ok false after

theorem Settles.imp {edit : Editing Bool} {document : Document} {post other : Document → Prop}
    (h : Settles edit document post) (himp : ∀ after, post after → other after) :
    Settles edit document other := by
  obtain ⟨reported, after, hrun, hpost, hsame, hagain⟩ := h
  exact ⟨reported, after, hrun, fun hreported ↦ himp after (hpost hreported), hsame, hagain⟩

/-- What an edit that reports a change has come to. -/
theorem Settles.of_reportsChange {edit : Editing Bool} {document : Document}
    {post : Document → Prop} (h : Settles edit document post)
    (hreports : Document.reportsChange edit document = true) :
    ∃ after, edit.run document = .ok true after ∧ post after ∧ edit.run after = .ok false after := by
  obtain ⟨reported, after, hrun, hpost, -, hagain⟩ := h
  cases (Document.reportsChange_of_run hrun).symm.trans hreports
  exact ⟨after, hrun, hpost rfl, hagain⟩

/-! ### Upserts in documents -/

/-- Puts a value behind the first entry of a name, or adds an entry where none has the name. -/
def upsert (text behind name : String) (value added : Value) : Editing Bool := do
  match placeOfName? (← get) text name with
  | some place => Document.put (itemPath text place ++ behind) value
  | none => Document.append text added

section

variable {document : Document} {text : String} {base rest : Path}

/-- The two ways in which putting a value behind an item ends. -/
theorem put_run_behind_item_cases {place : Nat} {items : List Value} (value : Value)
    (hpath : document.parsePath text = .ok (base ++ .index (Path.saturate place) :: rest))
    (hbase : document.root.lookup base = some (.list items)) (hlt : place < items.length) :
    (Document.put text value).run document = .ok false document ∨
      ∃ new root, items[place].create? rest value = some new ∧
        document.root.create? base (.list (items.set place new)) = some root ∧
        (Document.put text value).run document = .ok true { document with root } := by
  have hrun := Document.put_run document text value
  rw [Document.changeAt_of_parsePath hpath, putChange_behind_item hbase hlt] at hrun
  split at hrun
  · split at hrun
    · exact .inl hrun
    · cases hnew : items[place].create? rest value with
      | none =>
        rw [hnew] at hrun
        exact .inl hrun
      | some new =>
        rw [hnew] at hrun
        exact .inr ⟨new, _, rfl, Value.create?_of_lookup hbase _, hrun⟩
  · exact .inl hrun

/-- The two ways in which an append ends. Where nothing or null is, the list counts as empty. -/
theorem append_run_cases (item : Value) (hparse : Path.parse text .dot = .ok base)
    (hdot : document.separator = .dot) :
    (Document.append text item).run document = .ok false document ∨
      ∃ root, document.root.create? base (.list (listAt document text ++ [item])) = some root ∧
        (Document.append text item).run document = .ok true { document with root } := by
  have hpath : document.parsePath text = .ok base := Document.parsePath_of_parse (hdot ▸ hparse)
  have hdecided : (Document.appendReaction item).change base document.root = .ok none ∨
      (Document.appendReaction item).change base document.root =
        .ok (document.root.create? base (.list (listAt document text ++ [item]))) := by
    rw [listAt_eq hparse hdot, Document.Reaction.change]
    cases document.root.lookup base with
    | none => exact .inr rfl
    | some found => cases found <;> first | exact .inr rfl | exact .inl rfl
  have hrun := Document.append_run document text item
  rw [Document.changeAt_of_parsePath hpath, Document.appendChange_eq] at hrun
  rcases hdecided with hnone | hcreate
  · rw [hnone] at hrun
    exact .inl hrun
  · rw [hcreate] at hrun
    cases hroot : document.root.create? base (.list (listAt document text ++ [item])) with
    | none =>
      rw [hroot] at hrun
      exact .inl hrun
    | some root =>
      rw [hroot] at hrun
      exact .inr ⟨root, rfl, hrun⟩

variable {behind name : String} {value added : Value}

theorem upsert_run :
    (upsert text behind name value added).run document =
      (match placeOfName? document text name with
        | some place => Document.put (itemPath text place ++ behind) value
        | none => Document.append text added : Editing Bool).run document := rfl

/-- The two ways in which an upsert ends. -/
theorem upsert_run_cases (hparse : Path.parse text .dot = .ok base)
    (hdot : document.separator = .dot)
    (hbehind : ∀ place, document.parsePath (itemPath text place ++ behind) =
      .ok (base ++ .index (Path.saturate place) :: rest)) :
    (upsert text behind name value added).run document = .ok false document ∨
      ∃ entries root, Upserted name (fun old new ↦ old.create? rest value = some new) added
          (listAt document text) entries ∧
        document.root.create? base (.list entries) = some root ∧
        (upsert text behind name value added).run document = .ok true { document with root } := by
  rw [upsert_run]
  cases hplace : placeOfName? document text name with
  | some place =>
    obtain ⟨hlt, -⟩ := List.findIdx?_eq_some_iff_getElem.mp hplace
    have hbase := lookup_of_getElem?_listAt hparse hdot (List.getElem?_eq_getElem hlt)
    refine (put_run_behind_item_cases value (hbehind place) hbase hlt).imp id ?_
    rintro ⟨new, root, hnew, hroot, hput⟩
    exact ⟨_, root, .of_place hplace hlt hnew, hroot, hput⟩
  | none =>
    refine (append_run_cases added hparse hdot).imp id ?_
    rintro ⟨root, hroot, happend⟩
    exact ⟨_, root, .added (List.findIdx?_eq_none_iff.mp hplace), hroot, happend⟩

/-- Where the first entry of the name has the value already, nothing happens. -/
theorem upsert_run_of_find? (hparse : Path.parse text .dot = .ok base)
    (hdot : document.separator = .dot)
    (hbehind : ∀ place, document.parsePath (itemPath text place ++ behind) =
      .ok (base ++ .index (Path.saturate place) :: rest))
    {entry : Value} (hentry : (listAt document text).find? (hasName name) = some entry)
    (hequal : (entry.lookup rest == some value) = true) :
    (upsert text behind name value added).run document = .ok false document := by
  obtain ⟨place, hplace⟩ : ∃ place, placeOfName? document text name = some place := by
    rw [← Option.isSome_iff_exists, placeOfName?, List.findIdx?_isSome, List.any_eq_true]
    exact ⟨entry, List.mem_of_find?_eq_some hentry, List.find?_some hentry⟩
  obtain ⟨hlt, hfirst⟩ := List.findIdx?_eq_some_iff_findIdx_eq.mp hplace
  have hbase := lookup_of_getElem?_listAt hparse hdot (List.getElem?_eq_getElem hlt)
  have hitem : (listAt document text)[place] = entry := by
    rw [List.find?_eq_getElem?_findIdx, hfirst, List.getElem?_eq_getElem hlt] at hentry
    exact Option.some.inj hentry
  rw [upsert_run, hplace]
  exact put_run_behind_item (hbehind place) hbase hlt fun _ ↦ hitem ▸ hequal

/-- An upsert settles: it succeeds, and once it has had its way it does nothing. -/
theorem upsert_settles (hparse : Path.parse text .dot = .ok base)
    (hdot : document.separator = .dot)
    (hbehind : ∀ current : Document, current.separator = .dot → ∀ place,
      current.parsePath (itemPath text place ++ behind) =
        .ok (base ++ .index (Path.saturate place) :: rest))
    (hvalue : value.hasNaN = false) (hadded : hasName name added = true)
    (hthere : added.lookup rest = some value)
    (hkeeps : ∀ old new, hasName name old = true → old.create? rest value = some new →
      hasName name new = true) :
    Settles (upsert text behind name value added) document fun after ↦
      (∃ entry, findNamed? after text name = some entry ∧ entry.lookup rest = some value) ∧
        Upserted name (fun old new ↦ old.create? rest value = some new) added
          (listAt document text) (listAt after text) ∧
        Document.OnlyAt base document after := by
  rcases upsert_run_cases hparse hdot (hbehind document hdot) with
    hrun | ⟨entries, root, hupserted, hroot, hrun⟩
  · exact ⟨false, document, hrun, nofun, fun _ ↦ rfl, hrun⟩
  let after : Document := { document with root }
  have hafter : after.separator = .dot := hdot
  have hentries : listAt after text = entries := by
    rw [listAt_eq hparse hafter, Value.lookup_create? hroot]
    rfl
  obtain ⟨entry, hentry, hset⟩ := hupserted.exists_find? hkeeps hadded
  have hlookup : entry.lookup rest = some value := by
    rcases hset with rfl | ⟨old, -, hcreate⟩
    · exact hthere
    · exact Value.lookup_create? hcreate
  rw [← hentries] at hentry hupserted
  refine ⟨true, after, hrun, fun _ ↦ ⟨⟨entry, hentry, hlookup⟩, hupserted, ?_⟩, nofun, ?_⟩
  · exact Document.onlyAt_of_create? hroot
  · apply upsert_run_of_find? hparse hafter (hbehind after hafter) hentry
    rw [hlookup]
    exact Value.beq_self hvalue

end

/-! ### Variables, volumes and mounts -/

/-- An entry that has a name and takes a field is a map with the field set. -/
theorem fieldSet_of_create? {name field : String} {value old new : Value}
    (hname : hasName name old = true) (h : old.create? [.key field] value = some new) :
    Value.FieldSet field value old new := by
  cases old <;> try contradiction
  case map fields =>
    obtain rfl : Value.map (Fields.insert fields field value) = new := Option.some.inj h
    exact ⟨rfl, Fields.get?_insert_self fields field value,
      fun key hkey ↦ Fields.get?_insert_of_ne hkey fields value⟩

namespace DeploymentConfig

theorem envEntry_eq (name : String) (value : Value) :
    envEntry name value = .map [("name", .string name), ("value", value)] := by
  have hkeys : List.Pairwise (· < ·) ["name", "value"] := by decide
  have hascending : Fields.Ascending [("name", .string name), ("value", value)] := hkeys
  rw [envEntry, Value.ofFields, Fields.ofList_of_ascending hascending]

theorem hasName_envEntry (name : String) (value : Value) :
    hasName name (envEntry name value) = true := by
  rw [envEntry_eq]
  exact beq_self_eq_true (some name)

theorem lookup_envEntry (name : String) (value : Value) :
    (envEntry name value).lookup [.key "value"] = some value := by
  rw [envEntry_eq]
  rfl

theorem updateEnvVar_eq (name : String) (value : Value) :
    updateEnvVar name value = upsert envPath ".value" name value (envEntry name value) := rfl

/-- Replacing an entry that has a name is an upsert of the whole entry. -/
theorem replaceNamed_eq {text name : String} {item : Value} (hname : entryName item = some name) :
    replaceNamed text item = upsert text "" name item item := by
  apply bind_congr
  intro document
  rw [hname, Option.bind_some]
  cases placeOfName? document text name with
  | some place => exact congrArg (Document.put · item) String.append_empty.symm
  | none => rfl

variable {document : Document} {name : String}

/-- Setting a variable settles, and sets no field but the value of the first entry of the name. -/
theorem updateEnvVar_settles (hdot : document.separator = .dot) {value : Value}
    (hvalue : value.hasNaN = false) :
    Settles (updateEnvVar name value) document fun after ↦
      envValue? after name = some value ∧
        Upserted name (Value.FieldSet "value" value) (envEntry name value)
          (envVars document) (envVars after) ∧
        Document.OnlyAt envSteps document after := by
  have hkeeps (old new : Value) (hold : hasName name old = true)
      (hnew : old.create? [.key "value"] value = some new) : hasName name new = true := by
    have hsame := (fieldSet_of_create? hold hnew).others "name" (by decide)
    rwa [hasName, entryName, hsame]
  rw [updateEnvVar_eq]
  apply (upsert_settles parse_envPath hdot (fun _ ↦ parsePath_envValue) hvalue
    (hasName_envEntry name value) (lookup_envEntry name value) hkeeps).imp
  rintro after ⟨⟨entry, hentry, hset⟩, hupserted, honly⟩
  refine ⟨?_, hupserted.imp fun _ _ ↦ fieldSet_of_create?, honly⟩
  rw [envValue?, hentry, Option.bind_some, ← Value.lookup_key, hset]

/-- Replacing an entry that has a name settles, and puts the whole new entry in its place. -/
theorem replaceNamed_settles {text : String} {base : Path}
    (hparse : Path.parse text .dot = .ok base) (hdot : document.separator = .dot) {item : Value}
    (hitem : item.hasNaN = false) (hname : entryName item = some name) :
    Settles (replaceNamed text item) document fun after ↦
      findNamed? after text name = some item ∧
        Upserted name (fun _ new ↦ new = item) item (listAt document text) (listAt after text) ∧
        Document.OnlyAt base document after := by
  have hbehind (current : Document) (hcurrent : current.separator = .dot) (place : Nat) :
      current.parsePath (itemPath text place ++ "") =
        .ok (base ++ [.index (Path.saturate place)]) := by
    rw [String.append_empty, parsePath_item hparse hcurrent]
  have hwhole (old new : Value) (hnew : old.create? [] item = some new) : new = item := by
    rw [Value.create?_nil] at hnew
    exact (Option.some.inj hnew).symm
  have hfound : hasName name item = true := by
    rw [hasName, hname]
    exact beq_self_eq_true (some name)
  have hkeeps (old new : Value) (_ : hasName name old = true)
      (hnew : old.create? [] item = some new) : hasName name new = true :=
    hwhole old new hnew ▸ hfound
  rw [replaceNamed_eq hname]
  apply (upsert_settles hparse hdot hbehind hitem hfound (Value.lookup_nil item) hkeeps).imp
  rintro after ⟨⟨entry, hentry, hset⟩, hupserted, honly⟩
  rw [Value.lookup_nil] at hset
  cases hset
  exact ⟨hentry, hupserted.imp fun old new _ ↦ hwhole old new, honly⟩

/-- Setting a variable, a volume or a mount by its name succeeds on every document. If it reports a
change, then the name leads to what was set, only the first entry of the name is changed or one is
added at the end, and nothing but the list changes. Else nothing is changed, and nothing is when it
is done again. -/
theorem upserts_settle (hdot : document.separator = .dot) :
    (∀ name value, value.hasNaN = false →
      Settles (updateEnvVar name value) document fun after ↦
        envValue? after name = some value ∧
          Upserted name (Value.FieldSet "value" value) (envEntry name value)
            (envVars document) (envVars after) ∧
          Document.OnlyAt envSteps document after) ∧
      ∀ name volume, volume.hasNaN = false → entryName volume = some name →
        Settles (updateVolume volume) document (fun after ↦
          findVolume? after name false = some volume ∧
            Upserted name (fun _ new ↦ new = volume) volume (volumes document) (volumes after) ∧
            Document.OnlyAt volumesSteps document after) ∧
        Settles (updateVolumeMount volume) document (fun after ↦
          findVolume? after name true = some volume ∧
            Upserted name (fun _ new ↦ new = volume) volume
              (volumeMounts document) (volumeMounts after) ∧
            Document.OnlyAt volumeMountsSteps document after) := by
  refine ⟨fun name value hvalue ↦ updateEnvVar_settles hdot hvalue, ?_⟩
  intro name volume hvolume hname
  exact ⟨replaceNamed_settles parse_volumesPath hdot hvolume hname,
    replaceNamed_settles parse_volumeMountsPath hdot hvolume hname⟩

/-- Two variables of one name, no volumes, and null for the mounts. -/
def repeated : Document :=
  let container : Value := .map
    [("env", .list [.string "A", envEntry "A" (.int 0), envEntry "A" (.string "2")]),
      ("volumeMounts", .null)]
  { root := .map [("spec", .map [("template", .map [("spec", .map
      [("containers", .list [container])])])])] }

/-- The first of two variables is set, and lists are made for a volume and its mount. -/
theorem upserts_settle_of_repeated :
    let volume : Value := .map [("name", .string "v")]
    repeated.separator = .dot ∧ (Value.string "1").hasNaN = false ∧ volume.hasNaN = false ∧
      entryName volume = some "v" ∧
      (∃ after, (updateEnvVar "A" (.string "1")).run repeated = .ok true after ∧
        envValue? after "A" = some (.string "1") ∧
        (updateEnvVar "A" (.string "1")).run after = .ok false after) ∧
      (∃ after, (updateVolume volume).run repeated = .ok true after ∧
        findVolume? after "v" false = some volume) ∧
      ∃ after, (updateVolumeMount volume).run repeated = .ok true after ∧
        findVolume? after "v" true = some volume := by
  intro volume
  have hdot : repeated.separator = .dot := rfl
  have hname : entryName volume = some "v" := rfl
  obtain ⟨hvariable, hentry⟩ := upserts_settle hdot
  obtain ⟨hvolume, hmount⟩ := hentry "v" volume rfl hname
  obtain ⟨set, hset, ⟨hvalue, -⟩, hagain⟩ :=
    (hvariable "A" (.string "1") rfl).of_reportsChange (by decide +kernel)
  obtain ⟨added, hadded, ⟨hfound, -⟩, -⟩ := hvolume.of_reportsChange (by decide +kernel)
  obtain ⟨mounted, hmounted, ⟨hfoundMount, -⟩, -⟩ := hmount.of_reportsChange (by decide +kernel)
  exact ⟨hdot, rfl, rfl, hname, ⟨set, hset, hvalue, hagain⟩, ⟨added, hadded, hfound⟩,
    mounted, hmounted, hfoundMount⟩

end DeploymentConfig

end ClusterRouter
