import ClusterRouter.Proofs.Reconcile.Reflexivity

/-!
# Renderings that a comparison does not tell apart

Renderings of one router differ in a generated password, in what the cluster fills in and in the
default protocol of ports. A rendered bundle may vary in these entries without changing whether a
deployed router has drifted: one change of one entry makes an aligned part interchangeable with the
one before, and so does a chain of changes in any of the parts.
-/

namespace ClusterRouter

namespace Drift

variable {skip : SkipSet} {base : Path} {root : Value} {items : List Value}

/-- Maps that differ in one field are interchangeable once that field is set. -/
theorem Interchangeable.withField {name : String} {value : Value} (hvalue : value.WellFormed)
    {fields others : Fields}
    (hsame : ∀ key, key ≠ name → Fields.get? others key = Fields.get? fields key) :
    Interchangeable skip .item (Value.withField name value (.map fields))
      (Value.withField name value (.map others)) := by
  have hset {set : Value} (h : set = value ∨ (set == value) = true) :
      Interchangeable skip .entry set value := by
    rcases h with rfl | hequal
    · exact .refl set
    · exact (Interchangeable.of_equal hvalue ((Value.beq_comm _ _).trans hequal)).symm
  -- A field that equals the value already is kept, so the two maps may hold different values.
  obtain ⟨first, set, hfirst, hget, hvalueFirst, hrest⟩ := Value.exists_withField name value fields
  obtain ⟨second, set', hsecond, hget', hvalueSecond, hrest'⟩ :=
    Value.exists_withField name value others
  rw [hfirst, hsecond]
  apply Interchangeable.map
  intro key _
  by_cases hkey : key = name
  · subst hkey
    exact .inr ⟨set, set', hget, hget', (hset hvalueFirst).trans (hset hvalueSecond).symm⟩
  · exact .inl (by rw [hrest key hkey, hrest' key hkey, hsame key hkey])

/-- An item of a list may be another one if that makes no difference once the list is changed. -/
theorem Interchangeable.onItems {f : List Value → List Value} {i : Int64} {place : Nat} {new : Value}
    (hlevel : Position.Level .item base) (hlist : Position.after .item base = .entry)
    (hwell : root.WellFormed) (hitems : root.lookup base = some (.list items))
    (hplace : resolveIndex i items.length = some place)
    (h : Interchangeable skip .entry (.list (f items)) (.list (f (items.set place new)))) :
    Interchangeable skip .item (root.modify (Value.onItems f) base)
      ((root.modify (fun _ ↦ new) (base ++ [.index i])).modify (Value.onItems f) base) := by
  obtain ⟨hlength, hlt, -⟩ := resolveIndex_eq_some_iff.mp hplace
  have hchild : (Value.list items).child? (.index i) = some items[place] := by
    rw [Value.child?, hplace, Option.bind_some, List.getElem?_eq_getElem hlt]
  rw [Value.modify_append, Value.modify_modify]
  refine .modify hlevel hwell fun found hfound ↦ ?_
  cases hitems.symm.trans hfound
  rw [hlist, Function.comp_apply, Value.modify_cons_of_child? hchild, Value.modify_nil,
    Value.setChild_index hplace, Value.onItems, Value.onItems, if_pos hlength, List.length_set,
    if_pos hlength]
  exact h

end Drift

namespace DeploymentConfig

variable {name : String} {items : List Value} {place : Nat}

/-- A list in which an item keeps its name has the first entry of a name where it was. -/
theorem findIdx_set {item new : Value} (hitem : items[place]? = some item)
    (hname : hasName name new = hasName name item) :
    (items.set place new).findIdx (hasName name) = items.findIdx (hasName name) := by
  obtain ⟨hlt, rfl⟩ := List.getElem?_eq_some_iff.mp hitem
  have hnames (entries : List Value) :
      entries.findIdx (hasName name) = (entries.map (hasName name)).findIdx id := by
    rw [List.findIdx_map, Function.id_comp]
  have hsame : (items.set place new).map (hasName name) = items.map (hasName name) := by
    rw [List.map_set, hname, ← List.map_set, List.set_getElem_self]
  rw [hnames, hsame, hnames]

/-- The first entry of a name may have any value before its value is set. -/
theorem interchangeable_withVariable {skip : SkipSet} {value : Value} (hvalue : value.WellFormed)
    {fields others : Fields} (hfirst : items.findIdx? (hasName name) = some place)
    (hitem : items[place]? = some (.map fields))
    (hsame : ∀ key, key ≠ "value" → Fields.get? others key = Fields.get? fields key) :
    Drift.Interchangeable skip .entry (.list (withVariable name value items))
      (.list (withVariable name value (items.set place (.map others)))) := by
  obtain ⟨hlt, hplace⟩ := List.findIdx?_eq_some_iff_findIdx_eq.mp hfirst
  have hname : hasName name (.map others) = hasName name (.map fields) := by
    have hfield : (Value.map others).field? "name" = (Value.map fields).field? "name" :=
      hsame "name" (by decide)
    rw [hasName, hasName, entryName, entryName, hfield]
  rw [withVariable, withVariable, findIdx_set hitem hname, hplace, List.modify_eq_set_getElem?,
    List.modify_eq_set_getElem?, hitem, List.getElem?_set_self hlt]
  change Drift.Interchangeable skip .entry (.list (items.set place _))
    (.list ((items.set place _).set place _))
  rw [List.set_set]
  exact .set items place (.withField hvalue hsame)

end DeploymentConfig

namespace Reconcile

/-! ### Entries that may vary -/

/-- In the map at a path, the entry of a key has become another one or is gone. -/
def Rewritten (path : Path) (key : String) (entry : Option Value) (before after : Value) : Prop :=
  (∀ value, entry = some value → value.WellFormed) ∧
    before.modify? (Drift.withEntry key entry) path = some after

/-- A port says the default protocol or none. -/
def LeavesDefault (protocol : Option Value) : Prop :=
  protocol = none ∨ protocol = some (.string defaultProtocol)

/-- One change of a rendered part that is not to be seen next to an observed bundle: of an entry
that the cluster fills in, of a generated password where another one is in use, or of the protocol
of a port. -/
inductive Varies (settings : Settings) (observed : Bundle) : Kind → Value → Value → Prop
  | filledIn {kind : Kind} {key : String} {entry : Option Value} {before after : Value}
      (hkey : key = "metadata" ∨ key = "status") (h : Rewritten [] key entry before after) :
      Varies settings observed kind before after
  | password {live : Manifest} {password : Value} {items : List Value} {place : Nat} {i : Int64}
      {entry : Option Value} {before after : Value}
      (hgenerates : generatesPassword settings = true)
      (hlive : observed.get? .deploymentConfig = some live)
      (hpassword : DeploymentConfig.envValue? live.document statsPassword = some password)
      (hitems : before.lookup DeploymentConfig.envSteps = some (.list items))
      (hfirst : items.findIdx? (hasName statsPassword) = some place)
      (hplace : resolveIndex i items.length = some place)
      (h : Rewritten (DeploymentConfig.envSteps ++ [.index i]) "value" entry before after) :
      Varies settings observed .deploymentConfig before after
  | servicePort {i : Int64} {entry : Option Value} {before after : Value}
      (h : Rewritten (Service.portsSteps ++ [.index i]) "protocol" entry before after) :
      Varies settings observed .service before after
  | containerPort {i : Int64} {port : Value} {entry : Option Value} {before after : Value}
      (hport : before.lookup (DeploymentConfig.portsSteps ++ [.index i]) = some port)
      (hold : LeavesDefault (port.field? "protocol")) (hnew : LeavesDefault entry)
      (h : Rewritten (DeploymentConfig.portsSteps ++ [.index i]) "protocol" entry before after) :
      Varies settings observed .deploymentConfig before after

section

variable {settings : Settings} {observed : Bundle} {path : Path} {key : String}
  {entry : Option Value} {before after : Value}

/-- A map with one entry rewritten. -/
theorem Rewritten.exists_map (h : Rewritten path key entry before after) (hwell : before.WellFormed) :
    ∃ fields others, before.lookup path = some (.map fields) ∧ Value.WellFormed (.map others) ∧
      Fields.get? others key = entry ∧
      (∀ other, other ≠ key → Fields.get? others other = Fields.get? fields other) ∧
      after = before.modify (fun _ ↦ .map others) path := by
  obtain ⟨hentry, hafter⟩ := h
  obtain ⟨found, new, hfound, hnew, -⟩ := Value.exists_of_modify? hafter
  rw [Value.modify?_of_lookup hfound, hnew] at hafter
  cases hafter
  have hformed : found.WellFormed := Value.wellFormed_of_lookup hwell hfound
  cases found <;> try contradiction
  case map fields =>
    cases hnew
    cases entry with
    | none =>
      exact ⟨fields, _, hfound, ⟨Fields.ascending_erase hformed.1 key,
        Value.fieldsWellFormed_erase hformed.2 key⟩, Fields.get?_erase_self hformed.1 key,
        fun other hother ↦ Fields.get?_erase_of_ne hother fields, rfl⟩
    | some value =>
      exact ⟨fields, _, hfound, ⟨Fields.ascending_insert hformed.1 key value,
        Value.fieldsWellFormed_insert hformed.2 key (hentry value rfl)⟩,
        Fields.get?_insert_self fields key value,
        fun other hother ↦ Fields.get?_insert_of_ne hother fields value, rfl⟩

theorem Rewritten.wellFormed (h : Rewritten path key entry before after)
    (hwell : before.WellFormed) : after.WellFormed := by
  obtain ⟨-, others, -, hothers, -, -, rfl⟩ := h.exists_map hwell
  exact Value.wellFormed_modify hwell fun _ _ ↦ hothers

/-- An item of a list with one entry rewritten. -/
theorem Rewritten.exists_item {base : Path} {i : Int64}
    (h : Rewritten (base ++ [.index i]) key entry before after) (hwell : before.WellFormed) :
    ∃ items place fields others, before.lookup base = some (.list items) ∧
      resolveIndex i items.length = some place ∧ items[place]? = some (.map fields) ∧
      Fields.get? others key = entry ∧
      (∀ other, other ≠ key → Fields.get? others other = Fields.get? fields other) ∧
      after = before.modify (fun _ ↦ .map others) (base ++ [.index i]) := by
  obtain ⟨fields, others, hfound, -, hentry, hrest, hafter⟩ := h.exists_map hwell
  obtain ⟨items, place, item, hbase, hplace, hget, hnil⟩ := Value.lookup_item_iff.mp hfound
  cases (Value.lookup_nil item).symm.trans hnil
  exact ⟨items, place, fields, others, hbase, hplace, hget, hentry, hrest, hafter⟩

theorem Varies.wellFormed {kind : Kind} (h : Varies settings observed kind before after)
    (hwell : before.WellFormed) : after.WellFormed := by
  cases h with
  | filledIn _ h => exact h.wellFormed hwell
  | password _ _ _ _ _ _ h => exact h.wellFormed hwell
  | servicePort h => exact h.wellFormed hwell
  | containerPort _ _ _ h => exact h.wellFormed hwell

/-! ### One change -/

theorem field?_modify_congr {skip : SkipSet} {name : String} (hname : skip.contains name = false)
    (h : ∀ key, skip.contains key = false → before.field? key = after.field? key)
    (f : Value → Value) (key : String) (hkey : skip.contains key = false) :
    (before.modify f (.key name :: path)).field? key =
      (after.modify f (.key name :: path)).field? key := by
  rw [Value.field?_modify, Value.field?_modify]
  split
  · rw [h name hname]
  · exact h key hkey

theorem isSome_asMap_shown (live : Document) (kind : Kind) (root : Value) :
    (shown settings live kind root).asMap.isSome = root.asMap.isSome := by
  cases kind with
  | deploymentConfig =>
    rw [shown, deploymentShown, DeploymentConfig.portsSteps, Value.isSome_asMap_modify_key,
      passwordShown, DeploymentConfig.envSteps, Value.isSome_asMap_modify_key]
  | service => rw [shown, serviceShown, Service.portsSteps, Value.isSome_asMap_modify_key]
  | _ => rfl

/-- Aligning reads and changes nothing but the specification of a part. -/
theorem interchangeable_shown (live : Document) {kind : Kind} (hbefore : before.asMap.isSome)
    (hafter : after.asMap.isSome)
    (h : ∀ key, (skips kind).contains key = false → before.field? key = after.field? key) :
    Drift.Interchangeable (skips kind) .item (shown settings live kind before)
      (shown settings live kind after) := by
  have hspec : (skips kind).contains "spec" = false := by cases kind <;> decide
  apply Drift.Interchangeable.of_field?
  · rwa [isSome_asMap_shown]
  · rwa [isSome_asMap_shown]
  cases kind with
  | deploymentConfig => exact field?_modify_congr hspec (field?_modify_congr hspec h _) _
  | service => exact field?_modify_congr hspec h _
  | _ => exact h

theorem interchangeable_of_filledIn (live : Document) {kind : Kind} (hwell : before.WellFormed)
    (hkey : key = "metadata" ∨ key = "status") (h : Rewritten [] key entry before after) :
    Drift.Interchangeable (skips kind) .item (shown settings live kind before)
      (shown settings live kind after) := by
  obtain ⟨fields, others, hfound, -, -, hrest, rfl⟩ := h.exists_map hwell
  cases (Value.lookup_nil before).symm.trans hfound
  refine interchangeable_shown live rfl rfl fun other hother ↦ (hrest other ?_).symm
  have hskipped : (skips kind).contains key = true := by
    rcases hkey with rfl | rfl <;> cases kind <;> decide
  rintro rfl
  rw [hskipped] at hother
  contradiction

/-- Ports are interchangeable if setting the default protocol settles in what they differ. -/
theorem interchangeable_ports {skip : SkipSet} {onlyMissing : Bool} {base : Path} {root : Value}
    {items : List Value} {i : Int64} {place : Nat} {fields others : Fields}
    (hlevel : Drift.Position.Level .item base) (hlist : Drift.Position.after .item base = .entry)
    (hwell : root.WellFormed) (hitems : root.lookup base = some (.list items))
    (hplace : resolveIndex i items.length = some place)
    (hitem : items[place]? = some (.map fields))
    (hold : onlyMissing = true → LeavesDefault (Fields.get? fields "protocol"))
    (hnew : onlyMissing = true → LeavesDefault (Fields.get? others "protocol"))
    (hrest : ∀ key, key ≠ "protocol" → Fields.get? others key = Fields.get? fields key) :
    Drift.Interchangeable skip .item
      (root.modify (Value.onItems (·.map (withProtocol defaultProtocol onlyMissing))) base)
      ((root.modify (fun _ ↦ .map others) (base ++ [.index i])).modify
        (Value.onItems (·.map (withProtocol defaultProtocol onlyMissing))) base) := by
  have hset {port : Fields} (h : onlyMissing = true → LeavesDefault (Fields.get? port "protocol")) :
      withProtocol defaultProtocol onlyMissing (.map port) =
        Value.withField "protocol" (.string defaultProtocol) (.map port) := by
    apply withProtocol_eq_withField
    intro found hfound honly
    rcases h honly with hnone | hdefault
    · cases hnone.symm.trans hfound
    · exact Option.some.inj (hfound.symm.trans hdefault)
  apply Drift.Interchangeable.onItems hlevel hlist hwell hitems hplace
  apply Drift.Interchangeable.map_set hitem
  rw [hset hold, hset hnew]
  have hvalue : Value.WellFormed (.string defaultProtocol) := trivial
  exact .withField hvalue hrest

theorem interchangeable_of_servicePort {i : Int64} (hwell : before.WellFormed)
    (h : Rewritten (Service.portsSteps ++ [.index i]) "protocol" entry before after) :
    Drift.Interchangeable SkipSet.allocated .item (serviceShown before) (serviceShown after) := by
  obtain ⟨items, place, fields, others, hitems, hplace, hitem, -, hrest, rfl⟩ := h.exists_item hwell
  have hlevel : Drift.Position.Level .item Service.portsSteps := trivial
  have hnever {p : Prop} (h : false = true) : p := absurd h Bool.false_ne_true
  exact interchangeable_ports hlevel rfl hwell hitems hplace hitem hnever hnever hrest

/-! Variables and ports are entries of one container, so that changes of either leave the other. -/

def containerSteps : Path :=
  [.key "spec", .key "template", .key "spec", .key "containers", .index 0]

theorem interchangeable_of_containerPort {live : Document} {i : Int64} {port : Value}
    (hlive : live.root.WellFormed) (hwell : before.WellFormed)
    (hport : before.lookup (DeploymentConfig.portsSteps ++ [.index i]) = some port)
    (hold : LeavesDefault (port.field? "protocol")) (hnew : LeavesDefault entry)
    (h : Rewritten (DeploymentConfig.portsSteps ++ [.index i]) "protocol" entry before after) :
    Drift.Interchangeable SkipSet.defaulted .item (deploymentShown settings live before)
      (deploymentShown settings live after) := by
  obtain ⟨items, place, fields, others, hitems, hplace, hitem, hentry, hrest, rfl⟩ :=
    h.exists_item hwell
  have hfields : before.lookup (DeploymentConfig.portsSteps ++ [.index i]) = some (.map fields) :=
    Value.lookup_item_iff.mpr
      ⟨items, place, .map fields, hitems, hplace, hitem, Value.lookup_nil _⟩
  cases hfields.symm.trans hport
  have hne : ("env" : String) ≠ "ports" := by decide
  have hlookup : (passwordShown settings live before).lookup DeploymentConfig.portsSteps =
      some (.list items) :=
    (Value.lookup_modify_of_ne hne _ before containerSteps).trans hitems
  have hcomm : passwordShown settings live
      (before.modify (fun _ ↦ .map others) (DeploymentConfig.portsSteps ++ [.index i])) =
        (passwordShown settings live before).modify (fun _ ↦ .map others)
          (DeploymentConfig.portsSteps ++ [.index i]) :=
    Value.modify_comm hne.symm _ _ before containerSteps
  rw [deploymentShown, deploymentShown, hcomm]
  have hlevel : Drift.Position.Level .item DeploymentConfig.portsSteps := trivial
  exact interchangeable_ports hlevel rfl (wellFormed_passwordShown hlive hwell) hlookup hplace hitem
    (fun _ ↦ hold) (fun _ ↦ hentry ▸ hnew) hrest

theorem interchangeable_of_password {live : Document} {password : Value} {items : List Value}
    {place : Nat} {i : Int64} (hlive : live.root.WellFormed) (hwell : before.WellFormed)
    (hkept : keptPassword? settings live = some password)
    (hitems : before.lookup DeploymentConfig.envSteps = some (.list items))
    (hfirst : items.findIdx? (hasName statsPassword) = some place)
    (hplace : resolveIndex i items.length = some place)
    (h : Rewritten (DeploymentConfig.envSteps ++ [.index i]) "value" entry before after) :
    Drift.Interchangeable SkipSet.defaulted .item (deploymentShown settings live before)
      (deploymentShown settings live after) := by
  obtain ⟨entries, found, fields, others, hentries, hfound, hitem, -, hrest, rfl⟩ :=
    h.exists_item hwell
  cases hitems.symm.trans hentries
  cases hplace.symm.trans hfound
  have hne : ("env" : String) ≠ "ports" := by decide
  let protocolsShown (root : Value) : Value :=
    root.modify (Value.onItems (·.map (withProtocol defaultProtocol true)))
      DeploymentConfig.portsSteps
  have hformed : (protocolsShown before).WellFormed := wellFormed_modify_ports hwell
  have hlookup : (protocolsShown before).lookup DeploymentConfig.envSteps = some (.list items) :=
    (Value.lookup_modify_of_ne hne.symm _ before containerSteps).trans hitems
  -- The protocols are set last, but changes of the variables commute with that.
  have hshown (root : Value) : deploymentShown settings live root =
      passwordShown settings live (protocolsShown root) :=
    Value.modify_comm hne _ _ root containerSteps
  have hcomm : protocolsShown
      (before.modify (fun _ ↦ .map others) (DeploymentConfig.envSteps ++ [.index i])) =
        (protocolsShown before).modify (fun _ ↦ .map others)
          (DeploymentConfig.envSteps ++ [.index i]) :=
    Value.modify_comm hne _ _ before containerSteps
  rw [hshown, hshown, hcomm]
  have hlevel : Drift.Position.Level .item DeploymentConfig.envSteps := trivial
  apply Drift.Interchangeable.onItems hlevel rfl hformed hlookup hplace
  rw [withPassword_of_some hkept, withPassword_of_some hkept]
  exact DeploymentConfig.interchangeable_withVariable (wellFormed_of_keptPassword? hlive hkept)
    hfirst hitem hrest

theorem Varies.interchangeable {kind : Kind} {live : Manifest}
    (h : Varies settings observed kind before after) (hlive : observed.get? kind = some live)
    (hformed : live.document.root.WellFormed) (hwell : before.WellFormed) :
    Drift.Interchangeable (skips kind) .item (shown settings live.document kind before)
      (shown settings live.document kind after) := by
  cases h with
  | filledIn hkey h => exact interchangeable_of_filledIn live.document hwell hkey h
  | @password _ password _ _ _ _ _ _ hgenerates hdeployment hpassword hitems hfirst hplace h =>
    cases hlive.symm.trans hdeployment
    have hkept : keptPassword? settings live.document = some password := by
      rw [keptPassword?, if_pos hgenerates, hpassword]
    exact interchangeable_of_password hformed hwell hkept hitems hfirst hplace h
  | servicePort h => exact interchangeable_of_servicePort hwell h
  | containerPort hport hold hnew h =>
    exact interchangeable_of_containerPort hformed hwell hport hold hnew h

/-! ### Chains of changes -/

theorem wellFormed_of_varied {kind : Kind}
    (h : Relation.ReflTransGen (Varies settings observed kind) before after)
    (hwell : before.WellFormed) : after.WellFormed := by
  induction h with
  | refl => exact hwell
  | tail _ hstep ih => exact hstep.wellFormed ih

theorem interchangeable_of_varied {kind : Kind} {live : Manifest}
    (h : Relation.ReflTransGen (Varies settings observed kind) before after)
    (hlive : observed.get? kind = some live) (hformed : live.document.root.WellFormed)
    (hwell : before.WellFormed) :
    Drift.Interchangeable (skips kind) .item (shown settings live.document kind before)
      (shown settings live.document kind after) := by
  induction h with
  | refl => exact .refl _
  | tail hsteps hstep ih =>
    exact ih.trans (hstep.interchangeable hlive hformed (wellFormed_of_varied hsteps hwell))

/-- Both bundles have the same parts, and each part of the second one is that of the first one after
changes that are not to be seen. -/
def Variant (settings : Settings) (observed rendered varied : Bundle) : Prop :=
  ∀ kind, Option.Rel (fun before after : Manifest ↦
    Relation.ReflTransGen (Varies settings observed kind) before.document.root after.document.root)
      (rendered.get? kind) (varied.get? kind)

variable {rendered varied : Bundle}

theorem Variant.cases (h : Variant settings observed rendered varied) (kind : Kind) :
    (rendered.get? kind = none ∧ varied.get? kind = none) ∨
      ∃ before after, rendered.get? kind = some before ∧ varied.get? kind = some after ∧
        Relation.ReflTransGen (Varies settings observed kind) before.document.root
          after.document.root := by
  have hkind := h kind
  revert hkind
  generalize rendered.get? kind = first
  generalize varied.get? kind = second
  intro hkind
  cases hkind with
  | none => exact .inl ⟨rfl, rfl⟩
  | some hsteps => exact .inr ⟨_, _, rfl, rfl, hsteps⟩

theorem Variant.contains_eq (h : Variant settings observed rendered varied) (kind : Kind) :
    varied.contains kind = rendered.contains kind := by
  rw [Bundle.contains, Bundle.contains]
  rcases h.cases kind with ⟨hrendered, hvaried⟩ | ⟨before, after, hrendered, hvaried, -⟩
  · rw [hrendered, hvaried]
  · rw [hrendered, hvaried, Option.isSome_some, Option.isSome_some]

theorem Variant.wellFormed (h : Variant settings observed rendered varied)
    (hformed : rendered.WellFormed) : varied.WellFormed := by
  intro kind manifest hmanifest
  rcases h.cases kind with ⟨-, hnone⟩ | ⟨before, after, hrendered, hvaried, hsteps⟩
  · cases hnone.symm.trans hmanifest
  · cases hvaried.symm.trans hmanifest
    exact wellFormed_of_varied hsteps (hformed kind before hrendered)

theorem Variant.partDrifted_eq (h : Variant settings observed rendered varied)
    (hobserved : observed.WellFormed) (hformed : rendered.WellFormed) (kind : Kind) :
    partDrifted settings observed rendered kind = partDrifted settings observed varied kind := by
  cases hlive : observed.get? kind with
  | none => rw [partDrifted, partDrifted, hlive]
  | some live =>
    rcases h.cases kind with ⟨hrendered, hvaried⟩ | ⟨before, after, hrendered, hvaried, hsteps⟩
    · rw [partDrifted, partDrifted, hrendered, hvaried]
    · have hinterchangeable := interchangeable_of_varied hsteps hlive (hobserved kind live hlive)
        (hformed kind before hrendered)
      rw [partDrifted_of_get? hlive hrendered, partDrifted_of_get? hlive hvaried,
        hinterchangeable.agree_eq]

/-- A rendered bundle may vary in what the cluster fills in, in a password that is generated while
another one is in use, and in the protocols of ports: it is told all the same whether the router has
drifted. -/
theorem needsUpdate_of_variant (hobserved : observed.WellFormed) (hrendered : Rendered rendered)
    (hformed : rendered.WellFormed) (hdotted : varied.Dotted)
    (h : Variant settings observed rendered varied) :
    ∃ needs, needsUpdate settings observed rendered = .ok needs ∧
      needsUpdate settings observed varied = .ok needs := by
  cases hdeployed : observed.isDeployed with
  | false =>
    exact ⟨true, needsUpdate_of_not_isDeployed hdeployed settings rendered,
      needsUpdate_of_not_isDeployed hdeployed settings varied⟩
  | true =>
    have hvaried : Rendered varied :=
      ⟨fun kind hkind ↦ (h.contains_eq kind).trans (hrendered.contains kind hkind), hdotted⟩
    refine ⟨_, needsUpdate_eq_any settings hdeployed hobserved hrendered hformed, ?_⟩
    rw [needsUpdate_eq_any settings hdeployed hobserved hvaried (h.wellFormed hformed),
      funext (h.partDrifted_eq hobserved hformed)]

end

/-- A rendering without a password, with a protocol for the port of the container and another one
for that of the service, and with a status of the account. -/
def routerVaried : Bundle where
  manifests := [
    ⟨.deploymentConfig, "router",
      .ofRoot (statsDeployment [] [("protocol", .string defaultProtocol)])⟩,
    ⟨.service, "router",
      .ofRoot (portsService [.map [("port", .int 80), ("protocol", .string "UDP")]])⟩,
    ⟨.serviceAccount, "router", .ofRoot (.map [("kind", .string Kind.serviceAccount.name),
      ("status", .map [])])⟩,
    ⟨.secret, "router", .ofRoot (.map [("kind", .string Kind.secret.name)])⟩]

theorem needsUpdate_of_varied_parts :
    let live := routerOfPorts [.map [("port", .int 80), ("protocol", .string defaultProtocol)]]
    let rendered := routerOfPorts [.map [("port", .int 80)]]
    live.WellFormed ∧ Rendered rendered ∧ rendered.WellFormed ∧ routerVaried.Dotted ∧
      Variant {} live rendered routerVaried ∧
      ∃ needs, needsUpdate {} live rendered = .ok needs ∧
        needsUpdate {} live routerVaried = .ok needs := by
  intro live rendered
  have hlive : live.WellFormed :=
    wellFormed_routerOfPorts ⟨⟨by decide, trivial, trivial, trivial⟩, trivial⟩
  have hformed : rendered.WellFormed :=
    wellFormed_routerOfPorts ⟨⟨List.pairwise_singleton _ _, trivial, trivial⟩, trivial⟩
  have hrendered : Rendered rendered := ⟨by decide, dotted_routerOfPorts _⟩
  have hdotted : routerVaried.Dotted := by
    intro kind manifest h
    cases kind <;> cases h <;> rfl
  have huse : DeploymentConfig.envValue? (.ofRoot (statsDeployment [("value", .string "secret")] []))
      statsPassword = some (.string "secret") := by
    rw [DeploymentConfig.envValue?, findNamed?, listAt_eq DeploymentConfig.parse_envPath rfl]
    rfl
  have hentry (value : Value) (h : none = some value) : value.WellFormed := by contradiction
  have hpassword : Varies {} live .deploymentConfig
      (statsDeployment [("value", .string "secret")] []) (statsDeployment [] []) := by
    have hgone : Rewritten (DeploymentConfig.envSteps ++ [.index 0]) "value" none
        (statsDeployment [("value", .string "secret")] []) (statsDeployment [] []) := ⟨hentry, rfl⟩
    exact .password rfl rfl huse rfl rfl rfl hgone
  have hprotocol : Varies {} live .deploymentConfig (statsDeployment [] [])
      (statsDeployment [] [("protocol", .string defaultProtocol)]) := by
    have hset : Rewritten (DeploymentConfig.portsSteps ++ [.index 0]) "protocol"
        (some (.string defaultProtocol)) (statsDeployment [] [])
        (statsDeployment [] [("protocol", .string defaultProtocol)]) :=
      ⟨by rintro _ ⟨⟩; trivial, rfl⟩
    exact .containerPort rfl (.inl rfl) (.inr rfl) hset
  have hservice : Varies {} live .service (portsService [.map [("port", .int 80)]])
      (portsService [.map [("port", .int 80), ("protocol", .string "UDP")]]) := by
    have hset : Rewritten (Service.portsSteps ++ [.index (-1)]) "protocol" (some (.string "UDP"))
        (portsService [.map [("port", .int 80)]])
        (portsService [.map [("port", .int 80), ("protocol", .string "UDP")]]) :=
      ⟨by rintro _ ⟨⟩; trivial, rfl⟩
    exact .servicePort hset
  have haccount : Varies {} live .serviceAccount
      (.map [("kind", .string Kind.serviceAccount.name)])
      (.map [("kind", .string Kind.serviceAccount.name), ("status", .map [])]) := by
    have hset : Rewritten [] "status" (some (.map []))
        (.map [("kind", .string Kind.serviceAccount.name)])
        (.map [("kind", .string Kind.serviceAccount.name), ("status", .map [])]) :=
      ⟨by rintro _ ⟨⟩; exact ⟨List.Pairwise.nil, trivial⟩, rfl⟩
    exact .filledIn (.inr rfl) hset
  have hvariant : Variant {} live rendered routerVaried := by
    intro kind
    cases kind with
    | deploymentConfig => exact .some (.tail (.single hpassword) hprotocol)
    | service => exact .some (.single hservice)
    | serviceAccount => exact .some (.single haccount)
    | secret => exact .some .refl
    | clusterRoleBinding => exact .none
  exact ⟨hlive, hrendered, hformed, hdotted, hvariant,
    needsUpdate_of_variant hlive hrendered hformed hdotted hvariant⟩

end Reconcile

end ClusterRouter
