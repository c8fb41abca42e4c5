import ClusterRouter.Proofs.Manifest.Ports

/-!
# Deleting by name or port

A deletion takes the first entry of a name or port out of its list, once for each time that the name
or port is given. None is left exactly where the list held no more of them than that, so of several
entries of one name a deletion of that name leaves all but the first.
-/

namespace ClusterRouter

open Document (Reaches)

/-! ### Items taken out of a list one by one -/

section

variable {Key : Type} {p : Key → Value → Bool}

/-- What is left of a list when the first item of each key in a row is taken out. -/
def withoutFirsts (p : Key → Value → Bool) (keys : List Key) (items : List Value) : List Value :=
  keys.foldl (fun left key ↦ left.eraseP (p key)) items

/-- Taking out one item of a key leaves the items of all other keys. -/
theorem countP_eraseP [DecidableEq Key]
    (hone : ∀ a b item, p a item = true → p b item = true → a = b) (key other : Key)
    (items : List Value) :
    (items.eraseP (p other)).countP (p key) =
      items.countP (p key) - if other = key then 1 else 0 := by
  induction items with
  | nil => simp
  | cons item items ih =>
    by_cases hother : p other item = true
    · rw [List.eraseP_cons_of_pos hother, List.countP_cons]
      by_cases hkey : p key item = true
      · simp [hkey, hone other key item hother hkey]
      · have hne : other ≠ key := by
          rintro rfl
          exact hkey hother
        simp [hkey, hne]
    · rw [List.eraseP_cons_of_neg hother, List.countP_cons, List.countP_cons, ih]
      by_cases hsame : other = key
      · subst hsame
        simp [hother]
      · simp [hsame]

theorem countP_withoutFirsts [DecidableEq Key]
    (hone : ∀ a b item, p a item = true → p b item = true → a = b) (keys : List Key) (key : Key)
    (items : List Value) :
    (withoutFirsts p keys items).countP (p key) = items.countP (p key) - keys.count key := by
  unfold withoutFirsts
  induction keys generalizing items with
  | nil => simp
  | cons first keys ih =>
    rw [List.foldl_cons, ih, countP_eraseP hone, List.count_cons]
    by_cases hsame : first = key
    · simp only [hsame, if_true, beq_self_eq_true]
      omega
    · simp [hsame]

variable {text : String} {edit : Key → Editing Bool} {fine : Document → Prop}

/-- A row of edits of which each takes the first item of its key out of a list. -/
theorem reaches_takeEach
    (h : ∀ key current, fine current → Reaches (edit key) current fun after ↦
      fine after ∧ listAt after text = (listAt current text).eraseP (p key))
    (keys : List Key) {document : Document} (hfine : fine document) :
    Reaches (editEach edit keys) document fun after ↦
      fine after ∧ listAt after text = withoutFirsts p keys (listAt document text) := by
  induction keys generalizing document with
  | nil => exact Document.reaches_pure ⟨hfine, rfl⟩
  | cons key keys ih =>
    apply (h key document hfine).bind
    rintro changed after ⟨hafter, hfirst⟩
    apply (ih hafter).bind
    rintro later last ⟨hlast, hrest⟩
    refine Document.reaches_pure ⟨hlast, ?_⟩
    rw [hrest, hfirst]
    rfl

end

/-! ### Entries of names -/

theorem hasName_inj {name other : String} {entry : Value} (h : hasName name entry = true)
    (hother : hasName other entry = true) : name = other := by
  have hname : entryName entry = some name := eq_of_beq h
  exact Option.some.inj (hname.symm.trans (eq_of_beq hother))

section

variable {text : String} {base : Path} {document : Document}

/-- Removing an entry of a name takes the first one out of its list and changes nothing else. -/
theorem removeNamed_effect (hparse : Path.parse text .dot = .ok base)
    (hdot : document.separator = .dot) (hwell : document.root.WellFormed) (name : String) :
    Reaches (removeNamed text name) document
      (· = document.modifyRoot (Value.onItems (·.eraseP (hasName name))) base) := by
  apply Document.reaches_get
  cases hplace : placeOfName? document text name with
  | none =>
    apply Document.reaches_pure
    symm
    apply Document.modifyRoot_eq_self hwell
    intro found hfound
    apply Value.onItems_eq_self
    rintro items rfl
    have hitems : listAt document text = items := by
      rw [listAt_eq hparse hdot, hfound]
      rfl
    rw [placeOfName?, hitems] at hplace
    rw [List.eraseP_eq_eraseIdx, hplace]
  | some place =>
    obtain ⟨hlt, -⟩ := List.findIdx?_eq_some_iff_getElem.mp hplace
    have hbase : document.root.lookup base = some (.list (listAt document text)) :=
      lookup_of_getElem?_listAt hparse hdot (List.getElem?_eq_getElem hlt)
    have hleft : (listAt document text).eraseP (hasName name) =
        (listAt document text).eraseIdx place := by
      have hfirst : (listAt document text).findIdx? (hasName name) = some place := hplace
      rw [List.eraseP_eq_eraseIdx, hfirst]
    have hrun := Document.remove_run document (itemPath text place)
    rw [Document.changeAt_of_parsePath (parsePath_item hparse hdot place),
      Document.removeChange_concat, Value.modify?_of_lookup hbase, Value.removeStep?,
      Path.resolveIndex_saturate hlt] at hrun
    refine ⟨_, _, hrun.trans (Document.concluded_ok document _), ?_⟩
    simp only [modifyRoot_onItems hwell hbase, hleft, Indexable]
    split_ifs <;> rfl

theorem wellFormed_modify_eraseP {root : Value} (hwell : root.WellFormed) (p : Value → Bool) :
    (root.modify (Value.onItems (·.eraseP p)) base).WellFormed := by
  apply Value.wellFormed_modify hwell
  intro found hfound
  refine Value.wellFormed_onItems (fun items hitems ↦ ?_) (Value.wellFormed_of_lookup hwell hfound)
  rw [Value.itemsWellFormed_iff] at hitems ⊢
  exact fun item hitem ↦ hitems item (List.mem_of_mem_eraseP hitem)

/-- What a row of removals goes on from. -/
def Removable (text : String) (document : Document) : Prop :=
  document.separator = .dot ∧ document.root.WellFormed ∧ Indexable (listAt document text)

/-- Where indices reach all items of the list, the first entry of the name is gone. -/
theorem removeNamed_takes (hparse : Path.parse text .dot = .ok base) (name : String)
    (hremovable : Removable text document) :
    Reaches (removeNamed text name) document fun after ↦
      Removable text after ∧ listAt after text = (listAt document text).eraseP (hasName name) := by
  obtain ⟨hdot, hwell, hlength⟩ := hremovable
  obtain ⟨reported, after, hrun, rfl⟩ := removeNamed_effect hparse hdot hwell name
  have hlist := listAt_modifyRoot_onItems hparse hdot (f := (·.eraseP (hasName name))) rfl hlength
  have hleft : Indexable ((listAt document text).eraseP (hasName name)) :=
    (Int.ofNat_le.mpr List.length_eraseP_le).trans hlength
  refine ⟨reported, _, hrun, ⟨hdot, wellFormed_modify_eraseP hwell _, ?_⟩, hlist⟩
  rwa [hlist]

theorem isSome_findNamed?_eq_false_iff {name : String} :
    (findNamed? document text name).isSome = false ↔
      (listAt document text).countP (hasName name) = 0 := by
  rw [findNamed?, Option.isSome_eq_false_iff, Option.isNone_iff_eq_none, List.find?_eq_none,
    List.countP_eq_zero]

end

namespace DeploymentConfig

variable {document : Document} {name : String}

/-- Deleting variables takes the first one of each name out of the list, once for each time that the
name is given. -/
theorem deleteEnvVars_takes (hremovable : Removable envPath document) (names : List String) :
    Reaches (deleteEnvVars names) document fun after ↦
      envVars after = withoutFirsts hasName names (envVars document) := by
  have hstep (name : String) (current : Document) (hcurrent : Removable envPath current) :=
    removeNamed_takes parse_envPath name hcurrent
  obtain ⟨reported, after, hrun, -, hlist⟩ := reaches_takeEach hstep names hremovable
  exact ⟨reported, after, hrun, hlist⟩

theorem hasEnvKey_eq_false_iff :
    hasEnvKey document name = false ↔ (envVars document).countP (hasName name) = 0 := by
  rw [hasEnvKey, Option.isSome_eq_false_iff, Option.isNone_iff_eq_none, placeOfName?,
    List.findIdx?_eq_none_iff, List.countP_eq_zero]
  simp only [Bool.not_eq_true]
  rfl

theorem hasVolume_eq_false_iff :
    hasVolume document name = false ↔ (volumes document).countP (hasName name) = 0 :=
  isSome_findNamed?_eq_false_iff

theorem hasVolumeMount_eq_false_iff :
    hasVolumeMount document name = false ↔
      (volumeMounts document).countP (hasName name) = 0 :=
  isSome_findNamed?_eq_false_iff

/-- Deleting a volume takes the first one of the name and its first mount out of their lists. -/
theorem deleteVolume_takes (hdot : document.separator = .dot) (hwell : document.root.WellFormed)
    (hvolumes : Indexable (volumes document)) (hmounts : Indexable (volumeMounts document))
    (name : String) :
    Reaches (deleteVolume name) document fun after ↦
      volumes after = (volumes document).eraseP (hasName name) ∧
        volumeMounts after = (volumeMounts document).eraseP (hasName name) := by
  let part : Path := [.key "spec", .key "template", .key "spec"]
  have hother {current : Document} (hcurrent : current.separator = .dot) (f : Value → Value) :
      listAt (current.modifyRoot f volumesSteps) volumeMountsPath =
        listAt current volumeMountsPath :=
    listAt_modifyRoot_of_ne part [] parse_volumeMountsPath hcurrent (by decide) f
  have hback {current : Document} (hcurrent : current.separator = .dot) (f : Value → Value) :
      listAt (current.modifyRoot f volumeMountsSteps) volumesPath = listAt current volumesPath :=
    listAt_modifyRoot_of_ne part [.index 0, .key "volumeMounts"] parse_volumesPath hcurrent
      (by decide) f
  let erased := Value.onItems (·.eraseP (hasName name))
  let middle := document.modifyRoot erased volumesSteps
  have hmiddle : middle.separator = .dot := hdot
  have hfirst := removeNamed_effect parse_volumesPath hdot hwell name
  have hformed : middle.root.WellFormed := wellFormed_modify_eraseP hwell _
  have hsecond := removeNamed_effect parse_volumeMountsPath hmiddle hformed name
  apply hfirst.bind
  rintro volume after rfl
  apply hsecond.bind
  rintro mount after rfl
  refine Document.reaches_pure ⟨?_, ?_⟩
  · rw [volumes, hback hmiddle]
    exact listAt_modifyRoot_onItems parse_volumesPath hdot rfl hvolumes
  · have hsame : listAt middle volumeMountsPath = volumeMounts document := hother hdot _
    rw [← hsame] at hmounts ⊢
    exact listAt_modifyRoot_onItems parse_volumeMountsPath hmiddle rfl hmounts

end DeploymentConfig

/-! ### Entries of ports -/

namespace Service

variable {port : Int64} {entries : List Value}

def hasPort (port : Int64) (entry : Value) : Bool :=
  (entry.field? "port").bind Value.asInt == some port

/-- No entry holds NaN or has a floating point number as its port. A port is popped as a value, and
numbers are equal whichever way they are held. -/
def WellNumbered (entries : List Value) : Prop :=
  ∀ entry ∈ entries, entry.hasNaN = false ∧ ∀ x, entry.field? "port" ≠ some (.float x)

theorem hasPort_inj {other : Int64} {entry : Value} (h : hasPort port entry = true)
    (hother : hasPort other entry = true) : port = other := by
  have hport : (entry.field? "port").bind Value.asInt = some port := eq_of_beq h
  exact Option.some.inj (hport.symm.trans (eq_of_beq hother))

/-- An entry has the port of an equal one, unless it has it as a floating point number. -/
theorem hasPort_of_beq {entry other : Value} (hequal : (entry == other) = true)
    (hfloat : ∀ x, entry.field? "port" ≠ some (.float x)) (h : hasPort port other = true) :
    hasPort port entry = true := by
  have hport : (other.field? "port").bind Value.asInt = some port := eq_of_beq h
  rcases Value.cases_of_option_beq (Value.field?_beq hequal "port") with
    ⟨-, hnone⟩ | ⟨found, number, hfound, hnumber, hsame⟩
  · rw [hnone] at hport
    contradiction
  · rw [hnumber] at hport
    cases number <;> try contradiction
    cases hport
    cases found with
    | int i =>
      have hi : i = port := eq_of_beq hsame
      rw [hasPort, hfound, hi]
      exact beq_self_eq_true _
    | float x => exact absurd hfound (hfloat x)
    | _ => contradiction

/-- The first entry that is equal to the first one of a port is that one. -/
theorem positionOf?_of_find? (hentries : WellNumbered entries) {entry : Value}
    (h : entries.find? (hasPort port) = some entry) :
    positionOf? entries entry = entries.findIdx? (hasPort port) := by
  unfold positionOf?
  induction entries with
  | nil => rfl
  | cons first entries ih =>
    obtain ⟨⟨hnumber, hfloat⟩, hrest⟩ := List.forall_mem_cons.mp hentries
    rw [List.findIdx?_cons, List.findIdx?_cons]
    by_cases hfirst : hasPort port first = true
    · rw [List.find?_cons_of_pos hfirst] at h
      cases h
      rw [if_pos hfirst, if_pos (Value.beq_self hnumber)]
    · rw [List.find?_cons_of_neg hfirst] at h
      have hdiffers : ¬(first == entry) = true := by
        intro hequal
        exact hfirst (hasPort_of_beq hequal hfloat (List.find?_some h))
      rw [if_neg hfirst, if_neg hdiffers, ih hrest h]

variable {document : Document}

/-- Popping the first entry of a port takes it out of the list. -/
theorem pop_takes (hdot : document.separator = .dot) (hentries : WellNumbered (ports document))
    {entry : Value} (hentry : findPort? document port = some entry) :
    Reaches (Document.pop portsPath entry) document fun after ↦
      after.separator = .dot ∧ ports after = (ports document).eraseP (hasPort port) := by
  have hpath : document.parsePath portsPath = .ok portsSteps :=
    Document.parsePath_of_parse (hdot ▸ parse_portsPath)
  obtain ⟨place, hplace⟩ := List.getElem?_of_mem (List.mem_of_find?_eq_some hentry)
  have hbase := lookup_of_getElem?_listAt parse_portsPath hdot hplace
  obtain ⟨first, hfirst⟩ : ∃ first, (ports document).findIdx? (hasPort port) = some first := by
    rw [← Option.isSome_iff_exists, List.findIdx?_isSome, List.any_eq_true]
    exact ⟨entry, List.mem_of_find?_eq_some hentry, List.find?_some hentry⟩
  have hposition : positionOf? (listAt document portsPath) entry = some first :=
    (positionOf?_of_find? hentries hentry).trans hfirst
  have hrun := Document.pop_run document portsPath entry
  rw [Document.changeAt_of_parsePath hpath, Document.popChange, Value.modify?_of_lookup hbase,
    Document.popFrom, hposition] at hrun
  refine ⟨true, _, hrun, hdot, ?_⟩
  rw [List.eraseP_eq_eraseIdx, hfirst]
  exact listAt_modifyRoot_list parse_portsPath hdot hbase _

/-- Deleting ports takes the first one of each number out of the list, once for each time that the
number is given. -/
theorem deletePorts_takes (hdot : document.separator = .dot)
    (hentries : WellNumbered (ports document)) (numbers : List Int64) :
    Reaches (deletePorts numbers) document fun after ↦
      ports after = withoutFirsts hasPort numbers (ports document) := by
  let fine (current : Document) : Prop :=
    current.separator = .dot ∧ WellNumbered (ports current)
  suffices hrow : Reaches (deletePorts numbers) document fun after ↦
      fine after ∧ ports after = withoutFirsts hasPort numbers (ports document) by
    obtain ⟨reported, after, hrun, -, hlist⟩ := hrow
    exact ⟨reported, after, hrun, hlist⟩
  refine reaches_takeEach (fun port current hfine ↦ ?_) numbers ⟨hdot, hentries⟩
  apply Document.reaches_get
  cases hentry : findPort? current port with
  | none =>
    refine Document.reaches_pure ⟨hfine, ?_⟩
    exact (List.eraseP_of_forall_not (List.find?_eq_none.mp hentry)).symm
  | some entry =>
    obtain ⟨reported, after, hrun, hafter, hleft⟩ := pop_takes hfine.1 hfine.2 hentry
    refine ⟨reported, after, hrun, ⟨hafter, ?_⟩, hleft⟩
    rw [WellNumbered, hleft]
    exact fun entry hmem ↦ hfine.2 entry (List.mem_of_mem_eraseP hmem)

theorem findPort?_eq_none_iff :
    findPort? document port = none ↔ (ports document).countP (hasPort port) = 0 := by
  rw [findPort?, List.find?_eq_none, List.countP_eq_zero]
  rfl

end Service

/-! ### What is left -/

/-- A deletion succeeds and takes out the first entries of a name or port, one for each time that it
is given. So none of them is left exactly where there were no more. -/
theorem deletions_take_first {document : Document} (hdot : document.separator = .dot)
    (hwell : document.root.WellFormed) :
    (∀ names, Indexable (DeploymentConfig.envVars document) →
      Reaches (DeploymentConfig.deleteEnvVars names) document fun after ↦
        DeploymentConfig.envVars after =
            withoutFirsts hasName names (DeploymentConfig.envVars document) ∧
          ∀ name, DeploymentConfig.hasEnvKey after name = false ↔
            (DeploymentConfig.envVars document).countP (hasName name) ≤ names.count name) ∧
      (∀ name, Indexable (DeploymentConfig.volumes document) →
        Indexable (DeploymentConfig.volumeMounts document) →
        Reaches (DeploymentConfig.deleteVolume name) document fun after ↦
          (DeploymentConfig.hasVolume after name = false ↔
              (DeploymentConfig.volumes document).countP (hasName name) ≤ 1) ∧
            (DeploymentConfig.hasVolumeMount after name = false ↔
              (DeploymentConfig.volumeMounts document).countP (hasName name) ≤ 1)) ∧
      ∀ numbers, Service.WellNumbered (Service.ports document) →
        Reaches (Service.deletePorts numbers) document fun after ↦
          Service.ports after =
              withoutFirsts Service.hasPort numbers (Service.ports document) ∧
            ∀ port, Service.findPort? after port = none ↔
              (Service.ports document).countP (Service.hasPort port) ≤ numbers.count port := by
  refine ⟨fun names hlength ↦ ?_, fun name hvolumes hmounts ↦ ?_, fun numbers hentries ↦ ?_⟩
  · obtain ⟨reported, after, hrun, hleft⟩ :=
      DeploymentConfig.deleteEnvVars_takes ⟨hdot, hwell, hlength⟩ names
    refine ⟨reported, after, hrun, hleft, fun name ↦ ?_⟩
    rw [DeploymentConfig.hasEnvKey_eq_false_iff, hleft,
      countP_withoutFirsts (p := hasName) fun _ _ _ ↦ hasName_inj, Nat.sub_eq_zero_iff_le]
  · obtain ⟨reported, after, hrun, hvolumesLeft, hmountsLeft⟩ :=
      DeploymentConfig.deleteVolume_takes hdot hwell hvolumes hmounts name
    have hcount (items : List Value) : (items.eraseP (hasName name)).countP (hasName name) =
        items.countP (hasName name) - 1 := by
      rw [countP_eraseP (p := hasName) fun _ _ _ ↦ hasName_inj, if_pos rfl]
    refine ⟨reported, after, hrun, ?_, ?_⟩
    · rw [DeploymentConfig.hasVolume_eq_false_iff, hvolumesLeft, hcount, Nat.sub_eq_zero_iff_le]
    · rw [DeploymentConfig.hasVolumeMount_eq_false_iff, hmountsLeft, hcount,
        Nat.sub_eq_zero_iff_le]
  · obtain ⟨reported, after, hrun, hleft⟩ := Service.deletePorts_takes hdot hentries numbers
    refine ⟨reported, after, hrun, hleft, fun port ↦ ?_⟩
    rw [Service.findPort?_eq_none_iff, hleft,
      countP_withoutFirsts (p := Service.hasPort) fun _ _ _ ↦ Service.hasPort_inj,
      Nat.sub_eq_zero_iff_le]

/-- Two variables of one name, a volume that is mounted twice, and one port of two protocols. -/
def paired : Document :=
  let entry (name : String) : Value := .map [("name", .string name)]
  let port (protocol : String) : Value := .map [("port", .int 53), ("protocol", .string protocol)]
  let container : Value :=
    .map [("env", .list [entry "A", entry "A"]), ("volumeMounts", .list [entry "v", entry "v"])]
  let pod : Value :=
    .map [("containers", .list [container]), ("volumes", .list [entry "v"])]
  { root := .map [("spec", .map [("ports", .list [port "TCP", port "UDP"]),
      ("template", .map [("spec", pod)])])] }

theorem wellFormed_paired : paired.root.WellFormed := by
  simp only [paired, Value.WellFormed, Value.ItemsWellFormed, Value.FieldsWellFormed]
  decide

section

open DeploymentConfig Service

theorem envVars_paired : envVars paired =
    [.map [("name", .string "A")], .map [("name", .string "A")]] :=
  listAt_eq parse_envPath rfl

theorem volumes_paired : volumes paired = [.map [("name", .string "v")]] :=
  listAt_eq parse_volumesPath rfl

theorem volumeMounts_paired : volumeMounts paired =
    [.map [("name", .string "v")], .map [("name", .string "v")]] :=
  listAt_eq parse_volumeMountsPath rfl

theorem ports_paired : ports paired =
    [.map [("port", .int 53), ("protocol", .string "TCP")],
      .map [("port", .int 53), ("protocol", .string "UDP")]] :=
  listAt_eq Service.parse_portsPath rfl

theorem wellNumbered_paired : WellNumbered (ports paired) := by
  rw [ports_paired]
  exact List.forall_mem_cons.mpr ⟨⟨rfl, nofun⟩, List.forall_mem_singleton.mpr ⟨rfl, nofun⟩⟩

/-- Both entries of a pair are taken out when the name or port is given twice. -/
theorem deletions_take_first_of_paired :
    paired.separator = .dot ∧ paired.root.WellFormed ∧
      Indexable (envVars paired) ∧ Indexable (volumes paired) ∧
      Indexable (volumeMounts paired) ∧ WellNumbered (ports paired) ∧
      Reaches (deleteEnvVars ["A", "A"]) paired (hasEnvKey · "A" = false) ∧
      Reaches (deleteVolume "v") paired (hasVolume · "v" = false) ∧
      Reaches (deletePorts [53, 53]) paired (findPort? · 53 = none) := by
  have hvars : Indexable (envVars paired) := by rw [envVars_paired]; decide
  have hvolumes : Indexable (volumes paired) := by rw [volumes_paired]; decide
  have hmounts : Indexable (volumeMounts paired) := by rw [volumeMounts_paired]; decide
  have hdot : paired.separator = .dot := rfl
  obtain ⟨hnames, hname, hnumbers⟩ := deletions_take_first hdot wellFormed_paired
  obtain ⟨_, named, hnamed, -, hkey⟩ := hnames ["A", "A"] hvars
  obtain ⟨_, left, hleft, hvolume, -⟩ := hname "v" hvolumes hmounts
  obtain ⟨_, numbered, hnumbered, -, hport⟩ := hnumbers [53, 53] wellNumbered_paired
  refine ⟨hdot, wellFormed_paired, hvars, hvolumes, hmounts, wellNumbered_paired,
    ⟨_, named, hnamed, (hkey "A").mpr ?_⟩, ⟨_, left, hleft, hvolume.mpr ?_⟩,
    _, numbered, hnumbered, (hport 53).mpr ?_⟩
  · rw [envVars_paired]
    decide
  · rw [volumes_paired]
    decide
  · rw [ports_paired]
    decide

/-- One entry of a pair is left when the name or port is given once. -/
theorem deletion_leaves_second :
    Reaches (deleteEnvVars ["A"]) paired (hasEnvKey · "A" = true) ∧
      Reaches (deleteVolume "v") paired (hasVolumeMount · "v" = true) ∧
      Reaches (deletePorts [53]) paired (findPort? · 53 ≠ none) := by
  have hremovable : Removable envPath paired := by
    refine ⟨rfl, wellFormed_paired, ?_⟩
    rw [show listAt paired envPath = _ from envVars_paired]
    decide
  have hvolumes : Indexable (volumes paired) := by rw [volumes_paired]; decide
  have hmounts : Indexable (volumeMounts paired) := by rw [volumeMounts_paired]; decide
  obtain ⟨_, named, hnamed, hvars⟩ := deleteEnvVars_takes hremovable ["A"]
  obtain ⟨_, left, hleft, -, hmount⟩ :=
    deleteVolume_takes rfl wellFormed_paired hvolumes hmounts "v"
  obtain ⟨_, numbered, hnumbered, hports⟩ := deletePorts_takes rfl wellNumbered_paired [53]
  refine ⟨⟨_, named, hnamed, ?_⟩, ⟨_, left, hleft, ?_⟩, _, numbered, hnumbered, ?_⟩
  · show hasEnvKey named "A" = true
    rw [← Bool.not_eq_false, hasEnvKey_eq_false_iff, hvars, envVars_paired]
    decide
  · show hasVolumeMount left "v" = true
    rw [← Bool.not_eq_false, hasVolumeMount_eq_false_iff, hmount, volumeMounts_paired]
    decide
  · show ¬findPort? numbered 53 = none
    rw [findPort?_eq_none_iff, hports, ports_paired]
    decide

end

end ClusterRouter
