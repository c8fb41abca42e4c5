import ClusterRouter.Manifest.Service
import ClusterRouter.Proofs.Drift.Interchange
import ClusterRouter.Proofs.Manifest.Entries

/-!
# Protocols of ports

Setting the protocol of ports succeeds on every document and changes the protocols in the list of
ports and nothing else. A document that agrees with an observed one goes on to do so as long as only
missing protocols are added.
-/

namespace ClusterRouter

open Document (Reaches)

namespace Service

def portsSteps : Path := [.key "spec", .key "ports"]

theorem parse_portsPath : Path.parse portsPath .dot = .ok portsSteps := by decide +kernel

end Service

section

variable {text protocol : String} {base : Path}

theorem parsePath_protocol (h : Path.parse text .dot = .ok base) {document : Document}
    (hdot : document.separator = .dot) (place : Nat) :
    document.parsePath (itemPath text place ++ ".protocol") = .ok (fieldPath base place "protocol") :=
  parsePath_field h hdot place rfl (by decide) (by decide)

/-- A port whose protocol is set. -/
def Adjusted (onlyMissing : Bool) (port : Value) : Prop :=
  port.asMap.isSome ∧ (onlyMissing = true → port.field? "protocol" = none)

theorem adjusted_iff_not {onlyMissing : Bool} {port : Value} :
    Adjusted onlyMissing port ↔
      ¬(port.asMap.isNone || onlyMissing && (port.field? "protocol").isSome) = true := by
  simp only [Adjusted, Bool.or_eq_true, Bool.and_eq_true, not_or, not_and,
    Option.isNone_iff_eq_none, ← Option.ne_none_iff_isSome, ne_eq, Decidable.not_not]

/-- What every put of a protocol keeps is kept by setting all of them. -/
theorem setPortProtocol_reaches {onlyMissing : Bool} {document : Document}
    {post : Document → Prop} (hpost : post document)
    (hput : ∀ (port : Value) (place : Nat), (listAt document text)[place]? = some port →
      Adjusted onlyMissing port → ∀ current, post current →
      Reaches (Document.put (itemPath text place ++ ".protocol") (.string protocol)) current post) :
    Reaches (setPortProtocol text protocol onlyMissing) document post := by
  refine Document.reaches_editEach (fun item hitem current hcurrent ↦ ?_) hpost
  obtain ⟨port, place⟩ := item
  simp only
  split
  · exact Document.reaches_pure hcurrent
  next hadjusted =>
    have hport := List.mk_mem_zipIdx_iff_getElem?.mp hitem
    exact hput port place hport (adjusted_iff_not.mpr hadjusted) current hcurrent

/-- Setting the protocols of ports succeeds on every document. -/
theorem setPortProtocol_succeeds (hparse : Path.parse text .dot = .ok base) (protocol : String)
    (onlyMissing : Bool) {document : Document} (hdot : document.separator = .dot) :
    Reaches (setPortProtocol text protocol onlyMissing) document
      fun after ↦ after.separator = .dot := by
  apply setPortProtocol_reaches hdot
  intro port place _ _ current hcurrent
  exact Document.reaches_put (parsePath_protocol hparse hcurrent place) hcurrent
    fun _ _ _ ↦ hcurrent

/-! ### What becomes of the ports -/

/-- A port with its protocol set, if it is a map, or only if it names none. -/
def withProtocol (protocol : String) (onlyMissing : Bool) (port : Value) : Value :=
  if onlyMissing && (port.field? "protocol").isSome then port
  else Value.withField "protocol" (.string protocol) port

theorem wellFormed_withProtocol {onlyMissing : Bool} {port : Value} (hport : port.WellFormed) :
    (withProtocol protocol onlyMissing port).WellFormed := by
  unfold withProtocol
  split
  · exact hport
  · exact Value.wellFormed_withField trivial hport

theorem wellFormed_modify_ports {onlyMissing : Bool} {root : Value} (hwell : root.WellFormed) :
    (root.modify (Value.onItems (·.map (withProtocol protocol onlyMissing))) base).WellFormed := by
  apply Value.wellFormed_modify hwell
  intro found hfound
  refine Value.wellFormed_onItems (fun ports hports ↦ ?_) (Value.wellFormed_of_lookup hwell hfound)
  rw [Value.itemsWellFormed_iff] at hports ⊢
  intro after hafter
  obtain ⟨port, hport, rfl⟩ := List.mem_map.mp hafter
  exact wellFormed_withProtocol (hports port hport)

/-- A protocol that is missing or set already is set like any other field. -/
theorem withProtocol_eq_withField {onlyMissing : Bool} {port : Value}
    (h : ∀ found, port.field? "protocol" = some found → onlyMissing = true →
      found = .string protocol) :
    withProtocol protocol onlyMissing port = Value.withField "protocol" (.string protocol) port := by
  unfold withProtocol
  split
  · next hkept =>
    obtain ⟨honly, hset⟩ := Bool.and_eq_true_iff.mp hkept
    obtain ⟨found, hfound⟩ := Option.isSome_iff_exists.mp hset
    cases h found hfound honly
    symm
    apply Value.withField_of_field?
    rw [hfound]
    exact Value.beq_self rfl
  · rfl

theorem withProtocol_of_not_adjusted {onlyMissing : Bool} {port : Value}
    (h : ¬Adjusted onlyMissing port) : withProtocol protocol onlyMissing port = port := by
  unfold withProtocol
  split
  · rfl
  · next hset =>
    cases port <;> try rfl
    case map fields =>
      refine absurd ⟨rfl, fun honly ↦ ?_⟩ h
      simpa [honly] using hset

theorem withProtocol_of_adjusted {onlyMissing : Bool} {port : Value}
    (h : Adjusted onlyMissing port) :
    withProtocol protocol onlyMissing port = Value.withField "protocol" (.string protocol) port := by
  apply withProtocol_eq_withField
  intro found hfound honly
  rw [h.2 honly] at hfound
  contradiction

/-- A list of which the first items are changed. -/
def changedBefore (f : Value → Value) (n : Nat) (items : List Value) : List Value :=
  items.mapIdx fun place item ↦ if place < n then f item else item

theorem changedBefore_zero (f : Value → Value) (items : List Value) :
    changedBefore f 0 items = items := by
  apply List.ext_getElem?
  simp [changedBefore]

theorem changedBefore_length (f : Value → Value) (items : List Value) :
    changedBefore f items.length items = items.map f := by
  apply List.ext_getElem?
  intro place
  simp only [changedBefore, List.getElem?_mapIdx, List.getElem?_map]
  cases hitem : items[place]? with
  | none => rfl
  | some item =>
    have hlt : place < items.length := (List.getElem?_eq_some_iff.mp hitem).1
    simp [hlt]

theorem changedBefore_succ {f g : Value → Value} {items : List Value} {n : Nat} {item : Value}
    (hitem : items[n]? = some item) (hsame : g item = f item) :
    (changedBefore f n items).modify n g = changedBefore f (n + 1) items := by
  apply List.ext_getElem?
  intro place
  simp only [changedBefore, List.getElem?_modify, List.getElem?_mapIdx]
  by_cases hplace : n = place
  · subst hplace
    simp [hitem, hsame]
  · have hiff : place < n ↔ place < n + 1 := by omega
    simp [hplace, hiff]

theorem itemsWellFormed_changedBefore {f : Value → Value}
    (hf : ∀ item : Value, item.WellFormed → (f item).WellFormed) (n : Nat) {items : List Value}
    (h : Value.ItemsWellFormed items) : Value.ItemsWellFormed (changedBefore f n items) := by
  rw [Value.itemsWellFormed_iff] at h ⊢
  intro item hitem
  obtain ⟨place, hlt, rfl⟩ := List.mem_mapIdx.mp hitem
  split
  · exact hf _ (h _ (List.getElem_mem hlt))
  · exact h _ (List.getElem_mem hlt)

/-- A row of edits of which each changes the item at its own place changes all items. -/
theorem reaches_editItems (hparse : Path.parse text .dot = .ok base) {document : Document}
    (hdot : document.separator = .dot) (hwell : document.root.WellFormed)
    {edit : Value × Nat → Editing Bool} {f : Value → Value}
    (hf : ∀ item : Value, item.WellFormed → (f item).WellFormed)
    (hedit : ∀ place item, (listAt document text)[place]? = some item →
      ∀ current : Document, current.separator = .dot → current.root.WellFormed →
      ∀ items, current.root.lookup base = some (.list items) → place < items.length →
      ∃ g, g item = f item ∧ Reaches (edit (item, place)) current
        (· = current.modifyRoot (Value.onItems (·.modify place g)) base)) :
    Reaches (editEach edit (listAt document text).zipIdx) document
      (· = document.modifyRoot (Value.onItems (·.map f)) base) := by
  let items : List Value := listAt document text
  -- The invariant: after `n` edits the first `n` items are changed.
  let changed (n : Nat) : Document := document.modifyRoot (Value.onItems (changedBefore f n)) base
  have hlength (n : Nat) (items : List Value) : (changedBefore f n items).length = items.length :=
    List.length_mapIdx
  have hstart : changed 0 = document := by
    apply Document.modifyRoot_eq_self hwell
    intro found _
    exact Value.onItems_eq_self fun items _ ↦ changedBefore_zero f items
  have hend : changed items.length = document.modifyRoot (Value.onItems (·.map f)) base := by
    apply Document.modifyRoot_congr
    intro found hfound
    cases found <;> try rfl
    case list others =>
      have hitems : items = others := by
        rw [show items = listAt document text from rfl, listAt_eq hparse hdot, hfound]
        rfl
      rw [Value.onItems, Value.onItems, hitems, changedBefore_length]
  have hformed (n : Nat) : (changed n).root.WellFormed := by
    apply Value.wellFormed_modify hwell
    intro found hfound
    exact Value.wellFormed_onItems (fun items ↦ itemsWellFormed_changedBefore hf n)
      (Value.wellFormed_of_lookup hwell hfound)
  have hstep (n : Nat) (item : Value) (hitem : items[n]? = some item) :
      Reaches (edit (item, n)) (changed n) (· = changed (n + 1)) := by
    have hbase : document.root.lookup base = some (.list items) :=
      lookup_of_getElem?_listAt hparse hdot hitem
    have hlt : n < items.length := (List.getElem?_eq_some_iff.mp hitem).1
    obtain ⟨others, hothers, hsame⟩ : ∃ others,
        (changed n).root.lookup base = some (.list others) ∧ others.length = items.length := by
      have hlookup := Value.lookup_modify (Value.onItems (changedBefore f n)) document.root base
      rw [hbase, Option.map_some, Value.onItems] at hlookup
      split at hlookup
      · exact ⟨_, hlookup, hlength n items⟩
      · exact ⟨_, hlookup, rfl⟩
    obtain ⟨g, hg, reported, after, hrun, rfl⟩ :=
      hedit n item hitem (changed n) hdot (hformed n) others hothers (hsame ▸ hlt)
    refine ⟨reported, _, hrun, ?_⟩
    rw [Document.modifyRoot_modifyRoot]
    apply Document.modifyRoot_congr
    intro found hfound
    cases hbase.symm.trans hfound
    rw [Function.comp_apply, Value.onItems_onItems (hlength n), Value.onItems, Value.onItems,
      Function.comp_apply, changedBefore_succ hitem hg]
  have hall := Document.reaches_editEach_zipIdx (fun n current ↦ current = changed n)
    (fun n item hitem current hcurrent ↦ by
      rw [hcurrent, Nat.zero_add]
      exact hstep n item hitem) hstart.symm
  rwa [Nat.zero_add, hend] at hall

/-- Setting the protocols of ports changes the list of ports and nothing else. -/
theorem setPortProtocol_effect (hparse : Path.parse text .dot = .ok base) (protocol : String)
    (onlyMissing : Bool) {document : Document} (hdot : document.separator = .dot)
    (hwell : document.root.WellFormed) :
    Reaches (setPortProtocol text protocol onlyMissing) document
      (· = document.modifyRoot (Value.onItems (·.map (withProtocol protocol onlyMissing))) base) := by
  apply Document.reaches_get
  apply reaches_editItems hparse hdot hwell fun item ↦ wellFormed_withProtocol
  intro place port _ current hcurrent hformed items hitems hlt
  simp only
  split
  · next hkept =>
    have hnot : ¬Adjusted onlyMissing port := fun hadjusted ↦ adjusted_iff_not.mp hadjusted hkept
    refine ⟨id, (withProtocol_of_not_adjusted hnot).symm, Document.reaches_pure ?_⟩
    symm
    apply Document.modifyRoot_eq_self hformed
    intro found _
    exact Value.onItems_eq_self fun items _ ↦ List.modify_id place items
  · next hset =>
    exact ⟨_, (withProtocol_of_adjusted (adjusted_iff_not.mpr hset)).symm,
      reaches_putField (parsePath_protocol hparse hcurrent place) hformed hitems hlt _⟩

/-! ### Ports of a document that agrees with an observed one -/

/-- A port with its protocol added stands in for the port. -/
theorem standsIn_withProtocol {skip : SkipSet} {onlyMissing : Bool} {port : Value}
    (h : Adjusted onlyMissing port →
      ∀ found, port.field? "protocol" = some found → found = .string protocol) :
    Drift.StandsIn skip .item (withProtocol protocol onlyMissing port) port := by
  by_cases hadjusted : Adjusted onlyMissing port
  · rw [withProtocol_of_adjusted hadjusted]
    cases hfound : port.field? "protocol" with
    | some found =>
      cases h hadjusted found hfound
      rw [Value.withField_of_field? (by rw [hfound]; exact Value.beq_self rfl)]
      exact .refl port
    | none =>
      obtain ⟨fields, hfields⟩ := Option.isSome_iff_exists.mp hadjusted.1
      cases port <;> cases hfields
      have hmissing : Fields.get? fields "protocol" = none := hfound
      rw [Value.withField, Value.setField?, hmissing]
      exact .insert hmissing _
  · rw [withProtocol_of_not_adjusted hadjusted]
    exact .refl port

/-- A document with missing protocols set stands in for the document, if the other protocols that
are set were there before. -/
theorem standsIn_modify_ports {skip : SkipSet} {onlyMissing : Bool} {root : Value}
    (hwell : root.WellFormed) (hlevel : Drift.Position.Level .item base)
    (hlist : Drift.Position.after .item base = .entry)
    (hports : ∀ i port, root.lookup (base ++ [.index i]) = some port → Adjusted onlyMissing port →
      ∀ found, port.field? "protocol" = some found → found = .string protocol) :
    Drift.StandsIn skip .item
      (root.modify (Value.onItems (·.map (withProtocol protocol onlyMissing))) base) root := by
  refine Drift.StandsIn.of_modify hlevel hwell fun found hfound ↦ ?_
  rw [hlist]
  cases found <;> try exact .refl _
  case list items =>
    rw [Value.onItems]
    split
    · next hlength =>
      apply Drift.StandsIn.list (List.length_map _)
      intro n item port hitem hport
      rw [List.getElem?_map, hport] at hitem
      cases hitem
      apply standsIn_withProtocol
      apply hports (Path.saturate n)
      have hplace := Path.resolveIndex_saturate (List.getElem?_eq_some_iff.mp hport).1
      rw [if_pos hlength] at hplace
      exact Value.lookup_item_iff.mpr
        ⟨items, n, port, hfound, hplace, hport, Value.lookup_nil port⟩
    · exact .refl (.list items)

/-- A document agrees with an observed one also after missing protocols were set, if the other
protocols that are set were there before. -/
theorem setPortProtocol_covers {skip : SkipSet} {observed : Value} {onlyMissing : Bool}
    {document : Document} (hparse : Path.parse text .dot = .ok base)
    (hlevel : Drift.Position.Level .item base) (hlist : Drift.Position.after .item base = .entry)
    (hdot : document.separator = .dot) (hwell : document.root.WellFormed)
    (hcovers : Drift.Covers skip .item document.root observed)
    (hports : ∀ port ∈ listAt document text, Adjusted onlyMissing port →
      ∀ found, port.field? "protocol" = some found → found = .string protocol) :
    Reaches (setPortProtocol text protocol onlyMissing) document
      fun after ↦ Drift.Covers skip .item after.root observed := by
  obtain ⟨reported, after, hrun, rfl⟩ :=
    setPortProtocol_effect hparse protocol onlyMissing hdot hwell
  refine ⟨reported, _, hrun, standsIn_modify_ports hwell hlevel hlist ?_ observed hcovers⟩
  intro i port hport
  exact hports port (mem_listAt_of_lookup hparse hdot hport)

end

end ClusterRouter
