import ClusterRouter.Proofs.Document.Locality
import ClusterRouter.Proofs.Manifest.Ports

/-!
# Normalised protocols

Setting the protocol of ports succeeds on every document. It sets one field of the ports that it is
meant for and leaves all else as it was, it reports a change exactly when a port was changed, and
once it is done doing it again does nothing.
-/

namespace ClusterRouter

section

variable {protocol : String} {onlyMissing : Bool} {port : Value}

/-! ### Ports with their protocol set -/

theorem fieldSet_withProtocol (h : Adjusted onlyMissing port) :
    Value.FieldSet "protocol" (.string protocol) port (withProtocol protocol onlyMissing port) := by
  rw [withProtocol_of_adjusted h]
  obtain ⟨hmap, -⟩ := h
  cases port <;> try contradiction
  case map fields =>
    obtain ⟨after, set, hafter, hset, hequal, hothers⟩ :=
      Value.exists_withField "protocol" (.string protocol) fields
    have hvalue : set = .string protocol := hequal.elim id Value.eq_string_of_beq
    rw [hafter]
    exact ⟨rfl, hset.trans (congrArg some hvalue), hothers⟩

/-- Setting the protocol of a port changes nothing exactly if it is set already where it is meant to
be. -/
theorem withProtocol_eq_self_iff :
    withProtocol protocol onlyMissing port = port ↔
      (Adjusted onlyMissing port → port.field? "protocol" = some (.string protocol)) := by
  constructor
  · intro hsame hadjusted
    have hset : (withProtocol protocol onlyMissing port).field? "protocol" =
        some (.string protocol) := (fieldSet_withProtocol hadjusted).set
    rwa [hsame] at hset
  · intro hset
    by_cases hadjusted : Adjusted onlyMissing port
    · rw [withProtocol_of_adjusted hadjusted]
      apply Value.withField_of_field?
      rw [hset hadjusted]
      exact Value.beq_self rfl
    · exact withProtocol_of_not_adjusted hadjusted

theorem withProtocol_withProtocol (protocol : String) (onlyMissing : Bool) (port : Value) :
    withProtocol protocol onlyMissing (withProtocol protocol onlyMissing port) =
      withProtocol protocol onlyMissing port := by
  rw [withProtocol_eq_self_iff]
  intro hafter
  by_cases hadjusted : Adjusted onlyMissing port
  · exact (fieldSet_withProtocol hadjusted).set
  · rw [withProtocol_of_not_adjusted hadjusted] at hafter
    contradiction

/-- Two lists of ports in one order: those that are meant have the protocol and their other fields,
and all others are the same. -/
def ProtocolsSet (protocol : String) (onlyMissing : Bool) : List Value → List Value → Prop :=
  List.Forall₂ fun port new ↦
    (Adjusted onlyMissing port → Value.FieldSet "protocol" (.string protocol) port new) ∧
      (¬Adjusted onlyMissing port → new = port)

theorem protocolsSet_map (protocol : String) (onlyMissing : Bool) (ports : List Value) :
    ProtocolsSet protocol onlyMissing ports (ports.map (withProtocol protocol onlyMissing)) := by
  rw [ProtocolsSet, List.forall₂_map_right_iff, List.forall₂_same]
  exact fun port _ ↦ ⟨fieldSet_withProtocol, withProtocol_of_not_adjusted⟩

end

/-! ### Documents with the protocols of ports set -/

section

variable {text protocol : String} {base : Path} {onlyMissing : Bool} {document : Document}

theorem onlyAt_modifyRoot (hwell : document.root.WellFormed) (f : Value → Value) (base : Path) :
    Document.OnlyAt base document (document.modifyRoot f base) := by
  cases hbase : document.root.lookup base with
  | none =>
    have hsame : document.modifyRoot f base = document := by
      apply Document.modifyRoot_eq_self hwell
      intro found hfound
      cases hbase.symm.trans hfound
    rw [hsame]
    exact .refl base document
  | some found =>
    have hput : document.modifyRoot f base = document.modifyRoot (fun _ ↦ f found) base := by
      apply Document.modifyRoot_congr
      intro other hother
      cases hbase.symm.trans hother
      rfl
    rw [hput]
    exact Document.onlyAt_of_create? (Value.create?_of_lookup hbase (f found))

/-- Where indices do not reach all items of a list, a change of them is none. -/
theorem modifyRoot_onItems_of_not_indexable (hparse : Path.parse text .dot = .ok base)
    (hdot : document.separator = .dot) (hwell : document.root.WellFormed)
    (hlength : ¬Indexable (listAt document text)) (f : List Value → List Value) :
    document.modifyRoot (Value.onItems f) base = document := by
  apply Document.modifyRoot_eq_self hwell
  intro found hfound
  rw [listAt_eq hparse hdot, hfound] at hlength
  cases found <;> try rfl
  case list items => exact if_neg hlength

/-- Setting protocols that are set already does nothing. -/
theorem setPortProtocol_run_of_set (hparse : Path.parse text .dot = .ok base)
    (hdot : document.separator = .dot)
    (hset : Indexable (listAt document text) →
      (listAt document text).map (withProtocol protocol onlyMissing) = listAt document text) :
    (setPortProtocol text protocol onlyMissing).run document = .ok false document := by
  apply Document.editEach_run_of_false
  rintro ⟨port, place⟩ hitem
  have hport := List.mk_mem_zipIdx_iff_getElem?.mp hitem
  simp only
  split
  · rfl
  · next hmeant =>
    have hadjusted : Adjusted onlyMissing port := adjusted_iff_not.mpr hmeant
    obtain ⟨hlt, hget⟩ := List.getElem?_eq_some_iff.mp hport
    apply put_run_behind_item (parsePath_protocol hparse hdot place)
      (lookup_of_getElem?_listAt hparse hdot hport) hlt
    intro hlength
    have hsame : withProtocol protocol onlyMissing port = port := by
      have hplace := congrArg (·[place]?) (hset hlength)
      simp only [List.getElem?_map, hport, Option.map_some] at hplace
      exact Option.some.inj hplace
    rw [hget, Value.lookup_key, withProtocol_eq_self_iff.mp hsame hadjusted]
    exact Value.beq_self rfl

/-- Setting protocols without a report of a change changes nothing. -/
theorem eq_of_setPortProtocol_false {after : Document}
    (hrun : (setPortProtocol text protocol onlyMissing).run document = .ok false after) :
    after = document := by
  apply Document.eq_of_editEach_false _ hrun
  rintro ⟨port, place⟩ - current last hlast
  simp only at hlast
  split at hlast
  · cases hlast
    rfl
  · rw [Document.put_run] at hlast
    exact Document.eq_of_concluded_false hlast

/-- What setting the protocols of the ports in a list comes to. That indices reach every port of
the list is so for every list that memory holds. -/
structure Normalises (edit : Editing Bool) (text : String) (base : Path) (protocol : String)
    (onlyMissing : Bool) (document : Document) (reported : Bool) (after : Document) : Prop where
  run : edit.run document = .ok reported after
  ports : Indexable (listAt document text) →
    ProtocolsSet protocol onlyMissing (listAt document text) (listAt after text)
  only : Document.OnlyAt base document after
  reports : reported = true ↔ listAt after text ≠ listAt document text
  kept : reported = false → after = document
  again : edit.run after = .ok false after

/-- Setting the protocols of ports normalises them. -/
theorem setPortProtocol_normalises (hparse : Path.parse text .dot = .ok base) (protocol : String)
    (onlyMissing : Bool) (hdot : document.separator = .dot) (hwell : document.root.WellFormed) :
    ∃ reported after, Normalises (setPortProtocol text protocol onlyMissing) text base protocol
      onlyMissing document reported after := by
  let change := Value.onItems (·.map (withProtocol protocol onlyMissing))
  let after := document.modifyRoot change base
  have hafter : after.separator = .dot := hdot
  have hreached (hlength : Indexable (listAt document text)) :
      listAt after text = (listAt document text).map (withProtocol protocol onlyMissing) :=
    listAt_modifyRoot_onItems hparse hdot rfl hlength
  have hunreached (hlength : ¬Indexable (listAt document text)) : after = document :=
    modifyRoot_onItems_of_not_indexable hparse hdot hwell hlength _
  obtain ⟨reported, _, hrun, rfl⟩ := setPortProtocol_effect hparse protocol onlyMissing hdot hwell
  have hkept (hreported : reported = false) : after = document :=
    eq_of_setPortProtocol_false (hreported ▸ hrun)
  refine ⟨reported, after, hrun, ?_, onlyAt_modifyRoot hwell change base, ?_, hkept, ?_⟩
  · intro hlength
    rw [hreached hlength]
    exact protocolsSet_map protocol onlyMissing _
  · constructor
    · -- if no port has changed, then every one was set before, and nothing was done
      rintro hreported hsame
      have hnothing : (setPortProtocol text protocol onlyMissing).run document =
          .ok false document :=
        setPortProtocol_run_of_set hparse hdot fun hlength ↦ (hreached hlength).symm.trans hsame
      cases hreported ▸ hrun.symm.trans hnothing
    · intro hdiffers
      by_contra hreported
      exact hdiffers (congrArg (listAt · text) (hkept (Bool.eq_false_of_not_eq_true hreported)))
  · apply setPortProtocol_run_of_set hparse hafter
    intro hlength
    by_cases hbefore : Indexable (listAt document text)
    · rw [hreached hbefore, List.map_map]
      congr 1
      funext port
      exact withProtocol_withProtocol protocol onlyMissing port
    · rw [hunreached hbefore] at hlength
      contradiction

end

/-- Forcing a protocol on the ports of a service and adding it to those ports of a deployment that
name none succeed on every document. They change the protocols of these ports and nothing else, they
report a change exactly if a port was changed, and nothing changes when they are done again. -/
theorem protocols_normalised {document : Document} (hdot : document.separator = .dot)
    (hwell : document.root.WellFormed) (protocol : String) :
    (∃ reported after, Normalises (Service.forcePortProtocol protocol) Service.portsPath
      Service.portsSteps protocol false document reported after) ∧
      ∃ reported after, Normalises (DeploymentConfig.defaultPortProtocol protocol)
        DeploymentConfig.portsPath DeploymentConfig.portsSteps protocol true document
        reported after :=
  ⟨setPortProtocol_normalises Service.parse_portsPath protocol false hdot hwell,
    setPortProtocol_normalises DeploymentConfig.parse_portsPath protocol true hdot hwell⟩

/-- Ports without a protocol and with null for it, and an entry that is no port. -/
def unnamedProtocols : Document :=
  let ports : Value := .list [.map [("port", .int 80)], .string "port", .map [("protocol", .null)]]
  let container : Value := .map [("ports", ports)]
  { root := .map [("spec", .map [("ports", ports),
      ("template", .map [("spec", .map [("containers", .list [container])])])])] }

/-- Both ports are forced to a protocol, and only the first one of them is given one. -/
theorem protocols_normalised_of_unnamed :
    unnamedProtocols.separator = .dot ∧ unnamedProtocols.root.WellFormed ∧
      (∃ after, (Service.forcePortProtocol "TCP").run unnamedProtocols = .ok true after ∧
        ProtocolsSet "TCP" false (Service.ports unnamedProtocols) (Service.ports after) ∧
        (Service.forcePortProtocol "TCP").run after = .ok false after) ∧
      ∃ after, (DeploymentConfig.defaultPortProtocol "TCP").run unnamedProtocols = .ok true after ∧
        ProtocolsSet "TCP" true (DeploymentConfig.containerPorts unnamedProtocols)
          (DeploymentConfig.containerPorts after) ∧
        (DeploymentConfig.defaultPortProtocol "TCP").run after = .ok false after := by
  have hdot : unnamedProtocols.separator = .dot := rfl
  have hwell : unnamedProtocols.root.WellFormed := by
    simp only [unnamedProtocols, Value.WellFormed, Value.ItemsWellFormed, Value.FieldsWellFormed]
    decide
  have hforces : Document.reportsChange (Service.forcePortProtocol "TCP") unnamedProtocols = true := by
    decide +kernel
  have hgives : Document.reportsChange (DeploymentConfig.defaultPortProtocol "TCP")
      unnamedProtocols = true := by decide +kernel
  obtain ⟨⟨_, forced, hforced⟩, _, given, hgiven⟩ := protocols_normalised hdot hwell "TCP"
  cases (Document.reportsChange_of_run hforced.run).symm.trans hforces
  cases (Document.reportsChange_of_run hgiven.run).symm.trans hgives
  have hports : Indexable (Service.ports unnamedProtocols) := by decide +kernel
  have hcontainerPorts : Indexable (DeploymentConfig.containerPorts unnamedProtocols) := by
    decide +kernel
  exact ⟨hdot, hwell,
    ⟨forced, hforced.run, hforced.ports hports, hforced.again⟩,
    given, hgiven.run, hgiven.ports hcontainerPorts, hgiven.again⟩

end ClusterRouter
