import ClusterRouter.Proofs.Drift.Embedding
import ClusterRouter.Proofs.Reconcile.Alignment

/-!
# A router that equals its rendering

A router whose parts are the rendered ones has drifted exactly when a port of its service says
another protocol than the default one. Aligning sets the default protocol in the rendered service
alone, so such a port is told apart from itself, and nothing else is.
-/

namespace ClusterRouter

open Document (Reaches)

namespace Reconcile

/-- The port at an index of a service says another protocol than the default one. -/
def SaysOtherProtocol (root : Value) (i : Int64) : Prop :=
  ∃ protocol, root.lookup (Service.portsSteps ++ [.index i, .key "protocol"]) = some protocol ∧
    protocol ≠ .string defaultProtocol

/-- The port at an index of a service after it was aligned. -/
theorem lookup_serviceShown {root protocol : Value} {i : Int64}
    (h : root.lookup (Service.portsSteps ++ [.index i, .key "protocol"]) = some protocol)
    (hother : protocol ≠ .string defaultProtocol) :
    (serviceShown root).lookup (Service.portsSteps ++ [.index i, .key "protocol"]) =
      some (.string defaultProtocol) := by
  obtain ⟨items, place, port, hitems, hplace, hget, hprotocol⟩ := Value.lookup_item_iff.mp h
  obtain ⟨found, hfound, hnil⟩ := Value.exists_of_lookup_cons hprotocol
  cases (Value.lookup_nil found).symm.trans hnil
  obtain ⟨hlength, -, -⟩ := resolveIndex_eq_some_iff.mp hplace
  cases port <;> try contradiction
  case map fields =>
    have hset : (Fields.get? fields "protocol" == some (.string defaultProtocol)) = false := by
      apply Bool.eq_false_iff.mpr
      intro hequal
      rw [show Fields.get? fields "protocol" = some protocol from hfound] at hequal
      exact hother (Value.eq_string_of_beq hequal)
    have hport : withProtocol defaultProtocol false (.map fields) =
        .map (Fields.insert fields "protocol" (.string defaultProtocol)) := by
      rw [withProtocol, Bool.false_and, if_neg Bool.false_ne_true, Value.withField,
        Value.setField?, hset, if_neg Bool.false_ne_true, Option.getD_some]
    have hshown : (serviceShown root).lookup Service.portsSteps =
        some (.list (items.map (withProtocol defaultProtocol false))) := by
      rw [serviceShown, Value.lookup_modify, hitems, Option.map_some, Value.onItems, if_pos hlength]
    have hindex : resolveIndex i (items.map (withProtocol defaultProtocol false)).length =
        some place := by rw [List.length_map, hplace]
    have hitem : (items.map (withProtocol defaultProtocol false))[place]? =
        some (.map (Fields.insert fields "protocol" (.string defaultProtocol))) := by
      rw [List.getElem?_map, hget, Option.map_some, hport]
    refine Value.lookup_item_iff.mpr ⟨_, place, _, hshown, hindex, hitem, ?_⟩
    rw [Value.lookup_cons, Value.child?, Fields.get?_insert_self, Option.bind_some,
      Value.lookup_nil]

/-- A service is told apart from itself by a port of another protocol. -/
theorem agree_serviceShown_eq_false {root : Value} {i : Int64} (h : SaysOtherProtocol root i) :
    Drift.agree SkipSet.allocated (serviceShown root) root = false := by
  obtain ⟨protocol, hprotocol, hother⟩ := h
  have hcounts (name : String)
      (hname : Segment.key name ∈ Service.portsSteps ++ [.index i, .key "protocol"]) :
      SkipSet.allocated.contains name = false := by
    simp only [Service.portsSteps, List.cons_append, List.nil_append, List.mem_cons,
      Segment.key.injEq, reduceCtorEq, List.not_mem_nil, or_false, false_or] at hname
    rcases hname with rfl | rfl | rfl <;> decide
  apply Bool.eq_false_iff.mpr
  intro hagree
  obtain ⟨wanted, hwanted, hagrees⟩ :=
    (Drift.agree_iff_covers.mp hagree).agrees.lookup hcounts hprotocol
  cases (lookup_serviceShown hprotocol hother).symm.trans hwanted
  -- The default protocol is a text, and a text meets nothing but itself.
  have hmeets := hagrees.meets
  cases protocol with
  | list items =>
    obtain ⟨_, hlist, -⟩ := hmeets
    contradiction
  | map fields =>
    obtain ⟨_, hmap⟩ := hmeets
    contradiction
  | _ => exact hother (Value.eq_string_of_beq ((Value.beq_comm _ _).trans hmeets))

theorem agree_serviceShown {root : Value} (hformed : root.WellFormed) (hnumbers : root.hasNaN = false)
    (h : ∀ i, ¬SaysOtherProtocol root i) :
    Drift.agree SkipSet.allocated (serviceShown root) root = true := by
  have hself : Drift.Covers SkipSet.allocated .item root root :=
    Drift.covers_of_equal SkipSet.allocated root root hformed (Value.beq_self hnumbers) .item
  have hlevel : Drift.Position.Level .item Service.portsSteps := trivial
  refine Drift.agree_iff_covers.mpr (standsIn_modify_ports hformed hlevel rfl ?_ root hself)
  rintro i port hport - protocol hprotocol
  by_contra hother
  refine h i ⟨protocol, ?_, hother⟩
  have hsteps : Service.portsSteps ++ [.index i, .key "protocol"] =
      Service.portsSteps ++ [.index i] ++ [.key "protocol"] := rfl
  rw [hsteps, Value.lookup_append, hport, Option.bind_some, Value.lookup_cons]
  cases port <;> try contradiction
  case map fields =>
    rw [Value.child?, show Fields.get? fields "protocol" = some protocol from hprotocol,
      Option.bind_some, Value.lookup_nil]

/-- An aligned deployment configuration agrees with an observed one that equals it. -/
theorem Matches.covers_deploymentShown {observed rendered : Manifest} (h : Matches observed rendered)
    (settings : Settings) (skip : SkipSet) :
    Drift.Covers skip .item (deploymentShown settings observed.document rendered.document.root)
      observed.document.root := by
  obtain ⟨_, after, hrun, hcovers⟩ := alignDeployment_covers settings h skip
  obtain ⟨_, _, heffect, rfl⟩ :=
    alignDeployment_effect settings h.observedFormed h.renderedDot h.renderedFormed
  cases hrun.symm.trans heffect
  exact hcovers

theorem Matches.agree_shown {manifest : Manifest} (h : Matches manifest manifest)
    (settings : Settings) {kind : Kind} (hkind : kind ≠ .service) :
    Drift.agree (skips kind) (shown settings manifest.document kind manifest.document.root)
      manifest.document.root = true := by
  apply Drift.agree_iff_covers.mpr
  cases kind with
  | deploymentConfig => exact h.covers_deploymentShown settings _
  | service => exact absurd rfl hkind
  | _ => exact h.covers _

/-- Compared with itself, a deployed router has drifted exactly when a port of its service says
another protocol than the default one. -/
theorem needsUpdate_self_iff (settings : Settings) {bundle : Bundle}
    (hdeployed : bundle.isDeployed = true) (hdotted : bundle.Dotted) (hformed : bundle.WellFormed)
    (hnumbers : ∀ kind manifest, bundle.get? kind = some manifest →
      manifest.document.root.hasNaN = false) :
    ∃ needs, needsUpdate settings bundle bundle = .ok needs ∧
      (needs = true ↔ ∃ service i, bundle.get? .service = some service ∧
        SaysOtherProtocol service.document.root i) := by
  have hrendered : Rendered bundle :=
    ⟨fun kind hkind ↦ List.all_eq_true.mp hdeployed kind (by
      revert hkind
      cases kind <;> decide), hdotted⟩
  refine ⟨_, needsUpdate_eq_any settings hdeployed hformed hrendered hformed, ?_⟩
  rw [List.any_eq_true]
  constructor
  · rintro ⟨kind, hkind, hdrifted⟩
    obtain ⟨manifest, hmanifest⟩ := exists_of_isDeployed hdeployed kind hkind
    rw [partDrifted_of_get? hmanifest hmanifest, Bool.not_eq_true'] at hdrifted
    have hwell : manifest.document.root.WellFormed := hformed kind manifest hmanifest
    have hnone : manifest.document.root.hasNaN = false := hnumbers kind manifest hmanifest
    have hdot : manifest.document.separator = .dot := hdotted kind manifest hmanifest
    by_cases hservice : kind = .service
    · subst hservice
      by_contra hnot
      have hagree := agree_serviceShown hwell hnone fun i hother ↦
        hnot ⟨manifest, i, hmanifest, hother⟩
      cases hagree.symm.trans hdrifted
    · have hmatches : Matches manifest manifest := ⟨hdot, hdot, hwell, hwell, Value.beq_self hnone⟩
      rw [hmatches.agree_shown settings hservice] at hdrifted
      contradiction
  · rintro ⟨service, i, hservice, hother⟩
    refine ⟨.service, by decide, ?_⟩
    rw [partDrifted_of_get? hservice hservice, Bool.not_eq_true']
    exact agree_serviceShown_eq_false hother

/-- A deployment configuration with more entries for its password and for its port. -/
def statsDeployment (password port : Fields) : Value :=
  let container : Value := .map
    [("env", .list [.map (("name", .string statsPassword) :: password)]),
      ("ports", .list [.map (("containerPort", .int 1936) :: port)])]
  let template : Value := .map [("spec", .map [("containers", .list [container])])]
  .map [("kind", .string Kind.deploymentConfig.name), ("spec", .map [("template", template)])]

def portsService (ports : List Value) : Value :=
  .map [("kind", .string Kind.service.name), ("spec", .map [("ports", .list ports)])]

/-- The parts of a router with a password in use and the given ports of its service. -/
def routerOfPorts (ports : List Value) : Bundle where
  manifests := [
    ⟨.deploymentConfig, "router", .ofRoot (statsDeployment [("value", .string "secret")] [])⟩,
    ⟨.service, "router", .ofRoot (portsService ports)⟩,
    ⟨.serviceAccount, "router", .ofRoot (.map [("kind", .string Kind.serviceAccount.name)])⟩,
    ⟨.secret, "router", .ofRoot (.map [("kind", .string Kind.secret.name)])⟩]

theorem dotted_routerOfPorts (ports : List Value) : (routerOfPorts ports).Dotted := by
  intro kind manifest h
  cases kind <;> cases h <;> rfl

theorem wellFormed_routerOfPorts {ports : List Value} (h : Value.ItemsWellFormed ports) :
    (routerOfPorts ports).WellFormed := by
  have hone (key : String) (value : Value) (hvalue : value.WellFormed) :
      Value.WellFormed (.map [(key, value)]) := ⟨List.pairwise_singleton _ _, hvalue, trivial⟩
  have hkeys : ["kind", "spec"].Pairwise (· < ·) := by decide
  have hspec (kind : Kind) (value : Value) (hvalue : value.WellFormed) :
      Value.WellFormed (.map [("kind", .string kind.name), ("spec", value)]) :=
    ⟨hkeys, trivial, hvalue, trivial⟩
  have hpassword : Value.WellFormed
      (.map [("name", .string statsPassword), ("value", .string "secret")]) :=
    ⟨by decide, trivial, trivial, trivial⟩
  have hports : Value.WellFormed (.list [.map [("containerPort", .int 1936)]]) :=
    ⟨hone "containerPort" (.int 1936) trivial, trivial⟩
  intro kind manifest hmanifest
  cases kind <;> cases hmanifest
  · apply hspec .deploymentConfig
    apply hone "template"
    apply hone "spec"
    apply hone "containers"
    exact ⟨⟨by decide, ⟨hpassword, trivial⟩, hports, trivial⟩, trivial⟩
  · exact hspec .service _ (hone "ports" (.list ports) h)
  · exact hone "kind" (.string Kind.serviceAccount.name) trivial
  · exact hone "kind" (.string Kind.secret.name) trivial

/-- A router with a port of another protocol has drifted from itself. -/
theorem drifted_from_itself :
    let bundle := routerOfPorts [.map [("port", .int 53), ("protocol", .string "UDP")]]
    bundle.isDeployed = true ∧ bundle.Dotted ∧ bundle.WellFormed ∧
      (∀ kind manifest, bundle.get? kind = some manifest →
        manifest.document.root.hasNaN = false) ∧
      needsUpdate {} bundle bundle = .ok true := by
  intro bundle
  have hverdict : (needsUpdate {} bundle bundle).toOption = some true := by decide +kernel
  refine ⟨rfl, dotted_routerOfPorts _, wellFormed_routerOfPorts ?_, ?_, ?_⟩
  · exact ⟨⟨by decide, trivial, trivial, trivial⟩, trivial⟩
  · intro kind manifest hmanifest
    cases kind <;> cases hmanifest <;> rfl
  · cases hneeds : needsUpdate {} bundle bundle with
    | error e =>
      rw [hneeds] at hverdict
      contradiction
    | ok needs =>
      rw [hneeds] at hverdict
      cases hverdict
      rfl

/-- A port that is no map, one without a protocol and one with the default protocol. -/
theorem needsUpdate_self_of_default_ports :
    let bundle := routerOfPorts [.string "http", .map [("port", .int 80)],
      .map [("port", .int 443), ("protocol", .string defaultProtocol)]]
    bundle.isDeployed = true ∧ bundle.Dotted ∧ bundle.WellFormed ∧
      (∀ kind manifest, bundle.get? kind = some manifest →
        manifest.document.root.hasNaN = false) ∧
      needsUpdate {} bundle bundle = .ok false := by
  intro bundle
  have hdotted : bundle.Dotted := dotted_routerOfPorts _
  have hformed : bundle.WellFormed := by
    apply wellFormed_routerOfPorts
    exact ⟨trivial, ⟨List.pairwise_singleton _ _, trivial, trivial⟩,
      ⟨by decide, trivial, trivial, trivial⟩, trivial⟩
  have hnumbers : ∀ kind manifest, bundle.get? kind = some manifest →
      manifest.document.root.hasNaN = false := by
    intro kind manifest hmanifest
    cases kind <;> cases hmanifest <;> rfl
  obtain ⟨needs, hneeds, hother⟩ := needsUpdate_self_iff {} rfl hdotted hformed hnumbers
  refine ⟨rfl, hdotted, hformed, hnumbers, ?_⟩
  cases needs with
  | false => exact hneeds
  | true =>
    obtain ⟨service, i, hservice, protocol, hprotocol, hdiffers⟩ := hother.mp rfl
    cases hservice
    obtain ⟨items, place, port, hitems, -, hget, hvalue⟩ := Value.lookup_item_iff.mp hprotocol
    cases hitems
    have hmem := List.mem_of_getElem? hget
    simp only [List.mem_cons, List.not_mem_nil, or_false] at hmem
    rcases hmem with rfl | rfl | rfl
    · contradiction
    · contradiction
    · cases hvalue
      contradiction

end Reconcile

end ClusterRouter
