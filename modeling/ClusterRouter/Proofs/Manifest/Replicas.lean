import ClusterRouter.Manifest.DeploymentConfig
import ClusterRouter.Proofs.Binary64.Rational
import ClusterRouter.Proofs.Document.Editing

/-!
# Setting the number of replicas

The number of replicas can be set wherever the specification is a map or can be made one, and no
update is needed afterwards, whatever was there before, with one exception: a floating point number
of the wanted value counts as equal when the number is set, so it stays, but it is no integer when
the number is read.
-/

namespace ClusterRouter.DeploymentConfig

/-- A floating point number that has the value of an integer. -/
def FloatOf (n : Int64) (found : Option Value) : Prop :=
  ∃ x : Binary64, found = some (.float x) ∧ x.isFinite = true ∧ x.rational = n.toInt

/-- What equals an integer is that integer or the floating point number of its value. -/
theorem beq_int_iff {found : Option Value} {n : Int64} :
    (found == some (.int n)) = true ↔ found = some (.int n) ∨ FloatOf n found := by
  cases found with
  | none => simp [FloatOf]
  | some value => cases value with
    | int i =>
      have hint : (some (Value.int i) == some (.int n)) = (i == n) := rfl
      simp [hint, FloatOf]
    | float x =>
      have hfloat : (some (Value.float x) == some (.int n)) = x.equalsInt n.toInt := rfl
      simp [hfloat, Binary64.equalsInt_iff_rational, FloatOf]
    | _ =>
      refine iff_of_false Bool.false_ne_true ?_
      simp [FloatOf]

def replicasSteps : Path := [.key "spec", .key "replicas"]

theorem parse_replicasPath : Path.parse replicasPath .dot = .ok replicasSteps := by decide +kernel

section

variable {document : Document} {n : Int64}

theorem parsePath_replicasPath (hdot : document.separator = .dot) :
    document.parsePath replicasPath = .ok replicasSteps :=
  Document.parsePath_of_parse (hdot ▸ parse_replicasPath)

theorem needsUpdateReplicas_eq_false_iff (hdot : document.separator = .dot) :
    needsUpdateReplicas document n = false ↔
      document.root.lookup replicasSteps = some (.int n) := by
  rw [needsUpdateReplicas, replicas?, Document.lookup_of_parsePath (parsePath_replicasPath hdot),
    bne_eq_false_iff_eq]
  cases document.root.lookup replicasSteps with
  | none => simp
  | some found => cases found <;> simp [Value.asInt]

/-- Where the specification is a map, or nothing or null stands in its place, a number of replicas
can be put. -/
theorem creatable_replicas {fields : Fields} (hroot : document.root = .map fields)
    (hspec : ∀ spec, Fields.get? fields "spec" = some spec →
      spec = .null ∨ spec.asMap.isSome = true) :
    document.root.Creatable replicasSteps := by
  have hparent : document.root.lookup [] = some (.map fields) := by rw [hroot, Value.lookup_nil]
  have hchain (hfree : Fields.get? fields "spec" = none ∨
      Fields.get? fields "spec" = some .null) :
      document.root.Creatable ([] ++ .key "spec" :: ["replicas"].map .key) := .chain hparent hfree
  cases hfound : Fields.get? fields "spec" with
  | none => exact hchain (.inl hfound)
  | some spec =>
    rcases hspec spec hfound with rfl | hmap
    · exact hchain (.inr hfound)
    · cases spec <;> try contradiction
      case map entries =>
        have hentries : document.root.lookup [.key "spec"] = some (.map entries) := by
          rw [hroot, Value.lookup_key]
          exact hfound
        exact .entry hentries

/-- Setting the replicas succeeds. Afterwards an update is needed exactly where a floating point
number of the wanted value was found, and then nothing has changed. -/
theorem needsUpdateReplicas_after_iff (hdot : document.separator = .dot) {fields : Fields}
    (hroot : document.root = .map fields)
    (hspec : ∀ spec, Fields.get? fields "spec" = some spec →
      spec = .null ∨ spec.asMap.isSome = true) (n : Int64) :
    ∃ reported after, (updateReplicas n).run document = .ok reported after ∧
      (needsUpdateReplicas after n = true ↔ FloatOf n (document.root.lookup replicasSteps)) ∧
      (needsUpdateReplicas after n = true → reported = false ∧ after = document) := by
  have hpath := parsePath_replicasPath hdot
  by_cases hequal : (document.root.lookup replicasSteps == some (.int n)) = true
  · refine ⟨false, document, Document.put_run_of_lookup hpath hequal, ?_, fun _ ↦ ⟨rfl, rfl⟩⟩
    rw [← Bool.not_eq_false, needsUpdateReplicas_eq_false_iff hdot]
    rcases beq_int_iff.mp hequal with hint | hfloat
    · rw [hint]
      simp [FloatOf]
    · obtain ⟨x, hfound, -⟩ := id hfloat
      refine iff_of_true ?_ hfloat
      rw [hfound]
      simp
  · obtain ⟨root, hcreate⟩ := Option.isSome_iff_exists.mp
      ((creatable_replicas hroot hspec).create?_isSome (.int n))
    have hrun : (updateReplicas n).run document = .ok true { document with root } := by
      rw [updateReplicas, Document.put_run, Document.changeAt_of_parsePath hpath,
        Document.putChange, if_neg hequal, hcreate]
      rfl
    have hafter : Document.separator { document with root } = .dot := hdot
    have hsettled : needsUpdateReplicas { document with root } n = false :=
      (needsUpdateReplicas_eq_false_iff hafter).mpr (Value.lookup_create? hcreate)
    refine ⟨true, _, hrun, ?_, by simp [hsettled]⟩
    rw [hsettled]
    exact iff_of_false Bool.false_ne_true fun hfloat ↦ hequal (beq_int_iff.mpr (.inr hfloat))

/-- A null specification is made a map, and then no update is needed. -/
theorem needsUpdateReplicas_after_of_null :
    let document : Document := { root := .map [("spec", .null)] }
    document.separator = .dot ∧
      (∀ spec, Fields.get? [("spec", .null)] "spec" = some spec →
        spec = .null ∨ spec.asMap.isSome = true) ∧
      ∃ reported after, (updateReplicas 2).run document = .ok reported after ∧
        needsUpdateReplicas after 2 = false := by
  intro document
  have hdot : document.separator = .dot := rfl
  have hroot : document.root = .map [("spec", .null)] := rfl
  have hspec : ∀ spec, Fields.get? [("spec", .null)] "spec" = some spec →
      spec = .null ∨ spec.asMap.isSome = true := by
    rintro spec ⟨⟩
    exact .inl rfl
  obtain ⟨reported, after, hrun, hneeds, -⟩ := needsUpdateReplicas_after_iff hdot hroot hspec 2
  refine ⟨hdot, hspec, reported, after, hrun, ?_⟩
  rw [← Bool.not_eq_true, hneeds]
  rintro ⟨x, hfound, -⟩
  contradiction

/-- The floating point number 2 stays where the integer 2 is wanted, and an update is needed as
before. -/
theorem needsUpdateReplicas_of_float :
    let document : Document :=
      { root := .map [("spec", .map [("replicas", .float ⟨0x4000000000000000⟩)])] }
    (updateReplicas 2).run document = .ok false document ∧
      needsUpdateReplicas document 2 = true := by
  intro document
  have hdot : document.separator = .dot := rfl
  have hfound : document.root.lookup replicasSteps = some (.float ⟨0x4000000000000000⟩) := rfl
  constructor
  · apply Document.put_run_of_lookup (parsePath_replicasPath hdot)
    rw [hfound]
    decide
  · rw [← Bool.not_eq_false, needsUpdateReplicas_eq_false_iff hdot, hfound]
    simp

end

end ClusterRouter.DeploymentConfig
