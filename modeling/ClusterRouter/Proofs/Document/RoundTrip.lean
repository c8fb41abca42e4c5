import ClusterRouter.Proofs.Document.Editing

/-!
# Putting and looking up

A value that was put at a path is found there, whatever was on the way: missing or null entries,
negative indices, or the root itself.
-/

namespace ClusterRouter.Document

/-- What was put is found as it is. Nothing changes only where an equal value is or the path cannot
be created, and putting a value once more changes nothing. -/
theorem put_roundTrip {document after : Document} {text : String} {value : Value}
    (hvalue : value.hasNaN = false) {reported : Bool}
    (h : (put text value).run document = .ok reported after) :
    (reported = true → after.lookup text = .ok (some value)) ∧
      (reported = false → after = document ∧
        ((∃ found, document.lookup text = .ok (some found) ∧ (found == value) = true) ∨
          ∃ path, document.parsePath text = .ok path ∧ ¬document.root.Creatable path)) ∧
      (put text value).run after = .ok false after := by
  obtain ⟨path, hpath⟩ := exists_path_of_ok ((put_run document text value).symm.trans h)
  rcases put_run_cases hpath h with ⟨rfl, rfl, hlookup⟩ | ⟨rfl, rfl, hnot⟩ | ⟨root, rfl, rfl, hroot, -⟩
  · refine ⟨by simp, fun _ ↦ ⟨rfl, .inl ?_⟩, put_run_of_lookup hpath hlookup⟩
    rw [lookup_of_parsePath hpath]
    cases hfound : after.root.lookup path with
    | none => rw [hfound] at hlookup; contradiction
    | some found => exact ⟨found, rfl, by simpa [hfound] using hlookup⟩
  · exact ⟨by simp, fun _ ↦ ⟨rfl, .inr ⟨path, hpath, hnot⟩⟩, put_run_of_not_creatable hpath hnot⟩
  · have hpath : parsePath { document with root } text = .ok path := hpath
    have hafter : root.lookup path = some value := Value.lookup_create? hroot
    refine ⟨fun _ ↦ ?_, by simp, put_run_of_lookup hpath ?_⟩
    · rw [lookup_of_parsePath hpath, hafter]
    · rw [hafter]
      exact Value.beq_self hvalue

/-- A map made on the way: what was put below it is found, and a second time nothing happens. -/
theorem put_roundTrip_below_missing_key :
    Value.hasNaN (.int 5) = false ∧
      (put "a.b" (.int 5)).run { root := .map [] } =
        .ok true { root := .map [("a", .map [("b", .int 5)])] } ∧
      lookup { root := .map [("a", .map [("b", .int 5)])] } "a.b" = .ok (some (.int 5)) ∧
      (put "a.b" (.int 5)).run { root := .map [("a", .map [("b", .int 5)])] } =
        .ok false { root := .map [("a", .map [("b", .int 5)])] } := by
  have hput : (put "a.b" (.int 5)).run { root := .map [] } =
      .ok true { root := .map [("a", .map [("b", .int 5)])] } := by
    have hpath : Path.parse "a.b" .dot = .ok [.key "a", .key "b"] := by decide +kernel
    rw [put_run, changeAt, parsePath, hpath]
    rfl
  have h := put_roundTrip rfl hput
  exact ⟨rfl, hput, h.1 rfl, h.2.2⟩

end ClusterRouter.Document
