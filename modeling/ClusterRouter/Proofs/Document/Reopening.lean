import ClusterRouter.Document.Persistence
import ClusterRouter.Proofs.Storage.FileSystem
import ClusterRouter.Proofs.Value.Equality
import ClusterRouter.Proofs.Yaml.Printer

/-!
# Opening what was written

A file that holds the text of a document gives the root of the document again, as far as the text
is decoded to it. A file of white space alone holds an empty map, whatever it was made from; such a
text is that of a string of white space in YAML and of nothing else.
-/

namespace ClusterRouter

namespace Json

open Text (Visible)

theorem visible_quoted (s : String) : Visible (quoted s) := ⟨'"', List.mem_cons_self, by decide⟩

theorem visible_compactChars {value : Value} (h : value.isContainer = false) :
    Visible (compactChars value) := by
  have hnumbers : ∀ word ∈ [numberLayout.positiveMark, numberLayout.nan, numberLayout.infinity,
      numberLayout.negativeInfinity], Visible word.toList := by decide
  match value with
  | .null => simp only [compactChars]; decide
  | .bool true | .bool false => simp only [compactChars]; decide
  | .int i => simpa only [compactChars] using Text.visible_ofInt64 i
  | .float x => simpa only [compactChars] using Text.visible_render numberLayout hnumbers x
  | .string s => simpa only [compactChars] using visible_quoted s
  | .list _ | .map _ => contradiction

theorem visible_pretty (value : Value) : Visible (pretty value).toList := by
  have hscalar {value : Value} (h : value.isContainer = false)
      (htext : prettyChars 0 value = compactChars value) : Visible (prettyChars 0 value) :=
    htext ▸ visible_compactChars h
  rw [pretty, String.toList_ofList]
  cases value with
  | list items => cases items <;> exact ⟨'[', List.mem_cons_self, by decide⟩
  | map fields => cases fields <;> exact ⟨'\x7b', List.mem_cons_self, by decide⟩
  | null | bool b | int i | float x | string s => exact hscalar rfl rfl

end Json

namespace Document

/-- The text of a document is blank only where the root is a string of white space in YAML. -/
theorem exists_of_isBlank_serialize {document : Document}
    (h : Text.isBlank document.serialize = true) :
    document.contentType = .yaml ∧ ∃ s, document.root = .string s ∧ Text.isBlank s = true := by
  rw [serialize] at h
  split at h
  · next hyaml => exact ⟨hyaml, Yaml.exists_of_isBlank_render h⟩
  · have hvisible := Text.isBlank_eq_false_iff.mpr (Json.visible_pretty document.root)
    exact absurd (h.symm.trans hvisible) (by decide)

/-- The file keeps nothing of the root: it is null, or its text is blank. -/
def Vanishes (document : Document) : Prop :=
  document.root.isNull = true ∨ Text.isBlank document.serialize = true

/-- What opening a file gives, next to the root of the document that was written to it. -/
structure Reopened (written reopened : Document) : Prop where
  root : ¬written.Vanishes → (reopened.root == written.root) = true
  empty : written.Vanishes → reopened.root = .map []

theorem openFile_of_readText {files : FileSystem} {name text : String} {contentType : ContentType}
    {root : Value} (h : files.readText name = .ok text)
    (hroot : (if Text.isBlank text then .ok .null else decode contentType text) = .ok root) :
    openFile files name contentType =
      .ok { ofRoot root with filename := some name, contentType } := by
  simp only [openFile, h]
  split
  · next hblank =>
    rw [if_pos hblank] at hroot
    cases hroot
    rfl
  · next hblank =>
    rw [if_neg hblank] at hroot
    rw [hroot]
    rfl

/-- An opened document belongs to its file. -/
theorem exists_of_openFile {document : Document} {files : FileSystem} {name : String}
    {contentType : ContentType} (h : openFile files name contentType = .ok document) :
    ∃ root, document = { ofRoot root with filename := some name, contentType } := by
  simp only [openFile] at h
  split at h
  · split at h
    · cases h
      exact ⟨.null, rfl⟩
    · obtain ⟨root, -, hopened⟩ := exists_of_bind_eq_ok h
      cases hopened
      exact ⟨root, rfl⟩
  · cases h
    exact ⟨.null, rfl⟩
  · contradiction

theorem reopened_of_readBytes {document : Document} {files : FileSystem} {name : String}
    {value : Value} (h : files.readBytes name = .ok document.serialize.toUTF8)
    (hdecode : decode document.contentType document.serialize = .ok value)
    (hvalue : (value == document.root) = true) :
    ∃ reopened, openFile files name document.contentType = .ok reopened ∧
      Reopened document reopened := by
  have htext := FileSystem.readText_of_readBytes h
  have hnull : value.isNull = document.root.isNull := Value.isNull_congr hvalue
  by_cases hblank : Text.isBlank document.serialize = true
  · exact ⟨_, openFile_of_readText htext (if_pos hblank), fun hkept ↦ absurd (.inr hblank) hkept,
      fun _ ↦ rfl⟩
  · refine ⟨_, openFile_of_readText htext ((if_neg hblank).trans hdecode), ?_, ?_⟩
    · intro hkept
      have hvalueNull : ¬value.isNull = true := fun hv ↦ hkept (.inl (hnull ▸ hv))
      change ((if value.isNull then .map [] else value) == document.root) = true
      rwa [if_neg hvalueNull]
    · rintro (hroot | hroot)
      · exact if_pos (hnull.trans hroot)
      · exact absurd hroot hblank

end Document

end ClusterRouter
