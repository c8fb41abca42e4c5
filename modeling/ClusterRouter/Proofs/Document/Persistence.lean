import ClusterRouter.Document.Persistence
import ClusterRouter.Proofs.Storage.FileSystem

/-!
# Writing documents

Writing a document goes through a copy of the old contents, if one is wanted, and a draft, both
beside the file, and ends with the draft being moved over the file. Whatever fails, the file is
found as it was, and nothing has changed but what stands beside it. Where nothing fails, the file
holds the text of the document, the draft is gone, and the copy holds what the file held.
-/

namespace ClusterRouter

open FileSystem (Aside SameDirectories)

namespace Document

variable {document : Document} {name : String} {files after : FileSystem}

theorem isEnding_orig : IsEnding ".orig" := ⟨by decide, by decide⟩

theorem isEnding_yedit : IsEnding ".yedit" := ⟨by decide, by decide⟩

theorem attempt_run (name : String) (change : FileSystem → Except FileError FileSystem)
    (files : FileSystem) :
    (attempt name change).run files = match change files with
      | .ok after => .ok () after
      | .error e => .error (.file name e) files := by
  simp only [attempt, EStateM.run_bind, EStateM.run_get]
  cases change files <;> rfl

/-- A copy of the old contents is wanted, and there is a file to be copied. -/
def keepsCopy (document : Document) (name : String) (files : FileSystem) : Bool :=
  document.backup && files.contains name

/-- The files after the old contents have been copied, if they are to be. -/
inductive Kept (document : Document) (name : String) (files : FileSystem) : FileSystem → Prop where
  | copied {after : FileSystem} : document.keepsCopy name files = true →
    files.copy name (name ++ ".orig") = .ok after → Kept document name files after
  | passed : document.keepsCopy name files = false → Kept document name files files

/-- The ways in which writing a document can go. -/
inductive Writing (document : Document) (name : String) (files : FileSystem) :
    EStateM.Result DocumentError FileSystem Unit → Prop where
  | notCopied {e : FileError} : document.keepsCopy name files = true →
    Writing document name files (.error (.file (name ++ ".orig") e) files)
  | notDrafted {kept : FileSystem} {e : FileError} : Kept document name files kept →
    Writing document name files (.error (.file (name ++ ".yedit") e) kept)
  | notMoved {kept drafted : FileSystem} {e : FileError} : Kept document name files kept →
    kept.write (name ++ ".yedit") document.serialize.toUTF8 = .ok drafted →
    Writing document name files (.error (.file name e) drafted)
  | moved {kept drafted after : FileSystem} : Kept document name files kept →
    kept.write (name ++ ".yedit") document.serialize.toUTF8 = .ok drafted →
    drafted.rename (name ++ ".yedit") name = .ok after →
    Writing document name files (.ok () after)

/-- Drafting and moving, after the copy. -/
def replace (document : Document) (name : String) : Storing Unit := do
  attempt (name ++ ".yedit") fun files => files.write (name ++ ".yedit") document.serialize.toUTF8
  attempt name fun files => files.rename (name ++ ".yedit") name

theorem writing_of_replace {kept : FileSystem} (hkept : Kept document name files kept) :
    Writing document name files ((document.replace name).run kept) := by
  rw [replace, EStateM.run_bind, attempt_run]
  cases hdraft : kept.write (name ++ ".yedit") document.serialize.toUTF8 with
  | error e => exact .notDrafted hkept
  | ok drafted =>
    simp only [attempt_run]
    cases hmove : drafted.rename (name ++ ".yedit") name with
    | error e => exact .notMoved hkept hdraft
    | ok after => exact .moved hkept hdraft hmove

theorem writing_of_write (hname : document.filename = some name) (files : FileSystem) :
    Writing document name files (document.write.run files) := by
  have hwrite : document.write = (do
      if document.backup && (← get).contains name then
        attempt (name ++ ".orig") fun files => files.copy name (name ++ ".orig")
      document.replace name) := by
    rw [write, hname]
    rfl
  have hget : document.write.run files =
      (if document.keepsCopy name files then do
          attempt (name ++ ".orig") fun files ↦ files.copy name (name ++ ".orig")
          document.replace name
        else document.replace name).run files := by
    rw [hwrite, keepsCopy]
    cases document.backup <;> cases hcontains : files.contains name <;>
      simp [EStateM.run_bind, hcontains]
  rw [hget]
  cases hcopy : document.keepsCopy name files with
  | false => exact writing_of_replace (.passed hcopy)
  | true =>
    rw [if_pos rfl, EStateM.run_bind, attempt_run]
    cases hcopied : files.copy name (name ++ ".orig") with
    | error e => exact .notCopied hcopy
    | ok kept => exact writing_of_replace (.copied hcopy hcopied)

/-! ### What is changed -/

/-- The endings of the files that a write may change beside the file. -/
def copyEndings (document : Document) (name : String) (files : FileSystem) : List String :=
  if document.keepsCopy name files then [".orig"] else []

theorem mem_copyEndings {ending : String} :
    ending ∈ document.copyEndings name files ↔
      document.keepsCopy name files = true ∧ ending = ".orig" := by
  unfold copyEndings
  split <;> simp_all

theorem Kept.aside {kept : FileSystem} (h : Kept document name files kept) :
    Aside files name (document.copyEndings name files) kept := by
  cases h with
  | copied hcopy hcopied =>
    obtain ⟨contents, -, hwritten⟩ := FileSystem.exists_of_copy hcopied
    rw [copyEndings, hcopy]
    exact .write isEnding_orig hwritten
  | passed hcopy =>
    rw [copyEndings, hcopy]
    exact .refl files name

/-- Until the draft is moved, only files beside the file change. -/
theorem Writing.aside {e : DocumentError} (h : Writing document name files (.error e after)) :
    Aside files name (document.copyEndings name files ++ [".yedit"]) after := by
  cases h with
  | notCopied => exact (Aside.refl files name).mono (List.nil_subset _)
  | notDrafted hkept => exact hkept.aside.mono (List.subset_append_left _ _)
  | notMoved hkept hdraft => exact hkept.aside.trans (.write isEnding_yedit hdraft)

/-- What a successful write leaves. -/
structure Written (document : Document) (name : String) (files after : FileSystem) : Prop where
  target : after.readBytes name = .ok document.serialize.toUTF8
  noDraft : after.find? (name ++ ".yedit") = .ok none
  copy : document.backup = true → files.contains name = true →
    ∃ contents, files.readBytes name = .ok contents ∧
      after.readBytes (name ++ ".orig") = .ok contents
  elsewhere : ∀ place, after.entry? place ≠ files.entry? place →
    files.locate name = .ok place ∨ ∃ ending ∈ document.copyEndings name files ++ [".yedit"],
      files.locate (name ++ ending) = .ok place

/-- The copy is still there after a draft has been written and moved. -/
theorem readBytes_copy {kept drafted : FileSystem} {contents text : ByteArray}
    (hkept : kept.readBytes (name ++ ".orig") = .ok contents)
    (hdraft : kept.write (name ++ ".yedit") text = .ok drafted)
    {moved : ByteArray} {start place : Location}
    (hmoved : FileSystem.Moved drafted name ".yedit" moved start place after) :
    after.readBytes (name ++ ".orig") = .ok contents := by
  have haside : Aside kept name [".yedit"] drafted := .write isEnding_yedit hdraft
  obtain ⟨copied, hcopied, hentry⟩ := FileSystem.exists_of_readBytes hkept
  have hplace : drafted.locate (name ++ ".orig") = .ok copied :=
    haside.directories.locate_eq_ok_iff.mpr hcopied
  have hstart : copied ≠ start :=
    FileSystem.ne_of_locate_append isEnding_orig isEnding_yedit (by decide) hplace hmoved.leadsFrom
  have htarget : copied ≠ place := by
    obtain ⟨directory, hdirectory, -, rfl⟩ :=
      FileSystem.exists_of_locate_append isEnding_orig hplace
    exact (FileSystem.ne_besideOf hdirectory hmoved.leadsTo isEnding_orig).symm
  have hdrafted : drafted.entry? copied = kept.entry? copied := by
    by_contra hchanged
    obtain ⟨ending, hending, hlocated⟩ := haside.elsewhere copied hchanged
    obtain rfl := List.mem_singleton.mp hending
    exact hstart (Except.ok.inj
      ((haside.directories.locate_eq_ok_iff.mpr hlocated).symm.trans hmoved.leadsFrom))
  refine FileSystem.readBytes_of_locate (hmoved.directories.locate_eq_ok_iff.mpr hplace)
    (namesDirectory_append isEnding_orig name) ?_
  rw [hmoved.entry?, if_neg htarget, if_neg hstart, hdrafted, hentry]

theorem Writing.written (h : Writing document name files (.ok () after)) :
    Written document name files after := by
  obtain _ | _ | _ | @⟨kept, drafted, _, hkept, hdraft, hmove⟩ := h
  have haside := hkept.aside.trans (.write isEnding_yedit hdraft)
  obtain ⟨contents, start, place, hmoved⟩ :=
    FileSystem.exists_moved_of_rename isEnding_yedit hmove
  have hcontents : contents = document.serialize.toUTF8 :=
    Except.ok.inj (hmoved.source.symm.trans (FileSystem.readBytes_of_write hdraft))
  constructor
  case target =>
    refine FileSystem.readBytes_of_locate
      (hmoved.directories.locate_eq_ok_iff.mpr hmoved.leadsTo) hmoved.target ?_
    rw [hmoved.entry?, if_pos rfl, hcontents]
  case noDraft =>
    rw [FileSystem.find?_of_locate (hmoved.directories.locate_eq_ok_iff.mpr hmoved.leadsFrom)
      (namesDirectory_append isEnding_yedit name), hmoved.entry?, if_neg hmoved.apart.symm,
      if_pos rfl]
  case copy =>
    intro hbackup hcontains
    cases hkept with
    | passed hcopy => simp [keepsCopy, hbackup, hcontains] at hcopy
    | copied hcopy hcopied =>
      obtain ⟨old, hold, hwritten⟩ := FileSystem.exists_of_copy hcopied
      exact ⟨old, hold, readBytes_copy (FileSystem.readBytes_of_write hwritten) hdraft hmoved⟩
  case elsewhere =>
    intro other hchanged
    rw [hmoved.entry?] at hchanged
    split at hchanged
    · next hother => exact .inl (haside.directories.locate_eq_ok_iff.mp (hother ▸ hmoved.leadsTo))
    split at hchanged
    · next hother =>
      exact .inr ⟨".yedit", List.mem_append_right _ (List.mem_singleton_self _),
        haside.directories.locate_eq_ok_iff.mp (hother ▸ hmoved.leadsFrom)⟩
    · exact .inr (haside.elsewhere other hchanged)

end Document

end ClusterRouter
