import ClusterRouter.CommandLine.FileEdit
import ClusterRouter.Proofs.Document.Exactness
import ClusterRouter.Proofs.Document.Persistence
import ClusterRouter.Proofs.Document.Reopening

/-!
# Edits of files as a whole

A command that edits a file either leaves the file as it was or replaces all of it. Reading the
file, the path and the values changes nothing, and only a document that an edit has changed is
written.
-/

namespace ClusterRouter.CommandLine

open Document (Reopened Writing Written)

variable {command : EditCommand} {files after : FileSystem}

/-- What a command changes a document by is an edit of documents. -/
theorem exists_operation_of_read {operation : FileOperation} {edit : Editing Bool}
    (h : operation.read = .ok (.change edit)) :
    ∃ performed : Document.Operation, edit = performed.perform := by
  cases operation with
  | get key => cases h
  | holds key text =>
    obtain ⟨value, -, hlook⟩ := exists_of_bind_eq_ok h
    cases hlook
  | put key text =>
    obtain ⟨value, -, hput⟩ := exists_of_bind_eq_ok h
    cases hput
    exact ⟨.put key value, rfl⟩
  | update key text index current =>
    obtain ⟨wanted, -, hrest⟩ := exists_of_bind_eq_ok h
    obtain ⟨value, -, hupdate⟩ := exists_of_bind_eq_ok hrest
    cases hupdate
    exact ⟨.update key value index wanted, rfl⟩
  | append key text =>
    obtain ⟨item, -, happend⟩ := exists_of_bind_eq_ok h
    cases happend
    exact ⟨.append key item, rfl⟩
  | delete key =>
    cases h
    exact ⟨.remove key, rfl⟩
  | pop key text =>
    obtain ⟨wanted, -, hpop⟩ := exists_of_bind_eq_ok h
    cases hpop
    exact ⟨.pop key wanted, rfl⟩

/-- The command makes this document of the one in its file. -/
structure Edited (command : EditCommand) (files : FileSystem) (edited : Document) : Prop where
  made : ∃ document edit, command.document files = .ok document ∧
    command.operation.read = .ok (.change edit) ∧ edit.run document = .ok true edited
  filename : edited.filename = some command.file
  contentType : edited.contentType = command.contentType
  backup : edited.backup = command.backup

theorem edited_of_run {document edited : Document} {edit : Editing Bool}
    (hdocument : command.document files = .ok document)
    (hread : command.operation.read = .ok (.change edit))
    (hrun : edit.run document = .ok true edited) : Edited command files edited := by
  obtain ⟨performed, rfl⟩ := exists_operation_of_read hread
  have hmade := hrun
  rw [Document.Operation.perform_run] at hrun
  obtain ⟨root, -, rfl⟩ := Document.exists_of_concluded_true hrun
  have hopened := hdocument
  unfold EditCommand.document at hopened
  split at hopened
  · next opened hopen =>
    obtain ⟨root, rfl⟩ := Document.exists_of_openFile hopen
    cases hopened
    exact ⟨⟨_, _, hdocument, hread, hmade⟩, rfl, rfl, rfl⟩
  · contradiction

/-- A failure that comes before the file is written. -/
def FileEditError.IsEarly (e : FileEditError) : Prop := ∀ file cause, e ≠ .writing file cause

theorem isEarly_document (cause : DocumentError) : (FileEditError.document cause).IsEarly :=
  fun _ _ h ↦ by cases h

theorem isEarly_of_readValue {text : String} {e : FileEditError}
    (h : readValue text = .error e) : e.IsEarly := by
  unfold readValue at h
  cases hvalue : Yaml.decode? text with
  | some value =>
    rw [hvalue] at h
    cases h
  | none =>
    rw [hvalue] at h
    cases h
    exact fun _ _ h ↦ by cases h

theorem isEarly_of_bind {α β : Type} {x : Except FileEditError α}
    {f : α → Except FileEditError β} {e : FileEditError} (h : x.bind f = .error e)
    (hx : x = .error e → e.IsEarly) (hf : ∀ a, f a = .error e → e.IsEarly) : e.IsEarly := by
  cases x with
  | error e' =>
    cases h
    exact hx rfl
  | ok a => exact hf a h

theorem isEarly_of_read {operation : FileOperation} {e : FileEditError}
    (h : operation.read = .error e) : e.IsEarly := by
  cases operation with
  | get key => cases h
  | holds key text =>
    refine isEarly_of_bind h (fun hvalue ↦ ?_) fun _ hlook ↦ by cases hlook
    cases text with
    | none => cases hvalue
    | some text => exact isEarly_of_readValue hvalue
  | update key text index current =>
    refine isEarly_of_bind h (fun hwanted ↦ ?_) fun _ hrest ↦
      isEarly_of_bind hrest isEarly_of_readValue fun _ hupdate ↦ by cases hupdate
    cases current with
    | none => cases hwanted
    | some wanted =>
      exact isEarly_of_bind hwanted isEarly_of_readValue fun _ hsome ↦ by cases hsome
  | put key text | append key text | pop key text =>
    exact isEarly_of_bind h isEarly_of_readValue fun _ hchange ↦ by cases hchange
  | delete key => cases h

/-- The ways in which a run of a command can go. -/
inductive Running (command : EditCommand) (files : FileSystem) :
    EStateM.Result FileEditError FileSystem FileEditResult → Prop where
  | refused {e : FileEditError} : e.IsEarly → Running command files (.error e files)
  | kept {result : Value} : Running command files (.ok ⟨false, result⟩ files)
  | notWritten {edited : Document} {e : DocumentError} {after : FileSystem} :
    Edited command files edited → edited.write.run files = .error e after →
    Running command files (.error (.writing command.file e) after)
  | written {edited : Document} {after : FileSystem} :
    Edited command files edited → edited.write.run files = .ok () after →
    Running command files (.ok ⟨true, edited.root⟩ after)

theorem running_of_run (command : EditCommand) (files : FileSystem) :
    Running command files (command.run.run files) := by
  simp only [EditCommand.run, EStateM.run_bind, EStateM.run_get]
  cases hdocument : command.document files with
  | error e =>
    unfold EditCommand.document at hdocument
    split at hdocument <;> cases hdocument
    exact .refused (isEarly_document _)
  | ok document =>
    cases hread : command.operation.read with
    | error e => exact .refused (isEarly_of_read hread)
    | ok operation =>
      cases operation with
      | look find =>
        simp only [check, EStateM.run_pure]
        cases find document with
        | error e => exact .refused (isEarly_document e)
        | ok result => exact .kept
      | change edit =>
        simp only [check, EStateM.run_pure]
        cases hrun : edit.run document with
        | error e edited => exact .refused (isEarly_document e)
        | ok changed edited =>
          cases changed with
          | false => exact .kept
          | true =>
            have hedited := edited_of_run hdocument hread hrun
            simp only [EStateM.run_bind]
            cases hwrite : edited.write.run files with
            | error e after =>
              have hstore : (store command.file edited).run files =
                  .error (.writing command.file e) after := by
                simp only [EStateM.run, store] at hwrite ⊢
                rw [hwrite]
              rw [hstore]
              exact .notWritten hedited hwrite
            | ok _ after =>
              have hstore : (store command.file edited).run files = .ok () after := by
                simp only [EStateM.run, store] at hwrite ⊢
                rw [hwrite]
              rw [hstore]
              exact .written hedited hwrite

/-! ### All or nothing -/

/-- A failed run: the file is found as it was, and nothing else has changed unless writing it has
failed, which leaves changes in files beside it alone. -/
structure Failed (command : EditCommand) (files : FileSystem) (e : FileEditError)
    (after : FileSystem) : Prop where
  target : after.find? command.file = files.find? command.file
  early : e.IsEarly → after = files
  elsewhere : ∀ place, after.entry? place ≠ files.entry? place →
    ∃ ending ∈ [".orig", ".yedit"], files.locate (command.file ++ ending) = .ok place

/-- A run that changed the file: it holds the whole text of the new document, and only the copy of
its old contents has come beside it. -/
structure Changed (command : EditCommand) (files : FileSystem) (edited : Document)
    (after : FileSystem) : Prop where
  made : Edited command files edited
  target : after.readBytes command.file = .ok edited.serialize.toUTF8
  noDraft : after.find? (command.file ++ ".yedit") = .ok none
  copy : command.backup = true → files.contains command.file = true →
    ∃ contents, files.readBytes command.file = .ok contents ∧
      after.readBytes (command.file ++ ".orig") = .ok contents
  elsewhere : ∀ place, after.entry? place ≠ files.entry? place →
    files.locate command.file = .ok place ∨
      files.locate (command.file ++ ".yedit") = .ok place ∨
      command.backup = true ∧ files.contains command.file = true ∧
        files.locate (command.file ++ ".orig") = .ok place
  reopened : ∀ value, Document.decode command.contentType edited.serialize = .ok value →
    (value == edited.root) = true →
    ∃ reopened, command.document after = .ok reopened ∧ Reopened edited reopened
  vanishes : edited.Vanishes → edited.root = .null ∨ command.contentType = .yaml ∧
    ∃ s, edited.root = .string s ∧ Text.isBlank s = true

theorem changed_of_write {edited : Document} (hedited : Edited command files edited)
    (hwrite : edited.write.run files = .ok () after) : Changed command files edited after := by
  have hwritten : Written edited command.file files after :=
    (hwrite ▸ Document.writing_of_write hedited.filename files).written
  constructor
  case made => exact hedited
  case target => exact hwritten.target
  case noDraft => exact hwritten.noDraft
  case copy => exact fun hbackup ↦ hwritten.copy (hedited.backup.trans hbackup)
  case elsewhere =>
    intro place hchanged
    obtain htarget | ⟨ending, hending, hplace⟩ := hwritten.elsewhere place hchanged
    · exact .inl htarget
    · rcases List.mem_append.mp hending with hcopy | hdraft
      · obtain ⟨hkeeps, rfl⟩ := Document.mem_copyEndings.mp hcopy
        obtain ⟨hbackup, hcontains⟩ := Bool.and_eq_true_iff.mp hkeeps
        exact .inr (.inr ⟨hedited.backup.symm.trans hbackup, hcontains, hplace⟩)
      · obtain rfl := List.mem_singleton.mp hdraft
        exact .inr (.inl hplace)
  case reopened =>
    intro value hdecode hvalue
    obtain ⟨opened, hopened, hroot⟩ :=
      Document.reopened_of_readBytes hwritten.target (hedited.contentType ▸ hdecode) hvalue
    refine ⟨{ opened with separator := command.separator, backup := command.backup }, ?_,
      hroot.root, hroot.empty⟩
    rw [EditCommand.document, ← hedited.contentType, hopened]
  case vanishes =>
    rintro (hnull | hblank)
    · exact .inl (Value.eq_null_of_isNull hnull)
    · obtain ⟨hyaml, hstring⟩ := Document.exists_of_isBlank_serialize hblank
      exact .inr ⟨hedited.contentType.symm.trans hyaml, hstring⟩

end ClusterRouter.CommandLine
