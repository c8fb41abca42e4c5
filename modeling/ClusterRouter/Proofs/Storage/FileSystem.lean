import ClusterRouter.Proofs.Storage.FileName
import ClusterRouter.Storage.FileSystem

/-!
# Files and the names that lead to them

Writing, copying and moving files leaves the directories as they are, so every name leads to the
place that it led to before. A name with an ending leads to a place beside that of the name, in the
directory where the last step of the name is taken, and never to the place of the name itself or of
the name with another ending. So what is done to a file beside another one is not seen there.
-/

namespace ClusterRouter

theorem exists_of_bind_eq_ok {ε α β : Type} {x : Except ε α} {f : α → Except ε β} {b : β}
    (h : x.bind f = .ok b) : ∃ a, x = .ok a ∧ f a = .ok b := by
  cases x with
  | error e => contradiction
  | ok a => exact ⟨a, rfl, h⟩

theorem fromUTF8?_toUTF8 (text : String) : String.fromUTF8? text.toUTF8 = some text := by
  rw [String.toUTF8_eq_toByteArray, String.fromUTF8?, dif_pos text.isValidUTF8]
  rfl

namespace FileSystem

variable {files after : FileSystem} {name : String} {place : Location}

/-! ### Entries of changed files -/

theorem entry?_root (files : FileSystem) : files.entry? [] = some .directory := rfl

theorem entry?_of_ne_root (files : FileSystem) (h : place ≠ []) :
    files.entry? place = files.entries.lookup place := if_neg h

theorem lookup_cons (entries : List (Location × Entry)) (key place : Location) (entry : Entry) :
    ((key, entry) :: entries).lookup place =
      if place = key then some entry else entries.lookup place := by
  by_cases h : place = key
  · rw [List.lookup_cons, if_pos h, h, beq_self_eq_true]
  · rw [List.lookup_cons, if_neg h, beq_false_of_ne h]

theorem lookup_filter_ne (entries : List (Location × Entry)) (gone place : Location) :
    (entries.filter (·.1 ≠ gone)).lookup place =
      if place = gone then none else entries.lookup place := by
  induction entries with
  | nil => rw [List.filter_nil, List.lookup_nil, ite_self]
  | cons entry entries ih =>
    obtain ⟨key, value⟩ := entry
    by_cases hkey : key = gone
    · rw [List.filter_cons_of_neg (by simpa using hkey), ih, lookup_cons, hkey]
      split <;> rfl
    · rw [List.filter_cons_of_pos (by simpa using hkey), lookup_cons, lookup_cons, ih]
      by_cases hplace : place = key
      · rw [if_pos hplace, if_pos hplace, if_neg fun hgone ↦ hkey (hplace.symm.trans hgone)]
      · rw [if_neg hplace, if_neg hplace]

theorem entry?_insert (files : FileSystem) (h : place ≠ []) (entry : Entry) (other : Location) :
    entry? (files.insert place entry) other = if other = place then some entry
      else files.entry? other := by
  by_cases hroot : other = []
  · rw [hroot, entry?_root, entry?_root, if_neg (Ne.symm h)]
  · rw [entry?_of_ne_root _ hroot, entry?_of_ne_root _ hroot, insert, lookup_cons,
      lookup_filter_ne]
    split <;> rfl

theorem entry?_erase (files : FileSystem) (h : place ≠ []) (other : Location) :
    entry? (files.erase place) other = if other = place then none else files.entry? other := by
  by_cases hroot : other = []
  · rw [hroot, entry?_root, entry?_root, if_neg (Ne.symm h)]
  · rw [entry?_of_ne_root _ hroot, entry?_of_ne_root _ hroot, erase, lookup_filter_ne]

theorem ne_root_of_not_directory (h : files.entry? place ≠ some .directory) : place ≠ [] :=
  fun hroot ↦ h (hroot ▸ files.entry?_root)

/-! ### Directories stay -/

/-- The same places are directories, and names are read from the same one. -/
structure SameDirectories (files after : FileSystem) : Prop where
  workingDirectory : after.workingDirectory = files.workingDirectory
  directory_iff : ∀ place,
    after.entry? place = some .directory ↔ files.entry? place = some .directory

namespace SameDirectories

theorem refl (files : FileSystem) : SameDirectories files files := ⟨rfl, fun _ ↦ Iff.rfl⟩

theorem symm (h : SameDirectories files after) : SameDirectories after files :=
  ⟨h.workingDirectory.symm, fun place ↦ (h.directory_iff place).symm⟩

theorem trans {middle : FileSystem} (h : SameDirectories files middle)
    (h' : SameDirectories middle after) : SameDirectories files after :=
  ⟨h'.workingDirectory.trans h.workingDirectory,
    fun place ↦ (h'.directory_iff place).trans (h.directory_iff place)⟩

theorem insert (hfile : files.entry? place ≠ some .directory) (contents : ByteArray) :
    SameDirectories files (files.insert place (.file contents)) := by
  refine ⟨rfl, fun other ↦ ?_⟩
  rw [entry?_insert files (ne_root_of_not_directory hfile)]
  split
  · next hother => simp [hother, hfile]
  · rfl

theorem erase (hfile : files.entry? place ≠ some .directory) :
    SameDirectories files (files.erase place) := by
  refine ⟨rfl, fun other ↦ ?_⟩
  rw [entry?_erase files (ne_root_of_not_directory hfile)]
  split
  · next hother => simp [hother, hfile]
  · rfl

theorem walk_of_ok (h : SameDirectories files after) {start : Location} {steps : List (List Char)}
    (hwalk : files.walk start steps = .ok place) : after.walk start steps = .ok place := by
  fun_induction FileSystem.walk files start steps with
  | case1 => exact hwalk
  | case2 | case3 | case6 => contradiction
  | case4 start step steps hdirectory hstay ih =>
    rw [walk, (h.directory_iff start).mpr hdirectory]
    exact (if_pos hstay).trans (ih hwalk)
  | case5 start steps hdirectory hstay ih =>
    rw [walk, (h.directory_iff start).mpr hdirectory]
    exact ih hwalk
  | case7 start step steps hdirectory hstay hup hshort ih =>
    rw [walk, (h.directory_iff start).mpr hdirectory]
    simp only [if_neg hstay, if_neg hup, if_neg hshort]
    exact ih hwalk

theorem walk_eq_ok_iff (h : SameDirectories files after) {start : Location}
    {steps : List (List Char)} :
    after.walk start steps = .ok place ↔ files.walk start steps = .ok place :=
  ⟨h.symm.walk_of_ok, h.walk_of_ok⟩

theorem origin_eq (h : SameDirectories files after) (name : String) :
    after.origin name = files.origin name := by
  rw [origin, origin, h.workingDirectory]

theorem locate_eq_ok_iff (h : SameDirectories files after) :
    after.locate name = .ok place ↔ files.locate name = .ok place := by
  rw [locate, locate, h.origin_eq]
  cases files.origin name with
  | error e => exact Iff.rfl
  | ok start => exact h.walk_eq_ok_iff

end SameDirectories

/-! ### The directory of a name -/

theorem walk_append (files : FileSystem) (start : Location) (front back : List (List Char)) :
    files.walk start (front ++ back) =
      (files.walk start front).bind fun middle ↦ files.walk middle back := by
  fun_induction FileSystem.walk files start front with
  | case1 => rfl
  | case2 | case3 | case4 | case5 | case6 | case7 => simp_all [walk, Except.bind]

/-- The place where the way of a name starts, if the name can be read at all. -/
def start (files : FileSystem) (name : String) : Location :=
  if isAbsolute name then [] else files.workingDirectory

theorem eq_start_of_origin (h : files.origin name = .ok place) : place = files.start name := by
  unfold origin at h
  split at h
  · contradiction
  split at h
  · contradiction
  split at h
  · contradiction
  exact (Except.ok.inj h).symm

/-- The directory in which the final step of a name is taken. -/
def directoryOf (files : FileSystem) (name : String) : Except FileError Location :=
  files.walk (files.start name) (leadingSteps name)

theorem locate_eq (h : files.origin name = .ok (files.start name)) :
    files.locate name =
      (files.directoryOf name).bind fun directory ↦ files.walk directory [finalStep name] := by
  rw [locate, h, splitName_eq, directoryOf, ← walk_append]
  rfl

theorem SameDirectories.directoryOf_eq_ok_iff (h : SameDirectories files after) :
    after.directoryOf name = .ok place ↔ files.directoryOf name = .ok place := by
  rw [directoryOf, directoryOf, start, start, h.workingDirectory]
  exact h.walk_eq_ok_iff

/-! ### Places beside that of a name -/

/-- The place beside that of a name, in the directory of the name. -/
def besideOf (directory : Location) (name ending : String) : Location :=
  directory ++ [finalStep name ++ ending.toList]

/-- The last step of a name stays where it is, goes up, or leads into the directory. -/
theorem walk_final {directory : Location} {step : List Char}
    (h : files.walk directory [step] = .ok place) :
    files.entry? directory = some .directory ∧
      ((step = [] ∨ step = ['.']) ∧ place = directory ∨
        step = ['.', '.'] ∧ place = directory.dropLast ∨ place = directory ++ [step]) := by
  rw [walk] at h
  split at h
  · contradiction
  · contradiction
  next hdirectory =>
    refine ⟨hdirectory, ?_⟩
    split at h
    · next hstay => exact .inl ⟨hstay, (Except.ok.inj h).symm⟩
    split at h
    · next hup => exact .inr (.inl ⟨hup, (Except.ok.inj h).symm⟩)
    split at h
    · contradiction
    · exact .inr (.inr (Except.ok.inj h).symm)

/-- A name with an ending leads to the place beside that of the name. -/
theorem exists_of_locate_append {ending : String} (hending : IsEnding ending)
    (h : files.locate (name ++ ending) = .ok place) :
    ∃ directory, files.directoryOf name = .ok directory ∧
      files.entry? directory = some .directory ∧ place = besideOf directory name ending := by
  obtain ⟨start, horigin, -⟩ := exists_of_bind_eq_ok h
  rw [eq_start_of_origin horigin] at horigin
  rw [locate_eq horigin, directoryOf, leadingSteps_append hending, finalStep_append hending,
    FileSystem.start, isAbsolute_append hending] at h
  obtain ⟨directory, hdirectory, hfinal⟩ := exists_of_bind_eq_ok h
  obtain ⟨hentry, ⟨hstay | hstay, -⟩ | ⟨hup, -⟩ | hplace⟩ := walk_final hfinal
  · exact absurd hstay (hending.append_ne _ (by decide))
  · exact absurd hstay (hending.append_ne _ (by decide))
  · exact absurd hup (hending.append_ne _ (by decide))
  · exact ⟨directory, hdirectory, hentry, hplace⟩

theorem besideOf_injective {directory : Location} {ending other : String}
    (h : besideOf directory name ending = besideOf directory name other) : ending = other := by
  have hlast := List.append_inj' h rfl |>.2
  exact String.toList_inj.mp (List.append_cancel_left (List.cons.inj hlast).1)

/-- The place of a name is not beside itself. -/
theorem ne_besideOf {directory : Location} (hdirectory : files.directoryOf name = .ok directory)
    (h : files.locate name = .ok place) {ending : String} (hending : IsEnding ending) :
    place ≠ besideOf directory name ending := by
  obtain ⟨start, horigin, -⟩ := exists_of_bind_eq_ok h
  rw [eq_start_of_origin horigin] at horigin
  rw [locate_eq horigin, hdirectory] at h
  have hlong := hending.long
  rintro rfl
  obtain ⟨-, ⟨-, hplace⟩ | ⟨-, hplace⟩ | hplace⟩ := walk_final h
  · simp [besideOf] at hplace
  · have hlength := congrArg List.length hplace
    simp [besideOf] at hlength
    omega
  · have hstep := (List.cons.inj (List.append_inj' hplace rfl).2).1
    have hlength := congrArg List.length hstep
    rw [List.length_append] at hlength
    omega

/-- Where the directory of a name stays one, the name still leads to the same place. -/
theorem SameDirectories.locate_eq (h : SameDirectories files after) {directory : Location}
    (hdirectory : files.directoryOf name = .ok directory)
    (hentry : files.entry? directory = some .directory) :
    after.locate name = files.locate name := by
  cases horigin : files.origin name with
  | error e => rw [locate, locate, h.origin_eq, horigin]; rfl
  | ok start =>
    have hafter : after.origin name = .ok (after.start name) := by
      have horigin' := (h.origin_eq name).trans horigin
      rw [horigin', ← eq_start_of_origin horigin']
    rw [eq_start_of_origin horigin] at horigin
    rw [FileSystem.locate_eq horigin, FileSystem.locate_eq hafter, hdirectory,
      h.directoryOf_eq_ok_iff.mpr hdirectory]
    simp only [Except.bind, walk, hentry, (h.directory_iff directory).mpr hentry]

/-- What is found under a name does not depend on the files beside it. -/
theorem find?_insert_beside {ending : String} (hending : IsEnding ending)
    (hplace : files.locate (name ++ ending) = .ok place)
    (hfile : files.entry? place ≠ some .directory) (contents : ByteArray) :
    (files.insert place (.file contents)).find? name = files.find? name := by
  obtain ⟨directory, hdirectory, hentry, hbeside⟩ := exists_of_locate_append hending hplace
  have hsame : SameDirectories files (files.insert place (.file contents)) := .insert hfile contents
  rw [find?, find?, hsame.locate_eq hdirectory hentry]
  cases hname : files.locate name with
  | error e => rfl
  | ok found =>
    have hne : found ≠ place := hbeside ▸ ne_besideOf hdirectory hname hending
    simp only [Except.bind, entry?_insert files (ne_root_of_not_directory hfile), if_neg hne]

/-! ### What is found -/

theorem find?_of_locate (h : files.locate name = .ok place) (hname : namesDirectory name = false) :
    files.find? name = .ok (files.entry? place) := by
  simp only [find?, h, Except.bind, hname, if_neg Bool.false_ne_true]
  split <;> rfl

theorem exists_of_find? {entry : Option Entry} (h : files.find? name = .ok entry) :
    ∃ place, files.locate name = .ok place ∧ files.entry? place = entry := by
  obtain ⟨place, hplace, hentry⟩ := exists_of_bind_eq_ok h
  refine ⟨place, hplace, ?_⟩
  split at hentry
  · split at hentry
    · contradiction
    · exact Except.ok.inj hentry
  · exact Except.ok.inj hentry

theorem readBytes_eq_ok_iff {contents : ByteArray} :
    files.readBytes name = .ok contents ↔ files.find? name = .ok (some (.file contents)) := by
  rw [readBytes]
  constructor
  · intro h
    obtain ⟨found, hfound, hcontents⟩ := exists_of_bind_eq_ok h
    rw [hfound]
    split at hcontents <;> cases hcontents
    rfl
  · intro h
    rw [h]
    rfl

theorem readBytes_of_locate {contents : ByteArray} (h : files.locate name = .ok place)
    (hname : namesDirectory name = false) (hentry : files.entry? place = some (.file contents)) :
    files.readBytes name = .ok contents := by
  rw [readBytes_eq_ok_iff, find?_of_locate h hname, hentry]

theorem exists_of_readBytes {contents : ByteArray} (h : files.readBytes name = .ok contents) :
    ∃ place, files.locate name = .ok place ∧ files.entry? place = some (.file contents) :=
  exists_of_find? (readBytes_eq_ok_iff.mp h)

theorem readText_of_readBytes {text : String} (h : files.readBytes name = .ok text.toUTF8) :
    files.readText name = .ok text := by
  rw [readText, h]
  simp only [Except.bind, fromUTF8?_toUTF8, Option.elim_some]

theorem exists_of_write {contents : ByteArray} (h : files.write name contents = .ok after) :
    namesDirectory name = false ∧ ∃ place, files.locate name = .ok place ∧
      files.entry? place ≠ some .directory ∧ after = files.insert place (.file contents) := by
  unfold write at h
  split at h
  · obtain ⟨-, -, hnot⟩ := exists_of_bind_eq_ok h
    contradiction
  next hname =>
    obtain ⟨place, hplace, hwritten⟩ := exists_of_bind_eq_ok h
    split at hwritten
    · contradiction
    next hfile =>
      refine ⟨by simpa using hname, place, hplace, fun hdirectory ↦ ?_,
        (Except.ok.inj hwritten).symm⟩
      rw [hdirectory] at hfile
      contradiction

theorem readBytes_of_write {contents : ByteArray} (h : files.write name contents = .ok after) :
    after.readBytes name = .ok contents := by
  obtain ⟨hname, place, hplace, hfile, rfl⟩ := exists_of_write h
  have hsame : SameDirectories files (files.insert place (.file contents)) := .insert hfile contents
  refine readBytes_of_locate (hsame.locate_eq_ok_iff.mpr hplace) hname ?_
  rw [entry?_insert files (ne_root_of_not_directory hfile), if_pos rfl]

theorem exists_of_copy {source target : String} (h : files.copy source target = .ok after) :
    ∃ contents, files.readBytes source = .ok contents ∧
      files.write target contents = .ok after := by
  obtain ⟨found, hfound, hcopied⟩ := exists_of_bind_eq_ok h
  split at hcopied
  · contradiction
  · contradiction
  · exact ⟨_, readBytes_eq_ok_iff.mpr hfound, hcopied⟩

theorem exists_of_rename {source target : String} (h : files.rename source target = .ok after) :
    namesDirectory target = false ∧ ∃ contents start place,
      files.readBytes source = .ok contents ∧ files.locate source = .ok start ∧
        files.locate target = .ok place ∧ files.entry? place ≠ some .directory ∧
        after = (files.erase start).insert place (.file contents) := by
  obtain ⟨contents, hcontents, h⟩ := exists_of_bind_eq_ok h
  obtain ⟨start, hstart, h⟩ := exists_of_bind_eq_ok h
  obtain ⟨-, -, h⟩ := exists_of_bind_eq_ok h
  split at h
  · contradiction
  split at h
  · contradiction
  next hname =>
    obtain ⟨place, hplace, h⟩ := exists_of_bind_eq_ok h
    split at h
    · contradiction
    next hfile =>
      refine ⟨by simpa using hname, contents, start, place, hcontents, hstart, hplace,
        fun hdirectory ↦ ?_, (Except.ok.inj h).symm⟩
      rw [hdirectory] at hfile
      contradiction

/-- Names with different endings lead to different places. -/
theorem ne_of_locate_append {ending other : String} (hending : IsEnding ending)
    (hother : IsEnding other) (hne : ending ≠ other) {place' : Location}
    (h : files.locate (name ++ ending) = .ok place) (h' : files.locate (name ++ other) = .ok place') :
    place ≠ place' := by
  obtain ⟨directory, hdirectory, -, rfl⟩ := exists_of_locate_append hending h
  obtain ⟨directory', hdirectory', -, rfl⟩ := exists_of_locate_append hother h'
  cases hdirectory.symm.trans hdirectory'
  exact fun heq ↦ hne (besideOf_injective heq)

/-- Moving a file from beside a name to the place of the name. -/
structure Moved (files : FileSystem) (name ending : String) (contents : ByteArray)
    (start place : Location) (after : FileSystem) : Prop where
  source : files.readBytes (name ++ ending) = .ok contents
  leadsFrom : files.locate (name ++ ending) = .ok start
  leadsTo : files.locate name = .ok place
  target : namesDirectory name = false
  apart : place ≠ start
  directories : SameDirectories files after
  entry? : ∀ other, after.entry? other =
    if other = place then some (.file contents)
    else if other = start then none else files.entry? other

theorem exists_moved_of_rename {ending : String} (hending : IsEnding ending)
    (h : files.rename (name ++ ending) name = .ok after) :
    ∃ contents start place, Moved files name ending contents start place after := by
  obtain ⟨hname, contents, start, place, hsource, hstart, hplace, hfile, rfl⟩ := exists_of_rename h
  have hentry : files.entry? start = some (.file contents) := by
    have hfound := readBytes_eq_ok_iff.mp hsource
    rw [find?_of_locate hstart (namesDirectory_append hending name)] at hfound
    exact Except.ok.inj hfound
  have hstartFile : files.entry? start ≠ some .directory := by simp [hentry]
  have hne : place ≠ start := by
    obtain ⟨directory, hdirectory, -, rfl⟩ := exists_of_locate_append hending hstart
    exact ne_besideOf hdirectory hplace hending
  have herased : entry? (files.erase start) place ≠ some .directory := by
    rwa [entry?_erase files (ne_root_of_not_directory hstartFile), if_neg hne]
  refine ⟨contents, start, place, hsource, hstart, hplace, hname, hne,
    (SameDirectories.erase hstartFile).trans (.insert herased contents), fun other ↦ ?_⟩
  rw [entry?_insert _ (ne_root_of_not_directory hfile),
    entry?_erase files (ne_root_of_not_directory hstartFile)]

/-! ### Changes beside a name -/

/-- Nothing has changed but files beside a name, with these endings. -/
structure Aside (files : FileSystem) (name : String) (endings : List String)
    (after : FileSystem) : Prop where
  directories : SameDirectories files after
  found : after.find? name = files.find? name
  elsewhere : ∀ place, after.entry? place ≠ files.entry? place →
    ∃ ending ∈ endings, files.locate (name ++ ending) = .ok place

namespace Aside

theorem refl (files : FileSystem) (name : String) : Aside files name [] files :=
  ⟨.refl files, rfl, fun _ hchanged ↦ absurd rfl hchanged⟩

theorem mono {endings more : List String} (h : Aside files name endings after)
    (hmore : endings ⊆ more) : Aside files name more after := by
  refine ⟨h.directories, h.found, fun place hchanged ↦ ?_⟩
  obtain ⟨ending, hmem, hplace⟩ := h.elsewhere place hchanged
  exact ⟨ending, hmore hmem, hplace⟩

theorem write {ending : String} (hending : IsEnding ending) {contents : ByteArray}
    (h : files.write (name ++ ending) contents = .ok after) : Aside files name [ending] after := by
  obtain ⟨-, place, hplace, hfile, rfl⟩ := exists_of_write h
  refine ⟨.insert hfile contents, find?_insert_beside hending hplace hfile contents, ?_⟩
  intro other hchanged
  refine ⟨ending, List.mem_singleton_self ending, ?_⟩
  rw [entry?_insert files (ne_root_of_not_directory hfile)] at hchanged
  split at hchanged
  · next hother => rw [hother, hplace]
  · contradiction

theorem trans {middle : FileSystem} {endings more : List String}
    (h : Aside files name endings middle) (h' : Aside middle name more after) :
    Aside files name (endings ++ more) after := by
  refine ⟨h.directories.trans h'.directories, h'.found.trans h.found, fun place hchanged ↦ ?_⟩
  by_cases hlater : after.entry? place = middle.entry? place
  · rw [hlater] at hchanged
    obtain ⟨ending, hmem, hplace⟩ := h.elsewhere place hchanged
    exact ⟨ending, List.mem_append_left more hmem, hplace⟩
  · obtain ⟨ending, hmem, hplace⟩ := h'.elsewhere place hlater
    exact ⟨ending, List.mem_append_right endings hmem, h.directories.locate_eq_ok_iff.mp hplace⟩

end Aside

end FileSystem

end ClusterRouter
