import ClusterRouter.Edit
import ClusterRouter.Manifest.Basic
import ClusterRouter.Proofs.Document.Navigation

/-!
# Laws of edits

Every edit reads its path first and then makes at most one new root out of the old one. A `Change`
says what becomes of the root, and one equation for each edit says which change it makes. An edit
that fails or reports no change has left the whole document as it was.
-/

namespace ClusterRouter.Document

/-! ### Edits as changes of the root -/

/-- What becomes of a root at a path: a new root, none where nothing changes, or an error. -/
abbrev Change := Path → Value → Except DocumentError (Option Value)

/-- The end of an edit that has found out what becomes of the root. -/
def concluded (document : Document) :
    Except DocumentError (Option Value) → EStateM.Result DocumentError Document Bool
  | .error e => .error e document
  | .ok none => .ok false document
  | .ok (some root) => .ok true { document with root }

theorem concluded_ok (document : Document) (root : Option Value) :
    concluded document (.ok root) =
      .ok root.isSome { document with root := root.getD document.root } := by
  cases root <;> rfl

theorem eq_of_concluded_error {document after : Document} {e : DocumentError}
    {outcome : Except DocumentError (Option Value)}
    (h : concluded document outcome = .error e after) : after = document := by
  rcases outcome with e | _ | root <;> cases h
  rfl

theorem eq_of_concluded_false {document after : Document}
    {outcome : Except DocumentError (Option Value)}
    (h : concluded document outcome = .ok false after) : after = document := by
  rcases outcome with e | _ | root <;> cases h
  rfl

theorem exists_of_concluded_true {document after : Document}
    {outcome : Except DocumentError (Option Value)}
    (h : concluded document outcome = .ok true after) :
    ∃ root, outcome = .ok (some root) ∧ after = { document with root } := by
  rcases outcome with e | _ | root <;> cases h
  exact ⟨root, rfl, rfl⟩

/-- What becomes of the root of a document at the path of a text. -/
def changeAt (document : Document) (text : String) (change : Change) :
    Except DocumentError (Option Value) :=
  (document.parsePath text).bind fun path ↦ change path document.root

theorem target_bind_run {document : Document} {text : String} {next : Path → Editing Bool}
    {change : Change}
    (h : ∀ path, (next path).run document = concluded document (change path document.root)) :
    (target text >>= next).run document = concluded document (document.changeAt text change) := by
  rw [EStateM.run_bind, changeAt]
  cases hpath : document.parsePath text with
  | error e =>
    have htarget : (target text).run document = .error e document := by
      simp only [target, EStateM.run_bind, EStateM.run_get, hpath]
      rfl
    rw [htarget]
    rfl
  | ok path =>
    have htarget : (target text).run document = .ok path document := by
      simp only [target, EStateM.run_bind, EStateM.run_get, hpath]
      rfl
    rw [htarget]
    exact h path

theorem discard_run {α : Type} (edit : Editing α) (document : Document) :
    (discard edit).run document = match edit.run document with
      | .ok _ after => .ok () after
      | .error e after => .error e after := by
  change (EStateM.map _ edit).run document = _
  simp only [EStateM.run, EStateM.map]
  cases edit document <;> rfl

theorem replaceRoot_run (document : Document) (root : Option Value) :
    (replaceRoot root).run document = concluded document (.ok root) := by
  cases root <;> rfl

/-- Puts a value where no equal one is. -/
def putChange (value : Value) : Change := fun path root ↦
  .ok (if root.lookup path == some value then none else root.create? path value)

theorem putAt_run (document : Document) (path : Path) (value : Value) :
    (putAt path value).run document = concluded document (putChange value path document.root) := by
  simp only [putAt, putChange, EStateM.run_bind, EStateM.run_get]
  split
  · rfl
  · exact replaceRoot_run _ _

theorem put_run (document : Document) (text : String) (value : Value) :
    (put text value).run document =
      concluded document (document.changeAt text (putChange value)) :=
  target_bind_run fun path ↦ putAt_run document path value

theorem create_run (document : Document) (files : FileSystem) (text : String) (value : Value) :
    (create files text value).run document =
      concluded document (if document.filename.any files.contains then .ok none
        else document.changeAt text (putChange value)) := by
  simp only [create, EStateM.run_bind, EStateM.run_get]
  split
  · rfl
  · exact put_run document text value

/-- Takes away what the last step of a path leads to, or all that the root holds. -/
def removeChange : Change := fun path root ↦
  .ok (path.getLast?.elim root.clear? fun last ↦
    root.modify? (Value.removeStep? · last) path.dropLast)

theorem removeChange_concat (parent : Path) (last : Segment) (root : Value) :
    removeChange (parent ++ [last]) root = .ok (root.modify? (Value.removeStep? · last) parent) := by
  rw [removeChange, List.getLast?_concat, List.dropLast_concat, Option.elim_some]

theorem remove_run (document : Document) (text : String) :
    (remove text).run document = concluded document (document.changeAt text removeChange) := by
  apply target_bind_run
  intro path
  rw [EStateM.run_bind, EStateM.run_get, removeChange]
  cases path.getLast? with
  | none => exact replaceRoot_run _ _
  | some last => exact replaceRoot_run _ _

def popChange (wanted : Value) : Change := fun path root ↦
  .ok (root.modify? (popFrom wanted) path)

theorem pop_run (document : Document) (text : String) (wanted : Value) :
    (pop text wanted).run document =
      concluded document (document.changeAt text (popChange wanted)) :=
  target_bind_run fun _ ↦ replaceRoot_run _ _

/-- The root with an empty list at a path where nothing or null was. -/
def withList (path : Path) (root : Value) : Value :=
  match root.lookup path with
  | none | some .null => (root.create? path (.list [])).getD root
  | some _ => root

def appendChange (item : Value) : Change := fun path root ↦
  .ok ((withList path root).modify? (pushTo item) path)

/-- A list that was put takes an item. -/
theorem modify?_pushTo_create? {root created : Value} {path : Path} (item : Value)
    (h : root.create? path (.list []) = some created) :
    (created.modify? (pushTo item) path).isSome := by
  rw [Value.modify?_isSome (Value.lookup_create? h)]
  rfl

theorem append_run (document : Document) (text : String) (item : Value) :
    (append text item).run document =
      concluded document (document.changeAt text (appendChange item)) := by
  apply target_bind_run
  intro path
  -- where nothing or null is, the list is put first
  have hput (hlookup : document.root.lookup path = none ∨
      document.root.lookup path = some .null) :
      (do
        discard (putAt path (.list []))
        replaceRoot ((← get).root.modify? (pushTo item) path) : Editing Bool).run document =
        concluded document (appendChange item path document.root) := by
    have hputs : (document.root.lookup path == some (.list [])) = false := by
      rcases hlookup with h | h <;> rw [h] <;> rfl
    have hwith : withList path document.root =
        (document.root.create? path (.list [])).getD document.root := by
      unfold withList
      rcases hlookup with h | h <;> rw [h]
    rw [appendChange, hwith, EStateM.run_bind, discard_run, putAt_run, putChange, hputs,
      if_neg Bool.false_ne_true]
    cases hcreate : document.root.create? path (.list []) with
    | none => exact replaceRoot_run _ _
    | some created =>
      obtain ⟨root, hroot⟩ := Option.isSome_iff_exists.mp (modify?_pushTo_create? item hcreate)
      simp only [concluded, EStateM.run_bind, EStateM.run_get, replaceRoot_run, hroot,
        Option.getD_some]
  rw [EStateM.run_bind, EStateM.run_get]
  simp only
  split
  · next h => exact hput (.inl h)
  · next h => exact hput (.inr h)
  · next entry hnull hsome =>
    have hwith : withList path document.root = document.root := by
      rw [withList, hsome]
      cases entry <;> first | rfl | exact absurd rfl hnull
    rw [appendChange, hwith]
    exact replaceRoot_run _ _

def updateChange (text : String) (value : Value) (index : Option Int64)
    (current : Option Value) : Change := fun path root ↦
  match root.lookup path with
  | none => .ok none
  | some entry => (updated text value index current entry).map fun replaced ↦
      replaced.bind fun new ↦ root.modify? (fun _ ↦ some new) path

theorem update_run (document : Document) (text : String) (value : Value) (index : Option Int64)
    (current : Option Value) :
    (update text value index current).run document =
      concluded document (document.changeAt text (updateChange text value index current)) := by
  apply target_bind_run
  intro path
  rw [EStateM.run_bind, EStateM.run_get, updateChange]
  simp only
  cases document.root.lookup path with
  | none => rfl
  | some entry => cases hupdated : updated text value index current entry with
    | error e => simp only [hupdated]; rfl
    | ok replaced => cases replaced with
      | none => simp only [hupdated]; rfl
      | some new => simp only [hupdated]; exact replaceRoot_run _ _

/-! ### The ways in which a put ends -/

theorem changeAt_of_parsePath {document : Document} {text : String} {path : Path}
    (hpath : document.parsePath text = .ok path) (change : Change) :
    document.changeAt text change = change path document.root := by
  rw [changeAt, hpath]
  rfl

theorem parsePath_of_parse {document : Document} {text : String} {path : Path}
    (hparse : Path.parse text document.separator = .ok path) :
    document.parsePath text = .ok path := by
  rw [parsePath, hparse]
  rfl

theorem lookup_of_parsePath {document : Document} {text : String} {path : Path}
    (hpath : document.parsePath text = .ok path) :
    document.lookup text = .ok (document.root.lookup path) := by
  rw [lookup, hpath]
  rfl

theorem exists_path_of_lookup {document : Document} {text : String} {found : Option Value}
    (h : document.lookup text = .ok found) :
    ∃ path, document.parsePath text = .ok path ∧ document.root.lookup path = found := by
  cases hpath : document.parsePath text with
  | ok path =>
    rw [lookup_of_parsePath hpath] at h
    exact ⟨path, rfl, Except.ok.inj h⟩
  | error e =>
    rw [lookup, hpath] at h
    contradiction

theorem exists_path_of_ok {document after : Document} {text : String} {change : Change}
    {reported : Bool}
    (h : concluded document (document.changeAt text change) = .ok reported after) :
    ∃ path, document.parsePath text = .ok path := by
  cases hpath : document.parsePath text with
  | ok path => exact ⟨path, rfl⟩
  | error e =>
    rw [changeAt, hpath] at h
    contradiction

/-- Putting a value where an equal one is does nothing. -/
theorem put_run_of_lookup {document : Document} {text : String} {value : Value} {path : Path}
    (hpath : document.parsePath text = .ok path)
    (hlookup : (document.root.lookup path == some value) = true) :
    (put text value).run document = .ok false document := by
  rw [put_run, changeAt_of_parsePath hpath, putChange, if_pos hlookup]
  rfl

/-- Putting a value where no path can be created does nothing. -/
theorem put_run_of_not_creatable {document : Document} {text : String} {value : Value}
    {path : Path} (hpath : document.parsePath text = .ok path)
    (hnot : ¬document.root.Creatable path) : (put text value).run document = .ok false document := by
  have hnone : document.root.create? path value = none := by
    simpa using mt (Value.creatable_iff value).mpr hnot
  rw [put_run, changeAt_of_parsePath hpath, putChange, hnone, ite_self]
  rfl

/-- The two ways in which putting a value does nothing, and the one in which it does something. -/
theorem put_run_cases {document after : Document} {text : String} {value : Value} {path : Path}
    {reported : Bool} (hpath : document.parsePath text = .ok path)
    (h : (put text value).run document = .ok reported after) :
    (reported = false ∧ after = document ∧
        (document.root.lookup path == some value) = true) ∨
      (reported = false ∧ after = document ∧ ¬document.root.Creatable path) ∨
      ∃ root, reported = true ∧ after = { document with root } ∧
        document.root.create? path value = some root ∧
        (document.root.lookup path == some value) = false := by
  by_cases hlookup : (document.root.lookup path == some value) = true
  · cases h.symm.trans (put_run_of_lookup hpath hlookup)
    exact .inl ⟨rfl, rfl, hlookup⟩
  by_cases hcreatable : document.root.Creatable path
  · obtain ⟨root, hroot⟩ := Option.isSome_iff_exists.mp (hcreatable.create?_isSome value)
    rw [put_run, changeAt_of_parsePath hpath, putChange, if_neg hlookup, hroot] at h
    cases h
    exact .inr (.inr ⟨root, rfl, rfl, hroot, by simpa using hlookup⟩)
  · cases h.symm.trans (put_run_of_not_creatable hpath hcreatable)
    exact .inr (.inl ⟨rfl, rfl, hcreatable⟩)

/-! ### Edits that succeed -/

/-- The edit succeeds and reports a change. -/
def reportsChange (edit : Editing Bool) (document : Document) : Bool :=
  match edit.run document with
  | .ok reported _ => reported
  | .error _ _ => false

theorem reportsChange_of_run {edit : Editing Bool} {document after : Document} {reported : Bool}
    (hrun : edit.run document = .ok reported after) : reportsChange edit document = reported := by
  rw [reportsChange, hrun]

/-- The edit succeeds on the document and leaves one of which the assertion holds. -/
def Reaches {α : Type} (edit : Editing α) (document : Document) (post : Document → Prop) : Prop :=
  ∃ a after, edit.run document = .ok a after ∧ post after

section

variable {α β : Type} {document : Document} {post : Document → Prop}

theorem reaches_pure {a : α} (h : post document) : Reaches (pure a) document post :=
  ⟨a, document, rfl, h⟩

theorem reaches_get {next : Document → Editing α} (h : Reaches (next document) document post) :
    Reaches (get >>= next) document post := by
  obtain ⟨a, after, hrun, hpost⟩ := h
  refine ⟨a, after, ?_, hpost⟩
  rw [EStateM.run_bind, EStateM.run_get]
  exact hrun

theorem Reaches.bind {edit : Editing α} {next : α → Editing β} {middle : Document → Prop}
    (h : Reaches edit document middle)
    (hnext : ∀ a after, middle after → Reaches (next a) after post) :
    Reaches (edit >>= next) document post := by
  obtain ⟨a, after, hrun, hmiddle⟩ := h
  obtain ⟨b, last, hlast, hpost⟩ := hnext a after hmiddle
  refine ⟨b, last, ?_, hpost⟩
  rw [EStateM.run_bind, hrun]
  exact hlast

theorem Reaches.discard {edit : Editing α} (h : Reaches edit document post) :
    Reaches (Functor.discard edit) document post := by
  obtain ⟨a, after, hrun, hpost⟩ := h
  refine ⟨(), after, ?_, hpost⟩
  rw [discard_run, hrun]

/-- What every edit of a row keeps is kept by the row. -/
theorem reaches_editEach {edit : α → Editing Bool} {items : List α}
    (h : ∀ item ∈ items, ∀ current, post current → Reaches (edit item) current post)
    (hpost : post document) : Reaches (editEach edit items) document post := by
  induction items generalizing document with
  | nil => exact reaches_pure hpost
  | cons item items ih =>
    obtain ⟨hfirst, hrest⟩ := List.forall_mem_cons.mp h
    apply (hfirst document hpost).bind
    intro changed after hafter
    exact (ih hrest hafter).bind fun later last hlast ↦ reaches_pure hlast

/-- What holds before and, after each edit of a row of items with their places, one place further
on, holds at the end of the row. -/
theorem reaches_editEach_zipIdx {edit : α × Nat → Editing Bool} (post : Nat → Document → Prop)
    {items : List α} {start : Nat}
    (h : ∀ n item, items[n]? = some item → ∀ current, post (start + n) current →
      Reaches (edit (item, start + n)) current (post (start + n + 1)))
    (hpost : post start document) :
    Reaches (editEach edit (items.zipIdx start)) document (post (start + items.length)) := by
  induction items generalizing start document with
  | nil => exact reaches_pure hpost
  | cons item items ih =>
    have hfirst : Reaches (edit (item, start)) document (post (start + 1)) :=
      h 0 item rfl document hpost
    have hrest (n : Nat) (other : α) (hother : items[n]? = some other) (current : Document)
        (hcurrent : post (start + 1 + n) current) :
        Reaches (edit (other, start + 1 + n)) current (post (start + 1 + n + 1)) := by
      have hplace : start + 1 + n = start + (n + 1) := by omega
      rw [hplace] at hcurrent ⊢
      exact h (n + 1) other hother current hcurrent
    have hlength : start + (item :: items).length = start + 1 + items.length := by
      rw [List.length_cons]
      omega
    rw [List.zipIdx_cons, hlength]
    apply hfirst.bind
    intro changed after hafter
    exact (ih hrest hafter).bind fun later last hlast ↦ reaches_pure hlast

/-- A row of edits that all do nothing does nothing. -/
theorem editEach_run_of_false {edit : α → Editing Bool} {items : List α}
    (h : ∀ item ∈ items, (edit item).run document = .ok false document) :
    (editEach edit items).run document = .ok false document := by
  induction items with
  | nil => rfl
  | cons item items ih =>
    obtain ⟨hfirst, hrest⟩ := List.forall_mem_cons.mp h
    rw [editEach, EStateM.run_bind, hfirst]
    simp only [EStateM.run_bind, ih hrest]
    rfl

/-- What each edit makes of a document, a row of them makes of it, if it holds of no edit and of
two in turn. -/
theorem related_of_editEach {edit : α → Editing Bool} {motive : Document → Bool → Document → Prop}
    (hnone : ∀ document, motive document false document)
    (htrans : ∀ {first changed middle later last}, motive first changed middle →
      motive middle later last → motive first (changed || later) last)
    {items : List α} (h : ∀ item ∈ items, ∀ current changed after,
      (edit item).run current = .ok changed after → motive current changed after)
    {reported : Bool} {after : Document}
    (hrun : (editEach edit items).run document = .ok reported after) :
    motive document reported after := by
  induction items generalizing document reported with
  | nil =>
    cases hrun
    exact hnone _
  | cons item items ih =>
    obtain ⟨hfirst, hrest⟩ := List.forall_mem_cons.mp h
    rw [editEach, EStateM.run_bind] at hrun
    cases hitem : (edit item).run document with
    | error e middle =>
      rw [hitem] at hrun
      contradiction
    | ok changed middle =>
      simp only [hitem, EStateM.run_bind] at hrun
      cases hlater : (editEach edit items).run middle with
      | error e last =>
        rw [hlater] at hrun
        contradiction
      | ok later last =>
        rw [hlater] at hrun
        cases hrun
        exact htrans (hfirst document changed middle hitem) (ih hrest hlater)

/-- A row of edits that reports no change has changed nothing, if that is so of each of them. -/
theorem eq_of_editEach_false {edit : α → Editing Bool} {items : List α} {after : Document}
    (h : ∀ item ∈ items, ∀ current after,
      (edit item).run current = .ok false after → after = current)
    (hrun : (editEach edit items).run document = .ok false after) : after = document := by
  refine related_of_editEach (motive := fun before reported after ↦
    reported = false → after = before) (fun _ _ ↦ rfl) ?_ ?_ hrun rfl
  · intro first changed middle later last hfirst hsecond hreported
    obtain ⟨rfl, rfl⟩ := Bool.or_eq_false_iff.mp hreported
    rw [hsecond rfl, hfirst rfl]
  · rintro item hitem current changed after hrun rfl
    exact h item hitem current after hrun

/-- A put succeeds where its path can be read: it changes nothing, or the root. -/
theorem reaches_put {text : String} {value : Value} {path : Path}
    (hpath : document.parsePath text = .ok path) (hsame : post document)
    (hchanged : ∀ root, document.root.create? path value = some root →
      (document.root.lookup path == some value) = false → post { document with root }) :
    Reaches (put text value) document post := by
  have hrun := put_run document text value
  rw [changeAt_of_parsePath hpath, putChange] at hrun
  split at hrun
  · exact ⟨false, document, hrun, hsame⟩
  next hlookup =>
    cases hcreate : document.root.create? path value with
    | none => exact ⟨false, document, by rw [hrun, hcreate]; rfl, hsame⟩
    | some root =>
      exact ⟨true, { document with root }, by rw [hrun, hcreate]; rfl,
        hchanged root hcreate (by simpa using hlookup)⟩

/-- An append succeeds where its path can be read. -/
theorem reaches_append {text : String} {item : Value} {path : Path}
    (hpath : document.parsePath text = .ok path)
    (hpost : ∀ root, post { document with root }) : Reaches (append text item) document post := by
  have hrun := append_run document text item
  rw [changeAt_of_parsePath hpath, appendChange] at hrun
  cases hmodify : (withList path document.root).modify? (pushTo item) path with
  | none =>
    rw [hmodify] at hrun
    exact ⟨false, document, hrun, hpost document.root⟩
  | some root =>
    rw [hmodify] at hrun
    exact ⟨true, { document with root }, hrun, hpost root⟩

end

end ClusterRouter.Document
