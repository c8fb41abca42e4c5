import ClusterRouter.Proofs.Text.Visible
import ClusterRouter.Yaml.Printer

/-!
# What stays on a page

Writing adds to a page and takes nothing back. Every collection has an indicator of its own and
every scalar its text or a quote, so the text of a value can be seen unless the value is a string
of white space.
-/

namespace ClusterRouter.Yaml

open Text (Visible)

namespace Page

/-! ### Writing adds to a page -/

theorem written_putAll (p : Page) (cs : List Char) :
    (p.putAll cs).written = cs.reverse ++ p.written := by
  induction cs generalizing p with
  | nil => rfl
  | cons c cs ih =>
    rw [putAll, List.foldl_cons, List.reverse_cons, List.append_assoc]
    exact ih (p.put c)

theorem suffix_put (p : Page) (c : Char) : p.written <:+ (p.put c).written :=
  List.suffix_cons c p.written

theorem suffix_putAll (p : Page) (cs : List Char) : p.written <:+ (p.putAll cs).written := by
  rw [written_putAll]
  exact List.suffix_append _ _

theorem subset_putAll (p : Page) (cs : List Char) : cs ⊆ (p.putAll cs).written := by
  rw [written_putAll]
  exact fun c hc ↦ List.mem_append_left _ (List.mem_reverse.mpr hc)

theorem suffix_indentTo (p : Page) (column : Nat) : p.written <:+ (p.indentTo column).written := by
  rw [indentTo]
  split
  · exact (List.suffix_cons '\n' p.written).trans (suffix_putAll (p.newLine '\n') _)
  · exact suffix_putAll _ _

theorem suffix_indicator (p : Page) (mark : List Char) (apart spaced indented : Bool) :
    p.written <:+ (p.indicator mark apart spaced indented).written := by
  rw [indicator]
  split
  · exact (p.suffix_put ' ').trans (suffix_putAll _ _)
  · exact suffix_putAll _ _

theorem visible_indicator {mark : List Char} (h : Visible mark) (p : Page)
    (apart spaced indented : Bool) : Visible (p.indicator mark apart spaced indented).written :=
  h.mono (subset_putAll _ mark)

theorem suffix_plain (p : Page) (text : List Char) : p.written <:+ (p.plain text).written := by
  rw [plain]
  split
  · exact (p.suffix_put ' ').trans (suffix_putAll _ _)
  · exact suffix_putAll _ _

theorem suffix_lines (column : Nat) (expand : Char → List Char) (text : List Char) (broken : Bool)
    (p : Page) : p.written <:+ (lines column expand text broken p).1.written := by
  induction text generalizing broken p with
  | nil => exact List.suffix_refl p.written
  | cons c rest ih =>
    rw [lines]
    split
    · have hbreak : p.written <:+ ({ p.newLine c with indented := true } : Page).written :=
        List.suffix_cons c p.written
      exact hbreak.trans (ih _ _)
    · refine List.IsSuffix.trans ?_ (ih _ _)
      split
      · exact (p.suffix_indentTo column).trans (suffix_putAll _ (expand c))
      · exact suffix_putAll p (expand c)

/-- A single-quoted text begins with its quote. -/
theorem suffix_singleQuoted (p : Page) (column : Nat) (text : List Char) :
    (p.indicator ['\x27'] true false false).written <:+
      (p.singleQuoted column text).written := by
  refine (suffix_lines column (fun c ↦ if c == '\x27' then [c, c] else [c]) text false _).trans ?_
  simp only [singleQuoted]
  refine List.IsSuffix.trans ?_ (suffix_indicator _ ['\x27'] false false false)
  split
  · exact suffix_indentTo _ column
  · exact List.suffix_refl _

theorem suffix_doubleQuoted (p : Page) (text : List Char) :
    (p.indicator ['"'] true false false).written <:+ (p.doubleQuoted text).written :=
  (suffix_putAll _ (text.flatMap escape)).trans (suffix_indicator _ ['"'] false false false)

theorem suffix_literal (p : Page) (column : Nat) (text : List Char) :
    (p.indicator (literalHeader text) true false false).written <:+
      (p.literal column text).written := by
  refine List.IsSuffix.trans ?_ (suffix_lines column (fun c ↦ [c]) text true _)
  exact List.suffix_cons '\n' _

theorem visible_literalHeader (text : List Char) : Visible (literalHeader text) :=
  ⟨'|', List.mem_cons_self, by decide⟩

theorem suffix_scalar (p : Page) (column : Nat) (simpleKey : Bool) (wanted : ScalarStyle)
    (text : List Char) : p.written <:+ (p.scalar column simpleKey wanted text).written := by
  rw [scalar]
  split
  · exact p.suffix_plain text
  · exact (suffix_indicator _ _ _ _ _).trans (p.suffix_singleQuoted column text)
  · exact (suffix_indicator _ _ _ _ _).trans (p.suffix_literal column text)
  · exact (suffix_indicator _ _ _ _ _).trans (p.suffix_doubleQuoted text)

/-- A text that can be seen is seen in every style. -/
theorem visible_scalar {text : List Char} (h : Visible text) (p : Page) (column : Nat)
    (simpleKey : Bool) (wanted : ScalarStyle) :
    Visible (p.scalar column simpleKey wanted text).written := by
  rw [scalar]
  split
  · exact h.mono (subset_putAll _ text)
  · exact (visible_indicator (by decide) p _ _ _).mono (p.suffix_singleQuoted column text).subset
  · exact (visible_indicator (visible_literalHeader text) p _ _ _).mono
      (p.suffix_literal column text).subset
  · exact (visible_indicator (by decide) p _ _ _).mono (p.suffix_doubleQuoted text).subset

end Page

/-! ### Values -/

mutual

theorem suffix_writeValue (outer : Option Nat) (ofKey : Bool) (value : Value) (p : Page) :
    p.written <:+ (writeValue outer ofKey value p).written := by
  match value with
  | .list [] | .map [] =>
    rw [writeValue]
    exact (p.suffix_indicator _ _ _ _).trans (Page.suffix_indicator _ _ _ _ _)
  | .list (item :: items) =>
    rw [writeValue]
    exact suffix_writeItems _ (item :: items) p
  | .map (entry :: entries) =>
    rw [writeValue]
    exact suffix_writeEntries _ (entry :: entries) p
  | .null | .bool _ | .int _ | .float _ | .string _ =>
    simp only [writeValue]
    exact p.suffix_scalar _ _ _ _

theorem suffix_writeItems (column : Nat) (items : List Value) (p : Page) :
    p.written <:+ (writeItems column items p).written := by
  match items with
  | [] => exact List.suffix_refl p.written
  | item :: items =>
    rw [writeItems]
    exact (p.suffix_indentTo column).trans <| (Page.suffix_indicator _ _ _ _ _).trans <|
      (suffix_writeValue _ _ item _).trans (suffix_writeItems column items _)

theorem suffix_writeEntries (column : Nat) (entries : List (String × Value)) (p : Page) :
    p.written <:+ (writeEntries column entries p).written := by
  match entries with
  | [] => exact List.suffix_refl p.written
  | (key, value) :: entries =>
    rw [writeEntries]
    refine (p.suffix_indentTo column).trans <| List.IsSuffix.trans ?_ <|
      (suffix_writeValue _ _ value _).trans (suffix_writeEntries column entries _)
    split
    · exact (Page.suffix_scalar _ _ _ _ _).trans (Page.suffix_indicator _ _ _ _ _)
    · exact (Page.suffix_indicator _ _ _ _ _).trans <| (Page.suffix_scalar _ _ _ _ _).trans <|
        (Page.suffix_indentTo _ _).trans (Page.suffix_indicator _ _ _ _ _)

end

theorem visible_writeItems (column : Nat) (item : Value) (items : List Value) (p : Page) :
    Visible (writeItems column (item :: items) p).written := by
  rw [writeItems]
  have hmark : Visible ((p.indentTo column).indicator ['-'] true false true).written :=
    Page.visible_indicator (by decide) _ _ _ _
  exact hmark.mono ((suffix_writeValue _ _ item _).trans (suffix_writeItems column items _)).subset

theorem visible_writeEntries (column : Nat) (key : String) (value : Value)
    (entries : List (String × Value)) (p : Page) :
    Visible (writeEntries column ((key, value) :: entries) p).written := by
  rw [writeEntries]
  refine Visible.mono ?_
    ((suffix_writeValue _ _ value _).trans (suffix_writeEntries column entries _)).subset
  split <;> exact Page.visible_indicator (by decide) _ _ _ _

theorem visible_scalarText (atom : Value) : Visible (scalarText atom) := by
  have hnumbers : ∀ word ∈ [numberLayout.positiveMark, numberLayout.nan, numberLayout.infinity,
      numberLayout.negativeInfinity], Visible word.toList := by decide
  have hnull : Visible ['n', 'u', 'l', 'l'] := by decide
  cases atom with
  | bool b => cases b <;> decide
  | int i => exact Text.visible_ofInt64 i
  | float x => exact Text.visible_render numberLayout hnumbers x
  | null | string | list | map => exact hnull

theorem visible_writeValue {value : Value} (h : ∀ s, value = .string s → Visible s.toList)
    (outer : Option Nat) (ofKey : Bool) (p : Page) :
    Visible (writeValue outer ofKey value p).written := by
  match value with
  | .list [] | .map [] =>
    rw [writeValue]
    exact (Page.visible_indicator (by decide) p _ _ _).mono
      (Page.suffix_indicator _ _ _ _ _).subset
  | .list (item :: items) =>
    rw [writeValue]
    exact visible_writeItems _ item items p
  | .map ((key, value) :: entries) =>
    rw [writeValue]
    exact visible_writeEntries _ key value entries p
  | .string s =>
    rw [writeValue]
    exact Page.visible_scalar (h s rfl) p _ _ _
  | .null | .bool _ | .int _ | .float _ =>
    simp only [writeValue]
    exact Page.visible_scalar (visible_scalarText _) p _ _ _

/-- The text of a value is blank only if the value is a string of white space. -/
theorem exists_of_isBlank_render {value : Value} (h : Text.isBlank (render value) = true) :
    ∃ s, value = .string s ∧ Text.isBlank s = true := by
  by_contra hother
  have hstring (s : String) (hs : value = .string s) : Visible s.toList :=
    Text.isBlank_eq_false_iff.mp (Bool.not_eq_true _ ▸ fun hblank ↦ hother ⟨s, hs, hblank⟩)
  have hvisible : Visible (render value).toList := by
    rw [render, String.toList_ofList]
    refine (visible_writeValue hstring none false {}).mono fun c hc ↦ ?_
    exact List.mem_reverse.mpr ((Page.suffix_indentTo _ 0).subset hc)
  exact Bool.false_ne_true ((Text.isBlank_eq_false_iff.mpr hvisible).symm.trans h)

end ClusterRouter.Yaml
