import ClusterRouter.Decimal.Layout
import ClusterRouter.Proofs.Text.Numeral
import ClusterRouter.Text.Blank

/-!
# Text that can be seen

A text is blank unless one of its characters is no white space. Digits are none, so the texts of
numbers are not blank.
-/

namespace ClusterRouter.Text

/-- Some character is no white space. -/
def Visible (text : List Char) : Prop := ∃ c ∈ text, isWhiteSpace c = false

instance (text : List Char) : Decidable (Visible text) :=
  decidable_of_iff (text.all isWhiteSpace = false) (by simp [Visible])

theorem isBlank_eq_false_iff {s : String} : isBlank s = false ↔ Visible s.toList := by
  simp [isBlank, Visible]

theorem Visible.mono {text more : List Char} (h : Visible text) (hmore : text ⊆ more) :
    Visible more := by
  obtain ⟨c, hc, hvisible⟩ := h
  exact ⟨c, hmore hc, hvisible⟩

theorem Visible.append_left {text : List Char} (h : Visible text) (front : List Char) :
    Visible (front ++ text) := h.mono (List.subset_append_right front text)

theorem Visible.append_right {text : List Char} (h : Visible text) (back : List Char) :
    Visible (text ++ back) := h.mono (List.subset_append_left text back)

theorem isWhiteSpace_of_isDigit {c : Char} (h : c.isDigit = true) : isWhiteSpace c = false := by
  have hrange := toNat_of_isDigit h
  simp only [isWhiteSpace]
  grind

theorem visible_of_digits {text : List Char} (hne : text ≠ [])
    (hdigits : ∀ c ∈ text, c.isDigit = true) : Visible text := by
  obtain ⟨c, hc⟩ := List.exists_mem_of_ne_nil text hne
  exact ⟨c, hc, isWhiteSpace_of_isDigit (hdigits c hc)⟩

theorem visible_ofNat (n : Nat) : Visible (ofNat n) :=
  visible_of_digits (ofNat_ne_nil n) fun _ hc ↦ isDigit_of_mem_ofNat hc

theorem visible_ofInt64 (i : Int64) : Visible (ofInt64 i) := by
  rw [ofInt64, ofInt]
  split
  · exact (visible_ofNat _).append_left ['-']
  · exact visible_ofNat _

theorem visible_renderFinite (layout : Decimal.Layout) (h : Visible layout.positiveMark.toList)
    (decimal : Decimal) : Visible (Decimal.renderFinite layout decimal) := by
  have hpoint (rest : List Char) : Visible ('.' :: rest) := ⟨'.', List.mem_cons_self, by decide⟩
  simp only [Decimal.renderFinite]
  split
  · exact hpoint ['0'] |>.append_left ['0']
  split
  · rw [Decimal.positional]
    split
    · exact (hpoint _).append_left ['0'] |>.append_right _
    · exact (hpoint _).append_left _
  · have hmark (leading : Int) :
        Visible (if leading < 0 then "e-" else layout.positiveMark).toList := by
      split
      · decide
      · exact h
    exact (hmark _).append_left _ |>.append_right _

/-- No number is written as a blank text, in a layout whose words are not blank. -/
theorem visible_render (layout : Decimal.Layout)
    (h : ∀ word ∈ [layout.positiveMark, layout.nan, layout.infinity, layout.negativeInfinity],
      Visible word.toList) (x : Binary64) : Visible (Decimal.render layout x).toList := by
  simp only [List.forall_mem_cons, List.not_mem_nil, false_implies, implies_true, and_true] at h
  obtain ⟨hmark, hnan, hinfinity, hnegative⟩ := h
  rw [Decimal.render]
  split
  · exact hnan
  · split
    · exact hnegative
    · exact hinfinity
  · rw [String.toList_ofList]
    exact (visible_renderFinite layout hmark _).append_left _

end ClusterRouter.Text
