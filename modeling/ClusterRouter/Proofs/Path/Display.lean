import ClusterRouter.Proofs.Path.Grammar

/-!
# Displayed paths

A path is displayed by one piece for each of its segments. It is read back if its keys could be
keys of a path text and leave one separator free to stand between them, and only then. Every path
that was read from a text is of that kind.
-/

namespace ClusterRouter

open ClusterRouter.Path (Token Piece)

namespace Segment

/-- The token that displays a segment. -/
def token : Segment → Token
  | .key name => .key name.toList
  | .index position => .index (decide (position.toInt < 0)) (Text.ofNat position.toInt.natAbs)

theorem text_token (segment : Segment) : segment.token.text = segment.display := by
  cases segment with
  | key name => rfl
  | index position =>
    simp only [token, Token.text, display, Text.ofInt64, Text.ofInt, Path.sign, decide_eq_true_eq]
    split <;> simp

/-- The digits of a position mean that position. -/
theorem segment_token (segment : Segment) : segment.token.segment = segment := by
  cases segment with
  | key name => simp [token, Token.segment]
  | index position =>
    have hmin : Int64.minValue.toInt = -2 ^ 63 := rfl
    have hmax : Int64.maxValue.toInt = 2 ^ 63 - 1 := rfl
    have hleast := position.le_toInt
    have hgreatest := position.toInt_lt
    have hdigits : (Text.ofNat position.toInt.natAbs).all Char.isDigit = true :=
      List.all_eq_true.mpr fun c hc ↦ Text.isDigit_of_mem_ofNat hc
    have hindex : Path.indexOf (decide (position.toInt < 0)) (Text.ofNat position.toInt.natAbs) =
        Path.saturate position.toInt := by
      simp only [Path.indexOf, if_pos hdigits, Text.natOfDigits_ofNat, decide_eq_true_eq]
      congr 1
      split <;> omega
    have hposition : Path.saturate position.toInt = position := by
      apply Int64.toInt_inj.mp
      rw [Path.toInt_saturate]
      omega
    rw [token, Token.segment, hindex, hposition]

end Segment

namespace Path

def startsWithKey : Path → Bool
  | .key _ :: _ => true
  | _ => false

/-- The pieces of a displayed path: a separator stands before each key but the first one. -/
def pieces : Path → List Piece
  | [] => []
  | segment :: rest => ⟨segment.token, startsWithKey rest⟩ :: pieces rest

theorem displayRest_eq (separator : Separator) (path : Path) :
    displayRest separator path =
      mark separator (startsWithKey path) ++ displayWith separator path := by
  cases path with
  | nil => rfl
  | cons segment rest => cases segment <;> rfl

theorem written_pieces (separator : Separator) (path : Path) :
    written separator (pieces path) = displayWith separator path := by
  induction path with
  | nil => rfl
  | cons segment rest ih =>
    rw [pieces, written_cons, ih, ← displayRest_eq, segment.text_token, displayWith]

theorem map_segment_pieces (path : Path) : (pieces path).map Piece.segment = path := by
  induction path with
  | nil => rfl
  | cons segment rest ih => rw [pieces, List.map_cons, ih, Piece.segment, segment.segment_token]

theorem unfused_pieces (path : Path) : Unfused (pieces path) := by
  induction path with
  | nil => exact .nil
  | cons segment rest ih =>
    refine List.isChain_cons.mpr ⟨fun next hnext ↦ ?_, ih⟩
    cases rest with
    | nil => contradiction
    | cons second rest =>
      cases Option.mem_some_iff.mp hnext
      cases second with
      | key name => exact .inl rfl
      | index position => exact .inr (.inr rfl)

/-- The keys may stand in a path text, and one separator occurs in none of them. -/
structure Displayable (path : Path) : Prop where
  keys : ∀ name, Segment.key name ∈ path → name ≠ "" ∧
    ∀ c ∈ name.toList, IsPlain c ∨ ∃ separator : Separator, separator.char = c
  free : ∃ separator : Separator, ∀ name, Segment.key name ∈ path → separator.char ∉ name.toList

theorem avoids_iff {separator : Separator} {path : Path} :
    path.all (Segment.avoids separator) = true ↔
      ∀ name, Segment.key name ∈ path → separator.char ∉ name.toList := by
  rw [List.all_eq_true]
  constructor
  · intro h name hname
    simpa [Segment.avoids] using h _ hname
  · intro h segment hsegment
    cases segment with
    | key name => simpa [Segment.avoids] using h name hsegment
    | index position => rfl

/-- The separator of a displayed path is free if one is. -/
theorem displaySeparator_not_mem {path : Path} {separator : Separator}
    (h : ∀ name, Segment.key name ∈ path → separator.char ∉ name.toList) {name : String}
    (hname : Segment.key name ∈ path) : path.displaySeparator.char ∉ name.toList := by
  obtain ⟨found, hfound⟩ : ∃ found, Separator.all.find? (fun separator ↦
      path.all (Segment.avoids separator)) = some found := by
    rw [← Option.isSome_iff_exists, List.find?_isSome]
    exact ⟨separator, separator.mem_all, avoids_iff.mpr h⟩
  have hseparator : path.displaySeparator = found := by
    rw [displaySeparator, hfound]
    rfl
  have hall : path.all (Segment.avoids found) = true := by simpa using List.find?_some hfound
  rw [hseparator]
  exact avoids_iff.mp hall name hname

theorem Displayable.token_wellFormed {path : Path} (h : Displayable path) {segment : Segment}
    (hsegment : segment ∈ path) : segment.token.WellFormed path.displaySeparator := by
  cases segment with
  | key name =>
    obtain ⟨separator, hfree⟩ := h.free
    obtain ⟨hne, hcharacters⟩ := h.keys name hsegment
    refine ⟨by simpa [String.toList_eq_nil_iff] using hne, fun c hc ↦ ?_⟩
    refine (hcharacters c hc).imp_right fun ⟨other, hother⟩ ↦ ⟨other, ?_, hother⟩
    rintro rfl
    rw [← hother] at hc
    exact displaySeparator_not_mem hfree hsegment hc
  | index position => exact Token.wellFormed_ofNat _ _ _

theorem wellFormed_pieces {separator : Separator} {path : Path}
    (h : ∀ segment ∈ path, segment.token.WellFormed separator) :
    WellFormed separator (pieces path) := by
  induction path with
  | nil => simp [WellFormed, pieces]
  | cons segment rest ih =>
    obtain ⟨hsegment, hrest⟩ := List.forall_mem_cons.mp h
    exact List.forall_mem_cons.mpr ⟨hsegment, ih hrest⟩

theorem Displayable.parse_display {path : Path} (h : Displayable path) :
    parse path.display path.displaySeparator = .ok path := by
  have hdecomposes : Decomposes path.displaySeparator path.display.toList (pieces path) := by
    refine ⟨wellFormed_pieces fun segment ↦ h.token_wellFormed, ?_⟩
    rw [written_pieces, display, String.toList_ofList]
  rw [parse_of_decomposes hdecomposes (unfused_pieces path), map_segment_pieces]

/-- The keys of a path that was read are runs of key characters. -/
theorem key_of_parse {text name : String} {separator : Separator} {path : Path}
    (h : parse text separator = .ok path) (hname : Segment.key name ∈ path) :
    name ≠ "" ∧ ∀ c ∈ name.toList, IsKeyCharacter separator c := by
  obtain ⟨pieces, hpieces, -, rfl⟩ := exists_pieces_of_parse h
  obtain ⟨⟨token, separated⟩, hpiece, htoken⟩ := List.mem_map.mp hname
  cases token with
  | index negative digits => contradiction
  | key run =>
    obtain ⟨hne, hrun⟩ := hpieces.wellFormed _ hpiece
    cases htoken
    refine ⟨fun hempty ↦ hne ?_, by simpa using hrun⟩
    simpa using congrArg String.toList hempty

/-- The separator that a path was read with is free. -/
theorem displayable_of_parse {text : String} {separator : Separator} {path : Path}
    (h : parse text separator = .ok path) : Displayable path where
  keys name hname := by
    obtain ⟨hne, hcharacters⟩ := key_of_parse h hname
    exact ⟨hne, fun c hc ↦ (hcharacters c hc).imp_right fun ⟨other, hother⟩ ↦ ⟨other, hother.2⟩⟩
  free := by
    refine ⟨separator, fun name hname hmem ↦ ?_⟩
    have hkey := isKeyChar_iff.mpr ((key_of_parse h hname).2 _ hmem)
    rw [isKeyChar_separator] at hkey
    contradiction

/-- A displayed path is read back exactly if its keys can be read and leave a separator free. So is
every path that was read from a text. -/
theorem parse_display_iff :
    (∀ path : Path, parse path.display path.displaySeparator = .ok path ↔ Displayable path) ∧
    ∀ (text : String) (separator : Separator) (path : Path),
      parse text separator = .ok path → parse path.display path.displaySeparator = .ok path := by
  refine ⟨fun path ↦ ⟨displayable_of_parse, Displayable.parse_display⟩, ?_⟩
  intro text separator path h
  exact (displayable_of_parse h).parse_display

/-- Keys that hold all separators leave none to stand between them. -/
example : display [.key "a.b", .key "c#|:"] = "a.b.c#|:" := by decide +kernel

end Path

end ClusterRouter
