import ClusterRouter.Proofs.Path.Display

/-!
# Path texts that are joined

Two texts with a separator in between are read exactly if the second one is, and an index may stand
behind every text that is read. In both cases the segments of the two parts are joined: a separator
or a bracket keeps a key on one side from growing into one on the other.
-/

namespace ClusterRouter

namespace Path

variable {separator : Separator} {text other : String} {path rest : Path} {token : Token}

theorem Decomposes.append {pieces others : List Piece} {front back : List Char}
    (h : Decomposes separator front pieces) (hback : Decomposes separator back others) :
    Decomposes separator (front ++ back) (pieces ++ others) where
  wellFormed := List.forall_mem_append.mpr ⟨h.wellFormed, hback.wellFormed⟩
  written := by
    rw [Path.written, List.flatMap_append]
    exact congrArg₂ (· ++ ·) h.written hback.written

/-! ### Texts behind a separator -/

theorem parse_joined (h : parse text separator = .ok path) (hne : text ≠ "")
    (hlast : text.toList.getLast? ≠ some separator.char)
    (hother : parse other separator = .ok rest) :
    parse (text ++ separator.char.toString ++ other) separator = .ok (path ++ rest) := by
  obtain ⟨pieces, hpieces, hunfused, hmarked, rfl⟩ := exists_marked_pieces h hne hlast
  obtain ⟨others, hothers, hunfused', rfl⟩ := exists_pieces_of_parse hother
  have hdecomposes : Decomposes separator (text ++ separator.char.toString ++ other).toList
      (pieces ++ others) := by simpa using hpieces.append hothers
  have hchain : Unfused (pieces ++ others) :=
    List.isChain_append.mpr ⟨hunfused, hunfused', fun piece hpiece _ _ ↦ .inl (hmarked piece hpiece)⟩
  rw [parse_of_decomposes hdecomposes hchain, List.map_append]

/-- What stands behind a separator is read by itself. -/
theorem exists_parse_of_joined
    (h : parse (text ++ separator.char.toString ++ other) separator = .ok path) :
    ∃ rest, parse other separator = .ok rest := by
  obtain ⟨pieces, hpieces, -, -⟩ := exists_pieces_of_parse h
  have hwritten : written separator pieces = text.toList ++ separator.char :: other.toList := by
    simpa using hpieces.written
  obtain ⟨earlier, piece, later, inner, rest, rfl, hpiece, -, hrest⟩ :=
    exists_piece_of_written hwritten
  obtain ⟨hfound, hlater⟩ :=
    List.forall_mem_cons.mp (List.forall_mem_append.mp hpieces.wellFormed).2
  -- the separator ends its piece, so the other text is what the later pieces write
  obtain rfl := rest_of_separator hfound hpiece
  exact exists_parse_iff.mpr ⟨later, hlater, hrest.symm⟩

theorem parse_joined_iff (h : parse text separator = .ok path) (hne : text ≠ "")
    (hlast : text.toList.getLast? ≠ some separator.char) {steps : Path} :
    parse (text ++ separator.char.toString ++ other) separator = .ok steps ↔
      ∃ rest, parse other separator = .ok rest ∧ steps = path ++ rest := by
  constructor
  · intro hjoined
    obtain ⟨rest, hrest⟩ := exists_parse_of_joined hjoined
    have hboth := parse_joined h hne hlast hrest
    exact ⟨rest, hrest, Except.ok.inj (hjoined.symm.trans hboth)⟩
  · rintro ⟨rest, hrest, rfl⟩
    exact parse_joined h hne hlast hrest

/-- A name that consists of key characters is one step. -/
theorem parse_name {name : String} (hne : name ≠ "")
    (hname : ∀ c ∈ name.toList, IsKeyCharacter separator c) :
    parse name separator = .ok [.key name] := by
  have hdecomposes : Decomposes separator name.toList [⟨.key name.toList, false⟩] := by
    refine ⟨List.forall_mem_singleton.mpr ⟨?_, hname⟩, by simp [written, Piece.text, Token.text, mark]⟩
    simpa [String.toList_eq_nil_iff] using hne
  rw [parse_of_decomposes hdecomposes (.singleton _)]
  simp [Piece.segment, Token.segment]

/-! ### Indices behind a text -/

/-- A token that is no key goes on behind everything that can be read. -/
theorem parse_push_token (h : parse text separator = .ok path) (htoken : token.WellFormed separator)
    (hkey : token.isKey = false) :
    parse (text ++ String.ofList token.text) separator = .ok (path ++ [token.segment]) := by
  obtain ⟨pieces, hpieces, hunfused, rfl⟩ := exists_pieces_of_parse h
  have hlast : Decomposes separator token.text [⟨token, false⟩] :=
    ⟨by simpa [WellFormed] using htoken, by simp [written, Piece.text, mark]⟩
  have hdecomposes : Decomposes separator (text ++ String.ofList token.text).toList
      (pieces ++ [⟨token, false⟩]) := by simpa using hpieces.append hlast
  have hchain : Unfused (pieces ++ [⟨token, false⟩]) := by
    refine List.isChain_append.mpr ⟨hunfused, .singleton _, fun piece _ next hnext ↦ ?_⟩
    cases Option.mem_some_iff.mp hnext
    exact .inr (.inr hkey)
  rw [parse_of_decomposes hdecomposes hchain, List.map_append]
  rfl

/-- The text of an index behind the text of a path. -/
def indexed (text : String) (i : Int64) : String :=
  text ++ "[" ++ String.ofList (Text.ofInt64 i) ++ "]"

theorem parse_indexed (h : parse text separator = .ok path) (i : Int64) :
    parse (indexed text i) separator = .ok (path ++ [.index i]) := by
  have htoken : (Segment.index i).token.WellFormed separator := Token.wellFormed_ofNat _ _ _
  have htext : indexed text i = text ++ String.ofList (Segment.index i).token.text := by
    rw [Segment.text_token, ← String.toList_inj]
    simp [indexed, Segment.display]
  rw [htext, parse_push_token h htoken rfl, Segment.segment_token]

end Path

end ClusterRouter
