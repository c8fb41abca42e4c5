import ClusterRouter.Proofs.Path.Token

/-!
# The grammar of path texts

A path is read exactly where its text is a row of pieces, and the segments that are read belong to
the only such row in which no two keys are joined. The same segments are found by a search that
looks for tokens anywhere in the text and passes over everything else.
-/

namespace ClusterRouter.Path

/-- These pieces write the text. -/
structure Decomposes (separator : Separator) (text : List Char) (pieces : List Piece) : Prop where
  wellFormed : WellFormed separator pieces
  written : written separator pieces = text

def Refused (separator : Separator) (text : String) : Prop :=
  parse text separator = .error (.invalid text separator)

variable {separator : Separator} {text : String} {pieces : List Piece} {path : Path}

/-- What is read belongs to pieces without joined keys. -/
theorem exists_pieces_of_parse (h : parse text separator = .ok path) :
    ∃ pieces, Decomposes separator text.toList pieces ∧ Unfused pieces ∧
      path = pieces.map Piece.segment := by
  obtain ⟨pieces, hpieces, hunfused, hwritten, hpath⟩ :=
    exists_pieces_of_segments? (parse_eq_ok_iff.mp h)
  exact ⟨pieces, ⟨hpieces, hwritten⟩, hunfused, hpath.symm⟩

theorem parse_of_decomposes (h : Decomposes separator text.toList pieces)
    (hunfused : Unfused pieces) : parse text separator = .ok (pieces.map Piece.segment) := by
  rw [parse_eq_ok_iff, ← h.written]
  exact segments?_written h.wellFormed hunfused

/-- A text is read exactly if pieces write it, be their keys joined or not. -/
theorem exists_parse_iff :
    (∃ path, parse text separator = .ok path) ↔
      ∃ pieces, Decomposes separator text.toList pieces := by
  constructor
  · rintro ⟨path, h⟩
    obtain ⟨pieces, hpieces, -, -⟩ := exists_pieces_of_parse h
    exact ⟨pieces, hpieces⟩
  · rintro ⟨pieces, hpieces, hwritten⟩
    obtain ⟨joined, hjoined, hunfused, hsame⟩ := exists_unfused hpieces
    exact ⟨_, parse_of_decomposes ⟨hjoined, hsame.trans hwritten⟩ hunfused⟩

theorem refused_iff :
    Refused separator text ↔ ∀ pieces, ¬ Decomposes separator text.toList pieces := by
  rw [← not_exists, ← exists_parse_iff, Refused, parse]
  cases segments? separator text.toList <;> simp

/-! ### What is never read -/

theorem written_ne_separator_cons (h : WellFormed separator pieces) (rest : List Char) :
    written separator pieces ≠ separator.char :: rest := by
  intro hwritten
  have hdrop := dropSeparator_written h
  rw [hwritten, dropSeparator, if_pos rfl] at hdrop
  exact List.ne_cons_self hdrop

theorem isDecimalDigit_separator (separator : Separator) :
    Text.isDecimalDigit separator.char = false := by
  cases separator <;> decide

theorem mem_sign {negative : Bool} {c : Char} (h : c ∈ sign negative) : c = '-' := by
  cases negative with
  | true => exact List.mem_singleton.mp h
  | false => contradiction

theorem mem_mark {separated : Bool} {c : Char} (h : c ∈ mark separator separated) :
    c = separator.char := by
  cases separated with
  | true => exact List.mem_singleton.mp h
  | false => contradiction

/-- The characters of a token. -/
theorem Token.WellFormed.mem_text {token : Token} (h : token.WellFormed separator) {c : Char}
    (hc : c ∈ token.text) :
    IsKeyCharacter separator c ∨ token.isKey = false ∧
      (c = '[' ∨ c = ']' ∨ Text.isDecimalDigit c = true) := by
  cases token with
  | key run => exact .inl (h.2 c hc)
  | index negative digits =>
    simp only [Token.text, List.mem_cons, List.mem_append, List.not_mem_nil, or_false] at hc
    rcases hc with hc | hc | hc | hc
    · exact .inr ⟨rfl, .inl hc⟩
    · rw [mem_sign hc]
      exact .inl (.inl (.inr (.inr (.inr (by decide)))))
    · exact .inr ⟨rfl, .inr (.inr (h.2 c hc))⟩
    · exact .inr ⟨rfl, .inr (.inl hc)⟩

theorem Token.WellFormed.separator_not_mem {token : Token} (h : token.WellFormed separator) :
    separator.char ∉ token.text := by
  intro hmem
  rcases h.mem_text hmem with hkey | ⟨-, hopen | hclose | hdigit⟩
  · rw [← isKeyChar_iff, isKeyChar_separator] at hkey
    contradiction
  · revert hopen
    cases separator <;> decide
  · revert hclose
    cases separator <;> decide
  · rw [isDecimalDigit_separator] at hdigit
    contradiction

/-- The separator of a piece is its last character. -/
theorem rest_of_separator {piece : Piece} (h : piece.token.WellFormed separator)
    {inner rest : List Char} (htext : piece.text separator = inner ++ separator.char :: rest) :
    rest = [] := by
  rw [Piece.text] at htext
  cases hseparated : piece.separated with
  | true =>
    rw [hseparated] at htext
    exact ((List.append_cons_inj_of_notMem h.separator_not_mem List.not_mem_nil).mp htext).2.2.symm
  | false =>
    rw [hseparated, show mark separator false = [] from rfl, List.append_nil] at htext
    refine absurd ?_ h.separator_not_mem
    rw [htext]
    exact List.mem_append_right inner List.mem_cons_self

theorem not_decomposes_doubled {before after : List Char} {text : List Char}
    (htext : text = before ++ separator.char :: separator.char :: after) :
    ¬ Decomposes separator text pieces := by
  rintro ⟨hpieces, hwritten⟩
  obtain ⟨earlier, piece, later, inner, rest, rfl, hpiece, -, hafter⟩ :=
    exists_piece_of_written (hwritten.trans htext)
  obtain ⟨hfound, hlater⟩ := List.forall_mem_cons.mp (List.forall_mem_append.mp hpieces).2
  obtain rfl := rest_of_separator hfound hpiece
  exact written_ne_separator_cons hlater after hafter.symm

theorem bracket_not_mem_mark (separator : Separator) (separated : Bool) :
    '[' ∉ mark separator separated := by
  intro hmem
  have hchar := mem_mark hmem
  revert hchar
  cases separator <;> decide

/-- The opening bracket of a piece is its first character. -/
theorem index_of_bracket {piece : Piece} (h : piece.token.WellFormed separator)
    {inner rest : List Char} (htext : piece.text separator = inner ++ '[' :: rest) :
    ∃ negative digits, digits ≠ [] ∧ (∀ c ∈ digits, Text.isDecimalDigit c = true) ∧
      rest = sign negative ++ (digits ++ ']' :: mark separator piece.separated) := by
  obtain ⟨token, separated⟩ := piece
  cases token with
  | key run =>
    have hmem : '[' ∈ Piece.text separator ⟨.key run, separated⟩ := by simp [htext]
    rcases List.mem_append.mp hmem with hrun | hmark
    · have hbracket := h.keyChars _ hrun
      rw [isKeyChar_bracket] at hbracket
      contradiction
    · exact absurd hmark (bracket_not_mem_mark separator separated)
  | index negative digits =>
    refine ⟨negative, digits, h.1, h.2, ?_⟩
    have hopen : Piece.text separator ⟨.index negative digits, separated⟩ =
        [] ++ '[' :: (sign negative ++ (digits ++ ']' :: mark separator separated)) := by
      simp [Piece.text, Token.text]
    have hnot : '[' ∉ sign negative ++ (digits ++ ']' :: mark separator separated) := by
      simp only [List.mem_append, List.mem_cons, not_or]
      refine ⟨fun hsign ↦ ?_, fun hdigits ↦ ?_, by decide, bracket_not_mem_mark _ _⟩
      · exact absurd (mem_sign hsign) (by decide)
      · exact absurd (h.2 '[' hdigits) (by decide)
    rw [hopen] at htext
    exact ((List.append_cons_inj_of_notMem List.not_mem_nil hnot).mp htext).2.2.symm

/-- Every opening bracket of a text that is read opens an index. -/
theorem exists_index_of_bracket {text before after : List Char}
    (h : Decomposes separator text pieces) (htext : text = before ++ '[' :: after) :
    ∃ negative digits rest, digits ≠ [] ∧ (∀ c ∈ digits, Text.isDecimalDigit c = true) ∧
      after = sign negative ++ (digits ++ ']' :: rest) := by
  obtain ⟨earlier, piece, later, inner, rest, rfl, hpiece, -, rfl⟩ :=
    exists_piece_of_written (h.written.trans htext)
  obtain ⟨hfound, -⟩ := List.forall_mem_cons.mp (List.forall_mem_append.mp h.wellFormed).2
  obtain ⟨negative, digits, hne, hdigits, rfl⟩ := index_of_bracket hfound hpiece
  refine ⟨negative, digits, mark separator piece.separated ++ written separator later, hne,
    hdigits, ?_⟩
  simp

theorem mem_of_decomposes {text : List Char} (h : Decomposes separator text pieces) {c : Char}
    (hc : c ∈ text) :
    IsKeyCharacter separator c ∨ c = separator.char ∨ c = '[' ∨ c = ']' ∨
      Text.isDecimalDigit c = true := by
  rw [← h.written] at hc
  obtain ⟨piece, hpiece, hc⟩ := List.mem_flatMap.mp hc
  rcases List.mem_append.mp hc with htoken | hmark
  · exact ((h.wellFormed piece hpiece).mem_text htoken).imp_right fun hother ↦ .inr hother.2
  · exact .inr (.inl (mem_mark hmark))

/-! ### A separator at the end -/

theorem written_concat (separator : Separator) (pieces : List Piece) (token : Token)
    (separated : Bool) :
    written separator (pieces ++ [⟨token, separated⟩]) =
      written separator pieces ++ (token.text ++ mark separator separated) := by
  simp [written, Piece.text]

/-- A text that does not end with a separator is written by the same pieces with one more separator
behind it, which then is that of the last piece. -/
theorem exists_marked_pieces (h : parse text separator = .ok path) (hne : text ≠ "")
    (hlast : text.toList.getLast? ≠ some separator.char) :
    ∃ pieces, Decomposes separator (text.toList ++ [separator.char]) pieces ∧ Unfused pieces ∧
      (∀ piece ∈ pieces.getLast?, piece.separated = true) ∧ path = pieces.map Piece.segment := by
  obtain ⟨pieces, ⟨hpieces, hwritten⟩, hunfused, rfl⟩ := exists_pieces_of_parse h
  rcases List.eq_nil_or_concat pieces with rfl | ⟨earlier, ⟨token, separated⟩, rfl⟩
  · exact absurd (String.toList_eq_nil_iff.mp hwritten.symm) hne
  rw [List.concat_eq_append] at *
  rw [written_concat] at hwritten
  have hseparated : separated = false := by
    cases separated with
    | true => exact absurd (by simp [← hwritten, mark]) hlast
    | false => rfl
  subst hseparated
  obtain ⟨hearlier, hlastPiece⟩ := List.forall_mem_append.mp hpieces
  refine ⟨earlier ++ [⟨token, true⟩], ⟨List.forall_mem_append.mpr ⟨hearlier, ?_⟩, ?_⟩, ?_, ?_, ?_⟩
  · simpa using hlastPiece
  · rw [written_concat, ← hwritten]
    simp [mark]
  · obtain ⟨hchain, -, hnext⟩ := List.isChain_append.mp hunfused
    refine List.isChain_append.mpr ⟨hchain, .singleton _, fun piece hpiece next hnext' ↦ ?_⟩
    cases Option.mem_some_iff.mp hnext'
    exact hnext piece hpiece ⟨token, false⟩ rfl
  · simp
  · rw [List.map_append, List.map_append]
    rfl

/-- One more separator may stand at the end. -/
theorem parse_push_separator (h : parse text separator = .ok path) (hne : text ≠ "")
    (hlast : text.toList.getLast? ≠ some separator.char) :
    parse (text ++ separator.char.toString) separator = .ok path := by
  obtain ⟨pieces, hpieces, hunfused, -, rfl⟩ := exists_marked_pieces h hne hlast
  exact parse_of_decomposes (by simpa using hpieces) hunfused

/-! ### Searching for tokens -/

/-- The tokens that are found in a text from its beginning on, each read as far as it goes. What is
no token is passed over. -/
def search (separator : Separator) (text : List Char) : List Segment :=
  match text with
  | [] => []
  | '[' :: rest =>
    match _h : takeIndex? rest with
    | some (index, after) => .index index :: search separator after
    | none => search separator rest
  | c :: rest =>
    if isKeyChar separator c then
      .key (String.ofList (c :: rest.takeWhile (isKeyChar separator))) ::
        search separator (rest.dropWhile (isKeyChar separator))
    else search separator rest
termination_by text.length
decreasing_by
  · have := length_lt_of_takeIndex? _h
    simp only [List.length_cons]
    omega
  · simp
  · have := length_dropWhile_le (isKeyChar separator) rest
    simp only [List.length_cons]
    omega
  · simp

/-- A search passes over separators. -/
theorem search_dropSeparator (separator : Separator) (text : List Char) :
    search separator (dropSeparator separator text) = search separator text := by
  cases text with
  | nil => rfl
  | cons c rest =>
    by_cases hc : c = separator.char
    · have hbracket : separator.char ≠ '[' := by cases separator <;> decide
      rw [dropSeparator, if_pos hc, hc, search, isKeyChar_separator, if_neg Bool.false_ne_true]
      exact hbracket
    · rw [dropSeparator, if_neg hc]

theorem search_bracket (separator : Separator) {rest after : List Char} {index : Int64}
    (h : takeIndex? rest = some (index, after)) :
    search separator ('[' :: rest) = .index index :: search separator after := by
  rw [search]
  split
  · next hindex =>
    cases h.symm.trans hindex
    rfl
  · next hnone =>
    rw [h] at hnone
    contradiction

/-- A search finds what is read. -/
theorem search_of_segments? {text : List Char} (h : segments? separator text = some path) :
    search separator text = path := by
  fun_induction segments? separator text generalizing path with
  | case1 =>
    cases h
    rw [search]
  | case2 rest index after htake ih =>
    obtain ⟨later, hlater, rfl⟩ := Option.map_eq_some_iff.mp h
    rw [← ih hlater, search_dropSeparator, search_bracket separator htake]
  | case3 => contradiction
  | case4 c rest hbracket hkey run =>
    rename_i ih
    obtain ⟨later, hlater, rfl⟩ := Option.map_eq_some_iff.mp h
    rw [← ih hlater, search_dropSeparator, search, if_pos hkey]
    exact hbracket
  | case5 => contradiction

/-- Reading is checking a text first, by any row of tokens, and searching it for tokens then. -/
theorem parse_eq_ok_iff_search :
    parse text separator = .ok path ↔
      (∃ pieces, Decomposes separator text.toList pieces) ∧ path = search separator text.toList := by
  rw [← exists_parse_iff]
  constructor
  · intro h
    exact ⟨⟨path, h⟩, (search_of_segments? (parse_eq_ok_iff.mp h)).symm⟩
  · rintro ⟨⟨found, h⟩, rfl⟩
    rwa [search_of_segments? (parse_eq_ok_iff.mp h)]

/-! ### The grammar -/

/-- What the grammar says of single characters. -/
structure Particulars (separator : Separator) (text : String) : Prop where
  leading : ∀ rest, text.toList = separator.char :: rest → Refused separator text
  doubled : ∀ before after, text.toList = before ++ separator.char :: separator.char :: after →
    Refused separator text
  emptyBracket : ∀ before after, text.toList = before ++ '[' :: ']' :: after →
    Refused separator text
  /-- No bracket closes before the text ends or another one is opened. -/
  unclosedBracket : ∀ before inside after, text.toList = before ++ '[' :: (inside ++ after) →
    ']' ∉ inside → (after = [] ∨ after.head? = some '[') → Refused separator text
  otherCharacter : ∀ c ∈ text.toList, ¬ IsKeyCharacter separator c → c ≠ separator.char →
    c ≠ '[' → c ≠ ']' → Text.isDecimalDigit c = false → Refused separator text
  trailing : ∀ path, parse text separator = .ok path → text ≠ "" →
    text.toList.getLast? ≠ some separator.char →
    parse (text ++ separator.char.toString) separator = .ok path

theorem refused_of_bracket {before after : List Char} (htext : text.toList = before ++ '[' :: after)
    (h : takeIndex? after = none) : Refused separator text := by
  refine refused_iff.mpr fun pieces hpieces ↦ ?_
  obtain ⟨negative, digits, rest, hne, hdigits, hafter⟩ := exists_index_of_bracket hpieces htext
  have hindex := takeIndex?_eq_some_iff.mpr ⟨negative, digits, hne, hdigits, hafter, rfl⟩
  rw [h] at hindex
  contradiction

/-- An index ends with a closing bracket before the next opening one. -/
theorem takeIndex?_of_unclosed {inside after : List Char} (hinside : ']' ∉ inside)
    (hafter : after = [] ∨ after.head? = some '[') : takeIndex? (inside ++ after) = none := by
  refine Option.eq_none_iff_forall_ne_some.mpr fun ⟨index, rest⟩ hindex ↦ ?_
  obtain ⟨negative, digits, -, hdigits, htext, -⟩ := takeIndex?_eq_some_iff.mp hindex
  have hopen : '[' ∉ sign negative ++ digits := by
    rw [List.mem_append, not_or]
    exact ⟨fun hsign ↦ absurd (mem_sign hsign) (by decide),
      fun hmem ↦ absurd (hdigits '[' hmem) (by decide)⟩
  rw [← List.append_assoc] at htext
  rcases List.append_eq_append_iff.mp htext with ⟨more, hfront, rfl⟩ | ⟨more, rfl, hrest⟩
  · rw [hfront] at hopen
    cases more with
    | nil => simp at hafter
    | cons c more =>
      obtain rfl : c = '[' := by simpa using hafter
      simp at hopen
  · cases more with
    | nil =>
      obtain rfl : ']' :: rest = after := hrest
      simp at hafter
    | cons c more =>
      obtain ⟨rfl, -⟩ := List.cons.inj hrest
      simp at hinside

theorem particulars (separator : Separator) (text : String) : Particulars separator text where
  leading rest htext := refused_iff.mpr fun pieces hpieces ↦
    written_ne_separator_cons hpieces.wellFormed rest (hpieces.written.trans htext)
  doubled before after htext := refused_iff.mpr fun pieces ↦ not_decomposes_doubled htext
  emptyBracket before after htext := refused_of_bracket htext rfl
  unclosedBracket before inside after htext hinside hafter :=
    refused_of_bracket htext (takeIndex?_of_unclosed hinside hafter)
  otherCharacter c hc hkey hseparator hopen hclose hdigit := by
    refine refused_iff.mpr fun pieces hpieces ↦ ?_
    simpa [hkey, hseparator, hopen, hclose, hdigit] using mem_of_decomposes hpieces hc
  trailing path h hne hlast := parse_push_separator h hne hlast

/-- A text is read exactly if it is empty or a row of tokens with at most one separator behind each.
What is read are the segments of the only such row in which no two keys are joined, and these are
what a search of the text finds that checks nothing. -/
theorem parse_iff_grammar (separator : Separator) (text : String) :
    ((∃ path, parse text separator = .ok path) ↔
      text = "" ∨ ∃ pieces, pieces ≠ [] ∧ Decomposes separator text.toList pieces) ∧
    (∀ path, parse text separator = .ok path →
      ∃ pieces, Decomposes separator text.toList pieces ∧ Unfused pieces ∧
        path = pieces.map Piece.segment ∧
        ∀ others, Decomposes separator text.toList others → Unfused others → others = pieces) ∧
    (∀ path, parse text separator = .ok path ↔
      (∃ pieces, Decomposes separator text.toList pieces) ∧
        path = search separator text.toList) ∧
    Particulars separator text := by
  refine ⟨?_, fun path h ↦ ?_, fun path ↦ parse_eq_ok_iff_search, particulars separator text⟩
  · rw [exists_parse_iff]
    constructor
    · rintro ⟨pieces, hpieces⟩
      cases pieces with
      | nil => exact .inl (String.toList_eq_nil_iff.mp hpieces.written.symm)
      | cons piece pieces => exact .inr ⟨_, List.cons_ne_nil _ _, hpieces⟩
    · rintro (rfl | ⟨pieces, -, hpieces⟩)
      · exact ⟨[], by simp [WellFormed], rfl⟩
      · exact ⟨pieces, hpieces⟩
  · obtain ⟨pieces, hpieces, hunfused, hpath⟩ := exists_pieces_of_parse h
    refine ⟨pieces, hpieces, hunfused, hpath, fun others hothers hunfused' ↦ ?_⟩
    exact eq_of_written_eq hothers.wellFormed hpieces.wellFormed hunfused' hunfused
      (hothers.written.trans hpieces.written.symm)

/-- The separators that are not active are key characters. -/
example : parse "a.b#c[-1]d." .dot = .ok [.key "a", .key "b#c", .index (-1), .key "d"] := by cbv

example : Refused .dot "a..b" := by
  unfold Refused
  decide +kernel

end ClusterRouter.Path
