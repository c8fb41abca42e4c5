import ClusterRouter.Proofs.Path.Text
import Mathlib.Data.List.Chain

/-!
# Tokens of path texts

A path text is written by pieces in a row, each a token with a separator behind it or without one.
Where no key stands directly behind another one, the text determines its pieces, and their segments
are what is read of it. Every other row of pieces can be turned into such a one by joining keys.
-/

namespace ClusterRouter

theorem Separator.mem_all (separator : Separator) : separator ∈ Separator.all := by
  cases separator <;> decide

namespace Path

/-! ### Characters of keys -/

/-- The characters that a key may have whatever the separator is. -/
def IsPlain (c : Char) : Prop :=
  ('a' ≤ c ∧ c ≤ 'z') ∨ ('A' ≤ c ∧ c ≤ 'Z') ∨ ('0' ≤ c ∧ c ≤ '9') ∨ c ∈ ['/', '_', '%', '-']

/-- A character of a key: a plain one, or a separator that is not in use. -/
def IsKeyCharacter (separator : Separator) (c : Char) : Prop :=
  IsPlain c ∨ ∃ other : Separator, other ≠ separator ∧ other.char = c

theorem isPlain_iff {c : Char} :
    IsPlain c ↔ (c.isAlphanum || ['/', '_', '%', '-'].contains c) = true := by
  have halphanum : c.isAlphanum =
      ((decide ('A' ≤ c ∧ c ≤ 'Z') || decide ('a' ≤ c) && decide (c ≤ 'z')) ||
        decide ('0' ≤ c) && decide (c ≤ '9')) := rfl
  simp only [IsPlain, halphanum, Bool.or_eq_true, Bool.and_eq_true, decide_eq_true_eq,
    List.contains_iff_mem]
  tauto

theorem isKeyChar_iff {separator : Separator} {c : Char} :
    isKeyChar separator c = true ↔ IsKeyCharacter separator c := by
  rw [isKeyChar, Bool.or_eq_true, IsKeyCharacter, isPlain_iff, List.any_eq_true]
  apply or_congr_right
  constructor
  · rintro ⟨other, -, hother⟩
    exact ⟨other, by simpa using hother⟩
  · rintro ⟨other, hother⟩
    exact ⟨other, other.mem_all, by simpa using hother⟩

theorem isKeyChar_separator (separator : Separator) :
    isKeyChar separator separator.char = false := by
  cases separator <;> decide

theorem isKeyChar_bracket (separator : Separator) : isKeyChar separator '[' = false := by
  cases separator <;> decide

/-! ### Tokens and pieces -/

/-- An index in brackets or a run of key characters. -/
inductive Token where
  | index (negative : Bool) (digits : List Char)
  | key (run : List Char)

namespace Token

def WellFormed (separator : Separator) : Token → Prop
  | .index _ digits => digits ≠ [] ∧ ∀ c ∈ digits, Text.isDecimalDigit c = true
  | .key run => run ≠ [] ∧ ∀ c ∈ run, IsKeyCharacter separator c

def text : Token → List Char
  | .index negative digits => '[' :: (sign negative ++ (digits ++ [']']))
  | .key run => run

def segment : Token → Segment
  | .index negative digits => .index (indexOf negative digits)
  | .key run => .key (String.ofList run)

def isKey : Token → Bool
  | .index .. => false
  | .key _ => true

end Token

/-- The separator behind a token, if there is one. -/
def mark (separator : Separator) (separated : Bool) : List Char :=
  if separated then [separator.char] else []

/-- A token, and whether a separator stands behind it. -/
structure Piece where
  token : Token
  separated : Bool

namespace Piece

def text (separator : Separator) (piece : Piece) : List Char :=
  piece.token.text ++ mark separator piece.separated

def segment (piece : Piece) : Segment := piece.token.segment

end Piece

/-- The text that pieces write one behind the other. -/
def written (separator : Separator) (pieces : List Piece) : List Char :=
  pieces.flatMap (Piece.text separator)

def WellFormed (separator : Separator) (pieces : List Piece) : Prop :=
  ∀ piece ∈ pieces, piece.token.WellFormed separator

/-- No key stands directly behind another one, without a separator in between. -/
def Unfused (pieces : List Piece) : Prop :=
  pieces.IsChain fun piece next ↦
    piece.separated = true ∨ piece.token.isKey = false ∨ next.token.isKey = false

variable {separator : Separator} {token : Token} {piece : Piece} {pieces : List Piece}

theorem written_cons (separator : Separator) (piece : Piece) (pieces : List Piece) :
    written separator (piece :: pieces) =
      piece.token.text ++ (mark separator piece.separated ++ written separator pieces) := by
  rw [written, List.flatMap_cons, Piece.text, List.append_assoc]
  rfl

theorem Token.WellFormed.keyChars {run : List Char} (h : (Token.key run).WellFormed separator) :
    ∀ c ∈ run, isKeyChar separator c = true := fun c hc ↦ isKeyChar_iff.mpr (h.2 c hc)

theorem Token.wellFormed_ofNat (separator : Separator) (negative : Bool) (n : Nat) :
    (Token.index negative (Text.ofNat n)).WellFormed separator :=
  ⟨Text.ofNat_ne_nil n, fun _ hc ↦ isDecimalDigit_of_isDigit (Text.isDigit_of_mem_ofNat hc)⟩

/-- What a token begins with is no separator, and tells whether the token is a key. -/
theorem Token.WellFormed.exists_text (h : token.WellFormed separator) :
    ∃ c rest, token.text = c :: rest ∧ c ≠ separator.char ∧
      isKeyChar separator c = token.isKey := by
  cases token with
  | index negative digits =>
    refine ⟨'[', _, rfl, ?_, isKeyChar_bracket separator⟩
    cases separator <;> decide
  | key run =>
    obtain ⟨c, rest, rfl⟩ := List.exists_cons_of_ne_nil h.1
    have hc := h.keyChars c List.mem_cons_self
    refine ⟨c, rest, rfl, ?_, hc⟩
    rintro rfl
    rw [isKeyChar_separator] at hc
    contradiction

theorem dropSeparator_written (h : WellFormed separator pieces) :
    dropSeparator separator (written separator pieces) = written separator pieces := by
  cases pieces with
  | nil => rfl
  | cons piece pieces =>
    obtain ⟨c, rest, htext, hc, -⟩ := (h piece List.mem_cons_self).exists_text
    rw [written_cons, htext]
    exact if_neg hc

/-- A text goes on with a key character exactly where its first piece is a key. -/
theorem takeWhile_written_eq_nil_iff (h : WellFormed separator pieces) :
    (written separator pieces).takeWhile (isKeyChar separator) = [] ↔
      ∀ piece ∈ pieces.head?, piece.token.isKey = false := by
  cases pieces with
  | nil => simp [written]
  | cons piece pieces =>
    obtain ⟨c, rest, htext, -, hc⟩ := (h piece List.mem_cons_self).exists_text
    rw [written_cons, htext, List.cons_append, List.takeWhile_cons, hc]
    cases hkey : piece.token.isKey <;> simp [hkey]

theorem takeWhile_behind (hpieces : WellFormed separator pieces)
    (hunfused : Unfused (piece :: pieces)) (hkey : piece.token.isKey = true) :
    (mark separator piece.separated ++ written separator pieces).takeWhile (isKeyChar separator) =
      [] := by
  rw [Unfused, List.isChain_cons] at hunfused
  cases hseparated : piece.separated with
  | true => exact List.takeWhile_cons_of_neg (by simp [isKeyChar_separator])
  | false =>
    refine (takeWhile_written_eq_nil_iff hpieces).mpr fun next hnext ↦ ?_
    simpa [hseparated, hkey] using hunfused.1 next hnext

theorem dropSeparator_mark {tail : List Char} (h : dropSeparator separator tail = tail)
    (separated : Bool) : dropSeparator separator (mark separator separated ++ tail) = tail := by
  cases separated with
  | true => exact if_pos rfl
  | false => exact h

/-- A text begins with a separator or with none. -/
theorem exists_mark (separator : Separator) (text : List Char) :
    ∃ separated, text = mark separator separated ++ dropSeparator separator text := by
  cases text with
  | nil => exact ⟨false, rfl⟩
  | cons c rest =>
    by_cases hc : c = separator.char
    · refine ⟨true, ?_⟩
      rw [dropSeparator, if_pos hc, hc]
      rfl
    · refine ⟨false, ?_⟩
      rw [dropSeparator, if_neg hc]
      rfl

/-! ### Pieces are read as their segments -/

theorem segments?_text {tail : List Char} (h : token.WellFormed separator)
    (hends : token.isKey = true → tail.takeWhile (isKeyChar separator) = []) :
    segments? separator (token.text ++ tail) =
      (segments? separator (dropSeparator separator tail)).map (token.segment :: ·) := by
  cases token with
  | index negative digits =>
    have hindex : takeIndex? (sign negative ++ (digits ++ ']' :: tail)) =
        some (indexOf negative digits, tail) :=
      takeIndex?_eq_some_iff.mpr ⟨negative, digits, h.1, h.2, rfl, rfl⟩
    have htext : (Token.index negative digits).text ++ tail =
        '[' :: (sign negative ++ (digits ++ ']' :: tail)) := by simp [Token.text]
    rw [htext, segments?_bracket separator hindex]
    rfl
  | key run =>
    have hrun := h.keyChars
    obtain ⟨c, rest, rfl⟩ := List.exists_cons_of_ne_nil h.1
    obtain ⟨hc, hrest⟩ := List.forall_mem_cons.mp hrun
    rw [Token.text, List.cons_append, segments?_key hc, takeWhile_append_of_nil (hends rfl),
      dropWhile_append_of_nil (hends rfl), List.takeWhile_eq_self_iff.mpr hrest,
      List.dropWhile_eq_nil_iff.mpr hrest]
    rfl

theorem segments?_written (h : WellFormed separator pieces) (hunfused : Unfused pieces) :
    segments? separator (written separator pieces) = some (pieces.map Piece.segment) := by
  induction pieces with
  | nil => simp [written, segments?]
  | cons piece pieces ih =>
    obtain ⟨hpiece, hpieces⟩ := List.forall_mem_cons.mp h
    have hlater : Unfused pieces := (List.isChain_cons.mp hunfused).2
    rw [written_cons, segments?_text hpiece (takeWhile_behind hpieces hunfused),
      dropSeparator_mark (dropSeparator_written hpieces), ih hpieces hlater]
    rfl

theorem exists_pieces_of_segments? {text : List Char} {path : Path}
    (h : segments? separator text = some path) :
    ∃ pieces, WellFormed separator pieces ∧ Unfused pieces ∧ written separator pieces = text ∧
      pieces.map Piece.segment = path := by
  fun_induction segments? separator text generalizing path with
  | case1 =>
    cases h
    exact ⟨[], by simp [WellFormed], .nil, rfl, rfl⟩
  | case2 rest index after htake ih =>
    obtain ⟨later, hlater, rfl⟩ := Option.map_eq_some_iff.mp h
    obtain ⟨pieces, hpieces, hunfused, hwritten, rfl⟩ := ih hlater
    obtain ⟨negative, digits, hne, hdigits, rfl, rfl⟩ := takeIndex?_eq_some_iff.mp htake
    obtain ⟨separated, hmark⟩ := exists_mark separator after
    refine ⟨⟨.index negative digits, separated⟩ :: pieces,
      List.forall_mem_cons.mpr ⟨⟨hne, hdigits⟩, hpieces⟩, ?_, ?_, rfl⟩
    · exact List.isChain_cons.mpr ⟨fun _ _ ↦ .inr (.inl rfl), hunfused⟩
    · rw [written_cons, hwritten, ← hmark]
      simp [Token.text]
  | case3 => contradiction
  | case4 c rest hbracket hkey run =>
    rename_i ih
    obtain ⟨later, hlater, rfl⟩ := Option.map_eq_some_iff.mp h
    obtain ⟨pieces, hpieces, hunfused, hwritten, rfl⟩ := ih hlater
    obtain ⟨separated, hmark⟩ := exists_mark separator (rest.dropWhile (isKeyChar separator))
    have hrun : ∀ d ∈ c :: run, isKeyChar separator d = true :=
      List.forall_mem_cons.mpr ⟨hkey, fun d hd ↦ List.mem_takeWhile_imp hd⟩
    refine ⟨⟨.key (c :: run), separated⟩ :: pieces, List.forall_mem_cons.mpr
      ⟨⟨List.cons_ne_nil _ _, fun d hd ↦ isKeyChar_iff.mp (hrun d hd)⟩, hpieces⟩, ?_, ?_, rfl⟩
    · refine List.isChain_cons.mpr ⟨fun next hnext ↦ ?_, hunfused⟩
      cases separated with
      | true => exact .inl rfl
      | false =>
        -- The run was read to its end, so that what comes behind it is no key.
        have hafter : written separator pieces = rest.dropWhile (isKeyChar separator) :=
          hwritten.trans hmark.symm
        have hstop : (written separator pieces).takeWhile (isKeyChar separator) = [] := by
          rw [hafter]
          exact List.takeWhile_eq_nil_iff.mpr (List.dropWhile_get_zero_not _ rest)
        exact .inr (.inr ((takeWhile_written_eq_nil_iff hpieces).mp hstop next hnext))
    · rw [written_cons, hwritten, ← hmark]
      exact congrArg (c :: ·) List.takeWhile_append_dropWhile
  | case5 => contradiction

/-! ### Rows of pieces -/

/-- Keys that stand directly behind one another are one key. -/
theorem exists_unfused (h : WellFormed separator pieces) :
    ∃ joined, WellFormed separator joined ∧ Unfused joined ∧
      written separator joined = written separator pieces := by
  induction pieces with
  | nil => exact ⟨[], h, .nil, rfl⟩
  | cons piece pieces ih =>
    obtain ⟨hpiece, hpieces⟩ := List.forall_mem_cons.mp h
    obtain ⟨joined, hjoined, hunfused, hwritten⟩ := ih hpieces
    by_cases hfused : ∀ next ∈ joined.head?,
        piece.separated = true ∨ piece.token.isKey = false ∨ next.token.isKey = false
    · refine ⟨piece :: joined, List.forall_mem_cons.mpr ⟨hpiece, hjoined⟩,
        List.isChain_cons.mpr ⟨hfused, hunfused⟩, ?_⟩
      rw [written_cons, written_cons, hwritten]
    · push Not at hfused
      obtain ⟨next, hnext, hseparated, hkey, hkey'⟩ := hfused
      obtain ⟨later, rfl⟩ := List.head?_eq_some_iff.mp hnext
      obtain ⟨run | run, separated⟩ := piece <;> try contradiction
      obtain ⟨more | more, separated'⟩ := next <;> try contradiction
      obtain rfl : separated = false := by simpa using hseparated
      obtain ⟨hnext, hlater⟩ := List.forall_mem_cons.mp hjoined
      have hboth : (Token.key (run ++ more)).WellFormed separator :=
        ⟨List.append_ne_nil_of_left_ne_nil hpiece.1 more,
          List.forall_mem_append.mpr ⟨hpiece.2, hnext.2⟩⟩
      refine ⟨⟨.key (run ++ more), separated'⟩ :: later,
        List.forall_mem_cons.mpr ⟨hboth, hlater⟩, ?_, ?_⟩
      · exact List.isChain_cons.mpr (List.isChain_cons.mp hunfused)
      · rw [written_cons _ _ pieces, ← hwritten, written_cons, written_cons]
        exact List.append_assoc _ _ _

/-- Where a run ends is seen from the text. -/
theorem eq_of_run_append {p : Char → Bool} {run run' tail tail' : List Char}
    (hrun : ∀ c ∈ run, p c = true) (hrun' : ∀ c ∈ run', p c = true)
    (hstop : tail.takeWhile p = []) (hstop' : tail'.takeWhile p = [])
    (h : run ++ tail = run' ++ tail') : run = run' ∧ tail = tail' := by
  have htake := congrArg (List.takeWhile p) h
  rw [takeWhile_append_of_nil hstop, takeWhile_append_of_nil hstop',
    List.takeWhile_eq_self_iff.mpr hrun, List.takeWhile_eq_self_iff.mpr hrun'] at htake
  subst htake
  exact ⟨rfl, List.append_cancel_left h⟩

/-- Where a token ends is seen from the text. -/
theorem eq_of_text_append {other : Token} {tail tail' : List Char} (h : token.WellFormed separator)
    (h' : other.WellFormed separator)
    (hends : token.isKey = true → tail.takeWhile (isKeyChar separator) = [])
    (hends' : other.isKey = true → tail'.takeWhile (isKeyChar separator) = [])
    (heq : token.text ++ tail = other.text ++ tail') : token = other ∧ tail = tail' := by
  have hkey : token.isKey = other.isKey := by
    obtain ⟨c, rest, htext, -, hc⟩ := h.exists_text
    obtain ⟨c', rest', htext', -, hc'⟩ := h'.exists_text
    rw [htext, htext'] at heq
    rw [← hc, ← hc', (List.cons.inj heq).1]
  match token, other with
  | .key run, .key run' =>
    obtain ⟨rfl, rfl⟩ := eq_of_run_append h.keyChars h'.keyChars (hends rfl) (hends' rfl) heq
    exact ⟨rfl, rfl⟩
  | .index negative digits, .index negative' digits' =>
    have hbehind (tail : List Char) : (']' :: tail).takeWhile Text.isDecimalDigit = [] :=
      List.takeWhile_cons_of_neg (by decide)
    have hminus : (negative, digits ++ ']' :: tail) = (negative', digits' ++ ']' :: tail') := by
      rw [← takeMinus_sign (head?_digits_ne_minus h.1 h.2) negative,
        ← takeMinus_sign (head?_digits_ne_minus h'.1 h'.2) negative']
      simpa [Token.text] using congrArg (fun text ↦ takeMinus text.tail) heq
    obtain ⟨rfl, hdigits⟩ := Prod.mk.inj hminus
    obtain ⟨rfl, htail⟩ := eq_of_run_append h.2 h'.2 (hbehind tail) (hbehind tail') hdigits
    exact ⟨rfl, List.tail_eq_of_cons_eq htail⟩
  | .index .., .key _ => contradiction
  | .key _, .index .. => contradiction

/-- Whether a separator stands behind a token is seen from the text. -/
theorem eq_of_mark_append {separated separated' : Bool} {tail tail' : List Char}
    (h : dropSeparator separator tail = tail) (h' : dropSeparator separator tail' = tail')
    (heq : mark separator separated ++ tail = mark separator separated' ++ tail') :
    separated = separated' ∧ tail = tail' := by
  have htail : tail = tail' := by
    rw [← dropSeparator_mark h separated, heq, dropSeparator_mark h']
  subst htail
  refine ⟨?_, rfl⟩
  have hlength := congrArg List.length heq
  cases separated <;> cases separated' <;> simp [mark] at hlength ⊢

/-- Without keys that are joined, a text is written by one row of pieces only. -/
theorem eq_of_written_eq {others : List Piece} (h : WellFormed separator pieces)
    (h' : WellFormed separator others) (hunfused : Unfused pieces) (hunfused' : Unfused others)
    (heq : written separator pieces = written separator others) : pieces = others := by
  induction pieces generalizing others with
  | nil =>
    cases others with
    | nil => rfl
    | cons other others =>
      obtain ⟨c, rest, htext, -⟩ := (h' other List.mem_cons_self).exists_text
      rw [written_cons, htext] at heq
      contradiction
  | cons piece pieces ih =>
    cases others with
    | nil =>
      obtain ⟨c, rest, htext, -⟩ := (h piece List.mem_cons_self).exists_text
      rw [written_cons, htext] at heq
      contradiction
    | cons other others =>
      obtain ⟨hpiece, hpieces⟩ := List.forall_mem_cons.mp h
      obtain ⟨hother, hothers⟩ := List.forall_mem_cons.mp h'
      rw [written_cons, written_cons] at heq
      obtain ⟨htoken, hbehind⟩ := eq_of_text_append hpiece hother
        (takeWhile_behind hpieces hunfused) (takeWhile_behind hothers hunfused') heq
      obtain ⟨hseparated, hlater⟩ := eq_of_mark_append (dropSeparator_written hpieces)
        (dropSeparator_written hothers) hbehind
      have hfirst : piece = other := by
        cases piece
        cases other
        simp_all
      rw [hfirst, ih hpieces hothers (List.isChain_cons.mp hunfused).2
        (List.isChain_cons.mp hunfused').2 hlater]

/-- A character of a written text lies in one of its pieces. -/
theorem exists_piece_of_written {before after : List Char} {c : Char}
    (h : written separator pieces = before ++ c :: after) :
    ∃ earlier piece later inner rest, pieces = earlier ++ piece :: later ∧
      piece.text separator = inner ++ c :: rest ∧ before = written separator earlier ++ inner ∧
      after = rest ++ written separator later := by
  induction pieces generalizing before with
  | nil => simp [written] at h
  | cons piece pieces ih =>
    have hlater (inner : List Char) (hbefore : before = piece.text separator ++ inner)
        (hinner : written separator pieces = inner ++ c :: after) :
        ∃ earlier found later inner rest, piece :: pieces = earlier ++ found :: later ∧
          found.text separator = inner ++ c :: rest ∧ before = written separator earlier ++ inner ∧
          after = rest ++ written separator later := by
      obtain ⟨earlier, found, later, inner, rest, rfl, hfound, rfl, rfl⟩ := ih hinner
      refine ⟨piece :: earlier, found, later, inner, rest, rfl, hfound, ?_, rfl⟩
      simp only [hbefore, written, List.flatMap_cons, List.append_assoc]
    rw [written, List.flatMap_cons] at h
    rcases List.append_eq_append_iff.mp h with ⟨inner, hbefore, hinner⟩ | ⟨rest, hpiece, hrest⟩
    · exact hlater inner hbefore hinner
    rcases List.cons_eq_append_iff.mp hrest with ⟨rfl, hinner⟩ | ⟨rest, rfl, hafter⟩
    · exact hlater [] (by simpa using hpiece.symm) hinner
    · exact ⟨[], piece, pieces, before, rest, rfl, hpiece, rfl, hafter⟩

end Path

end ClusterRouter
