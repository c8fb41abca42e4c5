import ClusterRouter.Document.Persistence
import ClusterRouter.Proofs.Json.Layout
import ClusterRouter.Proofs.Json.Number
import ClusterRouter.Proofs.Json.Quoted
import ClusterRouter.Proofs.Value.Equality

/-!
# Values read back

Of a value without floating point numbers, every layout is read back as that value: an item ends
where the blanks, comma or bracket behind it begin, and a map whose keys ascend is made of its own
entries. Only the nesting of containers is limited.
-/

namespace ClusterRouter

namespace Value

mutual

/-- A floating point number stands at some depth of a value. -/
def hasFloat : Value → Bool
  | .float _ => true
  | .list items => anyFloat items
  | .map fields => anyFloatField fields
  | _ => false

def anyFloat : List Value → Bool
  | [] => false
  | item :: items => hasFloat item || anyFloat items

def anyFloatField : List (String × Value) → Bool
  | [] => false
  | (_, value) :: fields => hasFloat value || anyFloatField fields

end

mutual

/-- How many containers stand inside each other. -/
def nesting : Value → Nat
  | .list items => nestingItems items + 1
  | .map fields => nestingFields fields + 1
  | _ => 0

def nestingItems : List Value → Nat
  | [] => 0
  | item :: items => max (nesting item) (nestingItems items)

def nestingFields : List (String × Value) → Nat
  | [] => 0
  | (_, value) :: fields => max (nesting value) (nestingFields fields)

end

end Value

namespace Json

/-! ### Blanks -/

theorem cases_of_isBlank {c : Char} (h : isBlank c = true) :
    c = ' ' ∨ c = '\t' ∨ c = '\n' ∨ c = '\r' := by
  simpa [isBlank, or_assoc] using h

theorem skipBlanks_append {blanks : List Char} (h : ∀ c ∈ blanks, isBlank c = true)
    (text : List Char) : skipBlanks (blanks ++ text) = skipBlanks text := by
  rw [skipBlanks, List.dropWhile_append_of_pos h]
  rfl

theorem skipBlanks_cons {c : Char} (h : isBlank c = false) (text : List Char) :
    skipBlanks (c :: text) = c :: text := by
  rw [skipBlanks, List.dropWhile_cons_of_neg (by simp [h])]

theorem takeContent?_blanks {blanks : List Char} (h : ∀ c ∈ blanks, isBlank c = true)
    (fuel depth : Nat) (text : List Char) :
    takeContent? fuel depth (blanks ++ text) = takeContent? fuel depth text := by
  cases fuel with
  | zero => rfl
  | succ fuel => rw [takeContent?, takeContent?, skipBlanks_append h]

theorem takeItems?_blanks {blanks : List Char} (h : ∀ c ∈ blanks, isBlank c = true)
    (fuel depth : Nat) (text : List Char) :
    takeItems? fuel depth (blanks ++ text) = takeItems? fuel depth text := by
  cases fuel with
  | zero => rfl
  | succ fuel => rw [takeItems?, takeItems?, takeContent?_blanks h]

theorem takeEntries?_blanks {blanks : List Char} (h : ∀ c ∈ blanks, isBlank c = true)
    (fuel depth : Nat) (text : List Char) :
    takeEntries? fuel depth (blanks ++ text) = takeEntries? fuel depth text := by
  cases fuel with
  | zero => rfl
  | succ fuel => rw [takeEntries?, takeEntries?, skipBlanks_append h]

/-! ### Scalars -/

theorem exists_ofInt64_append (i : Int64) (rest : List Char) :
    ∃ c more, Text.ofInt64 i ++ rest = c :: more ∧ isBlank c = false ∧
      (c.isDigit = true ∨ c = '-') := by
  obtain ⟨c, more, htext, hc⟩ := Text.exists_ofInt_append i.toInt rest
  refine ⟨c, more, htext, ?_, hc⟩
  by_contra hblank
  obtain rfl | rfl | rfl | rfl := cases_of_isBlank (Bool.not_eq_false _ ▸ hblank) <;>
    exact absurd hc (by decide)

theorem takeContent?_int (fuel depth : Nat) (i : Int64) {rest : List Char} (h : EndsNumeral rest) :
    takeContent? (fuel + 1) depth (Text.ofInt64 i ++ rest) =
      some ((Value.int i).content, rest) := by
  have hnumeral : takeNumeral? (Text.ofInt64 i ++ rest) = some (Numeral.ofInt i.toInt, rest) :=
    takeNumeral?_ofInt h
  obtain ⟨c, more, htext, hblank, hc⟩ := exists_ofInt64_append i rest
  rw [htext] at hnumeral ⊢
  rw [takeContent?, skipBlanks_cons hblank]
  split
  case h_7 => simp [hnumeral, Numeral.toContent?_ofInt]
  -- the other cases begin with a character that begins no integer
  all_goals
    next heq =>
      obtain rfl := (List.cons.inj heq).1
      exact absurd hc (by decide)

theorem takeContent?_scalar (fuel depth : Nat) {value : Value} (hscalar : value.isContainer = false)
    (hfloat : value.hasFloat = false) {rest : List Char} (h : EndsNumeral rest) :
    takeContent? (fuel + 1) depth (compactChars value ++ rest) = some (value.content, rest) := by
  match value with
  | .null => rfl
  | .bool true | .bool false => rfl
  | .int i => exact takeContent?_int fuel depth i h
  | .string s =>
    rw [compactChars, quoted_append, takeContent?, skipBlanks_cons rfl]
    simp only [takeString?_quoted, Option.map_some, Value.content]
  | .list _ | .map _ | .float _ => contradiction

/-! ### What follows a value -/

theorem endsNumeral_nil : EndsNumeral [] := by
  intro c hc
  contradiction

theorem endsNumeral_cons {c : Char} (h : c.isDigit = false ∧ c ≠ '.' ∧ c ≠ 'e' ∧ c ≠ 'E')
    (rest : List Char) : EndsNumeral (c :: rest) := by
  intro d hd
  exact Option.some.inj hd ▸ h

theorem endsNumeral_blanks {blanks : List Char} (h : ∀ c ∈ blanks, isBlank c = true)
    {rest : List Char} (hrest : EndsNumeral rest) : EndsNumeral (blanks ++ rest) := by
  cases blanks with
  | nil => exact hrest
  | cons c blanks =>
    refine endsNumeral_cons ?_ _
    obtain rfl | rfl | rfl | rfl := cases_of_isBlank (h c List.mem_cons_self) <;> decide

variable {spacing : Spacing} {level : Nat}

theorem endsNumeral_charsItems (items : List Value) (rest : List Char) :
    EndsNumeral (spacing.charsItems level items ++ rest) := by
  cases items with
  | nil =>
    rw [Spacing.charsItems, List.append_assoc]
    exact endsNumeral_blanks (spacing.blank_lineBreak level) (endsNumeral_cons (by decide) rest)
  | cons item items =>
    rw [Spacing.charsItems]
    exact endsNumeral_cons (by decide) _

theorem endsNumeral_charsFields (fields : List (String × Value)) (rest : List Char) :
    EndsNumeral (spacing.charsFields level fields ++ rest) := by
  cases fields with
  | nil =>
    rw [Spacing.charsFields, List.append_assoc]
    exact endsNumeral_blanks (spacing.blank_lineBreak level) (endsNumeral_cons (by decide) rest)
  | cons entry fields =>
    rw [Spacing.charsFields]
    exact endsNumeral_cons (by decide) _

/-- No value begins with a blank or with the bracket that closes a list. -/
theorem exists_chars_append {value : Value} (h : value.hasFloat = false) (spacing : Spacing)
    (level : Nat) (rest : List Char) :
    ∃ c more, spacing.chars level value ++ rest = c :: more ∧ isBlank c = false ∧ c ≠ ']' := by
  match value with
  | .null | .bool true | .bool false | .list [] | .map [] =>
    exact ⟨_, _, rfl, by decide, by decide⟩
  | .int i =>
    obtain ⟨c, more, htext, hblank, hc⟩ := exists_ofInt64_append i rest
    refine ⟨c, more, htext, hblank, ?_⟩
    rintro rfl
    exact absurd hc (by decide)
  | .string s => exact ⟨'"', _, quoted_append s rest, by decide, by decide⟩
  | .list (item :: items) =>
    rw [Spacing.chars]
    exact ⟨'[', _, rfl, by decide, by decide⟩
  | .map ((key, value) :: fields) =>
    rw [Spacing.chars]
    exact ⟨'\x7b', _, rfl, by decide, by decide⟩
  | .float x => contradiction

theorem skipBlanks_charsItems_nil (rest : List Char) :
    skipBlanks (spacing.charsItems level [] ++ rest) = ']' :: rest := by
  rw [Spacing.charsItems, List.append_assoc, skipBlanks_append (spacing.blank_lineBreak level)]
  exact skipBlanks_cons rfl rest

theorem skipBlanks_charsFields_nil (rest : List Char) :
    skipBlanks (spacing.charsFields level [] ++ rest) = '\x7d' :: rest := by
  rw [Spacing.charsFields, List.append_assoc, skipBlanks_append (spacing.blank_lineBreak level)]
  exact skipBlanks_cons rfl rest

theorem length_charsItems_pos (spacing : Spacing) (level : Nat) (items : List Value) :
    0 < (spacing.charsItems level items).length := by
  cases items <;> simp [Spacing.charsItems]

theorem length_charsFields_pos (spacing : Spacing) (level : Nat) (fields : List (String × Value)) :
    0 < (spacing.charsFields level fields).length := by
  cases fields <;> simp [Spacing.charsFields]

/-- No bracket closes a list in front of its first item. -/
theorem skipBlanks_item {item : Value} {items : List Value}
    (h : Value.anyFloat (item :: items) = false) (level : Nat) (rest after : List Char) :
    skipBlanks (spacing.lineBreak (level + 1) ++ (spacing.chars (level + 1) item ++ rest)) ≠
      ']' :: after := by
  obtain ⟨c, more, htext, hblank, hc⟩ :=
    exists_chars_append (Bool.or_eq_false_iff.mp h).1 spacing (level + 1) rest
  rw [skipBlanks_append (spacing.blank_lineBreak _), htext, skipBlanks_cons hblank]
  exact fun heq ↦ hc (List.cons.inj heq).1

theorem skipBlanks_entry (key : String) (level : Nat) (rest after : List Char) :
    skipBlanks (spacing.lineBreak (level + 1) ++ (quoted key ++ rest)) ≠ '\x7d' :: after := by
  rw [skipBlanks_append (spacing.blank_lineBreak _), quoted_append, skipBlanks_cons rfl]
  exact fun heq ↦ absurd (List.cons.inj heq).1 (by decide)

/-! ### Containers -/

theorem takeContent?_list (fuel depth : Nat) {rest : List Char}
    (hopen : ∀ after, skipBlanks rest ≠ ']' :: after) :
    takeContent? (fuel + 1) (depth + 1) ('[' :: rest) =
      (takeItems? fuel depth rest).map fun found ↦ (.sequence found.1, found.2) := by
  rw [takeContent?, skipBlanks_cons rfl]
  -- `hopen` leaves out the case of an empty container
  simp only

theorem takeContent?_map (fuel depth : Nat) {rest : List Char}
    (hopen : ∀ after, skipBlanks rest ≠ '\x7d' :: after) :
    takeContent? (fuel + 1) (depth + 1) ('\x7b' :: rest) =
      (takeEntries? fuel depth rest).map fun found ↦ (.mapping found.1, found.2) := by
  rw [takeContent?, skipBlanks_cons rfl]
  -- `hopen` leaves out the case of an empty container
  simp only

/-- The last item of a list. -/
theorem takeItems?_last {fuel depth : Nat} {text after rest : List Char} {item : Content}
    (h : takeContent? fuel depth text = some (item, after))
    (hafter : skipBlanks after = ']' :: rest) :
    takeItems? (fuel + 1) depth text = some ([item], rest) := by
  simp [takeItems?, h, hafter]

/-- An item of a list with others behind it. -/
theorem takeItems?_more {fuel depth : Nat} {text after rest : List Char} {item : Content}
    (h : takeContent? fuel depth text = some (item, after))
    (hafter : skipBlanks after = ',' :: rest) :
    takeItems? (fuel + 1) depth text =
      (takeItems? fuel depth rest).map fun found ↦ (item :: found.1, found.2) := by
  simp only [takeItems?, h, Option.bind_eq_bind, Option.bind_some, hafter]
  cases takeItems? fuel depth rest <;> rfl

theorem takeItems?_of_none {fuel depth : Nat} {text : List Char}
    (h : takeContent? fuel depth text = none) : takeItems? (fuel + 1) depth text = none := by
  simp [takeItems?, h]

theorem takeEntries?_last {fuel depth : Nat} {key : String} {text after rest : List Char}
    {content : Content} (h : takeContent? fuel depth text = some (content, after))
    (hafter : skipBlanks after = '\x7d' :: rest) :
    takeEntries? (fuel + 1) depth (quoted key ++ ':' :: text) = some ([(key, content)], rest) := by
  rw [quoted_append, takeEntries?, skipBlanks_cons rfl]
  simp [takeString?_quoted, skipBlanks_cons (show isBlank ':' = false from rfl), h, hafter]

theorem takeEntries?_more {fuel depth : Nat} {key : String} {text after rest : List Char}
    {content : Content} (h : takeContent? fuel depth text = some (content, after))
    (hafter : skipBlanks after = ',' :: rest) :
    takeEntries? (fuel + 1) depth (quoted key ++ ':' :: text) =
      (takeEntries? fuel depth rest).map fun found ↦ ((key, content) :: found.1, found.2) := by
  rw [quoted_append, takeEntries?, skipBlanks_cons rfl]
  simp only [takeString?_quoted, skipBlanks_cons (show isBlank ':' = false from rfl), h, hafter,
    Option.bind_eq_bind, Option.bind_some]
  cases takeEntries? fuel depth rest <;> rfl

theorem takeEntries?_of_none {fuel depth : Nat} {key : String} {text : List Char}
    (h : takeContent? fuel depth text = none) :
    takeEntries? (fuel + 1) depth (quoted key ++ ':' :: text) = none := by
  rw [quoted_append, takeEntries?, skipBlanks_cons rfl]
  simp [takeString?_quoted, skipBlanks_cons (show isBlank ':' = false from rfl), h]

/-! ### Values -/

theorem length_chars_pos {value : Value} (h : value.hasFloat = false) (spacing : Spacing)
    (level : Nat) : 0 < (spacing.chars level value).length := by
  obtain ⟨c, more, htext, -⟩ := exists_chars_append h spacing level []
  rw [List.append_nil] at htext
  rw [htext]
  exact Nat.zero_lt_succ _

mutual

/-- The content of a value is read where its containers may nest as deep as they do. -/
theorem takeContent?_chars (value : Value) (hfloat : value.hasFloat = false)
    {fuel depth level : Nat} {rest : List Char}
    (hfuel : 2 * (spacing.chars level value).length ≤ fuel) (hrest : EndsNumeral rest) :
    takeContent? fuel depth (spacing.chars level value ++ rest) =
      if value.nesting ≤ depth then some (value.content, rest) else none := by
  have hlength := length_chars_pos hfloat spacing level
  obtain ⟨fuel, rfl⟩ : ∃ n, fuel = n + 1 := ⟨fuel - 1, by omega⟩
  match value with
  | .null | .bool _ | .int _ | .string _ => exact takeContent?_scalar fuel depth rfl rfl hrest
  | .list [] | .map [] => cases depth <;> rfl
  | .list (item :: items) =>
    rw [Spacing.chars] at hfuel ⊢
    simp only [List.length_cons, List.length_append] at hfuel
    simp only [List.cons_append, List.append_assoc, Value.nesting]
    cases depth with
    | zero => rfl
    | succ depth =>
      rw [takeContent?_list fuel depth (skipBlanks_item hfloat level _),
        takeItems?_blanks (spacing.blank_lineBreak _),
        takeItems?_chars (item :: items) hfloat rfl (by omega)]
      simp only [Nat.add_le_add_iff_right]
      split <;> rfl
  | .map ((key, value) :: fields) =>
    rw [Spacing.chars] at hfuel ⊢
    simp only [List.length_cons, List.length_append] at hfuel
    simp only [List.cons_append, List.append_assoc, Value.nesting]
    cases depth with
    | zero => rfl
    | succ depth =>
      rw [takeContent?_map fuel depth (skipBlanks_entry key level _),
        takeEntries?_blanks (spacing.blank_lineBreak _),
        takeEntries?_chars ((key, value) :: fields) hfloat rfl (by omega)]
      simp only [Nat.add_le_add_iff_right]
      split <;> rfl
  | .float x => contradiction

theorem takeItems?_chars (items : List Value) (hfloat : Value.anyFloat items = false)
    {item : Value} {more : List Value} (heq : items = item :: more) {fuel depth level : Nat}
    {rest : List Char}
    (hfuel : 2 * ((spacing.chars (level + 1) item).length +
      (spacing.charsItems level more).length) ≤ fuel) :
    takeItems? fuel depth
        (spacing.chars (level + 1) item ++ (spacing.charsItems level more ++ rest)) =
      if Value.nestingItems items ≤ depth then some (Value.contents items, rest) else none := by
  match items with
  | [] => contradiction
  | first :: later =>
    obtain ⟨rfl, rfl⟩ := List.cons.inj heq
    obtain ⟨hfirst, hlater⟩ := Bool.or_eq_false_iff.mp hfloat
    have hlength := length_chars_pos hfirst spacing (level + 1)
    obtain ⟨fuel, rfl⟩ : ∃ n, fuel = n + 1 := ⟨fuel - 1, by omega⟩
    have htail := length_charsItems_pos spacing level later
    have hitem : takeContent? fuel depth
        (spacing.chars (level + 1) first ++ (spacing.charsItems level later ++ rest)) =
          if first.nesting ≤ depth then some (first.content, spacing.charsItems level later ++ rest)
          else none :=
      takeContent?_chars first hfirst (by omega) (endsNumeral_charsItems later rest)
    rw [Value.nestingItems]
    by_cases hnesting : first.nesting ≤ depth
    · rw [if_pos hnesting] at hitem
      match later with
      | [] =>
        rw [takeItems?_last hitem (skipBlanks_charsItems_nil rest), Value.nestingItems,
          Nat.max_zero, if_pos hnesting]
        rfl
      | next :: others =>
        rw [Spacing.charsItems] at hfuel hitem ⊢
        simp only [List.length_cons, List.length_append] at hfuel
        simp only [List.cons_append, List.append_assoc] at hitem ⊢
        rw [takeItems?_more hitem (skipBlanks_cons rfl _), takeItems?_blanks
          (spacing.blank_lineBreak _), takeItems?_chars (next :: others) hlater rfl
          (by omega)]
        simp only [Nat.max_le, hnesting, true_and]
        split <;> rfl
    · rw [if_neg hnesting] at hitem
      rw [takeItems?_of_none hitem, if_neg (by omega)]

theorem takeEntries?_chars (fields : List (String × Value))
    (hfloat : Value.anyFloatField fields = false) {key : String} {value : Value}
    {more : List (String × Value)} (heq : fields = (key, value) :: more) {fuel depth level : Nat}
    {rest : List Char}
    (hfuel : 2 * ((spacing.chars (level + 1) value).length +
      (spacing.charsFields level more).length) ≤ fuel) :
    takeEntries? fuel depth (quoted key ++ ':' :: (spacing.gap ++
        (spacing.chars (level + 1) value ++ (spacing.charsFields level more ++ rest)))) =
      if Value.nestingFields fields ≤ depth then some (Value.fieldContents fields, rest)
      else none := by
  match fields with
  | [] => contradiction
  | (firstKey, first) :: later =>
    obtain ⟨hentry, rfl⟩ := List.cons.inj heq
    obtain ⟨rfl, rfl⟩ := Prod.mk.inj hentry
    obtain ⟨hfirst, hlater⟩ := Bool.or_eq_false_iff.mp hfloat
    have hlength := length_chars_pos hfirst spacing (level + 1)
    obtain ⟨fuel, rfl⟩ : ∃ n, fuel = n + 1 := ⟨fuel - 1, by omega⟩
    have htail := length_charsFields_pos spacing level later
    have hcontent : takeContent? fuel depth (spacing.gap ++
        (spacing.chars (level + 1) first ++ (spacing.charsFields level later ++ rest))) =
          if first.nesting ≤ depth then
            some (first.content, spacing.charsFields level later ++ rest)
          else none := by
      rw [takeContent?_blanks spacing.blank_gap]
      exact takeContent?_chars first hfirst (by omega) (endsNumeral_charsFields later rest)
    rw [Value.nestingFields]
    by_cases hnesting : first.nesting ≤ depth
    · rw [if_pos hnesting] at hcontent
      match later with
      | [] =>
        rw [takeEntries?_last hcontent (skipBlanks_charsFields_nil rest), Value.nestingFields,
          Nat.max_zero, if_pos hnesting]
        rfl
      | (nextKey, next) :: others =>
        rw [Spacing.charsFields] at hfuel hcontent ⊢
        simp only [List.length_cons, List.length_append] at hfuel
        simp only [List.cons_append, List.append_assoc] at hcontent ⊢
        rw [takeEntries?_more hcontent (skipBlanks_cons rfl _), takeEntries?_blanks
          (spacing.blank_lineBreak _), takeEntries?_chars ((nextKey, next) :: others) hlater
          rfl (by omega)]
        simp only [Nat.max_le, hnesting, true_and]
        split <;> rfl
    · rw [if_neg hnesting] at hcontent
      rw [takeEntries?_of_none hcontent, if_neg (by omega)]

end

/-- A text that holds one content and nothing else is taken for what that content is taken for. -/
theorem decodeWithin?_of_takeContent? {limit : Nat} {text rest : List Char} {content : Content}
    (h : takeContent? (2 * text.length + 2) limit text = some (content, rest))
    (hrest : skipBlanks rest = []) :
    decodeWithin? limit (String.ofList text) = content.toValue? := by
  simp only [decodeWithin?, String.toList_ofList, h, hrest, List.isEmpty_nil, if_true]

theorem decodeWithin?_chars (spacing : Spacing) (limit : Nat) {value : Value}
    (hfloat : value.hasFloat = false) (hvalue : value.WellFormed) :
    decodeWithin? limit (String.ofList (spacing.chars 0 value)) =
      if value.nesting ≤ limit then some value else none := by
  have hread : takeContent? (2 * (spacing.chars 0 value).length + 2) limit
      (spacing.chars 0 value ++ []) =
        if value.nesting ≤ limit then some (value.content, []) else none :=
    takeContent?_chars value hfloat (by omega) endsNumeral_nil
  rw [List.append_nil] at hread
  by_cases hnesting : value.nesting ≤ limit
  · rw [if_pos hnesting] at hread ⊢
    rw [decodeWithin?_of_takeContent? hread rfl, Content.toValue?_content value hvalue]
  · rw [if_neg hnesting] at hread ⊢
    simp only [decodeWithin?, String.toList_ofList, hread]

/-- A value without floating point numbers is read back from its compact text and from the text of
a document, and is refused where it nests too deep. -/
theorem encoded_read_back {value : Value} (hfloat : value.hasFloat = false)
    (hvalue : value.WellFormed) :
    decode? (compact value) = (if value.nesting ≤ nestingLimit then some value else none) ∧
      ∀ document : Document, document.root = value → document.contentType = .json →
        Document.decode .json document.serialize =
          if value.nesting ≤ nestingLimit then .ok value else .error .json := by
  have hcompact : decode? (compact value) =
      if value.nesting ≤ nestingLimit then some value else none := by
    rw [decode?, compact, ← Spacing.chars_none 0]
    exact decodeWithin?_chars .none nestingLimit hfloat hvalue
  have hpretty : decode? (pretty value) =
      if value.nesting ≤ nestingLimit then some value else none := by
    rw [decode?, pretty, ← Spacing.chars_lines 0]
    exact decodeWithin?_chars .lines nestingLimit hfloat hvalue
  refine ⟨hcompact, ?_⟩
  rintro document rfl hjson
  rw [Document.serialize, hjson, Document.decode, hpretty]
  split <;> rfl

/-- Both ends of the integers, an empty key, and strings that need escapes or look like something
else. -/
theorem encoded_read_back_of_telling_value :
    let value : Value := .map
      [("", .list [.int (-9223372036854775808), .int 9223372036854775807, .int 0]),
        ("\"\\/\x01\n", .list [.string "", .string "true", .string "null", .string "-0",
          .string "1e5", .string "\u00e9\u2028\x7f𝒟"]),
        ("a", .map [("b", .null), ("c", .list []), ("d", .map [])])]
    decode? (compact value) = some value ∧
      Document.decode .json (Document.serialize { root := value, contentType := .json }) =
        .ok value := by
  intro value
  have hnumbers : Value.WellFormed (.list
      [.int (-9223372036854775808), .int 9223372036854775807, .int 0]) :=
    ⟨trivial, trivial, trivial, trivial⟩
  have hinner : Value.WellFormed (.map [("b", .null), ("c", .list []), ("d", .map [])]) :=
    ⟨by decide, trivial, trivial, ⟨List.Pairwise.nil, trivial⟩, trivial⟩
  have hvalue : value.WellFormed :=
    ⟨by decide, hnumbers, ⟨trivial, trivial, trivial, trivial, trivial, trivial, trivial⟩, hinner,
      trivial⟩
  obtain ⟨hcompact, hdocument⟩ := encoded_read_back (by decide : value.hasFloat = false) hvalue
  exact ⟨hcompact, hdocument _ rfl rfl⟩

end Json

end ClusterRouter
