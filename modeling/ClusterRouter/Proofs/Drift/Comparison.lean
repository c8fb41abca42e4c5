import ClusterRouter.Drift.Comparison
import ClusterRouter.Proofs.Document.Navigation

/-!
# What a comparison finds out

`Covers` says without paths when a desired value agrees with an observed one. A comparison finds no
mismatch exactly where the desired document covers the observed one.
-/

namespace ClusterRouter.Drift

/-- Where two values stand: under a key, or in a list. Documents are compared like items. -/
inductive Position where
  | entry
  | item
deriving DecidableEq

/-- The values of the position that are compared as a whole. -/
def Position.Whole : Position → Value → Value → Prop
  | .entry, _, observed => observed.isContainer = false
  | .item, desired, observed => desired.asMap = none ∨ observed.asMap = none

/-- The values that only agree with equal ones. -/
def Position.Plain : Position → Value → Prop
  | .entry, value => value.isContainer = false
  | .item, value => value.asMap = none

/-- A desired value covers an observed one. Under a key, maps have the same keys that count; in a
list the desired map may have more of them. -/
inductive Covers (skip : SkipSet) : Position → Value → Value → Prop where
  | whole {position : Position} {desired observed : Value}
      (hwhole : position.Whole desired observed) (hequal : (desired == observed) = true) :
    Covers skip position desired observed
  | list {desired observed : List Value} (hlength : desired.length = observed.length)
      (hitems : ∀ (n : Nat) d o, desired[n]? = some d → observed[n]? = some o →
        Covers skip .item d o) :
    Covers skip .entry (.list desired) (.list observed)
  | map {position : Position} {desired observed : Fields}
      (hkeys : position = .entry →
        skip.retain (Fields.keys desired) = skip.retain (Fields.keys observed))
      (hpresent : ∀ entry ∈ observed, skip.contains entry.1 = false →
        (Fields.get? desired entry.1).isSome)
      (hentries : ∀ entry ∈ observed, skip.contains entry.1 = false →
        ∀ d, Fields.get? desired entry.1 = some d → Covers skip .entry d entry.2) :
    Covers skip position (.map desired) (.map observed)

variable {skip : SkipSet} {path : Path}

theorem valueMismatch?_eq_none_iff {desired observed : Value} :
    valueMismatch? path desired observed = none ↔ (desired == observed) = true := by
  unfold valueMismatch?
  split
  · next h => exact iff_of_true rfl h
  · next h => exact iff_of_false (by simp) h

theorem keyMismatch?_eq_none_iff {desired observed : Fields} :
    keyMismatch? skip path desired observed = none ↔
      skip.retain (Fields.keys desired) = skip.retain (Fields.keys observed) := by
  rw [keyMismatch?]
  split
  · next h => exact iff_of_true rfl h
  · next h => exact iff_of_false (by simp) h

theorem lengthMismatch?_eq_none_iff {desired observed : List Value} :
    lengthMismatch? path desired observed = none ↔ desired.length = observed.length := by
  unfold lengthMismatch?
  split
  · next h => exact iff_of_true rfl h
  · next h => exact iff_of_false (by simp) h

theorem fieldsMismatch?_cons (key : String) (observed : Value) (desired : Fields)
    (rest : List (String × Value)) :
    fieldsMismatch? skip path desired ((key, observed) :: rest) =
      if skip.contains key then fieldsMismatch? skip path desired rest
      else (entryMismatch? skip (path ++ [.key key]) (Fields.get? desired key) observed).or
        (fieldsMismatch? skip path desired rest) := by
  rw [fieldsMismatch?]
  cases entryMismatch? skip (path ++ [.key key]) (Fields.get? desired key) observed <;> rfl

theorem entryMismatch?_list (desired observed : List Value) :
    entryMismatch? skip path (some (.list desired)) (.list observed) =
      (lengthMismatch? path desired observed).or (itemsMismatch? skip path 0 desired observed) := by
  unfold entryMismatch?
  cases lengthMismatch? path desired observed <;> rfl

theorem entryMismatch?_map (desired observed : Fields) :
    entryMismatch? skip path (some (.map desired)) (.map observed) =
      (keyMismatch? skip path desired observed).or (fieldsMismatch? skip path desired observed) := by
  unfold entryMismatch?
  cases keyMismatch? skip path desired observed <;> rfl

theorem itemsMismatch?_cons (place : Nat) (d o : Value) (ds os : List Value) :
    itemsMismatch? skip path place (d :: ds) (o :: os) =
      (itemMismatch? skip (path ++ [.index (Int64.ofNat place)]) d o).or
        (itemsMismatch? skip path (place + 1) ds os) := by
  rw [itemsMismatch?]
  cases itemMismatch? skip (path ++ [.index (Int64.ofNat place)]) d o <;> rfl

theorem entryMismatch?_whole {desired observed : Value}
    (h : Position.Whole .entry desired observed) :
    entryMismatch? skip path (some desired) observed = valueMismatch? path desired observed := by
  have h : observed.isContainer = false := h
  cases observed <;> first | contradiction | (cases desired <;> rfl)

theorem itemMismatch?_whole {desired observed : Value}
    (h : Position.Whole .item desired observed) :
    itemMismatch? skip path desired observed = valueMismatch? path desired observed := by
  rcases h with h | h
  · cases desired <;> first | contradiction | (cases observed <;> rfl)
  · cases observed <;> first | contradiction | (cases desired <;> rfl)

theorem Position.Plain.whole {position : Position} {observed : Value} (h : position.Plain observed)
    (desired : Value) : position.Whole desired observed := by
  cases position with
  | entry => exact h
  | item => exact .inr h

/-- Of equal values compared as a whole neither has parts that are compared. -/
theorem plain_of_whole {position : Position} {desired observed : Value}
    (hwhole : position.Whole desired observed) (hequal : (desired == observed) = true) :
    position.Plain desired ∧ position.Plain observed := by
  cases position with
  | entry =>
    have hobserved : observed.isContainer = false := hwhole
    refine ⟨?_, hobserved⟩
    cases observed <;> cases desired <;> first | rfl | contradiction
  | item =>
    rcases hwhole with h | h <;> cases desired <;> cases observed <;>
      first | exact ⟨rfl, rfl⟩ | contradiction

/-- A value that is not covered as a list or a map is covered as a whole. -/
theorem covers_iff_of_whole {position : Position} {desired observed : Value}
    (h : position.Whole desired observed) :
    Covers skip position desired observed ↔ (desired == observed) = true := by
  constructor
  · intro hcovers
    cases hcovers with
    | whole _ hequal => exact hequal
    | list => contradiction
    | map => cases position <;> simp [Position.Whole, Value.isContainer, Value.asMap] at h
  · exact .whole h

theorem entryMismatch?_whole_iff {desired observed : Value}
    (h : Position.Whole .entry desired observed) :
    entryMismatch? skip path (some desired) observed = none ↔
      Covers skip .entry desired observed := by
  rw [entryMismatch?_whole h, valueMismatch?_eq_none_iff, covers_iff_of_whole h]

theorem itemMismatch?_whole_iff {desired observed : Value}
    (h : Position.Whole .item desired observed) :
    itemMismatch? skip path desired observed = none ↔ Covers skip .item desired observed := by
  rw [itemMismatch?_whole h, valueMismatch?_eq_none_iff, covers_iff_of_whole h]

mutual

theorem entryMismatch?_eq_none_iff (skip : SkipSet) (path : Path) :
    ∀ desired observed : Value, entryMismatch? skip path (some desired) observed = none ↔
      Covers skip .entry desired observed
  | .list desired, .list observed => by
    rw [entryMismatch?_list, Option.or_eq_none_iff, lengthMismatch?_eq_none_iff]
    constructor
    · rintro ⟨hlength, hitems⟩
      exact .list hlength ((itemsMismatch?_eq_none_iff skip path 0 _ _ hlength).mp hitems)
    · intro h
      cases h with
      | whole hwhole => contradiction
      | list hlength hitems =>
        exact ⟨hlength, (itemsMismatch?_eq_none_iff skip path 0 _ _ hlength).mpr hitems⟩
  | .map desired, .map observed => by
    have hfields := fieldsMismatch?_eq_none_iff skip path desired observed
    rw [entryMismatch?_map, Option.or_eq_none_iff, keyMismatch?_eq_none_iff, hfields]
    constructor
    · rintro ⟨hkeys, hentries⟩
      exact .map (fun _ ↦ hkeys) (fun entry hmem hskip ↦ (hentries entry hmem hskip).1)
        fun entry hmem hskip ↦ (hentries entry hmem hskip).2
    · intro h
      cases h with
      | whole hwhole => contradiction
      | map hkeys hpresent hentries =>
        exact ⟨hkeys rfl, fun entry hmem hskip ↦ ⟨hpresent entry hmem hskip,
          hentries entry hmem hskip⟩⟩
  | desired, .null | desired, .bool _ | desired, .int _ | desired, .float _
  | desired, .string _ => by
    exact entryMismatch?_whole_iff rfl
  | .null, .list _ | .bool _, .list _ | .int _, .list _ | .float _, .list _ | .string _, .list _
  | .map _, .list _ => by
    refine iff_of_false (by simp [entryMismatch?, typesDiffer]) fun h ↦ ?_
    cases h with
    | whole hwhole => contradiction
  | .null, .map _ | .bool _, .map _ | .int _, .map _ | .float _, .map _ | .string _, .map _
  | .list _, .map _ => by
    refine iff_of_false (by simp [entryMismatch?, typesDiffer]) fun h ↦ ?_
    cases h with
    | whole hwhole => contradiction
termination_by structural _ observed => observed

theorem fieldsMismatch?_eq_none_iff (skip : SkipSet) (path : Path) (desired : Fields) :
    ∀ observed : List (String × Value), fieldsMismatch? skip path desired observed = none ↔
      ∀ entry ∈ observed, skip.contains entry.1 = false →
        (Fields.get? desired entry.1).isSome ∧
          ∀ d, Fields.get? desired entry.1 = some d → Covers skip .entry d entry.2
  | [] => by simp [fieldsMismatch?]
  | (key, observed) :: rest => by
    have ih := fieldsMismatch?_eq_none_iff skip path desired rest
    rw [fieldsMismatch?_cons]
    cases hskip : skip.contains key with
    | true => simp [ih, hskip]
    | false =>
      rw [if_neg Bool.false_ne_true, Option.or_eq_none_iff, ih, List.forall_mem_cons]
      refine and_congr_left' ?_
      cases hdesired : Fields.get? desired key with
      | none => simp [entryMismatch?, hskip]
      | some d =>
        have hentry := entryMismatch?_eq_none_iff skip (path ++ [.key key]) d observed
        simp [hentry, hskip]
termination_by structural observed => observed

theorem itemsMismatch?_eq_none_iff (skip : SkipSet) (path : Path) :
    ∀ (place : Nat) (desired observed : List Value), desired.length = observed.length →
      (itemsMismatch? skip path place desired observed = none ↔
        ∀ (n : Nat) d o, desired[n]? = some d → observed[n]? = some o → Covers skip .item d o)
  | _, [], [], _ => by simp [itemsMismatch?]
  | place, d :: ds, o :: os, hlength => by
    have ih := itemsMismatch?_eq_none_iff skip path (place + 1) ds os (Nat.succ.inj hlength)
    have hitem := itemMismatch?_eq_none_iff skip (path ++ [.index (Int64.ofNat place)]) d o
    rw [itemsMismatch?_cons, Option.or_eq_none_iff, hitem, ih]
    constructor
    · rintro ⟨hfirst, hrest⟩ n d' o' hd ho
      cases n with
      | zero =>
        cases hd
        cases ho
        exact hfirst
      | succ n => exact hrest n d' o' hd ho
    · intro h
      exact ⟨h 0 d o rfl rfl, fun n ↦ h (n + 1)⟩
termination_by structural _ _ observed => observed

theorem itemMismatch?_eq_none_iff (skip : SkipSet) (path : Path) :
    ∀ desired observed : Value, itemMismatch? skip path desired observed = none ↔
      Covers skip .item desired observed
  | .map desired, .map observed => by
    have hfields := fieldsMismatch?_eq_none_iff skip path desired observed
    rw [itemMismatch?, hfields]
    constructor
    · intro hentries
      exact .map (by simp) (fun entry hmem hskip ↦ (hentries entry hmem hskip).1)
        fun entry hmem hskip ↦ (hentries entry hmem hskip).2
    · intro h
      cases h with
      | whole hwhole => rcases hwhole with hwhole | hwhole <;> contradiction
      | map _ hpresent hentries =>
        exact fun entry hmem hskip ↦ ⟨hpresent entry hmem hskip, hentries entry hmem hskip⟩
  | .null, observed | .bool _, observed | .int _, observed | .float _, observed
  | .string _, observed | .list _, observed => by
    exact itemMismatch?_whole_iff (.inl rfl)
  | .map _, .null | .map _, .bool _ | .map _, .int _ | .map _, .float _ | .map _, .string _
  | .map _, .list _ => by
    exact itemMismatch?_whole_iff (.inr rfl)
termination_by structural _ observed => observed

end

/-- Documents agree where the desired one covers the observed one. -/
theorem agree_iff_covers {desired observed : Value} :
    agree skip desired observed = true ↔ Covers skip .item desired observed := by
  have hitem : mismatch? skip desired observed = none ↔
      itemMismatch? skip [] desired observed = none := by
    cases desired <;> cases observed <;> try rfl
    all_goals simp [mismatch?, itemMismatch?, typesDiffer, valueMismatch?, Value.beq_eq_equal,
      Value.equal]
  rw [agree, Option.isNone_iff_eq_none, hitem, itemMismatch?_eq_none_iff]

theorem Covers.exists_map {position : Position} {desired : Fields} {observed : Value}
    (h : Covers skip position (.map desired) observed) :
    ∃ entries, observed = .map entries ∧
      (position = .entry → skip.retain (Fields.keys desired) = skip.retain (Fields.keys entries)) ∧
      ∀ entry ∈ entries, skip.contains entry.1 = false →
        ∃ d, Fields.get? desired entry.1 = some d ∧ Covers skip .entry d entry.2 := by
  cases h with
  | whole hwhole hequal =>
    obtain ⟨entries, rfl, -⟩ := Value.exists_map_of_beq hequal
    cases position <;> simp [Position.Whole, Value.isContainer, Value.asMap] at hwhole
  | map hkeys hpresent hentries =>
    refine ⟨_, rfl, hkeys, fun entry hmem hskip ↦ ?_⟩
    obtain ⟨d, hd⟩ := Option.isSome_iff_exists.mp (hpresent entry hmem hskip)
    exact ⟨d, hd, hentries entry hmem hskip d hd⟩

theorem Covers.of_entries {position : Position} {desired observed : Fields}
    (hkeys : position = .entry →
      skip.retain (Fields.keys desired) = skip.retain (Fields.keys observed))
    (hentries : ∀ entry ∈ observed, skip.contains entry.1 = false →
      ∃ d, Fields.get? desired entry.1 = some d ∧ Covers skip .entry d entry.2) :
    Covers skip position (.map desired) (.map observed) := by
  refine .map hkeys (fun entry hmem hskip ↦ ?_) fun entry hmem hskip d hd ↦ ?_
  · obtain ⟨d, hd, -⟩ := hentries entry hmem hskip
    rw [hd, Option.isSome_some]
  · obtain ⟨d', hd', hcovers⟩ := hentries entry hmem hskip
    cases hd.symm.trans hd'
    exact hcovers

theorem Covers.whole_of_plain {position : Position} {desired observed : Value}
    (h : Covers skip position desired observed) (hplain : position.Plain desired) :
    position.Whole desired observed ∧ (desired == observed) = true := by
  cases h with
  | whole hwhole hequal => exact ⟨hwhole, hequal⟩
  | list => contradiction
  | map => cases position <;> contradiction

theorem Covers.exists_list {desired : List Value} {observed : Value}
    (h : Covers skip .entry (.list desired) observed) :
    ∃ items, observed = .list items ∧ desired.length = items.length ∧
      ∀ (n : Nat) d o, desired[n]? = some d → items[n]? = some o → Covers skip .item d o := by
  cases h with
  | whole hwhole hequal =>
    obtain ⟨items, rfl, -⟩ := Value.exists_list_of_beq hequal
    contradiction
  | list hlength hitems => exact ⟨_, rfl, hlength, hitems⟩

/-! ### Equal documents agree -/

mutual

theorem covers_of_equal (skip : SkipSet) : ∀ observed desired : Value,
    observed.WellFormed → Value.equal desired observed = true →
      ∀ position, Covers skip position desired observed
  | .list os, desired, hobserved, hequal, position => by
    obtain ⟨ds, rfl, hitems⟩ := Value.exists_list_of_beq ((Value.beq_comm _ _).trans hequal)
    have hequalItems : Value.equalItems ds os = true := hequal
    cases position with
    | item => exact .whole (.inl rfl) hequal
    | entry =>
      exact .list (Value.length_eq_of_equalItems hequalItems)
        (coversItems_of_equal skip os ds hobserved hequalItems)
  | .map os, desired, hobserved, hequal, position => by
    obtain ⟨ds, rfl, -⟩ := Value.exists_map_of_beq ((Value.beq_comm _ _).trans hequal)
    have hfields : Value.equalFields ds os = true := hequal
    refine .of_entries (fun _ ↦ by rw [Value.keys_eq_of_equalFields hfields]) fun entry hmem _ ↦ ?_
    have hget := Value.get?_beq_of_equalFields hfields entry.1
    rw [Fields.get?_of_mem hobserved.1 hmem] at hget
    cases hd : Fields.get? ds entry.1 with
    | none =>
      rw [hd] at hget
      contradiction
    | some d =>
      rw [hd] at hget
      exact ⟨d, rfl, coversFields_of_equal skip os hobserved.2 entry hmem d hget⟩
  | .null, _, _, hequal, position | .bool _, _, _, hequal, position
  | .int _, _, _, hequal, position | .float _, _, _, hequal, position
  | .string _, _, _, hequal, position => by
    cases position with
    | entry => exact .whole rfl hequal
    | item => exact .whole (.inr rfl) hequal
termination_by structural observed => observed

theorem coversItems_of_equal (skip : SkipSet) : ∀ observed desired : List Value,
    Value.ItemsWellFormed observed → Value.equalItems desired observed = true →
      ∀ (n : Nat) d o, desired[n]? = some d → observed[n]? = some o → Covers skip .item d o
  | [], _, _, _, _, _, _, _, h => by simp at h
  | _ :: _, [], _, hequal, _, _, _, _, _ => by contradiction
  | o :: os, d :: ds, hobserved, hequal, 0, _, _, rfl, rfl =>
    covers_of_equal skip o d hobserved.1 (Value.equalItems_cons.mp hequal).1 .item
  | _ :: os, _ :: ds, hobserved, hequal, n + 1, d, o, hd, ho =>
    coversItems_of_equal skip os ds hobserved.2 (Value.equalItems_cons.mp hequal).2 n d o hd ho
termination_by structural observed => observed

theorem coversFields_of_equal (skip : SkipSet) : ∀ observed : List (String × Value),
    Value.FieldsWellFormed observed → ∀ entry ∈ observed, ∀ d, (d == entry.2) = true →
      Covers skip .entry d entry.2
  | [], _, _, hmem, _, _ => by contradiction
  | (_, o) :: os, hobserved, entry, hmem, d, hequal => by
    rcases List.mem_cons.mp hmem with rfl | hmem
    · exact covers_of_equal skip o d hobserved.1 hequal .entry
    · exact coversFields_of_equal skip os hobserved.2 entry hmem d hequal
termination_by structural observed => observed

end

/-- A path goes through no skipped key where neither its first step nor the rest does. -/
theorem counts_cons_iff {segment : Segment} :
    (∀ name, Segment.key name ∈ segment :: path → skip.contains name = false) ↔
      (∀ name, segment = .key name → skip.contains name = false) ∧
        ∀ name, Segment.key name ∈ path → skip.contains name = false := by
  constructor
  · intro h
    exact ⟨fun name hname ↦ h name (hname ▸ List.mem_cons_self),
      fun name hname ↦ h name (List.mem_cons_of_mem segment hname)⟩
  · rintro ⟨hfirst, hrest⟩ name hmem
    rcases List.mem_cons.mp hmem with hname | hname
    · exact hfirst name hname.symm
    · exact hrest name hname

/-! ### Keys that need not be observed -/

/-- The places below which a map may have more keys than are observed: an item of a list, or the
root. A list in a list is compared as a whole. -/
def Position.Open : Position → Path → Prop
  | .item, [] => True
  | _, .key _ :: path => Open .entry path
  | .entry, .index _ :: path => Open .item path
  | _, _ => False

/-- A map goes on to cover when an entry is replaced by one that covers what it has covered. -/
theorem Covers.insert {position : Position} {fields : Fields} {name : String}
    {child changed observed : Value} (hasc : Fields.Ascending fields)
    (hchild : Fields.get? fields name = some child)
    (hchanged : ∀ o, Covers skip .entry child o → Covers skip .entry changed o)
    (h : Covers skip position (.map fields) observed) :
    Covers skip position (.map (Fields.insert fields name changed)) observed := by
  obtain ⟨entries, rfl, hkeys, hentries⟩ := h.exists_map
  apply Covers.of_entries
  · intro hentry
    rw [Fields.keys_insert_of_get? hasc hchild, hkeys hentry]
  · intro entry hmem hskip
    obtain ⟨d, hd, hcovers⟩ := hentries entry hmem hskip
    by_cases hname : entry.1 = name
    · rw [hname] at hd
      cases hchild.symm.trans hd
      exact ⟨changed, by rw [hname, Fields.get?_insert_self], hchanged entry.2 hcovers⟩
    · exact ⟨d, by rw [Fields.get?_insert_of_ne hname, hd], hcovers⟩

/-- A list goes on to cover when an item is replaced by one that covers what it has covered. -/
theorem Covers.set {items : List Value} {place : Nat} {child changed observed : Value}
    (hchild : items[place]? = some child)
    (hchanged : ∀ o, Covers skip .item child o → Covers skip .item changed o)
    (h : Covers skip .entry (.list items) observed) :
    Covers skip .entry (.list (items.set place changed)) observed := by
  obtain ⟨others, rfl, hlength, hitems⟩ := h.exists_list
  apply Covers.list
  · rw [List.length_set, hlength]
  · intro n d o hd ho
    rw [List.getElem?_set] at hd
    split at hd
    · next hn =>
      subst hn
      rw [if_pos (List.getElem?_eq_some_iff.mp hchild).1] at hd
      cases hd
      exact hchanged o (hitems place child o hchild ho)
    · exact hitems n d o hd ho

end ClusterRouter.Drift
