import ClusterRouter.Proofs.Drift.Comparison
import Mathlib.Logic.Relation

/-!
# Skipping is erasing

`strip` takes the keys of a skip-set out of a document: out of its root, out of every map that
stands under a key of a map it has come to, and out of the maps among the items of a list that
stands there. Documents agree under the skip-set exactly when what is left of them agrees with
nothing skipped, so no edit under a skipped key on one of these levels changes the verdict.
-/

namespace ClusterRouter.Drift

mutual

/-- What is left of a value at a position when the keys that are skipped are erased. -/
def strip (skip : SkipSet) : Position → Value → Value
  | _, .map fields => .map (stripFields skip fields)
  | .entry, .list items => .list (stripItems skip items)
  | _, value => value

def stripItems (skip : SkipSet) : List Value → List Value
  | [] => []
  | item :: items => strip skip .item item :: stripItems skip items

def stripFields (skip : SkipSet) : List (String × Value) → List (String × Value)
  | [] => []
  | (key, value) :: fields =>
    if skip.contains key then stripFields skip fields
    else (key, strip skip .entry value) :: stripFields skip fields

end

variable {skip : SkipSet} {position : Position}

/-! ### What is left -/

theorem strip_map (fields : Fields) :
    strip skip position (.map fields) = .map (stripFields skip fields) := by
  cases position <;> rfl

theorem stripItems_eq_map (items : List Value) :
    stripItems skip items = items.map (strip skip .item) := by
  induction items with
  | nil => rfl
  | cons item items ih => rw [stripItems, ih, List.map_cons]

theorem getElem?_stripItems (items : List Value) (n : Nat) :
    (stripItems skip items)[n]? = items[n]?.map (strip skip .item) := by
  rw [stripItems_eq_map, List.getElem?_map]

theorem length_stripItems (items : List Value) :
    (stripItems skip items).length = items.length := by
  rw [stripItems_eq_map, List.length_map]

/-- The entries of the keys that count are left, with what is left of their values. -/
theorem stripFields_eq_map (fields : Fields) :
    stripFields skip fields =
      (fields.filter fun entry ↦ !skip.contains entry.1).map fun entry ↦
        (entry.1, strip skip .entry entry.2) := by
  induction fields with
  | nil => rfl
  | cons entry rest ih =>
    rw [stripFields, ih, List.filter_cons]
    cases skip.contains entry.1 <;> rfl

theorem get?_stripFields {key : String} (hkey : skip.contains key = false) (fields : Fields) :
    Fields.get? (stripFields skip fields) key =
      (Fields.get? fields key).map (strip skip .entry) := by
  induction fields with
  | nil => rfl
  | cons entry rest ih =>
    obtain ⟨k, value⟩ := entry
    by_cases hk : k = key
    · subst hk
      simp [stripFields, Fields.get?, hkey]
    · by_cases hskip : skip.contains k = true
      · simpa [stripFields, Fields.get?, hk, hskip] using ih
      · simpa [stripFields, Fields.get?, hk, hskip] using ih

theorem mem_stripFields_iff {fields : Fields} {entry : String × Value} :
    entry ∈ stripFields skip fields ↔
      ∃ value, (entry.1, value) ∈ fields ∧ skip.contains entry.1 = false ∧
        entry = (entry.1, strip skip .entry value) := by
  rw [stripFields_eq_map, List.mem_map]
  constructor
  · rintro ⟨old, hmem, rfl⟩
    obtain ⟨hold, hcounts⟩ := List.mem_filter.mp hmem
    exact ⟨old.2, hold, by simpa using hcounts, rfl⟩
  · rintro ⟨value, hmem, hcounts, hentry⟩
    refine ⟨(entry.1, value), List.mem_filter.mpr ⟨hmem, ?_⟩, hentry.symm⟩
    rw [hcounts]
    rfl

theorem keys_stripFields (fields : Fields) :
    Fields.keys (stripFields skip fields) = skip.retain (Fields.keys fields) := by
  rw [stripFields_eq_map, Fields.keys, List.map_map, SkipSet.retain, Fields.keys, List.filter_map]
  rfl

theorem retain_nothing (keys : List String) : ({} : SkipSet).retain keys = keys :=
  List.filter_eq_self.mpr fun _ _ ↦ rfl

theorem exists_map_of_strip {value : Value} {left : Fields}
    (h : strip skip position value = .map left) :
    ∃ fields, value = .map fields ∧ left = stripFields skip fields := by
  cases position <;> cases value <;> cases h <;> exact ⟨_, rfl, rfl⟩

/-- What only agrees with equal values stays as it is. -/
theorem strip_of_plain {value : Value} (h : position.Plain value) :
    strip skip position value = value := by
  cases position <;> cases value <;> first | rfl | contradiction

theorem plain_of_strip {value : Value} (h : position.Plain (strip skip position value)) :
    position.Plain value := by
  cases position <;> cases value <;> first | rfl | contradiction

/-! ### Agreement of what is left -/

theorem Covers.strip {desired observed : Value} (h : Covers skip position desired observed) :
    Covers {} position (strip skip position desired) (strip skip position observed) := by
  induction h with
  | whole hwhole hequal =>
    obtain ⟨hdesired, hobserved⟩ := plain_of_whole hwhole hequal
    rw [strip_of_plain hdesired, strip_of_plain hobserved]
    exact .whole hwhole hequal
  | list hlength hitems ih =>
    apply Covers.list
    · rw [length_stripItems, length_stripItems, hlength]
    · intro n d o hd ho
      rw [getElem?_stripItems, Option.map_eq_some_iff] at hd ho
      obtain ⟨d', hd', rfl⟩ := hd
      obtain ⟨o', ho', rfl⟩ := ho
      exact ih n d' o' hd' ho'
  | @map position desired observed hkeys hpresent hentries ih =>
    rw [strip_map, strip_map]
    apply Covers.of_entries
    · intro hentry
      rw [retain_nothing, retain_nothing, keys_stripFields, keys_stripFields, hkeys hentry]
    · rintro ⟨key, value⟩ hmem -
      obtain ⟨old, hold, hcounts, heq⟩ := mem_stripFields_iff.mp hmem
      cases heq
      obtain ⟨d, hd⟩ := Option.isSome_iff_exists.mp (hpresent _ hold hcounts)
      refine ⟨Drift.strip skip .entry d, ?_, ih _ hold hcounts d hd⟩
      rw [get?_stripFields hcounts, hd, Option.map_some]

theorem Covers.of_strip {desired observed left found : Value} (h : Covers {} position left found)
    (hleft : left = Drift.strip skip position desired)
    (hfound : found = Drift.strip skip position observed) :
    Covers skip position desired observed := by
  induction h generalizing desired observed with
  | whole hwhole hequal =>
    subst hleft hfound
    obtain ⟨hd, ho⟩ := plain_of_whole hwhole hequal
    rw [strip_of_plain (plain_of_strip hd), strip_of_plain (plain_of_strip ho)] at hequal
    exact .whole ((plain_of_strip ho).whole desired) hequal
  | @list left found hlength hitems ih =>
    cases desired <;> cases hleft
    cases observed <;> cases hfound
    next ds os =>
    apply Covers.list
    · rwa [length_stripItems, length_stripItems] at hlength
    · intro n d o hd ho
      refine ih n _ _ ?_ ?_ rfl rfl
      · rw [getElem?_stripItems, hd, Option.map_some]
      · rw [getElem?_stripItems, ho, Option.map_some]
  | @map position left found hkeys hpresent hentries ih =>
    obtain ⟨ds, rfl, rfl⟩ := exists_map_of_strip hleft.symm
    obtain ⟨os, rfl, rfl⟩ := exists_map_of_strip hfound.symm
    apply Covers.of_entries
    · intro hentry
      have hsame := hkeys hentry
      rwa [retain_nothing, retain_nothing, keys_stripFields, keys_stripFields] at hsame
    · intro entry hmem hcounts
      have hleft : (entry.1, Drift.strip skip .entry entry.2) ∈ stripFields skip os :=
        mem_stripFields_iff.mpr ⟨entry.2, hmem, hcounts, rfl⟩
      obtain ⟨found, hget⟩ := Option.isSome_iff_exists.mp (hpresent _ hleft rfl)
      have hwanted := hget
      rw [get?_stripFields hcounts, Option.map_eq_some_iff] at hwanted
      obtain ⟨d, hd, hsame⟩ := hwanted
      exact ⟨d, hd, ih _ hleft rfl found hget hsame.symm rfl⟩

theorem agree_iff_agree_strip {desired observed : Value} :
    agree skip desired observed = true ↔
      agree {} (strip skip .item desired) (strip skip .item observed) = true := by
  rw [agree_iff_covers, agree_iff_covers]
  constructor
  · intro h
    exact h.strip
  · intro h
    exact h.of_strip rfl rfl

/-! ### Edits under skipped keys -/

theorem stripFields_insert_of_skipped {key : String} (hkey : skip.contains key = true)
    (fields : Fields) (value : Value) :
    stripFields skip (Fields.insert fields key value) = stripFields skip fields := by
  fun_induction Fields.insert fields key value with
  | case1 => simp [stripFields, hkey]
  | case2 => simp [stripFields, hkey]
  | case3 => simp [stripFields, hkey]
  | case4 k v rest key value _ _ ih => rw [stripFields, stripFields, ih hkey]

theorem stripFields_erase_of_skipped {key : String} (hkey : skip.contains key = true)
    (fields : Fields) :
    stripFields skip (Fields.erase fields key) = stripFields skip fields := by
  fun_induction Fields.erase fields key with
  | case1 => rfl
  | case2 => simp [stripFields, hkey]
  | case3 k v rest key _ ih => rw [stripFields, stripFields, ih hkey]

/-- What is left of a map stays when what is left of one of its values does. -/
theorem stripFields_insert {fields : Fields} (hasc : Fields.Ascending fields) {name : String}
    {child changed : Value} (hchild : Fields.get? fields name = some child)
    (hsame : strip skip .entry changed = strip skip .entry child) :
    stripFields skip (Fields.insert fields name changed) = stripFields skip fields := by
  induction fields with
  | nil => contradiction
  | cons entry rest ih =>
    obtain ⟨k, v⟩ := entry
    unfold Fields.get? at hchild
    by_cases hk : k = name
    · rw [if_pos hk] at hchild
      cases hchild
      rw [Fields.insert, if_pos hk, stripFields, stripFields, hsame, hk]
    · rw [if_neg hk] at hchild
      have hlt : k < name := hasc.head_lt (Fields.mem_keys_of_get? hchild)
      rw [Fields.insert, if_neg hk, if_neg (String.lt_asymm hlt), stripFields, stripFields,
        ih hasc.tail hchild]

/-- What is left of a list stays when what is left of one of its items does. -/
theorem stripItems_set {items : List Value} {place : Nat} {child changed : Value}
    (hchild : items[place]? = some child)
    (hsame : strip skip .item changed = strip skip .item child) :
    stripItems skip (items.set place changed) = stripItems skip items := by
  obtain ⟨hlt, rfl⟩ := List.getElem?_eq_some_iff.mp hchild
  rw [stripItems_eq_map, stripItems_eq_map, List.map_set, hsame, ← List.map_set,
    List.set_getElem_self]

/-- The paths to what stands on a level where keys are skipped. No level is below a list that is
itself an item, nor below a root that is a list. -/
def Position.Level : Position → Path → Prop
  | _, [] => True
  | _, .key _ :: path => Level .entry path
  | .entry, .index _ :: path => Level .item path
  | .item, .index _ :: _ => False

/-- A map with an entry under a key that is written anew, or taken out. -/
def withEntry (key : String) (entry : Option Value) : Value → Option Value
  | .map fields =>
    some (.map (entry.elim (Fields.erase fields key) (Fields.insert fields key)))
  | _ => none

/-- One edit of a document, of one entry under a skipped key in a map on one of the levels. -/
def EditedUnder (skip : SkipSet) (before after : Value) : Prop :=
  before.WellFormed ∧ ∃ path key entry, Position.Level .item path ∧ skip.contains key = true ∧
    before.modify? (withEntry key entry) path = some after

theorem strip_of_withEntry {key : String} (hkey : skip.contains key = true) {entry : Option Value}
    {before after : Value} (h : withEntry key entry before = some after) :
    strip skip position after = strip skip position before := by
  cases before <;> try contradiction
  next fields =>
    cases h
    rw [strip_map, strip_map]
    cases entry with
    | none => rw [Option.elim_none, stripFields_erase_of_skipped hkey]
    | some value => rw [Option.elim_some, stripFields_insert_of_skipped hkey]

/-- A change on a level that keeps what is left there keeps what is left of the whole. -/
theorem strip_of_modify? {f : Value → Option Value}
    (hf : ∀ position old new, f old = some new → strip skip position new = strip skip position old)
    {path : Path} (hlevel : position.Level path) {before after : Value} (hwell : before.WellFormed)
    (h : before.modify? f path = some after) :
    strip skip position after = strip skip position before := by
  induction path generalizing position before after with
  | nil =>
    rw [Value.modify?_nil] at h
    exact hf position before after h
  | cons segment path ih =>
    obtain ⟨child, changed, hchild, hchanged, rfl⟩ := Value.exists_of_modify?_cons h
    have hformed : child.WellFormed := Value.wellFormed_of_child? hwell hchild
    cases before <;> cases segment <;> try contradiction
    case map.key fields name =>
      have hbelow : Position.Level .entry path := by cases position <;> exact hlevel
      have hsame : strip skip .entry changed = strip skip .entry child := ih hbelow hformed hchanged
      rw [Value.setChild, strip_map, strip_map, stripFields_insert hwell.1 hchild hsame]
    case list.index items i =>
      cases position with
      | item => contradiction
      | entry =>
        obtain ⟨place, hplace, hget⟩ := Option.bind_eq_some_iff.mp hchild
        have hsame : strip skip .item changed = strip skip .item child :=
          ih hlevel hformed hchanged
        rw [Value.setChild_index hplace, strip, strip, stripItems_set hget hsame]

theorem strip_of_edited {before after : Value}
    (h : Relation.ReflTransGen (EditedUnder skip) before after) :
    strip skip .item after = strip skip .item before := by
  induction h with
  | refl => rfl
  | tail _ hedit ih =>
    obtain ⟨hwell, path, key, entry, hlevel, hkey, hmodify⟩ := hedit
    rw [← ih]
    exact strip_of_modify? (fun _ _ _ ↦ strip_of_withEntry hkey) hlevel hwell hmodify

/-- Documents agree under a skip-set exactly when what is left of them agrees with nothing skipped,
and edits under skipped keys on either side keep the verdict. -/
theorem agree_strip (skip : SkipSet) (desired observed : Value) :
    agree skip desired observed =
        agree {} (strip skip .item desired) (strip skip .item observed) ∧
      ∀ desired' observed', Relation.ReflTransGen (EditedUnder skip) desired desired' →
        Relation.ReflTransGen (EditedUnder skip) observed observed' →
          agree skip desired' observed' = agree skip desired observed := by
  have herased (d o : Value) :
      agree skip d o = agree {} (strip skip .item d) (strip skip .item o) :=
    Bool.eq_iff_iff.mpr agree_iff_agree_strip
  refine ⟨herased desired observed, ?_⟩
  intro desired' observed' hdesired hobserved
  calc agree skip desired' observed'
      = agree {} (strip skip .item desired') (strip skip .item observed') :=
        herased desired' observed'
    _ = agree {} (strip skip .item desired) (strip skip .item observed) := by
        rw [strip_of_edited hdesired, strip_of_edited hobserved]
    _ = agree skip desired observed := (herased desired observed).symm

/-- A status that an observed container gets below a list, reached by an index from the end, and one
that the root loses. -/
theorem agree_strip_of_status :
    let skip : SkipSet := ⟨["status"]⟩
    let document (container root : Fields) : Value :=
      .map (("spec", .list [.map (("image", .string "router") :: container)]) :: root)
    let ready : Fields := [("status", .string "ready")]
    agree skip (document [] []) (document [] ready) = true ∧
      Relation.ReflTransGen (EditedUnder skip) (document [] ready) (document ready []) ∧
      agree skip (document [] []) (document ready []) = true := by
  intro skip document ready
  have hagree : agree skip (document [] []) (document [] ready) = true := by decide +kernel
  have hgains : EditedUnder skip (document [] ready) (document ready ready) := by
    refine ⟨⟨by decide, ⟨⟨by decide, trivial, trivial⟩, trivial⟩, trivial, trivial⟩, ?_⟩
    exact ⟨[.key "spec", .index (-1)], "status", some (.string "ready"), trivial, rfl, rfl⟩
  have hloses : EditedUnder skip (document ready ready) (document ready []) := by
    refine ⟨⟨by decide, ⟨⟨by decide, trivial, trivial, trivial⟩, trivial⟩, trivial, trivial⟩, ?_⟩
    exact ⟨[], "status", none, trivial, rfl, rfl⟩
  have hedits : Relation.ReflTransGen (EditedUnder skip) (document [] ready) (document ready []) :=
    .tail (.single hgains) hloses
  have hverdict := (agree_strip skip (document [] []) (document [] ready)).2 _ _ .refl hedits
  exact ⟨hagree, hedits, hverdict.trans hagree⟩

end ClusterRouter.Drift
