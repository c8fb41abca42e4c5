import ClusterRouter.Proofs.Drift.Embedding
import ClusterRouter.Proofs.Drift.Interchange

/-!
# Keys that only one document has

Where documents agree, maps at one place have the same keys that count, but for two kinds of places:
the root, and the items of a list that stands under a key. A map that is desired there may have
further keys. None of them is ever reported, so a field that is added to an item of a list is taken
for no drift.
-/

namespace ClusterRouter.Drift

variable {skip : SkipSet}

/-- The two maps have the same keys, skipped ones left out. -/
def SameKeys (skip : SkipSet) (wanted found : Fields) : Prop :=
  skip.retain (Fields.keys wanted) = skip.retain (Fields.keys found)

/-- All keys of the observed map that count are keys of the desired one. -/
def KeysWithin (skip : SkipSet) (found wanted : Fields) : Prop :=
  ∀ key ∈ skip.retain (Fields.keys found), key ∈ skip.retain (Fields.keys wanted)

theorem SameKeys.within {wanted found : Fields} (h : SameKeys skip wanted found) :
    KeysWithin skip found wanted := by
  intro key hkey
  exact h ▸ hkey

/-- Equal values have maps of the same keys at every path. -/
theorem sameKeys_of_beq {desired observed : Value} (hequal : (desired == observed) = true)
    {path : Path} {wanted found : Fields} (hwanted : desired.lookup path = some (.map wanted))
    (hfound : observed.lookup path = some (.map found)) : SameKeys skip wanted found := by
  have hsame := Value.lookup_beq hequal path
  rw [hwanted, hfound] at hsame
  have hfields : Value.equalFields wanted found = true := hsame
  rw [SameKeys, Value.keys_eq_of_equalFields hfields]

theorem Covers.keys_at {position : Position} {desired observed : Value} {path : Path}
    {wanted found : Fields} (h : Covers skip position desired observed)
    (hcounts : ∀ name, Segment.key name ∈ path → skip.contains name = false)
    (hwanted : desired.lookup path = some (.map wanted))
    (hfound : observed.lookup path = some (.map found)) :
    KeysWithin skip found wanted ∧ (¬position.Open path → SameKeys skip wanted found) := by
  induction path generalizing position desired observed with
  | nil =>
    cases (Value.lookup_nil desired).symm.trans hwanted
    cases (Value.lookup_nil observed).symm.trans hfound
    obtain ⟨entries, hentries, hkeys, hpresent⟩ := h.exists_map
    cases hentries
    refine ⟨?_, ?_⟩
    · intro key hkey
      obtain ⟨hmem, hskip⟩ := List.mem_filter.mp hkey
      obtain ⟨entry, hentry, rfl⟩ := List.mem_map.mp hmem
      obtain ⟨d, hd, -⟩ := hpresent entry hentry (by simpa using hskip)
      exact List.mem_filter.mpr ⟨Fields.mem_keys_of_get? hd, hskip⟩
    · intro hclosed
      cases position with
      | entry => exact hkeys rfl
      | item => exact absurd trivial hclosed
  | cons segment path ih =>
    obtain ⟨d, hd, hwanted⟩ := Value.exists_of_lookup_cons hwanted
    obtain ⟨o, ho, hfound⟩ := Value.exists_of_lookup_cons hfound
    obtain ⟨hstep, hrest⟩ := counts_cons_iff.mp hcounts
    obtain ⟨wantedChild, hchild, hbelow⟩ := h.child? hstep ho
    cases hd.symm.trans hchild
    rcases hbelow with hequal | ⟨below, hcovers, hopen⟩
    · have hsame : SameKeys skip wanted found := sameKeys_of_beq hequal hwanted hfound
      exact ⟨hsame.within, fun _ ↦ hsame⟩
    · obtain ⟨hwithin, hsame⟩ := ih hcovers hrest hwanted hfound
      exact ⟨hwithin, fun hclosed ↦ hsame fun hbelow ↦ hclosed (hopen path hbelow)⟩

/-- Maps of documents that agree have the same keys where no further ones are let pass, and where
they are, a field that is added to the desired map is never reported. -/
theorem keys_agree_unless_open {desired observed : Value} {path : Path} {wanted found : Fields}
    (hformed : desired.WellFormed)
    (hcounts : ∀ name, Segment.key name ∈ path → skip.contains name = false)
    (hwanted : desired.lookup path = some (.map wanted))
    (hfound : observed.lookup path = some (.map found))
    (h : mismatch? skip desired observed = none) :
    KeysWithin skip found wanted ∧
      (¬Position.Open .item path → SameKeys skip wanted found) ∧
      (Position.Open .item path → ∀ name value, Fields.get? wanted name = none →
        ∃ extended, desired.create? (path ++ [.key name]) value = some extended ∧
          mismatch? skip extended observed = none) := by
  have hagree {d : Value} : mismatch? skip d observed = none ↔ Covers skip .item d observed := by
    rw [← agree_iff_covers, agree, Option.isNone_iff_eq_none]
  have hcovers := hagree.mp h
  obtain ⟨hwithin, hsame⟩ := hcovers.keys_at hcounts hwanted hfound
  refine ⟨hwithin, hsame, ?_⟩
  intro hopen name value hmissing
  obtain ⟨extended, hextended⟩ := Option.isSome_iff_exists.mp
    ((Value.Creatable.entry hwanted).create?_isSome value)
  exact ⟨extended, hextended,
    hagree.mpr (hcovers.create? hopen hformed hwanted hmissing hextended)⟩

/-- A service that was given an address by the cluster. But for this skipped key its fields are the
desired ones, and a protocol that is put into its port is not seen. -/
theorem keys_agree_unless_open_of_service :
    let skip : SkipSet := ⟨["clusterIP"]⟩
    let port : Fields := [("port", .int 80)]
    let fields : Fields := [("ports", .list [.map port])]
    let live : Fields := ("clusterIP", .string "10.0.0.1") :: fields
    let desired : Value := .map [("spec", .map fields)]
    let observed : Value := .map [("spec", .map live)]
    let place : Path := [.key "spec", .key "ports", .index 0]
    desired.WellFormed ∧ mismatch? skip desired observed = none ∧ SameKeys skip fields live ∧
      ∃ extended, desired.create? (place ++ [.key "protocol"]) (.string "TCP") = some extended ∧
        mismatch? skip extended observed = none := by
  intro skip port fields live desired observed place
  have hkey (key : String) : [key].Pairwise (· < ·) := List.pairwise_singleton _ _
  have hformed : desired.WellFormed :=
    ⟨hkey "spec", ⟨hkey "ports", ⟨⟨hkey "port", trivial, trivial⟩, trivial⟩, trivial⟩, trivial⟩
  have hcounts : ∀ name, Segment.key name ∈ place → skip.contains name = false := by
    simp [place, skip, SkipSet.contains]
  have hspec : ∀ name, Segment.key name ∈ [Segment.key "spec"] → skip.contains name = false := by
    intro name hname
    exact hcounts name (List.mem_cons.mpr (.inl (List.mem_singleton.mp hname)))
  have hagree : mismatch? skip desired observed = none := rfl
  refine ⟨hformed, hagree, ?_, ?_⟩
  · exact (keys_agree_unless_open hformed hspec rfl rfl hagree).2.1 id
  · exact (keys_agree_unless_open hformed hcounts rfl rfl hagree).2.2 trivial "protocol" _ rfl

/-- A port of a service says its protocol in the desired document alone. -/
theorem ports_agree_with_extra_key :
    let desired : Value :=
      .map [("ports", .list [.map [("port", .int 80), ("protocol", .string "TCP")]])]
    let observed : Value := .map [("ports", .list [.map [("port", .int 80)]])]
    let path : Path := [.key "ports", .index 0]
    mismatch? {} desired observed = none ∧
      (∀ name, Segment.key name ∈ path → SkipSet.contains {} name = false) ∧
      ∃ wanted found, desired.lookup path = some (.map wanted) ∧
        observed.lookup path = some (.map found) ∧ ¬SameKeys {} wanted found := by
  intro desired observed path
  refine ⟨rfl, fun _ _ ↦ rfl, _, _, rfl, rfl, ?_⟩
  rw [SameKeys]
  decide

end ClusterRouter.Drift
