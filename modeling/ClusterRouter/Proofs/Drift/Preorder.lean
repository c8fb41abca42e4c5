import ClusterRouter.Proofs.Drift.Comparison
import Mathlib.Data.List.Sort

/-!
# Agreement is a preorder

Agreement under a skip-set holds of equal documents and is transitive. It is not symmetric, as the
desired document may have keys of its own at its root and in the items of its lists; but documents
that agree in both directions while nothing is skipped are equal. Equality here is that of values,
so NaN agrees with nothing and an integer with every floating point number of its exact value.
-/

namespace ClusterRouter.Drift

variable {skip : SkipSet} {position : Position}

theorem Covers.trans {a b c : Value} (hab : Covers skip position a b)
    (hbc : Covers skip position b c) : Covers skip position a c := by
  induction hab generalizing c with
  | whole hwhole hequal =>
    obtain ⟨-, hplain⟩ := plain_of_whole hwhole hequal
    obtain ⟨hwhole', hequal'⟩ := hbc.whole_of_plain hplain
    obtain ⟨-, hplain'⟩ := plain_of_whole hwhole' hequal'
    exact .whole (hplain'.whole _) (Value.beq_trans hequal hequal')
  | list hlength hitems ih =>
    obtain ⟨items, rfl, hlength', hitems'⟩ := hbc.exists_list
    refine .list (hlength.trans hlength') ?_
    intro n d o hd ho
    have hlt : n < _ := (List.getElem?_eq_some_iff.mp hd).1
    rw [hlength] at hlt
    exact ih n d _ hd (List.getElem?_eq_getElem hlt)
      (hitems' n _ o (List.getElem?_eq_getElem hlt) ho)
  | @map position desired middle hkeys hpresent hentries ih =>
    obtain ⟨entries, rfl, hkeys', hentries'⟩ := hbc.exists_map
    apply Covers.of_entries
    · intro hentry
      rw [hkeys hentry, hkeys' hentry]
    · intro entry hmem hskip
      obtain ⟨m, hm, hcovers⟩ := hentries' entry hmem hskip
      have hmiddle : (entry.1, m) ∈ middle := Fields.mem_of_get? hm
      obtain ⟨d, hd⟩ := Option.isSome_iff_exists.mp (hpresent _ hmiddle hskip)
      exact ⟨d, hd, ih _ hmiddle hskip d hd hcovers⟩

/-- Two maps that have entries under each other's keys have the same keys. -/
theorem keys_eq_of_covers (hnone : ∀ key, skip.contains key = false) {xs ys : Fields}
    (hxs : Fields.Ascending xs) (hys : Fields.Ascending ys)
    (hxy : ∀ entry ∈ ys, skip.contains entry.1 = false → (Fields.get? xs entry.1).isSome)
    (hyx : ∀ entry ∈ xs, skip.contains entry.1 = false → (Fields.get? ys entry.1).isSome) :
    Fields.keys xs = Fields.keys ys := by
  have hmem {us vs : Fields}
      (h : ∀ entry ∈ vs, skip.contains entry.1 = false → (Fields.get? us entry.1).isSome)
      {key : String} (hkey : key ∈ Fields.keys vs) : key ∈ Fields.keys us := by
    obtain ⟨entry, hentry, rfl⟩ := List.mem_map.mp hkey
    obtain ⟨value, hvalue⟩ := Option.isSome_iff_exists.mp (h entry hentry (hnone entry.1))
    exact Fields.mem_keys_of_get? hvalue
  apply List.Pairwise.eq_of_mem_iff hxs hys
  intro key
  exact ⟨hmem hyx, hmem hxy⟩

/-- Where nothing is skipped, values that cover each other are equal. -/
theorem beq_of_covers (hnone : ∀ key, skip.contains key = false) {a b : Value}
    (ha : a.WellFormed) (hb : b.WellFormed) (hab : Covers skip position a b)
    (hba : Covers skip position b a) : (a == b) = true := by
  induction hab with
  | whole _ hequal => exact hequal
  | list hlength hitems ih =>
    obtain ⟨items, hsame, -, hback⟩ := hba.exists_list
    cases hsame
    apply Value.equalItems_of_getElem? hlength
    intro n d o hd ho
    exact ih n d o hd ho (Value.WellFormed.getElem? ha hd) (Value.WellFormed.getElem? hb ho)
      (hback n o d ho hd)
  | @map position desired observed hkeys hpresent hentries ih =>
    obtain ⟨entries, hsame, -, hback⟩ := hba.exists_map
    cases hsame
    have hpresent' (entry : String × Value) (hmem : entry ∈ desired)
        (hskip : skip.contains entry.1 = false) : (Fields.get? observed entry.1).isSome := by
      obtain ⟨o, ho, -⟩ := hback entry hmem hskip
      exact Option.isSome_of_mem ho
    apply Value.equalFields_of_entries hb.1
    · exact keys_eq_of_covers hnone ha.1 hb.1 hpresent hpresent'
    · intro entry hmem d hd
      have hskip : skip.contains entry.1 = false := hnone entry.1
      obtain ⟨o, ho, hcovers⟩ := hback _ (Fields.mem_of_get? hd) hskip
      cases (Fields.get?_of_mem hb.1 hmem).symm.trans ho
      exact ih entry hmem hskip d hd (Value.WellFormed.get? ha.2 hd)
        (Value.WellFormed.get? hb.2 ho) hcovers

/-- Agreement is reflexive on what holds no NaN and holds of equal documents, it is transitive, and
where nothing is skipped documents agree both ways exactly when they are equal. -/
theorem agree_preorder (skip : SkipSet) :
    (∀ a : Value, a.WellFormed → a.hasNaN = false → agree skip a a = true) ∧
      (∀ a b : Value, b.WellFormed → (a == b) = true → agree skip a b = true) ∧
      (∀ a b c, agree skip a b = true → agree skip b c = true → agree skip a c = true) ∧
      ∀ a b : Value, a.WellFormed → b.WellFormed →
        ((agree {} a b = true ∧ agree {} b a = true) ↔ (a == b) = true) := by
  have hequal (skip : SkipSet) (a b : Value) (hb : b.WellFormed) (h : (a == b) = true) :
      agree skip a b = true :=
    agree_iff_covers.mpr (covers_of_equal skip b a hb h .item)
  refine ⟨?_, hequal skip, ?_, ?_⟩
  · intro a ha hnumber
    exact hequal skip a a ha (Value.beq_self hnumber)
  · intro a b c hab hbc
    rw [agree_iff_covers] at hab hbc ⊢
    exact hab.trans hbc
  · intro a b ha hb
    constructor
    · rintro ⟨hab, hba⟩
      have hnone (key : String) : ({} : SkipSet).contains key = false := rfl
      exact beq_of_covers hnone ha hb (agree_iff_covers.mp hab) (agree_iff_covers.mp hba)
    · intro h
      exact ⟨hequal {} a b hb h, hequal {} b a ha ((Value.beq_comm b a).trans h)⟩

/-- The integer 80 and the floating point number 80 in documents of fewer and fewer keys. -/
theorem agree_preorder_of_numbers :
    let skip : SkipSet := ⟨["status"]⟩
    let whole : Value := .map [("host", .null), ("port", .int 80)]
    let point : Value := .map [("port", .float ⟨0x4054000000000000⟩)]
    let status : Value := .map [("port", .int 80), ("status", .list [])]
    whole.WellFormed ∧ whole.hasNaN = false ∧ status.WellFormed ∧
      agree skip whole whole = true ∧ agree skip whole point = true ∧
      agree skip point status = true ∧ agree skip whole status = true ∧
      agree {} point (.map [("port", .int 80)]) = true := by
  intro skip whole point status
  have hwhole : whole.WellFormed := ⟨by decide, trivial, trivial, trivial⟩
  have hstatus : status.WellFormed := ⟨by decide, trivial, trivial, trivial⟩
  have hnarrow : Value.WellFormed (.map [("port", .int 80)]) := ⟨by decide, trivial, trivial⟩
  have hpoint : point.WellFormed := ⟨by decide, trivial, trivial⟩
  have hfirst : agree skip whole point = true := by decide +kernel
  have hsecond : agree skip point status = true := by decide +kernel
  have hequal : (point == .map [("port", .int 80)]) = true := by decide +kernel
  obtain ⟨hself, -, htrans, hkernel⟩ := agree_preorder skip
  exact ⟨hwhole, rfl, hstatus, hself whole hwhole rfl, hfirst, hsecond,
    htrans whole point status hfirst hsecond, ((hkernel _ _ hpoint hnarrow).mpr hequal).1⟩

end ClusterRouter.Drift
