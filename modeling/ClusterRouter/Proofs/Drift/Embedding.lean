import ClusterRouter.Proofs.Drift.Comparison

/-!
# Observed documents embed in desired ones

Where a comparison finds no mismatch, every path of the observed document that goes through no
skipped key leads somewhere in the desired one, and the two values met there are lists of one
length, maps, or equal. So no observed scalar that differs is ever passed over.
-/

namespace ClusterRouter.Drift

variable {skip : SkipSet}

/-- What a desired value has in common with an observed one at the same place. -/
def Meets (desired : Value) : Value → Prop
  | .list items => ∃ wanted, desired = .list wanted ∧ wanted.length = items.length
  | .map _ => ∃ wanted, desired = .map wanted
  | observed => (desired == observed) = true

/-- The values agree at some position, or as a whole. -/
def Agrees (skip : SkipSet) (desired observed : Value) : Prop :=
  (desired == observed) = true ∨ ∃ position, Covers skip position desired observed

theorem Covers.agrees {position : Position} {desired observed : Value}
    (h : Covers skip position desired observed) : Agrees skip desired observed :=
  .inr ⟨position, h⟩

theorem meets_of_beq {desired observed : Value} (h : (desired == observed) = true) :
    Meets desired observed := by
  cases observed with
  | list items =>
    obtain ⟨wanted, rfl, hitems⟩ := Value.exists_list_of_beq ((Value.beq_comm _ _).trans h)
    exact ⟨wanted, rfl, (Value.length_eq_of_equalItems hitems).symm⟩
  | map fields =>
    obtain ⟨wanted, rfl, -⟩ := Value.exists_map_of_beq ((Value.beq_comm _ _).trans h)
    exact ⟨wanted, rfl⟩
  | _ => exact h

theorem Agrees.meets {desired observed : Value} (h : Agrees skip desired observed) :
    Meets desired observed := by
  rcases h with hequal | ⟨position, hcovers⟩
  · exact meets_of_beq hequal
  · cases hcovers with
    | whole _ hequal => exact meets_of_beq hequal
    | list hlength => exact ⟨_, rfl, hlength⟩
    | map => exact ⟨_, rfl⟩

/-- A step into one of two equal values leads to an equal value in the other one. -/
theorem exists_child?_of_beq {desired observed child : Value} {segment : Segment}
    (hequal : (desired == observed) = true) (hchild : observed.child? segment = some child) :
    ∃ wanted, desired.child? segment = some wanted ∧ (wanted == child) = true := by
  have hbeq := Value.child?_beq hequal segment
  rw [hchild] at hbeq
  rcases Value.cases_of_option_beq hbeq with ⟨-, hnone⟩ | ⟨wanted, o, hwanted, ho, hsame⟩
  · contradiction
  · cases ho
    exact ⟨wanted, hwanted, hsame⟩

/-- A step into an observed value leads somewhere in one that covers it. What is found there covers
what is observed, unless the two are equal, and is open where the whole is. -/
theorem Covers.child? {position : Position} {desired observed child : Value} {segment : Segment}
    (h : Covers skip position desired observed)
    (hcounts : ∀ name, segment = .key name → skip.contains name = false)
    (hchild : observed.child? segment = some child) :
    ∃ wanted, desired.child? segment = some wanted ∧
      ((wanted == child) = true ∨ ∃ below, Covers skip below wanted child ∧
        ∀ path, below.Open path → position.Open (segment :: path)) := by
  cases h with
  | whole _ hequal =>
    obtain ⟨wanted, hwanted, hsame⟩ := exists_child?_of_beq hequal hchild
    exact ⟨wanted, hwanted, .inl hsame⟩
  | @list wanted items hlength hitems =>
    cases segment with
    | key => contradiction
    | index i =>
      obtain ⟨place, hplace, hget⟩ := Option.bind_eq_some_iff.mp hchild
      have hlt : place < wanted.length := by
        rw [hlength]
        exact resolveIndex_lt hplace
      have hwanted : wanted[place]? = some wanted[place] := List.getElem?_eq_getElem hlt
      refine ⟨wanted[place], ?_, .inr ⟨.item, hitems place _ child hwanted hget, ?_⟩⟩
      · rw [Value.child?, hlength, hplace, Option.bind_some, hwanted]
      · exact fun _ hopen ↦ hopen
  | @map position wanted fields hkeys hpresent hentries =>
    cases segment with
    | index => contradiction
    | key name =>
      have hmem : (name, child) ∈ fields := Fields.mem_of_get? hchild
      have hskip : skip.contains name = false := hcounts name rfl
      obtain ⟨d, hd⟩ := Option.isSome_iff_exists.mp (hpresent _ hmem hskip)
      refine ⟨d, hd, .inr ⟨.entry, hentries _ hmem hskip d hd, ?_⟩⟩
      intro path hopen
      cases position <;> exact hopen

theorem Agrees.child? {desired observed child : Value} (h : Agrees skip desired observed)
    {segment : Segment} (hcounts : ∀ name, segment = .key name → skip.contains name = false)
    (hchild : observed.child? segment = some child) :
    ∃ wanted, desired.child? segment = some wanted ∧ Agrees skip wanted child := by
  rcases h with hequal | ⟨position, hcovers⟩
  · obtain ⟨wanted, hwanted, hsame⟩ := exists_child?_of_beq hequal hchild
    exact ⟨wanted, hwanted, .inl hsame⟩
  · obtain ⟨wanted, hwanted, hsame | ⟨below, hbelow, -⟩⟩ := hcovers.child? hcounts hchild
    · exact ⟨wanted, hwanted, .inl hsame⟩
    · exact ⟨wanted, hwanted, hbelow.agrees⟩

theorem Agrees.lookup {desired observed found : Value} (h : Agrees skip desired observed)
    {path : Path} (hpath : ∀ name, Segment.key name ∈ path → skip.contains name = false)
    (hfound : observed.lookup path = some found) :
    ∃ wanted, desired.lookup path = some wanted ∧ Agrees skip wanted found := by
  induction path generalizing desired observed with
  | nil =>
    rw [Value.lookup_nil] at hfound
    cases hfound
    exact ⟨desired, Value.lookup_nil desired, h⟩
  | cons segment path ih =>
    obtain ⟨child, hchild, hrest⟩ := Value.exists_of_lookup_cons hfound
    obtain ⟨hcounts, hbelow⟩ := counts_cons_iff.mp hpath
    obtain ⟨wanted, hwanted, hagrees⟩ := h.child? hcounts hchild
    obtain ⟨deep, hdeep, hmeets⟩ := ih hagrees hbelow hrest
    refine ⟨deep, ?_, hmeets⟩
    rw [Value.lookup_cons, hwanted, Option.bind_some, hdeep]

theorem agrees_of_mismatch? {desired observed : Value}
    (h : mismatch? skip desired observed = none) : Agrees skip desired observed := by
  have hagree : agree skip desired observed = true := by rw [agree, h, Option.isNone_none]
  exact (agree_iff_covers.mp hagree).agrees

/-- Where no mismatch is found, a path through the observed document alone leads to values that
meet. A scalar that is missing or another one in the desired document makes a mismatch. -/
theorem observed_embeds {desired observed found : Value} {path : Path}
    (hpath : ∀ name, Segment.key name ∈ path → skip.contains name = false)
    (hfound : observed.lookup path = some found) :
    (mismatch? skip desired observed = none →
        ∃ wanted, desired.lookup path = some wanted ∧ Meets wanted found) ∧
      (found.isContainer = false →
        (∀ wanted, desired.lookup path = some wanted → (wanted == found) = false) →
          ∃ mismatch, mismatch? skip desired observed = some mismatch) := by
  have hmeets (h : mismatch? skip desired observed = none) :
      ∃ wanted, desired.lookup path = some wanted ∧ Meets wanted found := by
    obtain ⟨wanted, hwanted, hagrees⟩ := (agrees_of_mismatch? h).lookup hpath hfound
    exact ⟨wanted, hwanted, hagrees.meets⟩
  refine ⟨hmeets, ?_⟩
  intro hscalar hdiffers
  apply Option.ne_none_iff_exists'.mp
  intro hnone
  obtain ⟨wanted, hwanted, hmeet⟩ := hmeets hnone
  have hequal : (wanted == found) = true := by
    cases found <;> first | exact hmeet | contradiction
  rw [hdiffers wanted hwanted] at hequal
  contradiction

/-- A port that differs below a list, which is reached by an index counted from the end. -/
theorem observed_embeds_of_port :
    let skip : SkipSet := ⟨["status"]⟩
    let service (port : Int64) : Value :=
      .map [("ports", .list [.map [("name", .string "http"), ("port", .int port)]])]
    let observed : Value :=
      .map [("ports", .list [.map [("port", .int 80)]]), ("status", .null)]
    let path : Path := [.key "ports", .index (-1), .key "port"]
    (∀ name, Segment.key name ∈ path → skip.contains name = false) ∧
      observed.lookup path = some (.int 80) ∧
      (∃ wanted, (service 80).lookup path = some wanted ∧ Meets wanted (.int 80)) ∧
      ∃ mismatch, mismatch? skip (service 81) observed = some mismatch := by
  intro skip service observed path
  have hpath : ∀ name, Segment.key name ∈ path → skip.contains name = false := by
    intro name hname
    rcases List.mem_cons.mp hname with hfirst | hrest
    · cases hfirst
      decide
    · rcases List.mem_cons.mp hrest with hindex | hlast
      · contradiction
      · cases List.mem_singleton.mp hlast
        decide
  have hfound : observed.lookup path = some (.int 80) := rfl
  refine ⟨hpath, hfound, (observed_embeds hpath hfound).1 rfl, ?_⟩
  refine (observed_embeds hpath hfound).2 rfl ?_
  intro wanted hwanted
  cases hwanted
  rfl

end ClusterRouter.Drift
