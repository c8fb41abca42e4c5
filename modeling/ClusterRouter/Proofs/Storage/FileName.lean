import Mathlib.Tactic.Common
import ClusterRouter.Storage.FileName

/-!
# Names of files beside each other

A name with an ending that has no slash has the steps of the name, with the ending at the last one.
An ending of three characters or more makes a step of its own kind: it neither stays in place nor
goes up, and the name means no directory.
-/

namespace ClusterRouter

theorem splitName_ne_nil (name : List Char) : splitName name ≠ [] := by
  cases name with
  | nil => exact List.cons_ne_nil _ _
  | cons c rest =>
    rw [splitName]
    split
    · exact List.cons_ne_nil _ _
    · split <;> exact List.cons_ne_nil _ _

/-- The steps of a name before the last one; the last one is empty behind a slash. -/
def leadingSteps (name : String) : List (List Char) := (splitName name.toList).dropLast

def finalStep (name : String) : List Char := (splitName name.toList).getLastD []

theorem splitName_eq (name : String) :
    splitName name.toList = leadingSteps name ++ [finalStep name] := by
  have hsteps := splitName_ne_nil name.toList
  rw [leadingSteps, finalStep, List.getLastD_eq_getLast?, List.getLast?_eq_some_getLast hsteps]
  exact (List.dropLast_concat_getLast hsteps).symm

theorem splitName_of_noSlash {ending : List Char} (h : '/' ∉ ending) :
    splitName ending = [ending] := by
  induction ending with
  | nil => rfl
  | cons c rest ih =>
    obtain ⟨hc, hrest⟩ : '/' ≠ c ∧ '/' ∉ rest := by simpa using h
    rw [splitName, if_neg (Ne.symm hc), ih hrest]

/-- What has no slash goes to the last step. -/
theorem splitName_append {ending : List Char} (h : '/' ∉ ending) (name : List Char) :
    splitName (name ++ ending) =
      (splitName name).dropLast ++ [(splitName name).getLastD [] ++ ending] := by
  induction name with
  | nil => exact splitName_of_noSlash h
  | cons c rest ih =>
    rw [List.cons_append, splitName, splitName]
    cases hsteps : splitName rest with
    | nil => exact absurd hsteps (splitName_ne_nil rest)
    | cons first more =>
      rw [hsteps] at ih
      split
      · rw [ih]
        rfl
      · cases more <;> simp [ih]

/-- What is added to a name to make that of a file beside it. -/
structure IsEnding (ending : String) : Prop where
  noSlash : '/' ∉ ending.toList
  long : 2 < ending.toList.length

/-- An ending makes a step too long to stay in place or to go up. -/
theorem IsEnding.append_ne {ending : String} (h : IsEnding ending) (last : List Char)
    {step : List Char} (hstep : step.length ≤ 2) : last ++ ending.toList ≠ step := by
  have hlong := h.long
  rintro rfl
  rw [List.length_append] at hstep
  omega

theorem leadingSteps_append {ending : String} (h : IsEnding ending) (name : String) :
    leadingSteps (name ++ ending) = leadingSteps name := by
  simp only [leadingSteps, String.toList_append, splitName_append h.noSlash, List.dropLast_concat]

theorem finalStep_append {ending : String} (h : IsEnding ending) (name : String) :
    finalStep (name ++ ending) = finalStep name ++ ending.toList := by
  simp only [finalStep, String.toList_append, splitName_append h.noSlash, List.getLastD_concat]

theorem isAbsolute_append {ending : String} (h : IsEnding ending) (name : String) :
    isAbsolute (name ++ ending) = isAbsolute name := by
  rw [isAbsolute, isAbsolute, String.toList_append]
  cases name.toList with
  | nil =>
    cases hending : ending.toList with
    | nil => rfl
    | cons c rest =>
      have hslash := h.noSlash
      rw [hending] at hslash
      have hc : c ≠ '/' := (List.ne_and_not_mem_of_not_mem_cons hslash).1.symm
      simpa using hc
  | cons c rest => rfl

theorem namesDirectory_append {ending : String} (h : IsEnding ending) (name : String) :
    namesDirectory (name ++ ending) = false := by
  have hlong := h.long
  rw [namesDirectory, String.toList_append, List.getLast?_append]
  cases hlast : ending.toList.getLast? with
  | none =>
    rw [List.getLast?_eq_none_iff.mp hlast] at hlong
    contradiction
  | some c =>
    have hslash : c ≠ '/' := fun heq ↦ h.noSlash (heq ▸ List.mem_of_getLast? hlast)
    simpa using hslash

end ClusterRouter
