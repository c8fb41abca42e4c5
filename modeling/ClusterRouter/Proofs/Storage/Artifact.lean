import Mathlib.Tactic.Common
import ClusterRouter.Storage.Artifact

/-!
# Temporary files that can be made

What a place says to the name and to the contents of an artifact decides whether its file can be
made, and a file that is made is the artifact itself.
-/

namespace ClusterRouter.ArtifactPlace

/-- A temporary file can be made: nothing stands against its name, and its contents find room. -/
structure Takes (place : ArtifactPlace) (artifact : Artifact) : Prop where
  free : place.obstacle? artifact.path = none
  room : place.shortage? artifact = none

variable {place : ArtifactPlace} {artifact file : Artifact}

theorem takes_iff :
    place.Takes artifact ↔
      place.obstacle? artifact.path = none ∧ place.shortage? artifact = none :=
  ⟨fun h ↦ ⟨h.free, h.room⟩, fun h ↦ ⟨h.1, h.2⟩⟩

instance : Decidable (place.Takes artifact) := decidable_of_iff' _ takes_iff

theorem create_eq_ok_iff :
    place.create artifact = .ok file ↔ place.Takes artifact ∧ file = artifact := by
  rw [takes_iff, create]
  cases place.obstacle? artifact.path <;> cases place.shortage? artifact <;> simp [eq_comm]

end ClusterRouter.ArtifactPlace
