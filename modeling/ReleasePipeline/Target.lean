/-
Target platforms.

A target is an operating system, an architecture, and for the `arm` architecture
possibly a revision. Its key, `os-arch`, is the text under which artifacts of one
target are found together.
-/

set_option autoImplicit false

namespace ReleasePipeline

/-- An operating system and an architecture. -/
structure Target where
  os : String := ""
  arch : String := ""
  armVersion : Option UInt32 := none
  deriving DecidableEq, Inhabited

namespace Target

/-- The architecture, with the revision appended (`armv7`) when the architecture is
`arm` and the revision is there and not zero. -/
def archName (t : Target) : String :=
  match t.armVersion with
  | some v => if t.arch = "arm" ∧ v > 0 then t.arch ++ "v" ++ toString v else t.arch
  | none => t.arch

/-- `os-arch`, the architecture with its revision. -/
def key (t : Target) : String := t.os ++ "-" ++ t.archName

instance : ToString Target := ⟨key⟩

/-- Without an ARM version there is only the architecture. -/
@[simp] theorem archName_none (os arch : String) : archName ⟨os, arch, none⟩ = arch := rfl

end Target

end ReleasePipeline
