/-
Whether a selection is a full rectangle of builds and targets.

Every build that was asked for has to have an artifact for every target of the
selection, and every target has to hold the same number of artifacts. Builds are
looked at in the order asked for, before any target is counted; the target that the
others are compared with is the first one.
-/
import ReleasePipeline.Catalog

set_option autoImplicit false

namespace ReleasePipeline

/-- Why a selection is no rectangle. -/
inductive SelectionError where
  /-- A build has no artifact at all; the targets are those it ought to have. -/
  | noTargets (targets : List String)
  | missingTargets (build : String) (missing : List String)
  | unevenTargets (target : String) (found : Nat) (reference : String) (expected : Nat)
  deriving DecidableEq

/-- A noun in the number of things it counts. -/
def pluralize (word : String) (count : Nat) : String :=
  if count = 1 then word else word ++ "s"

/-- The wording of the error. -/
def SelectionError.message : SelectionError → String
  | .noTargets targets =>
    "no targets found for " ++ pluralize "build" targets.length ++ " " ++ ", ".intercalate targets
  | .missingTargets build missing =>
    "build " ++ build ++ " is missing os-arch " ++ pluralize "target" missing.length ++ " "
      ++ ", ".intercalate missing
  | .unevenTargets target found reference expected =>
    "os-arch target " ++ target ++ " has " ++ toString found ++ " artifacts, " ++ reference
      ++ " has " ++ toString expected

namespace TargetGroups

/-- The group of one target holds an artifact of the build. -/
def covers (id : String) (group : List Artifact) : Bool := group.any (·.id == id)

/-- The targets for which a build has no artifact. -/
def missing (g : TargetGroups) (id : String) : List String :=
  (g.toList.filter fun (_, group) => !covers id group).map Prod.fst

/-- What is wrong with the coverage of one build. -/
def coverageError? (g : TargetGroups) (id : String) : Option SelectionError :=
  let missing := g.missing id
  if missing.isEmpty then none
  else if missing.length = g.size then some (.noTargets g.keys)
  else some (.missingTargets id missing)

/-- The first target with another number of artifacts than the first one. -/
def sizeError? (g : TargetGroups) : Option SelectionError :=
  match g.toList with
  | [] => none
  | (reference, first) :: rest =>
    (rest.find? fun (_, group) => group.length != first.length).map fun (target, group) =>
      .unevenTargets target group.length reference first.length

/-- The first fault of the selection. -/
def rectangularError? (g : TargetGroups) : Option SelectionError :=
  match g.ids.findSome? g.coverageError? with
  | some e => some e
  | none => g.sizeError?

/-- Accepts full rectangles, the empty one among them. -/
def validate (g : TargetGroups) : Except SelectionError Unit :=
  match g.rectangularError? with
  | some e => .error e
  | none => .ok ()

end TargetGroups

end ReleasePipeline
