/-
The catalog: every artifact of a run, in the order of production.

Artifacts are only ever added at the end. Modules select from the catalog by build
name, leaving out whole targets; a selection comes grouped by target.
-/
import ReleasePipeline.Artifact
import ReleasePipeline.Sorted

set_option autoImplicit false

namespace ReleasePipeline

/-- Artifacts in the order of production. -/
structure Catalog where
  artifacts : List Artifact := []
  deriving DecidableEq, Inhabited

/-- A selection of artifacts, grouped by target key. -/
structure TargetGroups where
  /-- The builds that were asked for. -/
  ids : List String
  groups : Table String (List Artifact)

namespace Catalog

/-- Records an artifact. -/
def add (c : Catalog) (a : Artifact) : Catalog := ⟨c.artifacts ++ [a]⟩

/-- Records several artifacts. -/
def addAll (c : Catalog) (as : List Artifact) : Catalog := ⟨c.artifacts ++ as⟩

/-- The number of artifacts. -/
def size (c : Catalog) : Nat := c.artifacts.length

/-- The artifacts of one build, in the order of production. -/
def byId (c : Catalog) (id : String) : List Artifact := c.artifacts.filter (·.id == id)

/-! ## Selecting -/

/-- An artifact belongs to the selection of `ids` without the targets `skip`. -/
def selects (ids skip : List String) (a : Artifact) : Bool :=
  ids.contains a.id && !skip.contains a.key

/-- Marks the selected artifacts as packed in the given way. -/
def setPacking (c : Catalog) (ids skip : List String) (packing : Packing) : Catalog :=
  ⟨c.artifacts.map fun a => if selects ids skip a then { a with packing } else a⟩

/-- The number of selected artifacts. -/
def countSelected (c : Catalog) (ids skip : List String) : Nat :=
  c.artifacts.countP (selects ids skip)

/-- Appends an artifact to the group of its key. -/
def groupOne (skip : List String) (groups : Table String (List Artifact)) (a : Artifact) :
    Table String (List Artifact) :=
  if skip.contains a.key then groups
  else groups.upsert a.key fun group => group.getD [] ++ [a]

/-- The artifacts of the given builds by target key, without the targets `skip`. Builds
are gone through in the order asked for, and the artifacts of each in the order of
production. -/
def group (c : Catalog) (ids skip : List String) : TargetGroups where
  ids := ids
  groups := ids.foldl (fun groups id => (c.byId id).foldl (groupOne skip) groups) .empty

/-- An artifact is recorded behind the others. -/
@[simp] theorem artifacts_add (c : Catalog) (a : Artifact) :
    (c.add a).artifacts = c.artifacts ++ [a] := rfl

/-- Artifacts are recorded in the order in which they are given. -/
@[simp] theorem artifacts_addAll (c : Catalog) (as : List Artifact) :
    (c.addAll as).artifacts = c.artifacts ++ as := rfl

end Catalog

namespace TargetGroups

/-- The target keys, ascending. -/
def keys (g : TargetGroups) : List String := g.groups.keys

/-- The artifacts of one target. -/
def get? (g : TargetGroups) (key : String) : Option (List Artifact) := g.groups.find? key

/-- Target keys with their artifacts, ascending by key. -/
def toList (g : TargetGroups) : List (String × List Artifact) := g.groups.toList

/-- The number of targets. -/
def size (g : TargetGroups) : Nat := g.groups.size

/-- Whether nothing was selected. -/
def isEmpty (g : TargetGroups) : Bool := g.groups.isEmpty

/-- All selected artifacts, target by target. -/
def artifacts (g : TargetGroups) : List Artifact := g.groups.values.flatten

end TargetGroups

end ReleasePipeline
