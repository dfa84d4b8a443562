/-
From a YAML text to the value of its one document.

A reference stands for the node that carries its anchor, which is read again in its
place. Anchors are numbered as they appear, and a reference stores the number; an anchor
of a name that was there before gets the number that the next new name will get as well,
and the node that had a number last is the one that is meant.

Nesting beyond 128 collections is refused, and so are references that would be followed
more than a hundred times for each event of the document. A mapping with two keys that
are the same is refused.
-/
import ReleasePipeline.Yaml.Event
import ReleasePipeline.Yaml.Scalar
import ReleasePipeline.Yaml.Token.Scan

set_option autoImplicit false

namespace ReleasePipeline.Yaml

/-! ## Anchors -/

/-- An event in which a reference has the number of its anchor. -/
inductive Step where
  | scalar (tag : Option TagOctets) (text : List Char) (plain : Bool)
  | sequenceStart (tag : Option TagOctets)
  | mappingStart (tag : Option TagOctets)
  | finish
  | jump (number : Nat)
  deriving Inhabited

/-- The anchors seen so far. -/
structure Anchors where
  /-- The names, each once, with their numbers. -/
  names : List (String × Nat) := []
  /-- The places of the nodes that had a number, the latest first. -/
  places : List (Nat × Nat) := []

/-- Notes that the node at `place` carries an anchor. -/
def Anchors.add (a : Anchors) (name : String) (place : Nat) : Anchors :=
  let number := a.names.length
  { names := if (a.names.lookup name).isSome
      then a.names.map fun row => if row.1 = name then (name, number) else row
      else a.names ++ [(name, number)]
    places := (number, place) :: a.places }

/-- Notes the anchor of a node, if it has one. -/
def Anchors.note (a : Anchors) (p : Properties) (place : Nat) : Anchors :=
  match p.anchor with
  | some name => a.add name place
  | none => a

/-- Replaces names by numbers; a reference to a name that has not been seen is refused.
`place` events come before the first one. -/
def link? : Nat → Anchors → List Event → Option (List Step × Anchors)
  | _, a, [] => some ([], a)
  | place, a, .scalar p text plain :: rest =>
    (link? (place + 1) (a.note p place) rest).map fun (steps, a) =>
      (.scalar p.tag text plain :: steps, a)
  | place, a, .sequenceStart p :: rest =>
    (link? (place + 1) (a.note p place) rest).map fun (steps, a) =>
      (.sequenceStart p.tag :: steps, a)
  | place, a, .mappingStart p :: rest =>
    (link? (place + 1) (a.note p place) rest).map fun (steps, a) =>
      (.mappingStart p.tag :: steps, a)
  | place, a, .finish :: rest =>
    (link? (place + 1) a rest).map fun (steps, a) => (.finish :: steps, a)
  | place, a, .reference name :: rest =>
    match a.names.lookup name with
    | none => none
    | some number => (link? (place + 1) a rest).map fun (steps, a) => (.jump number :: steps, a)

/-! ## Values -/

/-- Reads a value, given the steps to read and the number of references followed so far,
and tells what is left and how many have been followed then. -/
abbrev StepReader (α : Type) := List Step → Nat → Option (α × List Step × Nat)

/-- Reads items up to the end of their sequence. -/
def readItems? (item : StepReader Value) : Nat → StepReader (List Value)
  | 0, _, _ => none
  | _ + 1, .finish :: rest, jumps => some ([], rest, jumps)
  | budget + 1, steps, jumps => do
    let (value, rest, jumps) ← item steps jumps
    let (values, rest, jumps) ← readItems? item budget rest jumps
    some (value :: values, rest, jumps)

/-- Reads entries up to the end of their mapping; `before` holds those read so far, the last one
first. -/
def readEntries? (item : StepReader Value) : Nat → Entries → StepReader Entries
  | 0, _, _, _ => none
  | _ + 1, before, .finish :: rest, jumps => some (before.reverse, rest, jumps)
  | budget + 1, before, steps, jumps => do
    let (key, rest, jumps) ← item steps jumps
    if (before.find? key).isSome then none
    else
      let (value, rest, jumps) ← item rest jumps
      readEntries? item budget ((key, value) :: before) rest jumps

/-- Puts the name of a tag that the document sets itself around a value. -/
def withTag (tag : Option TagOctets) (v : Value) : Value :=
  match tag.bind ownTag? with
  | some name => .tagged name v
  | none => v

/-- Reads a node that is no reference. `deeper` reads what is nested in it, if anything may
be; no collection has as many members as `bound`. -/
def readNode? (bound : Nat) (deeper : Option (StepReader Value)) : StepReader Value
  | .scalar tag text plain :: rest, jumps =>
    match tag.bind ownTag? with
    | some name =>
      (resolveScalar? none text plain).map fun v => (.tagged name v, rest, jumps)
    | none => (resolveScalar? tag text plain).map fun v => (v, rest, jumps)
  | .sequenceStart tag :: rest, jumps => do
    let (items, after, jumps) ← readItems? (← deeper) bound rest jumps
    some (withTag tag (.list items), after, jumps)
  | .mappingStart tag :: rest, jumps => do
    let (entries, after, jumps) ← readEntries? (← deeper) bound [] rest jumps
    some (withTag tag (.map entries), after, jumps)
  | _, _ => none

/-- The steps of a document and the places of its anchors. -/
structure Linked where
  steps : List Step
  places : List (Nat × Nat)
  /-- The number of steps. -/
  count : Nat

/-- Reads a node or follows a reference. -/
def Linked.readOne? (doc : Linked) (deeper : Option (StepReader Value)) : StepReader Value
  | .jump number :: rest, jumps =>
    -- references inside references could make a small document a huge value
    if doc.count * 100 < jumps + 1 then none
    else do
      let place ← doc.places.lookup number
      let (v, _, jumps) ← readNode? (doc.count + 1) deeper (doc.steps.drop place) (jumps + 1)
      some (v, rest, jumps)
  | steps, jumps => readNode? (doc.count + 1) deeper steps jumps

/-- Reads a value with at most `depth` collections inside each other. -/
def Linked.read? (doc : Linked) : Nat → StepReader Value
  | 0 => doc.readOne? none
  | depth + 1 => doc.readOne? (some (doc.read? depth))

/-- How deep collections may be nested. -/
def maxDepth : Nat := 128

/-- The value of the events of a document; without events it is null. -/
def Value.ofEvents? (events : List Event) : Option Value :=
  match events with
  | [] => some .null
  | events => do
    let (steps, anchors) ← link? 0 {} events
    let doc : Linked := { steps, places := anchors.places, count := steps.length }
    let (v, _, _) ← doc.read? maxDepth steps 0
    some v

/-- The value of the one document of a YAML text. -/
def Value.parse? (text : String) : Option Value := do
  Value.ofEvents? (← Event.ofTokens? (← Token.scan? text))

end ReleasePipeline.Yaml
