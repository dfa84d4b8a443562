/-
The structure of a YAML document as a flat list of events.

A document is the events of its root node: one for a scalar or a reference, and for a collection a
start, the events of its members and an end. A missing node is an empty plain scalar, and an empty
stream has no event. In a flat list every node has a place, and a reference can stand for the place
of the node that it repeats.

The reading is a recursive descent over the tokens with a budget; every call that goes deeper or on
passes on one less, and a few times the number of tokens is more than any descent needs.
-/
import ReleasePipeline.Yaml.Token

set_option autoImplicit false

namespace ReleasePipeline.Yaml

/-- What may stand in front of a node. -/
structure Properties where
  anchor : Option String := none
  tag : Option TagOctets := none
  deriving DecidableEq, Inhabited

/-- One step of a walk through a document. -/
inductive Event where
  | scalar (properties : Properties) (text : List Char) (plain : Bool)
  | sequenceStart (properties : Properties)
  | mappingStart (properties : Properties)
  /-- The end of a sequence or a mapping. -/
  | finish
  | reference (name : String)
  deriving DecidableEq, Inhabited

/-- The node that stands where nothing is written. -/
def Event.missing : Event := .scalar {} [] true

/-- What tag handles stand for. -/
abbrev TagHandles := List (String × TagOctets)

/-- The handles that every document has. -/
def standardHandles : TagHandles :=
  [("!", tagOctets "!"), ("!!", tagOctets "tag:yaml.org,2002:")]

/-- Where a node stands: what may be there depends on it. -/
inductive Position where
  /-- Inside flow brackets. -/
  | flow
  /-- On lines of a block. -/
  | block
  /-- Behind a key or a value mark of a block mapping, where a sequence need not be
  indented. -/
  | blockMember
  deriving DecidableEq

namespace Event

/-! ## Properties -/

/-- The tag that a handle and a suffix mean. -/
def resolveTag? (handles : TagHandles) (handle : String) (suffix : TagOctets) :
    Option TagOctets :=
  if handle = "" then some suffix else (handles.lookup handle).map (· ++ suffix)

/-- Reads an anchor and a tag in either order. -/
def readProperties? (handles : TagHandles) : List Token → Option (Properties × List Token)
  | .anchor a :: .tag h s :: rest =>
    (resolveTag? handles h s).map fun t => ({ anchor := some a, tag := some t }, rest)
  | .tag h s :: .anchor a :: rest =>
    (resolveTag? handles h s).map fun t => ({ anchor := some a, tag := some t }, rest)
  | .anchor a :: rest => some ({ anchor := some a }, rest)
  | .tag h s :: rest => (resolveTag? handles h s).map fun t => ({ tag := some t }, rest)
  | rest => some ({}, rest)

/-! ## Nodes -/

/-- A token that ends an item of a block sequence without a node. -/
def endsItem : Token → Bool
  | .blockEntry | .blockEnd => true
  | _ => false

/-- A token that ends a member of a block mapping without a node. -/
def endsMember : Token → Bool
  | .key | .value | .blockEnd => true
  | _ => false

mutual
/-- Reads a node. -/
def node? (handles : TagHandles) :
    Nat → Position → List Token → Option (List Event × List Token)
  | 0, _, _ => none
  | n + 1, position, tokens =>
    match tokens with
    | .reference name :: rest => some ([.reference name], rest)
    | tokens =>
      match readProperties? handles tokens with
      | none => none
      | some (p, tokens) =>
        match tokens with
        | .blockEntry :: _ =>
          -- a sequence may stand in the column of the keys around it
          if position = .blockMember then
            (looseItems? handles n tokens).map fun (es, rest) => (.sequenceStart p :: es, rest)
          else emptyNode? p tokens
        | .scalar text plain :: rest => some ([.scalar p text plain], rest)
        | .flowSequenceStart :: rest =>
          (flowItems? handles n true rest).map fun (es, rest) => (.sequenceStart p :: es, rest)
        | .flowMappingStart :: rest =>
          (flowMembers? handles n true rest).map fun (es, rest) => (.mappingStart p :: es, rest)
        | .blockSequenceStart :: rest =>
          if position = .flow then emptyNode? p tokens
          else (blockItems? handles n rest).map fun (es, rest) => (.sequenceStart p :: es, rest)
        | .blockMappingStart :: rest =>
          if position = .flow then emptyNode? p tokens
          else (blockMembers? handles n rest).map fun (es, rest) => (.mappingStart p :: es, rest)
        | tokens => emptyNode? p tokens

/-- A node without content: there has to be an anchor or a tag. -/
def emptyNode? (p : Properties) (tokens : List Token) : Option (List Event × List Token) :=
  if p.anchor.isSome || p.tag.isSome then some ([.scalar p [] true], tokens) else none

/-- Reads the items of an indented block sequence and its end. -/
def blockItems? (handles : TagHandles) : Nat → List Token → Option (List Event × List Token)
  | n + 1, .blockEntry :: rest => do
    let (item, rest) ←
      if (rest.head?.map endsItem).getD false then some ([Event.missing], rest)
      else node? handles n .block rest
    let (items, rest) ← blockItems? handles n rest
    some (item ++ items, rest)
  | _ + 1, .blockEnd :: rest => some ([.finish], rest)
  | _, _ => none

/-- Reads the items of a block sequence that is not indented. -/
def looseItems? (handles : TagHandles) : Nat → List Token → Option (List Event × List Token)
  | n + 1, .blockEntry :: rest => do
    let (item, rest) ←
      if (rest.head?.map fun t => endsItem t || endsMember t).getD false then
        some ([Event.missing], rest)
      else node? handles n .block rest
    let (items, rest) ← looseItems? handles n rest
    some (item ++ items, rest)
  | _ + 1, rest => some ([.finish], rest)
  | 0, _ => none

/-- Reads the members of a block mapping and its end. -/
def blockMembers? (handles : TagHandles) : Nat → List Token → Option (List Event × List Token)
  | n + 1, .key :: rest => do
    let (key, rest) ← blockMember? handles n rest
    let (value, rest) ←
      match rest with
      | .value :: rest => blockMember? handles n rest
      | rest => some ([Event.missing], rest)
    let (members, rest) ← blockMembers? handles n rest
    some (key ++ value ++ members, rest)
  | _ + 1, .blockEnd :: rest => some ([.finish], rest)
  | _, _ => none

/-- Reads a key or a value of a block mapping. -/
def blockMember? (handles : TagHandles) : Nat → List Token → Option (List Event × List Token)
  | 0, _ => none
  | n + 1, rest =>
    if (rest.head?.map endsMember).getD false then some ([Event.missing], rest)
    else node? handles n .blockMember rest

/-- Reads the items of a flow sequence and its end; between two items there is a
comma. -/
def flowItems? (handles : TagHandles) :
    Nat → Bool → List Token → Option (List Event × List Token)
  | 0, _, _ => none
  | n + 1, isFirst, tokens =>
    match tokens with
    | .flowSequenceEnd :: rest => some ([.finish], rest)
    | tokens => do
      let tokens ←
        if isFirst then some tokens
        else match tokens with
          | .flowEntry :: rest => some rest
          | _ => none
      match tokens with
      | .flowSequenceEnd :: rest => some ([.finish], rest)
      | .key :: rest =>
        let (pair, rest) ← flowPair? handles n rest
        let (items, rest) ← flowItems? handles n false rest
        some (.mappingStart {} :: pair ++ .finish :: items, rest)
      | tokens =>
        let (item, rest) ← node? handles n .flow tokens
        let (items, rest) ← flowItems? handles n false rest
        some (item ++ items, rest)

/-- Reads a mapping of one member that stands in a flow sequence without braces. Where
the key is missing, the token that stands in its place is passed over. -/
def flowPair? (handles : TagHandles) : Nat → List Token → Option (List Event × List Token)
  | 0, _ => none
  | n + 1, tokens => do
    let (key, rest) ←
      match tokens with
      | .value :: rest => some ([Event.missing], rest)
      | .flowEntry :: rest => some ([Event.missing], rest)
      | .flowSequenceEnd :: rest => some ([Event.missing], rest)
      | tokens => node? handles n .flow tokens
    let (value, rest) ←
      match rest with
      | .value :: rest =>
        match rest with
        | .flowEntry :: _ => some ([Event.missing], rest)
        | .flowSequenceEnd :: _ => some ([Event.missing], rest)
        | rest => node? handles n .flow rest
      | rest => some ([Event.missing], rest)
    some (key ++ value, rest)

/-- Reads the members of a flow mapping and its end; between two members there is a
comma. -/
def flowMembers? (handles : TagHandles) :
    Nat → Bool → List Token → Option (List Event × List Token)
  | 0, _, _ => none
  | n + 1, isFirst, tokens =>
    match tokens with
    | .flowMappingEnd :: rest => some ([.finish], rest)
    | tokens => do
      let tokens ←
        if isFirst then some tokens
        else match tokens with
          | .flowEntry :: rest => some rest
          | _ => none
      match tokens with
      | .flowMappingEnd :: rest => some ([.finish], rest)
      | .key :: rest =>
        let (key, rest) ← flowMember? handles n rest
        let (value, rest) ←
          match rest with
          | .value :: rest => flowMember? handles n rest
          | rest => some ([Event.missing], rest)
        let (members, rest) ← flowMembers? handles n false rest
        some (key ++ value ++ members, rest)
      | tokens =>
        -- a key without its mark has no value
        let (key, rest) ← node? handles n .flow tokens
        let (members, rest) ← flowMembers? handles n false rest
        some (key ++ Event.missing :: members, rest)

/-- Reads a key or a value of a flow mapping. -/
def flowMember? (handles : TagHandles) : Nat → List Token → Option (List Event × List Token)
  | 0, _ => none
  | n + 1, rest =>
    match rest with
    | .value :: _ => some ([Event.missing], rest)
    | .flowEntry :: _ => some ([Event.missing], rest)
    | .flowMappingEnd :: _ => some ([Event.missing], rest)
    | rest => node? handles n .flow rest
end

/-! ## Documents -/

/-- Reads the directives in front of a document. A version must be 1.1 or 1.2 and stand
there once, and so must each handle. -/
def directives? : Bool → TagHandles → List Token → Option (TagHandles × List Token)
  | versioned, handles, .versionDirective major minor :: rest =>
    if versioned || major != 1 || !(minor == 1 || minor == 2) then none
    else directives? true handles rest
  | versioned, handles, .tagDirective handle replacement :: rest =>
    if (handles.lookup handle).isSome then none
    else directives? versioned (handles ++ [(handle, replacement)]) rest
  | _, handles, rest => some (handles ++ standardHandles, rest)

/-- A token that ends a document without a node. -/
def endsDocument : Token → Bool
  | .versionDirective .. | .tagDirective .. | .documentStart | .documentEnd | .streamEnd => true
  | _ => false

/-- Nothing but document ends and the end of the stream follows. -/
def atEnd : List Token → Bool
  | .documentEnd :: rest => atEnd rest
  | [.streamEnd] => true
  | _ => false

/-- The events of the one document of a stream. Directives have to be followed by a
document start, which may be left out when there are none. -/
def ofTokens? (tokens : List Token) : Option (List Event) :=
  match tokens with
  | [.streamEnd] => some []
  | tokens => do
    -- no token starts more than four calls
    let budget := 4 * tokens.length + 8
    let (events, rest) ←
      match tokens with
      | .versionDirective .. :: _ | .tagDirective .. :: _ | .documentStart :: _ => do
        let (handles, rest) ← directives? false [] tokens
        match rest with
        | .documentStart :: rest =>
          if (rest.head?.map endsDocument).getD false then some ([Event.missing], rest)
          else node? handles budget .block rest
        | _ => none
      | tokens => node? standardHandles budget .block tokens
    if atEnd rest then some events else none

end Event

end ReleasePipeline.Yaml
