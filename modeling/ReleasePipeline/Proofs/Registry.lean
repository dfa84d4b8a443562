/-
What a registry knows after registrations were made.

A registry is built by registering, one call after the other. Of the calls for one key the last
counts (`find?_ofCalls`, by induction on the calls from the right, since it is the last call that
may replace what the ones before it left). All that is asked of a registry it answers from that:
what a type means in a stage, what a module depends on, and which modules there are.

So the order of calls for different keys is no part of a registry, nor is a call that was replaced.
The look-up alone tells registries apart that are not the same (`eq_of_lookup?`), and therefore two
sequences of calls can be told apart by what is loaded from them exactly if they differ in the last
call for some key.
-/
import Mathlib.Data.List.Induction
import ReleasePipeline.Pipeline.Run
import ReleasePipeline.Proofs.Sorted

set_option autoImplicit false

namespace ReleasePipeline.Registry

/-! ## The look-up

A type may be registered for one stage or for every stage, under the stage name `*`. The look-up
asks for the stage itself first and returns the key under which it found something, so that a module
of every stage can be told from one of this stage. -/

section Lookup

variable {r r' : Registry}

/-- The stage itself comes first, and then every stage. -/
theorem lookup?_eq (r : Registry) (stage kind : String) :
    r.lookup? stage kind
      = ((r.entries.find? ⟨stage, kind⟩).map (⟨stage, kind⟩, ·)).or
          ((r.entries.find? ⟨ModuleKey.anyStage, kind⟩).map (⟨ModuleKey.anyStage, kind⟩, ·)) := by
  rw [lookup?, List.findSome?_cons]
  cases r.entries.find? ⟨stage, kind⟩ with
  | some registration => rfl
  | none =>
    rw [List.findSome?_cons]
    cases r.entries.find? ⟨ModuleKey.anyStage, kind⟩ <;> rfl

/-- A registration is found under its own key exactly if it is there. -/
theorem lookup?_eq_some_self_iff {key : ModuleKey} {registration : Registration} :
    r.lookup? key.stage key.kind = some (key, registration)
      ↔ r.entries.find? key = some registration := by
  obtain ⟨stage, kind⟩ := key
  rw [lookup?_eq]
  cases hown : r.entries.find? ⟨stage, kind⟩ with
  | some own => simp
  | none =>
    -- a registration for every stage is found under the key of the stage only if they are the same
    refine iff_of_false (fun hfound => ?_) nofun
    rw [Option.map_none, Option.none_or, Option.map_eq_some_iff] at hfound
    obtain ⟨_, hany, hkey⟩ := hfound
    rw [(Prod.mk.inj hkey).1, hown] at hany
    cases hany

/-- Registries that answer every look-up alike are the same. -/
theorem eq_of_lookup? (h : ∀ stage kind, r.lookup? stage kind = r'.lookup? stage kind) :
    r = r' := by
  refine congrArg mk (Table.ext fun key => Option.ext fun registration => ?_)
  rw [← lookup?_eq_some_self_iff, ← lookup?_eq_some_self_iff, h]

end Lookup

/-! ## Calls

All that follows is settled by `find?_ofCalls`. A registry is a table, and a table is its look-up,
so nothing else about the calls can matter. -/

/-- A call that registers a module. -/
abbrev Call := ModuleKey × Registration

/-- The registry after calls, one after the other. -/
def ofCalls (calls : List Call) : Registry :=
  calls.foldl (fun r call => r.register call.1.stage call.1.kind call.2) {}

/-- What the last of the calls for a key registered. -/
def last? (calls : List Call) (key : ModuleKey) : Option Registration :=
  (calls.filter (·.1 = key)).getLast?.map Prod.snd

/-- One more call counts for its own key, and for no other. -/
theorem last?_concat (calls : List Call) (call : Call) (key : ModuleKey) :
    last? (calls ++ [call]) key = if call.1 = key then some call.2 else last? calls key := by
  rw [last?, List.filter_append]
  by_cases hkey : call.1 = key
  · rw [if_pos hkey, List.filter_cons_of_pos (by simpa using hkey), List.filter_nil,
      List.getLast?_concat, Option.map_some]
  · rw [if_neg hkey, List.filter_cons_of_neg (by simpa using hkey), List.filter_nil,
      List.append_nil, last?]

/-- Nothing was registered for a key if no call was made for it. -/
theorem last?_eq_none_iff {calls : List Call} {key : ModuleKey} :
    last? calls key = none ↔ ∀ registration, (key, registration) ∉ calls := by
  rw [last?, Option.map_eq_none_iff, List.getLast?_eq_none_iff, List.filter_eq_nil_iff]
  constructor
  · intro h registration hmem
    exact h _ hmem (by simp)
  · rintro h ⟨key', registration⟩ hmem hkey
    obtain rfl : key' = key := by simpa using hkey
    exact h registration hmem

/-- The last call for a key counts. -/
theorem find?_ofCalls (calls : List Call) (key : ModuleKey) :
    (ofCalls calls).entries.find? key = last? calls key := by
  induction calls using List.reverseRecOn with
  | nil => rfl
  | append_singleton calls call ih =>
    rw [last?_concat, ofCalls, List.foldl_append, List.foldl_cons, List.foldl_nil, register,
      Table.find?_insert]
    by_cases hkey : call.1 = key
    · rw [if_pos hkey, if_pos hkey.symm]
    · rw [if_neg hkey, if_neg (Ne.symm hkey)]
      exact ih

/-- It is only the last calls that registries are made of. -/
theorem ofCalls_eq_iff {calls calls' : List Call} :
    ofCalls calls = ofCalls calls' ↔ ∀ key, last? calls key = last? calls' key := by
  refine ⟨fun h key => ?_, fun h => congrArg mk (Table.ext fun key => ?_)⟩
  · rw [← find?_ofCalls, ← find?_ofCalls, h]
  · exact (find?_ofCalls calls key).trans ((h key).trans (find?_ofCalls calls' key).symm)

/-- Exactly the keys that calls were made for are known. -/
theorem mem_known_ofCalls {calls : List Call} {key : ModuleKey} :
    key ∈ (ofCalls calls).known ↔ ∃ registration, (key, registration) ∈ calls := by
  rw [known, Table.mem_keys_iff, ← Option.isSome_iff_exists, find?_ofCalls,
    Option.isSome_iff_ne_none, ne_eq, last?_eq_none_iff]
  simp only [not_forall, not_not]

/-- The dependencies of a module are those of its registration. -/
theorem dependencies_eq (r : Registry) (key : ModuleKey) :
    r.dependencies key = ((r.entries.find? key).map (·.dependencies)).getD [] := by
  rw [dependencies]
  cases r.entries.find? key <;> rfl

/-! ## What registries show -/

/-- Registries that nobody tells apart: not by asking them, not by what is loaded from them into
any stages, and not by running the pipeline of a document. -/
structure Indistinguishable (r r' : Registry) : Prop where
  lookup? : ∀ stage kind, r.lookup? stage kind = r'.lookup? stage kind
  dependencies : ∀ key, r.dependencies key = r'.dependencies key
  missing : ∀ key loaded, r.missing key loaded = r'.missing key loaded
  known : r.known = r'.known
  load : ∀ stages document,
    Pipeline.load { registry := r, stages } document
      = Pipeline.load { registry := r', stages } document
  ofDocument : ∀ document, Pipeline.ofDocument r document = Pipeline.ofDocument r' document
  run : ∀ document now st, (Pipeline.ofDocument r document).value.run now st
    = (Pipeline.ofDocument r' document).value.run now st

/-- A registry cannot be told from itself. -/
theorem Indistinguishable.refl (r : Registry) : r.Indistinguishable r :=
  ⟨fun _ _ => rfl, fun _ => rfl, fun _ _ => rfl, rfl, fun _ _ => rfl, fun _ => rfl,
    fun _ _ _ => rfl⟩

/-- **The last registration counts.** After any calls, the look-up finds what the last call for the
type in the stage registered, or else the last one for the type in every stage, and else nothing.
The dependencies of a module, and those of them that are missing, are those of the last call for its
key, and none without a call. The known modules are those that a call was made for, each once and in
ascending order. Two sequences of calls cannot be told apart, neither by questions nor by any
pipeline, exactly if the last call for each key is the same in both. -/
theorem registrations_last_count (calls : List Call) :
    let r := ofCalls calls
    let declared (key : ModuleKey) := ((last? calls key).map (·.dependencies)).getD []
    (∀ stage kind, r.lookup? stage kind
      = ((last? calls ⟨stage, kind⟩).map (⟨stage, kind⟩, ·)).or
          ((last? calls ⟨ModuleKey.anyStage, kind⟩).map (⟨ModuleKey.anyStage, kind⟩, ·))) ∧
    (∀ key, r.dependencies key = declared key) ∧
    (∀ key loaded, r.missing key loaded = (declared key).filter fun d => !loaded.contains d) ∧
    r.known.Pairwise (· < ·) ∧
    (∀ key, key ∈ r.known ↔ ∃ registration, (key, registration) ∈ calls) ∧
    ∀ calls', (∀ key, last? calls key = last? calls' key)
      ↔ r.Indistinguishable (ofCalls calls') := by
  intro r declared
  -- a module without a registration depends on nothing
  have hdependencies (key : ModuleKey) : r.dependencies key = declared key := by
    rw [dependencies_eq, find?_ofCalls]
  refine ⟨fun stage kind => ?_, hdependencies, fun key loaded => ?_, r.entries.ascending,
    fun _ => mem_known_ofCalls, fun calls' => ?_⟩
  · rw [lookup?_eq, find?_ofCalls, find?_ofCalls]
  · rw [missing, hdependencies]
  · rw [← ofCalls_eq_iff]
    constructor
    · intro hequal
      exact hequal ▸ .refl r
    -- of all that they have in common the look-up is enough to make them the same
    · intro hsame
      exact eq_of_lookup? hsame.lookup?

end ReleasePipeline.Registry
