/-
What the variables are after those of the process were captured.

The first who names a variable decides it: what was there before the capture, and else the first
variable of the process that has the name once it is read (`Environment.get?_load`). The directory
for configuration files comes last. It is derived from what the loading came to, and only if nobody
named it, so the home directory that counts is the one that is found after the capture, too
(`get?_capture_of_ne`).

Whatever a capture finds in the process, it leaves the names of it defined. That is why a second one
has nothing to add (`Environment.load_eq_self`), and why it derives nothing anew: the directory is
there, or there is no home directory to derive it from.
-/
import ReleasePipeline.Proofs.Sorted
import ReleasePipeline.Setup.Capture

set_option autoImplicit false

namespace ReleasePipeline

namespace Environment

/-- A variable that is set has its new value, and the others keep theirs. -/
theorem get?_set (env : Environment) (name value x : String) :
    (env.set name value).get? x = if x = name then some value else env.get? x :=
  Table.find?_insert _ _ _ _

/-- Environments in which the same is found are the same. -/
theorem ext {a b : Environment} (h : ∀ name, a.get? name = b.get? name) : a = b :=
  congrArg mk (Table.ext h)

/-! ## Loading -/

/-- Nothing is loaded. -/
@[simp] theorem load_nil (env : Environment) : env.load [] = env := rfl

/-- A variable is added if there is none of its name yet, and then the rest is loaded. -/
theorem load_cons (env : Environment) (row : String × String) (rows : List (String × String)) :
    env.load (row :: rows) = (⟨env.vars.insertNew row.1 row.2⟩ : Environment).load rows := rfl

/-- A variable that is there keeps its value, and of the loaded ones the first counts. -/
theorem get?_load (env : Environment) (rows : List (String × String)) (name : String) :
    (env.load rows).get? name = (env.get? name).or (rows.lookup name) := by
  induction rows generalizing env with
  | nil => rw [load_nil, List.lookup_nil, Option.or_none]
  | cons row rest ih =>
    obtain ⟨key, value⟩ := row
    have hfirst : (⟨env.vars.insertNew key value⟩ : Environment).get? name
        = if name = key then some ((env.get? key).getD value) else env.get? name :=
      Table.find?_insertNew _ _ _ _
    rw [load_cons, ih, hfirst, List.lookup_cons]
    -- after the first row the name is decided, so that a later row of the same name adds nothing
    by_cases hname : name = key
    · rw [if_pos hname, hname, beq_self_eq_true]
      cases env.get? key <;> rfl
    · rw [if_neg hname, beq_false_of_ne hname]

/-- If all names are there already, loading changes nothing. -/
theorem load_eq_self {env : Environment} {rows : List (String × String)}
    (h : ∀ name, env.get? name = none → rows.lookup name = none) : env.load rows = env := by
  apply ext
  intro name
  rw [get?_load]
  cases hname : env.get? name with
  | some value => rw [Option.some_or]
  | none => rw [h name hname, Option.none_or]

end Environment

namespace Setup

/-! ## The directory for configuration files -/

/-- `HOME` is asked first, and `HOMEPATH` only if there is no such variable. -/
theorem home?_eq (env : Environment) : home? env = (env.get? "HOME").or (env.get? "HOMEPATH") := by
  rw [home?, homeVariables, List.findSome?_cons]
  cases env.get? "HOME" with
  | some home => rfl
  | none =>
    rw [List.findSome?_cons, Option.none_or]
    cases env.get? "HOMEPATH" <;> rfl

/-- The directory keeps the name it has, or else lies under the home directory. -/
theorem get?_deriveConfigHome (env : Environment) :
    (deriveConfigHome env).get? configHome
      = (env.get? configHome).or ((home? env).map configUnder) := by
  rw [deriveConfigHome, Environment.has]
  cases hset : env.get? configHome with
  | some directory => exact hset
  | none =>
    rw [Option.isSome_none, if_neg Bool.false_ne_true]
    cases home? env with
    | some home =>
      dsimp only
      rw [Environment.get?_set, if_pos rfl]
      rfl
    | none => exact hset

/-- No other variable is touched. -/
theorem get?_deriveConfigHome_of_ne (env : Environment) {name : String} (hne : name ≠ configHome) :
    (deriveConfigHome env).get? name = env.get? name := by
  rw [deriveConfigHome]
  split
  · rfl
  · split
    · rw [Environment.get?_set, if_neg hne]
    · rfl

/-- Once it was looked for, the directory is there, or it cannot be derived. -/
theorem deriveConfigHome_eq_self {env : Environment}
    (h : env.get? configHome = none → home? env = none) : deriveConfigHome env = env := by
  rw [deriveConfigHome, Environment.has]
  cases hset : env.get? configHome with
  | some directory => rfl
  | none =>
    rw [h hset]
    rfl

/-! ## Capturing -/

/-- The value of the first variable of the process whose name reads as the given one. -/
def captured? (process : List ProcessVariable) (name : String) : Option String :=
  (process.find? fun v => Text.decodeLossy v.1 = name).map fun v => Text.decodeLossy v.2

/-- The variables of the process as they are read. -/
def readAll (process : List ProcessVariable) : List (String × String) :=
  process.map fun (name, value) => (Text.decodeLossy name, Text.decodeLossy value)

/-- The first row of a name comes from the first variable whose name reads as that. -/
theorem lookup_readAll (process : List ProcessVariable) (name : String) :
    (readAll process).lookup name = captured? process name := by
  induction process with
  | nil => rfl
  | cons v rest ih =>
    rw [readAll] at ih
    rw [readAll, List.map_cons, List.lookup_cons, ih, captured?, captured?, List.find?_cons]
    by_cases hname : Text.decodeLossy v.1 = name
    · rw [hname, beq_self_eq_true, decide_eq_true rfl]
      rfl
    · rw [beq_false_of_ne (Ne.symm hname), decide_eq_false hname]

/-- The variables are loaded first, and the directory is derived from what is there then. -/
theorem capture_eq (env : Environment) (process : List ProcessVariable) :
    capture env process = deriveConfigHome (env.load (readAll process)) := rfl

variable (env : Environment) (process : List ProcessVariable)

/-- Every variable but one is decided by the first who names it. -/
theorem get?_capture_of_ne {name : String} (hne : name ≠ configHome) :
    (capture env process).get? name = (env.get? name).or (captured? process name) := by
  rw [capture_eq, get?_deriveConfigHome_of_ne _ hne, Environment.get?_load, lookup_readAll]

/-- The home directory is the same before and after the last step. -/
theorem home?_capture : home? (env.load (readAll process)) = home? (capture env process) := by
  rw [home?_eq, home?_eq, capture_eq, get?_deriveConfigHome_of_ne _ (by decide),
    get?_deriveConfigHome_of_ne _ (by decide)]

/-- And that one, if nobody names it, lies under the home directory. -/
theorem get?_capture_configHome :
    (capture env process).get? configHome
      = ((env.get? configHome).or (captured? process configHome)).or
          ((home? (capture env process)).map configUnder) := by
  rw [← home?_capture, capture_eq, get?_deriveConfigHome, Environment.get?_load, lookup_readAll]

variable {env process}

/-- Variables that are there stay when those of the process are captured. -/
theorem get?_capture_of_some {name value : String} (h : env.get? name = some value) :
    (capture env process).get? name = some value := by
  by_cases hname : name = configHome
  · rw [hname] at h ⊢
    rw [get?_capture_configHome, h, Option.some_or, Option.some_or]
  · rw [get?_capture_of_ne env process hname, h, Option.some_or]

/-- A name that no variable has after the capture no variable of the process has. -/
theorem captured?_eq_none {name : String} (h : (capture env process).get? name = none) :
    captured? process name = none := by
  -- the directory may be there because it was derived, so it is looked at by itself
  by_cases hname : name = configHome
  · rw [hname] at h ⊢
    rw [get?_capture_configHome, Option.or_eq_none_iff, Option.or_eq_none_iff] at h
    exact h.1.2
  · rw [get?_capture_of_ne env process hname, Option.or_eq_none_iff] at h
    exact h.2

/-- What was captured once is not captured again. -/
theorem capture_capture : capture (capture env process) process = capture env process := by
  have hload : (capture env process).load (readAll process) = capture env process :=
    Environment.load_eq_self fun name hname => by
      rw [lookup_readAll]
      exact captured?_eq_none hname
  rw [capture_eq (capture env process), hload]
  refine deriveConfigHome_eq_self fun hnone => ?_
  rw [get?_capture_configHome, Option.or_eq_none_iff, Option.map_eq_none_iff] at hnone
  exact hnone.2

/-- **The first who names a variable decides it.** After a capture every variable that was there
has the value it had. Any other, unless it is the directory for configuration files, has the value
of the first variable of the process whose name reads as its name, and is not there if there is
none. The directory for configuration files has the value that it had or that was captured. Without
these it lies under the home directory that is then known, as `HOME` names it or else `HOMEPATH`,
and without a home directory it is not there. Another capture of the same variables changes
nothing. -/
theorem capture_decided_by_first (env : Environment) (process : List ProcessVariable) :
    let after := capture env process
    (∀ name value, env.get? name = some value → after.get? name = some value) ∧
    (∀ name, env.get? name = none → name ≠ configHome →
      after.get? name = captured? process name) ∧
    after.get? configHome
      = ((env.get? configHome).or (captured? process configHome)).or
          (((after.get? "HOME").or (after.get? "HOMEPATH")).map configUnder) ∧
    capture after process = after := by
  intro after
  refine ⟨fun name value => get?_capture_of_some, fun name hnone hne => ?_, ?_, capture_capture⟩
  · rw [get?_capture_of_ne env process hne, hnone, Option.none_or]
  · rw [get?_capture_configHome, home?_eq]

/-! ## Names that read alike -/

/-- The names of the first two are no text, and both of them read the same. -/
def alikeNames : List ProcessVariable :=
  [(⟨#[0x41, 0xFF]⟩, Text.encode "first"), (⟨#[0x41, 0xFE]⟩, Text.encode "second"),
    (Text.encode "CI", Text.encode "2"), (Text.encode "HOMEPATH", Text.encode "/home/ci/")]

/-- The first of them counts, a variable that is there stays, and without `HOME` the other variable
names the home directory. -/
theorem alikeNames_captured :
    let after := capture (Environment.empty.set "CI" "1") alikeNames
    after.get? "CI" = some "1" ∧ after.get? "A\uFFFD" = some "first" ∧
      after.get? configHome = some "/home/ci/.config" ∧ capture after alikeNames = after := by
  intro after
  obtain ⟨hkept, hfirst, hderived, hagain⟩ :=
    capture_decided_by_first (Environment.empty.set "CI" "1") alikeNames
  have hhome : after.get? "HOME" = none :=
    (hfirst "HOME" (by decide) (by decide)).trans (by decide +kernel)
  have hpath : after.get? "HOMEPATH" = some "/home/ci/" :=
    (hfirst "HOMEPATH" (by decide) (by decide)).trans (by decide +kernel)
  refine ⟨hkept "CI" "1" (by decide), ?_, ?_, hagain⟩
  · exact (hfirst "A\uFFFD" (by decide) (by decide)).trans (by decide +kernel)
  · rw [hhome, hpath] at hderived
    exact hderived.trans (by decide +kernel)

end Setup

end ReleasePipeline
