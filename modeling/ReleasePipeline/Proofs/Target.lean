/-
What the key of a target tells.

A key is the operating system, a dash and the architecture, and for the `arm` architecture the
revision stands at the end of that. It cannot be taken apart in general: a dash may be part of
either name, and `armv7` is an architecture that somebody may ask for. Both are excluded by
`Target.Plain`, and then the key gives back the two names, and the revision where it counts
(`Target.Plain.key_inj`). There are two steps: the first dash ends the operating system, and the
beginning of the rest shows whether there is a revision.

Artifacts for no target have a key of their own. It has no dash, so it is not the key of a target,
and keys of artifacts are told apart just as those of their targets are (`Artifact.key_inj`). What
is grouped by its key is grouped by its target, then (`Artifact.keys_identify_targets`), and an
archive may be named for the first artifact of its group.
-/
import Mathlib.Data.List.TakeWhile
import ReleasePipeline.Artifact

set_option autoImplicit false

namespace ReleasePipeline

namespace Target

variable {t t' : Target}

/-! ## The architecture with its revision -/

/-- The operating system has no dash, and the architecture does not begin as if a revision were to
follow. -/
structure Plain (t : Target) : Prop where
  os : '-' ∉ t.os.toList
  arch : ¬ "armv".toList <+: t.arch.toList

/-- The revision that counts. Other architectures than `arm` have none, and no revision is the same
as zero. -/
def revision (t : Target) : UInt32 := if t.arch = "arm" then t.armVersion.getD 0 else 0

/-- The revision is seen in the name of the architecture if it counts and is not zero. -/
theorem archName_eq (t : Target) :
    t.archName = if t.revision = 0 then t.arch else "armv" ++ toString t.revision := by
  obtain ⟨os, arch, armVersion⟩ := t
  cases armVersion with
  | none =>
    have hrevision : revision ⟨os, arch, none⟩ = 0 := ite_self 0
    rw [if_pos hrevision, archName_none]
  | some v =>
    -- a revision that is given for another architecture is not written
    by_cases harch : arch = "arm"
    · subst harch
      have hrevision : revision ⟨os, "arm", some v⟩ = v := rfl
      rw [hrevision]
      by_cases hv : v = 0
      · rw [if_pos hv, hv]
        rfl
      · have hpos : v > 0 := UInt32.pos_iff_ne_zero.mpr hv
        rw [if_neg hv]
        exact if_pos ⟨rfl, hpos⟩
    · have hrevision : revision ⟨os, arch, some v⟩ = 0 := if_neg harch
      rw [if_pos hrevision]
      exact if_neg fun h => harch h.1

/-- The revision is written so that it can be read back. -/
theorem toString_word_inj {v w : UInt32} (h : toString v = toString w) : v = w := by
  -- a decimal numeral is read back as the number that it was written for
  have hdigits : ∀ u : UInt32, Nat.ofDigitChars 10 (toString u).toList 0 = u.toNat := by
    intro u
    have htext : toString u = String.ofList (Nat.toDigits 10 u.toNat) := rfl
    rw [htext, String.toList_ofList, Nat.ofDigitChars_toDigits (by decide) (by decide)]
  rw [← UInt32.toNat_inj, ← hdigits v, ← hdigits w, h]

/-- A revision shows in the name of the architecture. -/
theorem Plain.archName_ne (ht : t.Plain) (v : UInt32) : t.arch ≠ "armv" ++ toString v := by
  intro h
  refine ht.arch ?_
  rw [h, String.toList_append]
  exact List.prefix_append _ _

/-- So the name of the architecture gives back the architecture and the revision. -/
theorem Plain.archName_inj (ht : t.Plain) (ht' : t'.Plain) (h : t.archName = t'.archName) :
    t.arch = t'.arch ∧ t.revision = t'.revision := by
  -- with a revision other than zero the architecture can only be the one
  have harm : ∀ {u : Target}, u.revision ≠ 0 → u.arch = "arm" := by
    intro u hu
    by_cases harch : u.arch = "arm"
    · exact harch
    · exact absurd (if_neg harch) hu
  rw [archName_eq, archName_eq] at h
  by_cases hzero : t.revision = 0
  · by_cases hzero' : t'.revision = 0
    · rw [if_pos hzero, if_pos hzero'] at h
      exact ⟨h, hzero.trans hzero'.symm⟩
    · rw [if_pos hzero, if_neg hzero'] at h
      exact absurd h (ht.archName_ne _)
  · by_cases hzero' : t'.revision = 0
    · rw [if_neg hzero, if_pos hzero'] at h
      exact absurd h.symm (ht'.archName_ne _)
    · rw [if_neg hzero, if_neg hzero', String.append_right_inj] at h
      exact ⟨(harm hzero).trans (harm hzero').symm, toString_word_inj h⟩

/-! ## Keys of targets -/

/-- A key is the operating system, a dash and the architecture. -/
theorem toList_key (t : Target) : t.key.toList = t.os.toList ++ '-' :: t.archName.toList := by
  rw [key, String.toList_append, String.toList_append, List.append_assoc]
  rfl

/-- The first dash of a key ends the operating system. -/
theorem takeWhile_key (hos : '-' ∉ t.os.toList) :
    t.key.toList.takeWhile (· ≠ '-') = t.os.toList := by
  have hall : ∀ c ∈ t.os.toList, decide (c ≠ '-') = true := by
    rintro c hc
    refine decide_eq_true ?_
    rintro rfl
    exact hos hc
  rw [toList_key, List.takeWhile_append_of_pos hall]
  exact List.append_nil _

/-- **Keys tell targets apart.** Where the names are plain, the same key means the same operating
system, the same architecture and the same revision, as far as it counts. -/
theorem Plain.key_inj (ht : t.Plain) (ht' : t'.Plain) :
    t.key = t'.key ↔ t.os = t'.os ∧ t.arch = t'.arch ∧ t.revision = t'.revision := by
  constructor
  · intro h
    -- the first dash is found at the same place in both
    have hos : t.os.toList = t'.os.toList := by
      rw [← takeWhile_key ht.os, ← takeWhile_key ht'.os, h]
    have hlist := toList_key t
    rw [h, toList_key t', hos] at hlist
    have harch := (List.cons.inj (List.append_cancel_left hlist)).2
    exact ⟨String.toList_inj.mp hos, ht.archName_inj ht' (String.toList_inj.mp harch).symm⟩
  · rintro ⟨hos, harch, hrevision⟩
    rw [key, key, archName_eq, archName_eq, hos, harch, hrevision]

/-- An architecture without a name is written as nothing. -/
theorem archName_eq_empty_iff : t.archName = "" ↔ t.arch = "" := by
  rw [archName_eq]
  by_cases hzero : t.revision = 0
  · rw [if_pos hzero]
  · rw [if_neg hzero, String.append_eq_empty_iff]
    refine ⟨fun h => absurd h.1 (by decide), fun harch => ?_⟩
    have harm : ¬ t.arch = "arm" := by
      rw [harch]
      decide
    exact absurd (if_neg harm) hzero

/-- Only without any names is a key nothing but the dash. -/
theorem key_eq_dash_iff : t.key = "-" ↔ t.os = "" ∧ t.arch = "" := by
  rw [← archName_eq_empty_iff]
  constructor
  · intro h
    have hlist := toList_key t
    rw [h] at hlist
    have hos : t.os.toList = [] := by
      cases hnames : t.os.toList with
      | nil => rfl
      | cons c rest =>
        rw [hnames] at hlist
        have hlength := congrArg List.length hlist
        simp only [List.cons_append, List.length_cons, List.length_append] at hlength
        -- one character is no room for a name and a dash
        have hone : "-".toList.length = 1 := rfl
        omega
    rw [hos] at hlist
    have harch := (List.cons.inj hlist).2
    exact ⟨String.toList_eq_nil_iff.mp hos, String.toList_eq_nil_iff.mp harch.symm⟩
  · rintro ⟨hos, harch⟩
    rw [key, hos, harch]
    rfl

end Target

/-! ## Keys of artifacts -/

namespace Artifact

variable {a a' : Artifact}

/-- The key of an artifact is that of its target, but for the target that is written as a dash. -/
theorem key_eq (a : Artifact) :
    a.key = if a.target.key = "-" then anyTarget else a.target.key := by
  rw [key, target?]
  by_cases hnone : a.target.os = "" ∧ a.target.arch = ""
  · rw [if_pos hnone, if_pos (Target.key_eq_dash_iff.mpr hnone)]
  · rw [if_neg hnone, if_neg fun h => hnone (Target.key_eq_dash_iff.mp h)]

/-- Every key of a target has a dash, and the key of no target has none. -/
theorem key_target_ne (a : Artifact) : a.target.key ≠ anyTarget := by
  intro h
  have hdash : '-' ∈ a.target.key.toList := by
    rw [Target.toList_key]
    exact List.mem_append_right _ List.mem_cons_self
  rw [h] at hdash
  exact absurd hdash (by decide)

/-- Artifacts have the same key exactly if their targets have. -/
theorem key_inj : a.key = a'.key ↔ a.target.key = a'.target.key := by
  rw [key_eq, key_eq]
  -- a dash alone and the word for no target are exchanged for each other, and nothing else has
  -- either
  by_cases h : a.target.key = "-"
  · by_cases h' : a'.target.key = "-"
    · rw [if_pos h, if_pos h', h, h']
      exact iff_of_true rfl rfl
    · rw [if_pos h, if_neg h']
      exact iff_of_false (Ne.symm a'.key_target_ne) fun heq => h' (heq.symm.trans h)
  · by_cases h' : a'.target.key = "-"
    · rw [if_neg h, if_pos h']
      exact iff_of_false a.key_target_ne fun heq => h (heq.trans h')
    · rw [if_neg h, if_neg h']

/-- Nothing but an artifact without any names has the key of no target. -/
theorem key_eq_anyTarget_iff : a.key = anyTarget ↔ a.target.os = "" ∧ a.target.arch = "" := by
  rw [key_eq, ← Target.key_eq_dash_iff]
  by_cases h : a.target.key = "-"
  · rw [if_pos h]
    exact iff_of_true rfl h
  · rw [if_neg h]
    exact iff_of_false a.key_target_ne h

/-- **Keys identify targets.** Of two artifacts whose operating systems have no dash, and whose
architectures do not begin as if a revision were to follow, the keys are the same exactly if the
operating systems are, and the architectures, and if these are `arm`, the revisions, where none is
zero. Whatever the names, an artifact has the key of no target exactly if it has neither an
operating system nor an architecture. -/
theorem keys_identify_targets :
    (∀ a a' : Artifact, a.target.Plain → a'.target.Plain →
      (a.key = a'.key ↔ a.target.os = a'.target.os ∧ a.target.arch = a'.target.arch ∧
        (a.target.arch = "arm" → a.target.armVersion.getD 0 = a'.target.armVersion.getD 0))) ∧
    ∀ a : Artifact, a.key = anyTarget ↔ a.target.os = "" ∧ a.target.arch = "" := by
  refine ⟨fun a a' ha ha' => ?_, fun a => key_eq_anyTarget_iff⟩
  rw [key_inj, ha.key_inj ha']
  refine and_congr_right fun _ => and_congr_right fun harch => ?_
  rw [Target.revision, Target.revision, ← harch]
  by_cases harm : a.target.arch = "arm"
  · rw [if_pos harm, if_pos harm, imp_iff_right harm]
  · rw [if_neg harm, if_neg harm]
    exact iff_of_true rfl fun h => absurd h harm

/-- A program that was built for two revisions of an architecture has two keys, and no revision is
the same as revision zero. -/
theorem revisions_told_apart :
    let builtFor (revision : Option UInt32) : Artifact :=
      ⟨"default", "demo", ⟨"demo"⟩, ⟨"linux", "arm", revision⟩, .raw⟩
    (∀ revision, (builtFor revision).target.Plain) ∧
      (builtFor (some 6)).key ≠ (builtFor (some 7)).key ∧
      (builtFor none).key = (builtFor (some 0)).key := by
  intro builtFor
  have hplain (revision : Option UInt32) : (builtFor revision).target.Plain := by
    refine ⟨?_, ?_⟩
    · change '-' ∉ "linux".toList
      decide
    · change ¬ "armv".toList <+: "arm".toList
      decide
  obtain ⟨hkeys, -⟩ := keys_identify_targets
  refine ⟨hplain, fun h => ?_, ?_⟩
  · obtain ⟨-, -, hrevision⟩ := (hkeys _ _ (hplain _) (hplain _)).mp h
    exact absurd (hrevision rfl) (by decide)
  · exact (hkeys _ _ (hplain _) (hplain _)).mpr ⟨rfl, rfl, fun _ => rfl⟩

end Artifact

end ReleasePipeline
