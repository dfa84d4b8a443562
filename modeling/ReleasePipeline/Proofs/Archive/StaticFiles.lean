/-
Which files go into every archive.

The setting `files` holds patterns, and every archive of a run gets the regular files that they
stand for beside the artifacts of its target. By default there is one pattern, `README*`. Most
patterns in use have its shape: plain text and then a star. For a list of such patterns it is told
here which files they are: the regular files right in the working directory whose names begin with
one of the texts (`mem_matched_stars_iff`). Nothing in a directory below is among them, and so the
search never fails (`run_staticFiles_stars`). A run that ends well has packed exactly these
(`exists_writesAll_stars`).

A text that begins with a dot is left out, because such a pattern stands for the directory itself
and the one above as well. So is a text with a wildcard or a slash of its own.
-/
import ReleasePipeline.Proofs.Archive.Writing
import ReleasePipeline.Proofs.BuiltIn.Failing
import ReleasePipeline.Proofs.Files.Patterns

set_option autoImplicit false

namespace ReleasePipeline.Archive

/-- The text can stand before a star: no character of it is a wildcard or a slash, and it does not
begin with a dot. -/
structure IsBeginning (front : String) : Prop where
  plain : Pattern.IsPlain front.toList
  visible : front.toList.head? ≠ some '.'

/-- A regular file right in the working directory, with a name that begins with one of the texts. -/
def HasBeginning (fronts : List String) (fs : Files) (p : Path) : Prop :=
  fs.isFile p = true ∧
    ∃ name ∈ fs.namesIn ⟨"."⟩, p = ⟨name⟩ ∧ ∃ front ∈ fronts, front.toList <+: name.toList

/-- The patterns of texts and a star each. -/
def stars (fronts : List String) : List String := fronts.map (· ++ "*")

variable {fronts : List String}

/-- A plain beginning with a star behind it matches the files in the working directory that begin
so. -/
theorem mem_matched_star_iff {front : String} (hfront : IsBeginning front) {fs : Files} {p : Path} :
    p ∈ matched fs [front ++ "*"] ↔ fs.isFile p = true ∧
      ∃ name ∈ fs.namesIn ⟨"."⟩, p = ⟨name⟩ ∧ front.toList <+: name.toList := by
  rw [matched_cons (Pattern.parse_star hfront.plain), matched, List.flatMap_nil, List.append_nil,
    List.mem_filter, Files.mem_glob_star hfront.visible, and_comm]

/-- **A text and a star stand for the files whose names begin with the text.** -/
theorem mem_matched_stars_iff (hfronts : ∀ front ∈ fronts, IsBeginning front) {fs : Files}
    {p : Path} : p ∈ matched fs (stars fronts) ↔ HasBeginning fronts fs p := by
  induction fronts with
  | nil =>
    refine iff_of_false List.not_mem_nil ?_
    rintro ⟨-, name, -, -, front, hmem, -⟩
    exact absurd hmem List.not_mem_nil
  | cons front rest ih =>
    obtain ⟨hfront, hrest⟩ := List.forall_mem_cons.mp hfronts
    have hsplit : matched fs (stars (front :: rest))
        = matched fs [front ++ "*"] ++ matched fs (stars rest) := by
      rw [stars, List.map_cons, ← List.singleton_append, matched, List.flatMap_append]
      rfl
    rw [hsplit, List.mem_append, mem_matched_star_iff hfront, ih hrest]
    simp only [HasBeginning, List.mem_cons, exists_eq_or_imp]
    constructor
    · rintro (⟨hfile, name, hname, hp, hbegins⟩ | ⟨hfile, name, hname, hp, hbegins⟩)
      · exact ⟨hfile, name, hname, hp, .inl hbegins⟩
      · exact ⟨hfile, name, hname, hp, .inr hbegins⟩
    · rintro ⟨hfile, name, hname, hp, hbegins | hbegins⟩
      · exact .inl ⟨hfile, name, hname, hp, hbegins⟩
      · exact .inr ⟨hfile, name, hname, hp, hbegins⟩

/-- The search for them never fails and changes nothing. -/
theorem run_staticFiles_stars (hfronts : ∀ front ∈ fronts, IsBeginning front) (h : Host) :
    ∃ found, ExceptT.run (staticFiles (stars fronts)) h = (.ok found, h) ∧
      ∀ p, p ∈ found ↔ HasBeginning fronts h.files p := by
  rcases run_staticFiles (stars fronts) h with ⟨pattern, hpattern, e, he, -⟩ | ⟨-, found, hrun⟩
  · -- each of the patterns can be read
    obtain ⟨front, hmem, rfl⟩ := List.mem_map.mp hpattern
    rw [Pattern.parse_star (hfronts front hmem).plain] at he
    cases he
  · refine ⟨found, hrun, fun p => ?_⟩
    obtain ⟨rfl, -⟩ := of_run_staticFiles hrun
    exact mem_matched_stars_iff hfronts

variable {γ : Type} {format : Format} {labels : Labels} {s : Settings γ} {m : Module}

/-- **What goes into the archives of a run that ends well.** There was a plan for each group of
artifacts, and the archives were written by these plans, each with the same files beside the
artifacts: the regular ones of the working directory, as it was when the run began, whose names
begin with one of the texts. -/
theorem exists_writesAll_stars (hm : IsPacker format labels s m)
    (hfronts : ∀ front ∈ fronts, IsBeginning front) (hfiles : s.files = stars fronts)
    (ctx : Context) (h : Host) (hok : (m.run ctx h).result = .ok ()) :
    ∃ plans found,
      List.Forall₂ (Plans labels s ctx) (ctx.catalog.group s.builds s.skip).toList plans ∧
        WritesAll format ctx found h.files plans (m.run ctx h).host.files ∧
        ∀ p, p ∈ found ↔ HasBeginning fronts h.files p := by
  obtain ⟨plans, hdone⟩ := hm.exists_succeeded hok
  refine ⟨plans, matched h.files s.files, hdone.planned, hdone.written, fun p => ?_⟩
  rw [hfiles]
  exact mem_matched_stars_iff hfronts

/-- Both modules look for the files that are to be read first. -/
theorem files_default : Build.Zip.schema.defaults.files = stars ["README"] ∧
    Build.Tar.schema.defaults.files = stars ["README"] ∧ IsBeginning "README" :=
  ⟨rfl, rfl, by decide +kernel, by decide⟩

end ReleasePipeline.Archive
