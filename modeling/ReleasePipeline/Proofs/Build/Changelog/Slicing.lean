/-
What slicing a changelog leaves of the changelog.

A run reads the changelog, cuts a section out of it, and stores the section as a file of its own
(`run_cases`). So it writes one file, or none if it fails, and every path that named a file names it
still. Nothing keeps the path of that file apart from the path of the changelog, though. The section
goes to wherever the target directory and a name lead to, and by default that is the name of the
changelog itself: if this is the file that was read, the section is all that is left of it
(`run_keeps_or_replaces`, `changelog_replaced`).
-/
import ReleasePipeline.Build.Changelog
import ReleasePipeline.Proofs.Host.Storing
import ReleasePipeline.Proofs.Text.ByteOrder

set_option autoImplicit false

namespace ReleasePipeline

open Effect

/-! ## Reading texts -/

/-- A file can be read as a text or not; nothing is changed by it. -/
theorem HostM.run_readText (p : Path) (h : Host) :
    (∃ content text, h.files.read p = .ok content ∧ Text.decode? content.toBytes = some text ∧
      ExceptT.run (readText p) h = (.ok text, h)) ∨
    ∃ f, ExceptT.run (readText p) h = (.error f, h) := by
  rw [readText, run_bind, run_query]
  cases hread : h.files.read p with
  | error e => exact .inr ⟨_, rfl⟩
  | ok content =>
    dsimp only [Except.mapError]
    -- the bytes of a file need not be a text
    cases htext : Text.decode? content.toBytes with
    | none => exact .inr ⟨_, rfl⟩
    | some text => exact .inl ⟨content, text, rfl, htext, rfl⟩

/-- A path that names the place where something was written finds what was written. -/
theorem Files.Grows.find_written {Written : Place → Prop} {before after : Files} {p q : Path}
    {place : Place} {old new : Content} (hgrows : before.Grows Written after)
    (hwritten : after.find q = .ok (place, .file new))
    (hold : before.find p = .ok (place, .file old)) : after.find p = .ok (place, .file new) := by
  -- both paths lead to the one place, and a place holds one thing
  obtain ⟨content, hfind, -⟩ := hgrows.find_file hold
  obtain ⟨-, -, hnode, -⟩ := find_eq_file_iff.mp hfind
  obtain ⟨-, -, hnew, -⟩ := find_eq_file_iff.mp hwritten
  rw [hnode] at hnew
  cases hnew
  exact hfind

namespace Build.Changelog

/-- The section is the one that was cut out of the changelog for the wanted version. -/
def IsCut (s : Settings) (ctx : Context) (fs : Files) (slice : String) : Prop :=
  ∃ content contents, fs.read ⟨s.input⟩ = .ok content ∧
    Text.decode? content.toBytes = some contents ∧
    cut? contents (wantedVersion ctx) = some slice

/-- Either a section is cut out and stored, or the run fails before anything is changed. -/
theorem run_cases (s : Settings) (ctx : Context) (h : Host) :
    (∃ slice, IsCut s ctx h.files slice ∧
      ExceptT.run (run s) (ctx, h) =
        ExceptT.run
          (RunM.storing (.writingChangelog (location s ctx)) (location s ctx) (.ofText slice) source
            "Changelog section written"
            { id := s.id, filename := s.input, location := location s ctx })
          (ctx, h)) ∨
    ∃ f, ExceptT.run (run s) (ctx, h) = (.error f, ctx, h) := by
  rw [run, RunM.run_context_bind]
  dsimp only
  rw [run_bind, RunM.run_host, HostM.run_during]
  rcases HostM.run_readText ⟨s.input⟩ h with ⟨content, contents, hread, htext, hrun⟩ | ⟨f, hrun⟩
  · rw [hrun]
    dsimp only [Except.mapError]
    cases hcut : cut? contents (wantedVersion ctx) with
    | none => exact .inr ⟨_, rfl⟩
    | some slice => exact .inl ⟨slice, ⟨content, contents, hread, htext, hcut⟩, rfl⟩
  · rw [hrun]
    exact .inr ⟨_, rfl⟩

/-- **A slice is written or nothing is, and the changelog is lost only to its slice.** If the run
succeeds, it has cut a section out of the changelog and written it at one place, which is the one
that its path names. The path of the changelog names the file that it named, and this one holds what
it held, unless it is the very place that the slice was written at: then it holds the slice. If the
run fails, no file was written, and the changelog holds what it held. -/
theorem run_keeps_or_replaces (s : Settings) (ctx : Context) (h : Host) :
    let done := (module s).run ctx h
    match done.result with
    | .ok () => ∃ slice place, IsCut s ctx h.files slice ∧
        h.files.Grows (· = place) done.host.files ∧
        done.host.files.find (location s ctx) = .ok (place, .file (.ofText slice)) ∧
        ∀ original content, h.files.find ⟨s.input⟩ = .ok (original, .file content) →
          done.host.files.find ⟨s.input⟩
            = .ok (original, .file (if original = place then .ofText slice else content))
    | .error _ => h.files.Grows (fun _ => False) done.host.files ∧
        ∀ original content, h.files.find ⟨s.input⟩ = .ok (original, .file content) →
          done.host.files.find ⟨s.input⟩ = .ok (original, .file content) := by
  intro done
  have hdone : done = (module s).run ctx h := rfl
  rw [module, Module.run_ofSteps] at hdone
  rcases run_cases s ctx h with ⟨slice, hcut, hrun⟩ | ⟨f, hrun⟩
  · rw [hrun] at hdone
    cases hstore : h.files.store (location s ctx) (.ofText slice) with
    | ok after =>
      rw [RunM.run_storing_of_ok hstore] at hdone
      obtain ⟨place, hgrows, hfind⟩ := Files.exists_place_of_store hstore
      rw [hdone]
      refine ⟨slice, place, hcut, hgrows, hfind, ?_⟩
      intro original content horiginal
      -- the one question is whether the slice was written over the changelog
      by_cases hplace : original = place
      · subst hplace
        rw [if_pos rfl]
        exact hgrows.find_written hfind horiginal
      · rw [if_neg hplace]
        exact hgrows.find_unwritten horiginal hplace
    | error failed =>
      obtain ⟨f, hfail⟩ := RunM.run_storing_of_error hstore
      rw [hfail] at hdone
      -- directories may have been created on the way to a file that could not be written
      have hgrows : h.files.Grows (fun _ => False) failed.1 :=
        Files.grows_of_store_eq_error hstore
      rw [hdone]
      refine ⟨hgrows, ?_⟩
      intro original content horiginal
      exact hgrows.find_unwritten horiginal not_false
  · rw [hrun] at hdone
    rw [hdone]
    refine ⟨.refl _, ?_⟩
    intro original content horiginal
    exact horiginal

/-- A release with its files in a directory. -/
def released (targetDirectory : Path) : Context where
  targetDirectory := targetDirectory
  repository := { tag := "v1.0.0" }

/-- A changelog of two releases. -/
def twoReleases : String := "# News\n\n## [v1.0.0]\n\n- all of it\n\n## [v0.9.0]\n\n- some of it\n"

/-- The section of the release. -/
def lastRelease : String := "## [v1.0.0]\n\n- all of it\n"

/-- The changelog is in the working directory. -/
def twoReleasesHost : Host where
  files :=
    { nodes := [(["work"], .directory), (["CHANGELOG.md", "work"], .file (.ofText twoReleases))]
      workingDirectory := ["work"] }

/-- The text of the file that a path names. -/
def textAt? (fs : Files) (p : Path) : Option String :=
  match fs.read p with
  | .ok content => Text.decode? content.toBytes
  | .error _ => none

/-- The text at a path is the text that was written at the place that the path names. -/
theorem textAt?_of_find {fs : Files} {p : Path} {place : Place} {text : String}
    (hfind : fs.find p = .ok (place, .file (.ofText text))) : textAt? fs p = some text := by
  have hread : fs.read p = .ok (.ofText text) := Files.read_eq_ok_iff.mpr ⟨place, hfind⟩
  rw [textAt?, hread]
  exact Text.decode?_encode text

/-- The changelog is found where it was put. -/
theorem find_twoReleases : twoReleasesHost.files.find ⟨"CHANGELOG.md"⟩
    = .ok (["CHANGELOG.md", "work"], .file (.ofText twoReleases)) := by
  refine Files.find_eq_file_iff.mpr ⟨by decide +kernel, by decide +kernel, ?_, by decide +kernel⟩
  simp [twoReleasesHost, Files.node?, Files.row?]

/-- With a directory of its own for what is written, the changelog is kept, and the section is found
beside it. -/
theorem changelog_kept :
    let done := (module schema.defaults).run (released ⟨"dist"⟩) twoReleasesHost
    done.result = .ok () ∧ textAt? done.host.files ⟨"CHANGELOG.md"⟩ = some twoReleases ∧
      textAt? done.host.files ⟨"dist/CHANGELOG.md"⟩ = some lastRelease := by
  intro done
  have hok : done.result = .ok () := by decide +kernel
  have hslice : (textAt? twoReleasesHost.files ⟨schema.defaults.input⟩).bind
      (cut? · (wantedVersion (released ⟨"dist"⟩))) = some lastRelease := by decide +kernel
  -- the slice is stored in `dist`, which is not the place of the changelog
  have hplace : (done.host.files.find (location schema.defaults (released ⟨"dist"⟩))).map Prod.fst
      = .ok ["CHANGELOG.md", "dist", "work"] := by decide +kernel
  have hlocation : location schema.defaults (released ⟨"dist"⟩) = ⟨"dist/CHANGELOG.md"⟩ := by
    decide +kernel
  have hleaves := run_keeps_or_replaces schema.defaults (released ⟨"dist"⟩) twoReleasesHost
  dsimp only at hleaves
  split at hleaves
  · obtain ⟨slice, place, ⟨content, contents, hread, htext, hcut⟩, -, hfind, hkept⟩ := hleaves
    have hinput := hkept _ _ find_twoReleases
    rw [textAt?, hread] at hslice
    dsimp only at hslice
    rw [htext, Option.bind_some, hcut] at hslice
    obtain rfl : slice = lastRelease := Option.some.inj hslice
    obtain rfl : place = ["CHANGELOG.md", "dist", "work"] := by
      rw [hfind] at hplace
      exact Except.ok.inj hplace
    rw [if_neg (by decide)] at hinput
    rw [hlocation] at hfind
    exact ⟨hok, textAt?_of_find hinput, textAt?_of_find hfind⟩
  · next f hfail =>
    rw [hok] at hfail
    cases hfail

/-- If everything is written where the changelog is, or if the path of the changelog starts at the
root, then by default the section takes the place of the changelog. The runs end well, and in the
second case nothing is written into the target directory. -/
theorem changelog_replaced :
    let here := (module schema.defaults).run (released ⟨"."⟩) twoReleasesHost
    let absolute := (module { schema.defaults with input := "/work/CHANGELOG.md" }).run
      (released ⟨"dist"⟩) twoReleasesHost
    (here.result = .ok () ∧
      textAt? twoReleasesHost.files ⟨"CHANGELOG.md"⟩ = some twoReleases ∧
      textAt? here.host.files ⟨"CHANGELOG.md"⟩ = some lastRelease) ∧
    absolute.result = .ok () ∧
      textAt? twoReleasesHost.files ⟨"/work/CHANGELOG.md"⟩ = some twoReleases ∧
      textAt? absolute.host.files ⟨"/work/CHANGELOG.md"⟩ = some lastRelease ∧
      absolute.host.files.exists? ⟨"dist"⟩ = false := by
  decide +kernel

end Build.Changelog

end ReleasePipeline
