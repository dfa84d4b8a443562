/-
What the module that lists digests does, from its settings to the file.

All artifacts are read before anything is written, so the digests are those of the files as they
were before, also if the listing is put in the place of one of them, and an artifact that cannot be
read leaves everything as it was (`run_lines_of_unreadable`). What is left is to store the listing
and to record it, which succeeds or fails as a whole (`RunM.run_storing_of_ok`,
`RunM.run_storing_of_error`).
-/
import ReleasePipeline.Proofs.Build.Checksum.Listing
import ReleasePipeline.Proofs.Catalog.Selection
import ReleasePipeline.Proofs.Host.Storing

set_option autoImplicit false

namespace ReleasePipeline.Build.Checksum

open Effect

variable {algorithm : HashAlgorithm} {artifacts : List Artifact} {h : Host}

/-! ## Reading -/

/-- What is to be listed for an artifact: the digest of its file in hexadecimal digits, and its
name. -/
def Lists (algorithm : HashAlgorithm) (fs : Files) (a : Artifact) (e : Entry) : Prop :=
  ∃ content, fs.read a.location = .ok content ∧
    e.digest = HashAlgorithm.hexadecimal (algorithm.digest content.toBytes.toList) ∧
    e.filename = a.filename

/-- What is to be listed can be computed. -/
theorem lists_iff {fs : Files} {a : Artifact} {e : Entry} : Lists algorithm fs a e ↔
    (fs.read a.location).map (fun content => ⟨algorithm.hexDigest content.toBytes, a.filename⟩)
      = .ok e := by
  unfold Lists
  cases fs.read a.location with
  | error e =>
    constructor
    · rintro ⟨content, hread, -⟩
      cases hread
    · intro hread
      cases hread
  | ok content =>
    constructor
    · rintro ⟨_, hread, hdigest, hfilename⟩
      cases hread
      cases e
      cases hdigest
      cases hfilename
      rfl
    · intro hread
      cases hread
      exact ⟨content, rfl, rfl, rfl⟩

/-- An artifact has at most one entry: what its file holds and what it is called settle both parts.
-/
theorem rightUnique_lists (algorithm : HashAlgorithm) (fs : Files) :
    Relator.RightUnique (Lists algorithm fs) := by
  intro a e e' h h'
  rw [lists_iff] at h h'
  exact Except.ok.inj (h.symm.trans h')

/-- The digest is that of the whole file, and computing it changes nothing. -/
theorem run_digestFile_of_ok {p : Path} {content : Content} (hread : h.files.read p = .ok content) :
    ExceptT.run (digestFile algorithm p) h = (.ok (algorithm.hexDigest content.toBytes), h) := by
  obtain ⟨node, hopen, hnode⟩ := exists_of_bind_eq_ok hread
  rw [digestFile, run_bind, HostM.run_during, HostM.run_query, hopen]
  change ExceptT.run (HostM.during _ _ >>= _) h = _
  rw [run_bind, HostM.run_during, HostM.run_query, hnode]
  rfl

/-- A file that cannot be opened or read fails the computation, and nothing is changed either. -/
theorem run_digestFile_of_error (algorithm : HashAlgorithm) {p : Path} {e : IoError}
    (hread : h.files.read p = .error e) :
    ∃ f, ExceptT.run (digestFile algorithm p) h = (.error f, h) := by
  rw [digestFile, run_bind, HostM.run_during, HostM.run_query]
  unfold Files.read at hread
  -- a path that names nothing fails to be opened, a directory fails only to be read
  cases hopen : h.files.openNode p with
  | error e => exact ⟨_, rfl⟩
  | ok node =>
    rw [hopen] at hread
    have hnode : Files.readNode node = .error e := hread
    change ∃ f, ExceptT.run (HostM.during _ _ >>= _) h = (.error f, h)
    rw [run_bind, HostM.run_during, HostM.run_query, hnode]
    exact ⟨_, rfl⟩

/-- If all artifacts can be read, there is a line for each of them, in their order. -/
theorem run_lines_of_readable (algorithm : HashAlgorithm)
    (hall : ∀ a ∈ artifacts, ∃ content, h.files.read a.location = .ok content) :
    ∃ entries, List.Forall₂ (Lists algorithm h.files) artifacts entries ∧
      ExceptT.run (lines algorithm artifacts) h = (.ok (entries.map Entry.line), h) := by
  induction artifacts with
  | nil => exact ⟨[], .nil, rfl⟩
  | cons a rest ih =>
    rw [List.forall_mem_cons] at hall
    obtain ⟨⟨content, hread⟩, hrest⟩ := hall
    obtain ⟨entries, hentries, hrun⟩ := ih hrest
    let entry : Entry := ⟨algorithm.hexDigest content.toBytes, a.filename⟩
    refine ⟨entry :: entries, .cons ⟨content, hread, rfl, rfl⟩ hentries, ?_⟩
    rw [lines, run_bind, run_digestFile_of_ok hread]
    dsimp only
    rw [run_bind, hrun]
    rfl

/-- If some artifact cannot be read, reading breaks off, and nothing was changed. -/
theorem run_lines_of_unreadable (algorithm : HashAlgorithm) {a : Artifact} {e : IoError}
    (ha : a ∈ artifacts) (hread : h.files.read a.location = .error e) :
    ∃ f, ExceptT.run (lines algorithm artifacts) h = (.error f, h) := by
  induction artifacts with
  | nil => cases ha
  | cons first rest ih =>
    rw [lines, run_bind]
    -- an artifact before it may fail first, so which failure is reported is not said
    cases hfirst : h.files.read first.location with
    | error e =>
      obtain ⟨f, hrun⟩ := run_digestFile_of_error algorithm hfirst
      exact ⟨f, by rw [hrun]⟩
    | ok content =>
      have hrest : a ∈ rest := by
        rcases List.mem_cons.mp ha with rfl | hrest
        · rw [hread] at hfirst
          cases hfirst
        · exact hrest
      obtain ⟨f, hrun⟩ := ih hrest
      refine ⟨f, ?_⟩
      rw [run_digestFile_of_ok hfirst]
      dsimp only
      rw [run_bind, hrun]

/-- What is listed is listed for some artifact. -/
theorem exists_lists_of_mem {fs : Files} {entries : List Entry}
    (hentries : List.Forall₂ (Lists algorithm fs) artifacts entries) :
    ∀ e ∈ entries, ∃ a ∈ artifacts, Lists algorithm fs a e := by
  induction hentries with
  | nil =>
    intro e he
    cases he
  | cons hfirst _ ih =>
    rw [List.forall_mem_cons]
    constructor
    · exact ⟨_, List.mem_cons_self, hfirst⟩
    · intro e he
      obtain ⟨a, ha, hlists⟩ := ih e he
      exact ⟨a, List.mem_cons_of_mem _ ha, hlists⟩

/-- What was listed for files without a line end in their names can be read back. -/
theorem entriesOf_of_lists {fs : Files} {entries : List Entry} (hne : entries ≠ [])
    (hentries : List.Forall₂ (Lists algorithm fs) artifacts entries)
    (hnames : ∀ a ∈ artifacts, '\n' ∉ a.filename.toList) :
    entriesOf (.ofText (listing (entries.map Entry.line))) = entries := by
  -- digests are written in hexadecimal digits, and names are those of the artifacts
  apply entriesOf_listing hne
  · intro e he c hc
    obtain ⟨a, -, content, -, hdigest, -⟩ := exists_lists_of_mem hentries e he
    rw [hdigest] at hc
    exact HashAlgorithm.mem_digits_of_mem_hexadecimal hc
  · intro e he
    obtain ⟨a, ha, content, -, -, hfilename⟩ := exists_lists_of_mem hentries e he
    rw [hfilename]
    exact hnames a ha

/-! ## The whole run

The template of the file name is rendered first. So a template that fails is reported even where
nothing is selected, and an artifact that cannot be read is reported only if the template renders.
-/

section Run

variable {s : Settings} {ctx : Context} {output : String}

/-- The file name of the listing, as its template renders. -/
def renderOutput (s : Settings) (ctx : Context) : Except Failure String :=
  Archive.renderText { ctx.scope with algorithm := s.algorithm.name } "checksum" s.output

/-- Where the listing is stored. -/
def location (ctx : Context) (output : String) : Path := ctx.targetDirectory.join ⟨output⟩

/-- Once the file name is there, it depends on the selection whether anything is read at all: for an
empty one there is only a warning. -/
theorem run_of_renderOutput (houtput : renderOutput s ctx = .ok output) :
    ExceptT.run (run s) (ctx, h) =
      ExceptT.run
        (if (ctx.catalog.group s.builds s.skip).isEmpty then
          RunM.host <|
            HostM.warn source "No artifacts to checksum" [("builds", Text.quotedList s.builds)]
        else
          RunM.host (lines s.algorithm (ctx.catalog.group s.builds s.skip).artifacts) >>=
            fun lines => RunM.storing (.writingChecksums (location ctx output))
              (location ctx output) (.ofText (listing lines)) source "Checksum file written"
              { id := s.id, filename := output, location := location ctx output })
        (ctx, h) := by
  have hhost : ExceptT.run (RunM.host (HostM.ofExcept (renderOutput s ctx))) (ctx, h)
      = (.ok output, ctx, h) := by
    rw [houtput]
    rfl
  unfold renderOutput at hhost
  rw [run, RunM.run_context_bind]
  dsimp only
  rw [run_bind, hhost]
  rfl

/-- An artifact that cannot be read ends the run before the listing is stored. -/
theorem run_of_unreadable {a : Artifact} {e : IoError} (houtput : renderOutput s ctx = .ok output)
    (ha : a ∈ (ctx.catalog.group s.builds s.skip).artifacts)
    (hread : h.files.read a.location = .error e) :
    ∃ f, ExceptT.run (run s) (ctx, h) = (.error f, ctx, h) := by
  -- an artifact was selected, so this is not the case that only warns
  have hsome : ¬(ctx.catalog.group s.builds s.skip).isEmpty = true := by
    rw [Catalog.isEmpty_group_iff]
    exact List.ne_nil_of_mem ha
  obtain ⟨f, hrun⟩ := run_lines_of_unreadable s.algorithm ha hread
  refine ⟨f, ?_⟩
  rw [run_of_renderOutput houtput, if_neg hsome, run_bind, RunM.run_host, hrun]

/-- Once the lines are there, they are stored. -/
theorem run_of_readable {entries : List Entry} (houtput : renderOutput s ctx = .ok output)
    (hsome : (ctx.catalog.group s.builds s.skip).isEmpty = false)
    (hrun : ExceptT.run (lines s.algorithm (ctx.catalog.group s.builds s.skip).artifacts) h
      = (.ok (entries.map Entry.line), h)) :
    ExceptT.run (run s) (ctx, h) =
      ExceptT.run
        (RunM.storing (.writingChecksums (location ctx output)) (location ctx output)
          (.ofText (listing (entries.map Entry.line))) source "Checksum file written"
          { id := s.id, filename := output, location := location ctx output })
        (ctx, h) := by
  rw [run_of_renderOutput houtput, hsome, if_neg Bool.false_ne_true, run_bind, RunM.run_host, hrun]

/-- Where something is selected, something is listed. -/
theorem ne_nil_of_lists {fs : Files} {entries : List Entry}
    (hsome : (ctx.catalog.group s.builds s.skip).isEmpty = false)
    (hentries : List.Forall₂ (Lists algorithm fs) (ctx.catalog.group s.builds s.skip).artifacts
      entries) : entries ≠ [] := by
  rintro rfl
  have hnone : (ctx.catalog.group s.builds s.skip).isEmpty = true :=
    Catalog.isEmpty_group_iff.mpr (List.forall₂_nil_right_iff.mp hentries)
  rw [hsome] at hnone
  cases hnone

end Run

/-- **A listing is complete or is not there at all.** Where nothing is selected, the run succeeds
and changes neither the context nor a file. If a selected artifact cannot be read, it fails and
changes neither of them. Otherwise it stores the listing of all selected artifacts, in their order:
a line for each, which ends in a line end and holds the digest of what the file held before the run,
two blanks, and the file name; and such a listing can be read back if no file name has a line end in
it. If the listing can be stored, it is what its path names, no file anywhere else was written, and
one artifact for no platform was recorded, at the end. If not, the run fails, no file was written
and nothing recorded. -/
theorem run_lists_digests (s : Settings) (ctx : Context) (h : Host) {output : String}
    (houtput : renderOutput s ctx = .ok output) :
    let selected := ctx.catalog.group s.builds s.skip
    let done := (module s).run ctx h
    (selected.isEmpty = true →
      done.result = .ok () ∧ done.context = ctx ∧ done.host.files = h.files) ∧
    (∀ a ∈ selected.artifacts, ∀ e, h.files.read a.location = .error e →
      (∃ f, done.result = .error f) ∧ done.context = ctx ∧ done.host.files = h.files) ∧
    (selected.isEmpty = false →
      (∀ a ∈ selected.artifacts, ∃ content, h.files.read a.location = .ok content) →
      ∃ entries, List.Forall₂ (Lists s.algorithm h.files) selected.artifacts entries ∧
        let content := Content.ofText (String.join (entries.map fun e => e.line ++ "\n"))
        ((∀ a ∈ selected.artifacts, '\n' ∉ a.filename.toList) → entriesOf content = entries) ∧
        match h.files.store (location ctx output) content with
        | .ok after =>
          done.result = .ok () ∧ done.host.files = after ∧
            (∃ place, h.files.Grows (· = place) after ∧
              after.find (location ctx output) = .ok (place, .file content)) ∧
            ∃ listed : Artifact, listed.id = s.id ∧ listed.filename = output ∧
              listed.location = location ctx output ∧ listed.target? = none ∧
              done.context = { ctx with catalog := ⟨ctx.catalog.artifacts ++ [listed]⟩ }
        | .error (left, _) =>
          (∃ f, done.result = .error f) ∧ done.context = ctx ∧ done.host.files = left ∧
            h.files.Grows (fun _ => False) left) := by
  intro selected done
  have hdone : done = (module s).run ctx h := rfl
  rw [module, Module.run_ofSteps] at hdone
  refine ⟨?_, ?_, ?_⟩
  · intro hempty
    rw [run_of_renderOutput houtput, if_pos hempty] at hdone
    rw [hdone]
    exact ⟨rfl, rfl, rfl⟩
  · intro a ha e hread
    obtain ⟨f, hrun⟩ := run_of_unreadable houtput ha hread
    rw [hrun] at hdone
    rw [hdone]
    exact ⟨⟨f, rfl⟩, rfl, rfl⟩
  · intro hsome hall
    obtain ⟨entries, hentries, hlines⟩ := run_lines_of_readable s.algorithm hall
    have hne : entries ≠ [] := ne_nil_of_lists hsome hentries
    -- from here on the run is one `storing`, which is all or nothing
    rw [run_of_readable houtput hsome hlines, listing_entries hne] at hdone
    refine ⟨entries, hentries, ?_, ?_⟩
    · intro hnames
      rw [← listing_entries hne]
      exact entriesOf_of_lists hne hentries hnames
    · split
      · next after hstore =>
        rw [RunM.run_storing_of_ok hstore] at hdone
        rw [hdone]
        exact ⟨rfl, rfl, Files.exists_place_of_store hstore, _, rfl, rfl, rfl, rfl, rfl⟩
      · next left e hstore =>
        obtain ⟨f, hrun⟩ := RunM.run_storing_of_error hstore
        rw [hrun] at hdone
        rw [hdone]
        exact ⟨⟨f, rfl⟩, rfl, rfl, Files.grows_of_store_eq_error hstore⟩

/-- Two archives and what they were made from. -/
def shipped : Context where
  projectName := "demo"
  version := "1.0.0"
  targetDirectory := ⟨"dist"⟩
  catalog :=
    ⟨[⟨"archive", "demo.exe", ⟨"windows"⟩, ⟨"windows", "amd64", none⟩, .raw⟩,
      ⟨"archive", "demo", ⟨"linux"⟩, ⟨"linux", "amd64", none⟩, .raw⟩,
      ⟨"default", "demo", ⟨"elf"⟩, ⟨"linux", "amd64", none⟩, .raw⟩]⟩

/-- The archives are there. -/
def shippedHost : Host where
  files := { nodes := [(["windows"], .file (.ofText "")), (["linux"], .file (.ofText "abc"))] }

/-- The archives are listed by target. -/
theorem two_archives_listed :
    let done := (module schema.defaults).run shipped shippedHost
    done.result = .ok () ∧
      (done.host.files.read ⟨"dist/demo-1.0.0-checksums.txt"⟩).map entriesOf = .ok
        [⟨"ba7816bf8f01cfea414140de5dae2223b00361a396177a9cb410ff61f20015ad", "demo"⟩,
          ⟨"e3b0c44298fc1c149afbf4c8996fb92427ae41e4649b934ca495991b7852b855", "demo.exe"⟩] := by
  intro done
  have houtput : renderOutput schema.defaults shipped = .ok "demo-1.0.0-checksums.txt" := by
    decide +kernel
  have hselected : (shipped.catalog.group schema.defaults.builds schema.defaults.skip).artifacts
      = [⟨"archive", "demo", ⟨"linux"⟩, ⟨"linux", "amd64", none⟩, .raw⟩,
          ⟨"archive", "demo.exe", ⟨"windows"⟩, ⟨"windows", "amd64", none⟩, .raw⟩] := by
    decide +kernel
  have hlinux : Lists .sha256 shippedHost.files
      ⟨"archive", "demo", ⟨"linux"⟩, ⟨"linux", "amd64", none⟩, .raw⟩
      ⟨"ba7816bf8f01cfea414140de5dae2223b00361a396177a9cb410ff61f20015ad", "demo"⟩ := by
    rw [lists_iff]
    decide +kernel
  have hwindows : Lists .sha256 shippedHost.files
      ⟨"archive", "demo.exe", ⟨"windows"⟩, ⟨"windows", "amd64", none⟩, .raw⟩
      ⟨"e3b0c44298fc1c149afbf4c8996fb92427ae41e4649b934ca495991b7852b855", "demo.exe"⟩ := by
    rw [lists_iff]
    decide +kernel
  have hok : done.result = .ok () := by decide +kernel
  refine ⟨hok, ?_⟩
  obtain ⟨-, -, hlists⟩ := run_lists_digests schema.defaults shipped shippedHost houtput
  rw [hselected] at hlists
  have hreadable : ∀ a ∈ [_, _], ∃ content,
      shippedHost.files.read (Artifact.location a) = .ok content :=
    List.forall_mem_cons.mpr ⟨hlinux.imp fun _ h => h.1,
      List.forall_mem_singleton.mpr (hwindows.imp fun _ h => h.1)⟩
  obtain ⟨entries, hentries, hback, hstored⟩ := hlists (by decide +kernel) hreadable
  -- what is listed for the two archives is no other than what was computed
  have hsame : entries = [_, _] :=
    List.right_unique_forall₂' (rightUnique_lists _ _) hentries
      (.cons hlinux (.cons hwindows .nil))
  split at hstored
  · obtain ⟨-, hfiles, ⟨place, -, hfind⟩, -⟩ := hstored
    have hread : done.host.files.read (location shipped "demo-1.0.0-checksums.txt") = .ok _ :=
      Files.read_eq_ok_iff.mpr ⟨place, by rw [hfiles]; exact hfind⟩
    have hlocation : location shipped "demo-1.0.0-checksums.txt"
        = ⟨"dist/demo-1.0.0-checksums.txt"⟩ := by decide +kernel
    rw [hlocation] at hread
    rw [hread, Except.map, hback (by decide +kernel), hsame]
  · obtain ⟨⟨f, hfail⟩, -⟩ := hstored
    rw [hok] at hfail
    cases hfail

end ReleasePipeline.Build.Checksum
