/-
What is in the archives when a run ends.

The archives of a run are written one after the other, and nothing keeps their names apart: the name
of an archive is whatever its template renders to, and with `output: "all.zip"` it is the same for
every target. So an archive is still there at the end if no later one went to the same place, and it
holds what its sources held at the start if none of them is at the place of an archive, be it an
earlier one or this one. That is all that can go wrong, which is what is proved here
(`archives_hold_their_copies`).

Two cuts are made in the course of a run. The plans before an archive tell which places were written
before it was packed, so that its sources are still what they were (`pack_congr`); and the plans
behind it tell which places were written afterwards, so that it is still what it was
(`Files.Grows.find_file`).
-/
import ReleasePipeline.Proofs.Archive.Writing

set_option autoImplicit false

namespace ReleasePipeline.Archive

section Contents

variable {γ : Type} {format : Format} {labels : Labels} {s : Settings γ} {m : Module}

/-- At the location there is an archive, and the files in it are copies of those sources that were
files before, in their order, and no others. -/
def HoldsCopies (format : Format) (before after : Files) (sources : List (String × Path))
    (location : Path) : Prop :=
  ∃ place entries, after.find location = .ok (place, .file (.archive format.kind entries)) ∧
    List.Forall₂ (IsCopy format.kind before) (sources.filter (before.isFile ·.2))
      (fileEntries entries)

/-- If no later archive went to its place and no source is at the place of an archive that was
written before or of itself, an archive holds copies of the sources as they were at the start. -/
theorem WritesAll.holdsCopies {ctx : Context} {files : List Path} {before after : Files}
    {earlier later : List Plan} {plan : Plan} (hformat : format.Faithful)
    (h : WritesAll format ctx files before (earlier ++ plan :: later) after)
    (hlater : ∀ place, after.Names (plan.locationIn ctx) place → ¬Taken ctx later after place)
    (hsources : ∀ source ∈ plan.entries files, ∃ place node,
      before.find source.2 = .ok (place, node) ∧ ¬Taken ctx (earlier ++ [plan]) after place) :
    HoldsCopies format before after (plan.entries files) (plan.locationIn ctx) := by
  obtain ⟨middle, hbefore, hrest⟩ := h.exists_middle
  cases hrest with
  | @cons _ _ place _ begun written _ hfirst hafter =>
    -- the archive as it was written is the one that is found at the end
    obtain ⟨content, hfind, hsame⟩ := hafter.grows.find_file hfirst.find
    have hcontent := hsame (hlater place ⟨content, hfind⟩)
    -- and it was packed from sources that were as they had been at the start
    have hgrows : before.Grows (Taken ctx (earlier ++ [plan]) after) begun := by
      refine (hbefore.grows.mono ?_).trans (hfirst.begins.mono ?_)
      · rintro other ⟨one, hone, hnames⟩
        exact ⟨one, List.mem_append_left _ hone,
          hafter.grows.names (hfirst.grows.names hnames)⟩
      · rintro _ rfl
        exact ⟨plan, List.mem_append_right _ List.mem_cons_self, content, hfind⟩
    have hpack : format.pack begun [] (plan.entries files)
        = format.pack before [] (plan.entries files) :=
      hformat.pack_congr [] _ fun source hsource => by
        obtain ⟨_, _, hfound, hfree⟩ := hsources source hsource
        exact hgrows.openNode_eq hfound hfree
    have hpacked := hfirst.packed
    rw [hpack] at hcontent hpacked
    rw [hcontent] at hfind
    exact ⟨place, _, hfind, hformat.copies_pack [] _ hpacked⟩

/-- **An archive holds its own target's files, unless archives get in each other's way.** If a
module that packs artifacts ends well, there was a plan for each group, in order, and the archives
of these plans were recorded at the end of the catalog. At the location of each there is an archive
of the kind. If no later archive of the run is found at the same place, and each source is found at
the start, at a place that is neither that of an earlier archive nor that of this one, then it holds
a copy of each artifact of its group, and after these of each file that the patterns stood for, with
the content that they had at the start, and no other file. -/
theorem archives_hold_their_copies (hm : IsPacker format labels s m) (ctx : Context) (h : Host)
    (hok : (m.run ctx h).result = .ok ()) :
    let after := (m.run ctx h).host.files
    let statics := matched h.files s.files
    ∃ plans,
      List.Forall₂ (fun group plan => Plans labels s ctx group plan ∧ plan.artifacts = group.2)
        (ctx.catalog.group s.builds s.skip).toList plans ∧
      (m.run ctx h).context.catalog.artifacts = ctx.catalog.artifacts
        ++ plans.map (fun plan => plan.toArtifact s.id (plan.locationIn ctx)) ∧
      ∀ earlier plan later, plans = earlier ++ plan :: later →
        (∃ place entries, after.find (plan.locationIn ctx)
          = .ok (place, .file (.archive format.kind entries))) ∧
        ((∀ place, after.Names (plan.locationIn ctx) place → ¬Taken ctx later after place) →
          (∀ source ∈ plan.entries statics, ∃ place node,
            h.files.find source.2 = .ok (place, node) ∧
              ¬Taken ctx (earlier ++ [plan]) after place) →
          HoldsCopies format h.files after (plan.entries statics) (plan.locationIn ctx)) := by
  intro after statics
  -- what is known of a success: the plans, the archives written by them, and the record
  obtain ⟨plans, hdone⟩ := hm.exists_succeeded hok
  refine ⟨plans, hdone.planned.imp fun group plan hplan => ⟨hplan, hplan.of_group.1⟩, ?_, ?_⟩
  · rw [hdone.context, Context.record, Catalog.artifacts_addAll]
  · rintro earlier plan later rfl
    exact ⟨hdone.written.exists_archive (List.mem_append_right _ List.mem_cons_self),
      hdone.written.holdsCopies hm.faithful⟩

end Contents

/-! ## Archives of their own -/

/-- The place that a path names, without what is there. -/
theorem exists_find_of_place {fs : Files} {p : Path} {place : Place}
    (h : (fs.find p).map Prod.fst = .ok place) : ∃ node, fs.find p = .ok (place, node) := by
  cases hfind : fs.find p with
  | error e =>
    rw [hfind] at h
    cases h
  | ok found =>
    rw [hfind] at h
    obtain ⟨_, node⟩ := found
    cases h
    exact ⟨node, rfl⟩

/-- One executable was built. -/
def lone : Context where
  projectName := "demo"
  version := "1.0"
  targetDirectory := ⟨"dist"⟩
  catalog := ⟨[⟨"default", "demo", ⟨"build/demo"⟩, ⟨"linux", "amd64", none⟩, .raw⟩]⟩

/-- The executable is there, and something to read. -/
def loneHost : Host where
  files :=
    { nodes :=
        [(["build"], .directory), (["demo", "build"], .file (.ofText "elf")),
          (["README.md"], .file (.ofText "Read me."))] }

/-- The plan for its archive, with the settings as they are by default. -/
def lonePlan : Plan where
  target := some ⟨"linux", "amd64", none⟩
  commonDirectory := "demo-1.0-linux-amd64"
  output := "demo-1.0-linux-amd64.zip"
  artifacts := lone.catalog.artifacts

/-- The archive holds both. -/
theorem lone_executable_packed :
    let done := (Build.Zip.module Build.Zip.schema.defaults).run lone loneHost
    done.result = .ok () ∧
      HoldsCopies (zip .deflated) loneHost.files done.host.files
        [("demo-1.0-linux-amd64/demo", ⟨"build/demo"⟩),
          ("demo-1.0-linux-amd64/README.md", ⟨"README.md"⟩)]
        ⟨"dist/demo-1.0-linux-amd64.zip"⟩ := by
  intro done
  let s := Build.Zip.schema.defaults
  have hok : done.result = .ok () := by decide +kernel
  obtain ⟨plans, hplans, -, hholds⟩ := archives_hold_their_copies (.zip s) lone loneHost hok
  -- there is one group, and so one plan
  have hgroups : (lone.catalog.group s.builds s.skip).toList
      = [("linux-amd64", lone.catalog.artifacts)] := by decide +kernel
  have hmade : Plan.make "build:zip" ".zip" s.commonDirectory s.output lone lone.catalog.artifacts
      = .ok lonePlan := by decide +kernel
  rw [hgroups] at hplans
  obtain ⟨plan, _, ⟨hplan, -⟩, hnone, rfl⟩ := List.forall₂_cons_left_iff.mp hplans
  cases hnone
  obtain rfl : lonePlan = plan := Except.ok.inj (hmade.symm.trans hplan)
  have hlocation : lonePlan.locationIn lone = ⟨"dist/demo-1.0-linux-amd64.zip"⟩ := by
    decide +kernel
  have hentries : lonePlan.entries (matched loneHost.files s.files)
      = [("demo-1.0-linux-amd64/demo", ⟨"build/demo"⟩),
          ("demo-1.0-linux-amd64/README.md", ⟨"README.md"⟩)] := by decide +kernel
  have hcopies := (hholds [] lonePlan [] rfl).2 fun _ _ ⟨_, hmem, _⟩ => nomatch hmem
  rw [hentries, hlocation] at hcopies
  -- neither source is at the place of the archive
  have harchive : (done.host.files.find (lonePlan.locationIn lone)).map Prod.fst
      = .ok ["demo-1.0-linux-amd64.zip", "dist"] := by decide +kernel
  have hfree (place : Place) (hplace : place ≠ ["demo-1.0-linux-amd64.zip", "dist"]) :
      ¬Taken lone ([] ++ [lonePlan]) done.host.files place := by
    rintro ⟨_, hmem, content, hfind⟩
    rw [List.mem_singleton.mp hmem] at hfind
    exact hplace (Except.ok.inj ((congrArg (Except.map Prod.fst) hfind).symm.trans harchive))
  have hexecutable : (loneHost.files.find ⟨"build/demo"⟩).map Prod.fst = .ok ["demo", "build"] := by
    decide +kernel
  have hreadme : (loneHost.files.find ⟨"README.md"⟩).map Prod.fst = .ok ["README.md"] := by
    decide +kernel
  refine ⟨hok, hcopies (List.forall_mem_cons.mpr ⟨?_, List.forall_mem_singleton.mpr ?_⟩)⟩
  · obtain ⟨node, hfind⟩ := exists_find_of_place hexecutable
    exact ⟨_, node, hfind, hfree _ (by decide)⟩
  · obtain ⟨node, hfind⟩ := exists_find_of_place hreadme
    exact ⟨_, node, hfind, hfree _ (by decide)⟩

/-! ## Archives in each other's way -/

/-- The bytes of a file that is no archive. -/
def plain? : Content → Option ByteArray
  | .bytes b => some b
  | .archive _ _ => none

/-- The files in the archive at a path, with their bytes if they are no archives themselves. -/
def filesIn (fs : Files) (p : Path) : List (String × Option ByteArray) :=
  match fs.find p with
  | .ok (_, .file (.archive _ entries)) => (fileEntries entries).map fun e => (e.1, plain? e.2)
  | _ => []

/-- What a zip archive holds that holds a copy of one file. -/
theorem exists_filesIn_of_holdsCopies {method : ZipMethod} {before after : Files} {name : String}
    {p location : Path} (hfile : before.isFile p = true)
    (h : HoldsCopies (zip method) before after [(name, p)] location) :
    ∃ content, before.read p = .ok content ∧
      filesIn after location = [(name, plain? content)] := by
  obtain ⟨place, entries, hfind, hcopies⟩ := h
  have hsources : [(name, p)].filter (before.isFile ·.2) = [(name, p)] :=
    List.filter_cons_of_pos hfile
  rw [hsources] at hcopies
  obtain ⟨⟨spelled, content⟩, _, hcopy, hnone, hentries⟩ := List.forall₂_cons_left_iff.mp hcopies
  cases hnone
  obtain rfl : name = spelled := Except.ok.inj hcopy.name
  refine ⟨content, hcopy.content, ?_⟩
  have hfound : filesIn after location = (fileEntries entries).map fun e => (e.1, plain? e.2) := by
    rw [filesIn, hfind]
  rw [hfound, hentries, List.map_singleton]

/-- The same program was built for two systems. -/
def pair (first second : Path) : Context where
  targetDirectory := ⟨"dist"⟩
  catalog :=
    ⟨[⟨"default", "demo", first, ⟨"linux", "amd64", none⟩, .raw⟩,
      ⟨"default", "demo.exe", second, ⟨"windows", "amd64", none⟩, .raw⟩]⟩

/-- Both executables are there, and the second is where an archive may go. -/
def pairHost : Host where
  files :=
    { nodes :=
        [(["demo"], .file (.ofText "elf")), (["dist"], .directory),
          (["linux", "dist"], .file (.ofText "pe"))] }

/-- Nothing but the executables is packed. -/
def named (output : String) : Build.Zip.Settings :=
  { Build.Zip.schema.defaults with commonDirectory := "", output, files := [] }

/-- If the name of the archives does not mention the target, two archives are recorded at one
location, and the one that is there does not hold the executable of the first target. And if the
archive for the first target goes to where the executable of the second is, the archive of the
second does not hold the executable that was there. The runs end well. -/
theorem archives_in_each_others_way :
    let ctx := pair ⟨"demo"⟩ ⟨"dist/linux"⟩
    let alike := (Build.Zip.module (named "all.zip")).run ctx pairHost
    let apart := (Build.Zip.module (named "{{OS}}")).run ctx pairHost
    (alike.result = .ok () ∧
      alike.context.catalog.artifacts.map (·.location)
        = [⟨"demo"⟩, ⟨"dist/linux"⟩, ⟨"dist/all.zip"⟩, ⟨"dist/all.zip"⟩] ∧
      ¬HoldsCopies (zip .deflated) pairHost.files alike.host.files [("demo", ⟨"demo"⟩)]
        ⟨"dist/all.zip"⟩) ∧
    apart.result = .ok () ∧
      apart.context.catalog.artifacts.map (·.location)
        = [⟨"demo"⟩, ⟨"dist/linux"⟩, ⟨"dist/linux"⟩, ⟨"dist/windows"⟩] ∧
      ¬HoldsCopies (zip .deflated) pairHost.files apart.host.files [("demo.exe", ⟨"dist/linux"⟩)]
        ⟨"dist/windows"⟩ := by
  intro ctx alike apart
  refine ⟨⟨by decide +kernel, by decide +kernel, fun hholds => ?_⟩,
    by decide +kernel, by decide +kernel, fun hholds => ?_⟩
  -- the second archive was written over the first
  · obtain ⟨content, -, hfound⟩ := exists_filesIn_of_holdsCopies (by decide +kernel) hholds
    have hactual : (filesIn alike.host.files ⟨"dist/all.zip"⟩).map Prod.fst = ["demo.exe"] := by
      decide +kernel
    rw [hfound, List.map_singleton] at hactual
    have hname : "demo" = "demo.exe" := List.head_eq_of_cons_eq hactual
    exact absurd hname (by decide)
  -- what the second archive packed was the first one by then, and an archive is no plain file
  · obtain ⟨content, hread, hfound⟩ := exists_filesIn_of_holdsCopies (by decide +kernel) hholds
    have hactual : (filesIn apart.host.files ⟨"dist/windows"⟩).map (·.2.isSome) = [false] := by
      decide +kernel
    have hbefore : (pairHost.files.read ⟨"dist/linux"⟩).map (plain? · |>.isSome) = .ok true := by
      decide +kernel
    rw [hfound] at hactual
    rw [hread] at hbefore
    have hsome : (plain? content).isSome = true := Except.ok.inj hbefore
    rw [List.map_singleton, hsome] at hactual
    exact absurd hactual (by decide)

end ReleasePipeline.Archive
