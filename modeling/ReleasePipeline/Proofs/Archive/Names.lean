/-
The names of the files in an archive.

An archive is packed source by source, and nothing looks whether a name was given before. So the
names in an archive are those that were asked for, in their order and as the archive spells them
(`PackedFor.map_names`), and no two are the same exactly if no two were asked for. A file that is
found under a path at the end was put there by the last of the archives that went to its place, so
it is the sources of that one that the names come from (`WritesAll.exists_packed`).

Two files of one name can be two builds for one target that call their file the same, or one file
that two patterns stand for, as `README.md` and `README*` do. Unpacked, one of them is lost
(`names_given_twice`). In a tar archive there is a third way: two names that were different are
spelled the same, because idle steps are dropped. It is for this that the statement is about the
spelled names.
-/
import Mathlib.Data.List.Nodup
import ReleasePipeline.Proofs.Archive.Contents

set_option autoImplicit false

namespace ReleasePipeline

/-- A path that names something names a file still, or still none. -/
theorem Files.Grows.isFile_eq {Written : Place → Prop} {a b : Files} {p : Path} {place : Place}
    {node : FileNode} (h : Grows Written a b) (hfind : a.find p = .ok (place, node)) :
    b.isFile p = a.isFile p := by
  -- a directory is one still, and a file may have got another content
  cases node with
  | directory =>
    rw [isFile_of_find_directory hfind, isFile_of_find_directory (h.find_directory hfind)]
  | file content =>
    obtain ⟨content', hfind', -⟩ := h.find_file hfind
    rw [isFile_of_find_file hfind, isFile_of_find_file hfind']

namespace Archive

/-! ## Sources and entries

What was a file when the archive was packed is a file at the end of the run, and so the sources that
are files can be told from the tree that the run leaves. -/

/-- Packing goes on to its end only if all its sources are there. -/
theorem Format.Faithful.exists_find_of_pack {format : Format} (hformat : format.Faithful)
    {fs : Files} {seen : List String} {sources : List (String × Path)}
    (h : (format.pack fs seen sources).failure? = none) :
    ∀ source ∈ sources, ∃ place node, fs.find source.2 = .ok (place, node) := by
  induction sources generalizing seen with
  | nil =>
    intro source hsource
    cases hsource
  | cons source rest ih =>
    obtain ⟨name, path⟩ := source
    rw [pack] at h
    obtain ⟨-, h⟩ := Packed.failure?_andThen_eq_none_iff.mp h
    obtain ⟨hfile, hrest⟩ := Packed.failure?_andThen_eq_none_iff.mp h
    rw [List.forall_mem_cons]
    constructor
    · have hsource := hformat.file fs name path hfile
      generalize fileEntries (format.packFile fs name path).entries = copied at hsource
      cases hsource with
      | file hfind _ => exact ⟨_, _, hfind⟩
      | directory hfind => exact ⟨_, _, hfind⟩
    · exact ih hrest

section Names

variable {format : Format} {files : List Path} {plan : Plan} {begun after : Files}
  {entries : List ArchiveEntry}

/-- The sources of an archive that are files now were files when it was packed. -/
theorem PackedFor.filter_isFile (hformat : format.Faithful)
    (h : PackedFor format files plan begun after entries) :
    (plan.entries files).filter (after.isFile ·.2)
      = (plan.entries files).filter (begun.isFile ·.2) := by
  apply List.filter_congr
  intro source hsource
  obtain ⟨place, node, hfind⟩ := hformat.exists_find_of_pack h.packed source hsource
  exact h.grows.isFile_eq hfind

/-- The names of the files in an archive are those that were asked for, as it spells them. -/
theorem PackedFor.map_names (hformat : format.Faithful)
    (h : PackedFor format files plan begun after entries) :
    ((plan.entries files).filter (after.isFile ·.2)).map
        (fun source => spelling format.kind source.1)
      = ((fileEntries entries).map Prod.fst).map .ok := by
  -- copies, one for each source that is a file; here only their names matter
  have hcopies := hformat.copies_pack [] _ h.packed
  rw [h.filter_isFile hformat, h.entries_eq, List.map_map, ← List.forall₂_eq_eq_eq,
    List.forall₂_map_left_iff, List.forall₂_map_right_iff]
  apply hcopies.imp
  intro source entry hcopy
  exact hcopy.name

end Names

/-! ## The run -/

section Run

variable {γ : Type} {format : Format} {labels : Labels} {s : Settings γ} {m : Module}

/-- **An archive loses no file exactly if no two were given one name.** If a module that packs
artifacts ends well, there was a plan for each group, and the archives of these plans were recorded.
At the location of each there is an archive of the kind, packed for the plan of a group whose
archive went to this place: its own, unless a later archive was put there. The names of its files
are the names that this plan has for its sources, as the archive spells them, in order, without the
sources that are directories. So no two of its files have the same name exactly if no two of these
names are spelled the same. -/
theorem archive_names (hm : IsPacker format labels s m) (ctx : Context) (h : Host)
    (hok : (m.run ctx h).result = .ok ()) :
    let after := (m.run ctx h).host.files
    let statics := matched h.files s.files
    ∃ plans,
      List.Forall₂ (fun group plan => Plans labels s ctx group plan ∧ plan.artifacts = group.2)
        (ctx.catalog.group s.builds s.skip).toList plans ∧
      (m.run ctx h).context.catalog.artifacts = ctx.catalog.artifacts
        ++ plans.map (fun plan => plan.toArtifact s.id (plan.locationIn ctx)) ∧
      ∀ plan ∈ plans, ∃ last ∈ plans, ∃ place entries,
        after.find (plan.locationIn ctx) = .ok (place, .file (.archive format.kind entries)) ∧
        after.Names (last.locationIn ctx) place ∧
        let names := (fileEntries entries).map Prod.fst
        let asked := ((last.entries statics).filter (after.isFile ·.2)).map fun source =>
          spelling format.kind source.1
        asked = names.map .ok ∧ (names.Nodup ↔ asked.Nodup) := by
  intro after statics
  obtain ⟨plans, hdone⟩ := hm.exists_succeeded hok
  refine ⟨plans, hdone.planned.imp fun group plan hplan => ⟨hplan, hplan.of_group.1⟩, ?_, ?_⟩
  · rw [hdone.context, Context.record, Catalog.artifacts_addAll]
  · intro plan hplan
    -- the archive that is found there may be that of another plan, which went to the same place
    -- later
    obtain ⟨place, content, hfind, last, hlast, hnames, entries, begun, rfl, hpacked⟩ :=
      hdone.written.exists_packed hplan
    have hasked := hpacked.map_names hm.faithful
    refine ⟨last, hlast, place, entries, hfind, hnames, hasked, ?_⟩
    rw [hasked, List.nodup_map_iff fun _ _ => Except.ok.inj]

end Run

/-- The archive of a lone executable has two names in it. -/
theorem lone_names_distinct :
    let done := (Build.Zip.module Build.Zip.schema.defaults).run lone loneHost
    done.result = .ok () ∧ ∃ place entries,
      done.host.files.find ⟨"dist/demo-1.0-linux-amd64.zip"⟩
        = .ok (place, .file (.archive (.zip .deflated) entries)) ∧
      ((fileEntries entries).map Prod.fst).Nodup := by
  intro done
  let s := Build.Zip.schema.defaults
  have hok : done.result = .ok () := by decide +kernel
  obtain ⟨plans, hplans, -, hnames⟩ := archive_names (.zip s) lone loneHost hok
  -- there is one group, and so one plan
  have hgroups : (lone.catalog.group s.builds s.skip).toList
      = [("linux-amd64", lone.catalog.artifacts)] := by decide +kernel
  have hmade : Plan.make "build:zip" ".zip" s.commonDirectory s.output lone lone.catalog.artifacts
      = .ok lonePlan := by decide +kernel
  rw [hgroups] at hplans
  obtain ⟨plan, _, ⟨hplan, -⟩, hnone, rfl⟩ := List.forall₂_cons_left_iff.mp hplans
  cases hnone
  obtain rfl : lonePlan = plan := Except.ok.inj (hmade.symm.trans hplan)
  have hlocation : lonePlan.locationIn lone = ⟨"dist/demo-1.0-linux-amd64.zip"⟩ := by
    decide +kernel
  have hasked : (((lonePlan.entries (matched loneHost.files s.files)).filter
      (done.host.files.isFile ·.2)).map fun source =>
        spelling (.zip .deflated) source.1).Nodup := by decide +kernel
  -- with a single plan there is no other archive that could be at its place
  obtain ⟨last, hlast, place, entries, hfind, -, -, hiff⟩ := hnames lonePlan List.mem_cons_self
  obtain rfl : last = lonePlan := List.mem_singleton.mp hlast
  rw [hlocation] at hfind
  exact ⟨hok, place, entries, hfind, hiff.mpr hasked⟩

/-! ## Names given twice -/

/-- Two programs of one name were built for the same system. -/
def alike : Context where
  targetDirectory := ⟨"dist"⟩
  catalog :=
    ⟨[⟨"client", "demo", ⟨"client"⟩, ⟨"linux", "amd64", none⟩, .raw⟩,
      ⟨"server", "demo", ⟨"server"⟩, ⟨"linux", "amd64", none⟩, .raw⟩]⟩

/-- Both are there. -/
def alikeHost : Host where
  files :=
    { nodes := [(["client"], .file (.ofText "asks")), (["server"], .file (.ofText "answers"))] }

/-- If a file is matched by two patterns, or two builds call their files the same, there are two
files of one name in the archive. The runs end well. -/
theorem names_given_twice :
    let matchedTwice := { named "all.zip" with files := ["README.md", "README*"] }
    let builtTwice := { named "all.zip" with builds := ["client", "server"] }
    let first := (Build.Zip.module matchedTwice).run lone loneHost
    let second := (Build.Zip.module builtTwice).run alike alikeHost
    (first.result = .ok () ∧
      (filesIn first.host.files ⟨"dist/all.zip"⟩).map Prod.fst
        = ["demo", "README.md", "README.md"] ∧
      ¬((filesIn first.host.files ⟨"dist/all.zip"⟩).map Prod.fst).Nodup) ∧
    second.result = .ok () ∧
      filesIn second.host.files ⟨"dist/all.zip"⟩
        = [("demo", some (Text.encode "asks")), ("demo", some (Text.encode "answers"))] ∧
      ¬((filesIn second.host.files ⟨"dist/all.zip"⟩).map Prod.fst).Nodup := by
  decide +kernel

end Archive

end ReleasePipeline
