/-
No entry of an archive leads to the root.

Whoever unpacks an archive with an entry `/etc/motd` may find that file replaced, so no name in an
archive must begin with a slash. What an entry is called is put together from a directory, which the
template `common_dir` was rendered to, and a name, which is the file name of an artifact or the path
of a file that a pattern stood for. All three can be any text, and each may begin with a slash:
`common_dir: "/opt/{{ProjectName}}"` is a setting like any other. But the plan takes the slashes
from both ends of the directory (`IsTrimmed`), and from the front of the name the steps `./` and
then the slashes (`IsRest`), and puts one slash between the two (`IsEntryName`). So the name of an
entry begins with what is left of the name, or else with the directory, and neither begins with a
slash.

The names that a plan gives are not yet all names in the archive. A directory above an entry is a
beginning of its name, so whatever is put into an archive has a relative name; and that is kept by
the way in which an archive spells it, which for a zip archive is no change and for a tar archive
drops and refuses some steps (`Format.KeepsRelative`). In particular there is no directory `/`
(`StaysBelow`). It does not matter whether the archive is packed to its end. So the same is true of
what a run leaves that fails: every archive is written from what was packed for a plan, the one that
could not be finished as well (`filesGain_write`).
-/
import Mathlib.Data.List.Forall2
import ReleasePipeline.Proofs.Archive.Directories
import ReleasePipeline.Proofs.Archive.EntryName
import ReleasePipeline.Proofs.Archive.Writing
import ReleasePipeline.Proofs.Host.Storing

set_option autoImplicit false

namespace ReleasePipeline

namespace Archive

/-! ## The names of a plan

A plan gives each entry its name with `Plan.entryName`. What that function comes to is said in words
here, as what was taken away and what was put in front. -/

/-- What an entry is called under a directory, given the name that was asked for. -/
structure IsEntryName (directory asked name : String) : Prop where
  /-- The name does not begin with a slash. -/
  relative : IsRelative name
  /-- Without a directory it is what is left of the name that was asked for. -/
  direct : directory = "" → IsRest name asked
  /-- And if there is one, it is the directory, a slash, and what is left. -/
  below : directory ≠ "" → ∃ rest, name = directory ++ "/" ++ rest ∧ IsRest rest asked

section Names

variable {plan : Plan}

/-- The plan names an entry as it should, if its directory does not begin with a slash. -/
theorem isEntryName_entryName (hdirectory : IsRelative plan.commonDirectory) (asked : String) :
    IsEntryName plan.commonDirectory asked (plan.entryName asked) := by
  have hrest := isRest_relativeName asked
  rw [Plan.entryName]
  by_cases hnone : plan.commonDirectory = ""
  · rw [if_pos hnone]
    exact ⟨hrest.relative, fun _ => hrest, fun hsome => absurd hnone hsome⟩
  · rw [if_neg hnone]
    refine ⟨?_, fun h => absurd h hnone, fun _ => ⟨_, rfl, hrest⟩⟩
    -- there is a first character, and it is that of the directory
    have hne : plan.commonDirectory.toList ≠ [] :=
      fun hnil => hnone (String.toList_eq_nil_iff.mp hnil)
    obtain ⟨c, rest, hchars⟩ := List.exists_cons_of_ne_nil hne
    rw [IsRelative, hchars] at hdirectory
    rw [IsRelative, String.toList_append, String.toList_append, hchars]
    exact hdirectory

/-- The entries have the names that the plan gives to the file names of the artifacts and then to
the paths of the files. -/
theorem map_fst_entries (plan : Plan) (files : List Path) :
    (plan.entries files).map Prod.fst
      = (plan.artifacts.map (·.filename) ++ files.map Plan.portableName).map plan.entryName := by
  simp only [Plan.entries, List.map_append, List.map_map, Function.comp_def]

/-- All entries at once, in order: first those of the artifacts, then those of the files. -/
theorem forall₂_isEntryName (hdirectory : IsRelative plan.commonDirectory) (files : List Path) :
    List.Forall₂ (IsEntryName plan.commonDirectory)
      (plan.artifacts.map (·.filename) ++ files.map Plan.portableName)
      ((plan.entries files).map Prod.fst) := by
  rw [map_fst_entries, List.forall₂_map_right_iff]
  exact List.forall₂_same.mpr fun asked _ => isEntryName_entryName hdirectory asked

/-- No entry of a plan leads to the root. -/
theorem isRelative_of_mem_entries (hdirectory : IsRelative plan.commonDirectory)
    {files : List Path} {source : String × Path} (hsource : source ∈ plan.entries files) :
    IsRelative source.1 := by
  have hname : source.1 ∈ (plan.entries files).map Prod.fst := List.mem_map_of_mem hsource
  rw [map_fst_entries] at hname
  obtain ⟨asked, -, heq⟩ := List.mem_map.mp hname
  rw [← heq]
  exact (isEntryName_entryName hdirectory asked).relative

/-- A plan is for the artifacts it is made for, and its directory is a rendered text without the
slashes at its ends. -/
theorem of_make {module extension directory output : String} {ctx : Context}
    {artifacts : List Artifact}
    (h : Plan.make module extension directory output ctx artifacts = .ok plan) :
    plan.artifacts = artifacts ∧ ∃ rendered,
      renderText { ctx.scope with target := plan.target.getD {}, extension } module directory
        = .ok rendered ∧ IsTrimmed plan.commonDirectory rendered := by
  obtain ⟨rendered, hrender, h⟩ := exists_of_bind_eq_ok h
  obtain ⟨_, -, h⟩ := exists_of_bind_eq_ok h
  cases h
  exact ⟨rfl, rendered, hrender, isTrimmed_trimSlashes rendered⟩

end Names

/-! ## Packing

From the names of the plan to the names in the archive. A format spells each of them in its own way,
and what it is asked to put in besides are the directories above. -/

/-- None of the entries leads to the root, and none is the root. -/
structure StaysBelow (entries : List ArchiveEntry) : Prop where
  relative : ∀ e ∈ entries, IsRelative e.name
  noRoot : .directory "/" ∉ entries

/-- The directory `/` is not relative, so it is not among entries that are. -/
theorem StaysBelow.of_relative {entries : List ArchiveEntry}
    (h : ∀ e ∈ entries, IsRelative e.name) : StaysBelow entries :=
  ⟨h, fun hroot => absurd (h _ hroot) (by decide : ¬IsRelative "/")⟩

/-- An archive that was just begun holds nothing. -/
theorem StaysBelow.nil : StaysBelow [] := .of_relative nofun

/-- What is put in under a relative name has a relative name in the archive. -/
structure Format.KeepsRelative (format : Format) : Prop where
  directory : ∀ d, IsRelative d → ∀ e ∈ (format.packDirectory d).entries, IsRelative e.name
  file : ∀ fs name source, IsRelative name →
    ∀ e ∈ (format.packFile fs name source).entries, IsRelative e.name

/-- A zip archive takes the names as they are. -/
theorem keepsRelative_zip (method : ZipMethod) : (zip method).KeepsRelative where
  directory d hd := List.forall_mem_singleton.mpr hd
  file fs name source hname := by
    dsimp only [zip]
    split
    · exact nofun
    · split
      · exact List.forall_mem_singleton.mpr hname
      · exact List.forall_mem_singleton.mpr hname

/-- A tar archive spells a name from the steps of its path, or refuses it; a directory where a file
was expected goes by the name of the file. -/
theorem keepsRelative_tar (gzip : Bool) : (tar gzip).KeepsRelative where
  directory d hd := by
    dsimp only [tar]
    -- the name is refused and nothing is put in, or it is spelled without a slash at its front
    split
    · next hspelled => exact List.forall_mem_singleton.mpr (isRelative_of_entryName hd hspelled)
    · exact nofun
  file fs name source hname := by
    dsimp only [tar]
    split
    · exact nofun
    · split
      · exact nofun
      · next hspelled =>
        have hrelative := isRelative_of_entryName hname hspelled
        split
        · exact List.forall_mem_singleton.mpr hrelative
        · exact List.forall_mem_singleton.mpr hrelative

/-- What is in an archive was put in by the one stretch or by the other. -/
theorem Packed.mem_entries_andThen {p q : Packed} {e : ArchiveEntry}
    (h : e ∈ (p.andThen q).entries) : e ∈ p.entries ∨ e ∈ q.entries := by
  unfold andThen at h
  split at h
  · exact .inl h
  · exact List.mem_append.mp h

namespace Format.KeepsRelative

variable {format : Format} {fs : Files}

/-- Of what is put in it is enough to look at the names. -/
theorem isRelative_of_mem_putAll (hformat : format.KeepsRelative) {puts : List Put}
    (hdirectories : ∀ d ∈ directories puts, IsRelative d)
    (hfiles : ∀ file ∈ puts.filterMap Put.file?, IsRelative file.1) :
    ∀ e ∈ (format.putAll fs puts).entries, IsRelative e.name := by
  induction puts with
  | nil => exact nofun
  | cons p rest ih =>
    intro e he
    -- a directory goes by its own name, and a file by the name that was asked for
    cases p with
    | directory d =>
      obtain ⟨hd, hlater⟩ := List.forall_mem_cons.mp hdirectories
      rcases Packed.mem_entries_andThen he with hfirst | hrest
      · exact hformat.directory d hd e hfirst
      · exact ih hlater hfiles e hrest
    | file name source =>
      obtain ⟨hname, hlater⟩ := List.forall_mem_cons.mp hfiles
      rcases Packed.mem_entries_andThen he with hfirst | hrest
      · exact hformat.file fs name source hname e hfirst
      · exact ih hdirectories hlater e hrest

/-- What is packed under relative names stays below, with the directories above it. -/
theorem staysBelow_pack (hformat : format.KeepsRelative) {sources : List (String × Path)}
    (hsources : ∀ source ∈ sources, IsRelative source.1) :
    StaysBelow (format.pack fs [] sources).entries := by
  rw [format.pack_eq_putAll]
  refine .of_relative (hformat.isRelative_of_mem_putAll (fun d hd => ?_) ?_)
  -- a directory is the beginning of the name of a source
  · have hmem : d ∈ [] ++ directories (course [] sources) := hd
    rcases mem_append_directories_iff.mp hmem with hseen | ⟨source, hsource, habove⟩
    · exact absurd hseen List.not_mem_nil
    · exact (hsources source hsource).of_begins habove.begins
  · rw [filterMap_file?_course]
    exact hsources

end Format.KeepsRelative

end Archive

/-! ## What a run leaves

A run may fail after some of its archives were written, and with one that was not packed to its end.
So the statement is about every file of the tree afterwards: it was there before, or it is an
archive that stays below. -/

/-- What a file holds after was in it before, or `P` holds of it. -/
def Host.FilesGain (P : Content → Prop) (before after : Host) : Prop :=
  ∀ place content, after.files.node? place = some (.file content) →
    before.files.node? place = some (.file content) ∨ P content

instance {P : Content → Prop} : IsPreorder Host (Host.FilesGain P) where
  refl _ _ _ hnode := .inl hnode
  trans _ _ _ h₁ h₂ place content hnode :=
    (h₂ place content hnode).elim (h₁ place content) .inr

namespace HostM

open Effect

variable {P : Content → Prop}

/-- No file comes from creating directories. -/
theorem filesGain_createParent (p : Path) : Keeps (Host.FilesGain P) (createParent p) := by
  intro h place content hnode
  have hgrow : Host.FilesGrow (fun _ => False) h (ExceptT.run (createParent p) h).2 :=
    filesGrow_createParent p h
  exact .inl ((hgrow.unwritten place not_false content).mp hnode)

/-- A file is written at one place, and if it cannot be, nothing is. -/
theorem filesGain_change_write {written : Content} (hwritten : P written) (p : Path) :
    Keeps (Host.FilesGain P) (change (·.write p written)) := by
  intro h place content hnode
  have hdoes := onFiles_change h (·.write p written)
  cases hwrite : h.files.write p written with
  | error e =>
    rw [hwrite] at hdoes
    obtain ⟨f, hrun⟩ := hdoes
    rw [hrun] at hnode
    exact .inl hnode
  | ok files =>
    rw [hwrite] at hdoes
    have hrun : ExceptT.run (change (·.write p written)) h = (.ok (), { h with files }) := hdoes
    rw [hrun] at hnode
    obtain ⟨there, hgrows, hfind⟩ := Files.exists_place_of_write hwrite
    -- a tree grows at the place that was written, and nowhere else
    by_cases hplace : place = there
    · obtain ⟨-, -, hthere, -⟩ := Files.find_eq_file_iff.mp hfind
      rw [← hplace, hnode] at hthere
      cases hthere
      exact .inr hwritten
    · exact .inl ((hgrows.unwritten place hplace content).mp hnode)

end HostM

namespace Archive

open Effect

/-- If it is an archive, it stays below. -/
def IsBelow (content : Content) : Prop :=
  ∀ kind entries, content = .archive kind entries → StaysBelow entries

/-- An archive with such entries is a content of which the property holds. -/
theorem isBelow_archive {kind : ArchiveKind} {entries : List ArchiveEntry}
    (h : StaysBelow entries) : IsBelow (.archive kind entries) := by
  rintro _ _ ⟨⟩
  exact h

section Run

variable {γ : Type} {format : Format} {labels : Labels} {s : Settings γ} {m : Module}

/-- An archive is begun with nothing in it, and then it holds what was packed. -/
theorem filesGain_write (hformat : format.KeepsRelative) {plan : Plan}
    (hdirectory : IsRelative plan.commonDirectory) (location : Path) (files : List Path) :
    Keeps (Host.FilesGain IsBelow) (write format plan location files) := by
  -- whatever the files are by the time they are packed
  have hpacked (fs : Files) : StaysBelow (format.pack fs [] (plan.entries files)).entries :=
    hformat.staysBelow_pack fun _ hsource => isRelative_of_mem_entries hdirectory hsource
  refine (HostM.filesGain_createParent _).bind fun _ => ?_
  refine (HostM.keeps_during _
    (HostM.filesGain_change_write (isBelow_archive .nil) _)).bind fun _ => ?_
  -- what is packed depends on the files as they are by then, and it may be all of it or not
  refine Keeps.get.bind fun h => ?_
  refine (HostM.filesGain_change_write (isBelow_archive (hpacked h.files)) _).bind fun _ => ?_
  split
  · exact Keeps.throw _
  · exact Keeps.pure _

/-- A run of either module adds no other archives to the tree. -/
theorem filesGain_run (hformat : format.KeepsRelative) (ctx : Context) (h : Host) :
    Host.FilesGain IsBelow h ((Module.ofSteps (run format labels s)).run ctx h).host := by
  have hkeeps : Keeps (RunM.Both (fun _ _ => True) (Host.FilesGain IsBelow))
      (run format labels s) := by
    refine keeps_run_of_write (fun ctx artifacts plan files hplan => ?_)
      (fun _ _ _ _ hnode => .inl hnode) fun _ _ => trivial
    -- the directory of a plan was trimmed when the plan was made
    obtain ⟨-, _, -, htrimmed⟩ := of_make hplan
    exact filesGain_write hformat htrimmed.relative _ files
  exact (hkeeps (ctx, h)).2

/-- Both formats keep names relative. -/
theorem IsPacker.keepsRelative (hm : IsPacker format labels s m) : format.KeepsRelative := by
  cases hm with
  | zip s => exact keepsRelative_zip _
  | tar s => exact keepsRelative_tar _

/-- The two modules, with whatever settings. -/
theorem IsPacker.filesGain (hm : IsPacker format labels s m) (ctx : Context) (h : Host) :
    Host.FilesGain IsBelow h (m.run ctx h).host := by
  cases hm with
  | zip s => exact filesGain_run (keepsRelative_zip _) ctx h
  | tar s => exact filesGain_run (keepsRelative_tar _) ctx h

/-- **No entry of an archive leads to the root.** The directory of a plan is the text that was
rendered, without the slashes at its ends. Its entries are called after the file names of the
artifacts, in their order, and then after the paths of the files, with slashes for backslashes, and
none of their names begins with a slash. Each is what is left of the name that was asked for once
the idle steps and then the slashes at its front are gone, or, if there is a directory, the
directory, a slash, and what is left. From whatever files such an archive is packed, and whether it
is packed to its end or not, no name in it begins with a slash, be it of a file or of a directory
above one, and there is no directory `/` in it. The same is true of every archive that a run of the
module leaves, whether it ends well or not, unless the archive was there before. -/
theorem entries_stay_below (hm : IsPacker format labels s m) :
    (∀ (module extension directory output : String) (ctx : Context) (artifacts : List Artifact)
        (plan : Plan),
      Plan.make module extension directory output ctx artifacts = .ok plan →
        (∃ rendered,
          renderText { ctx.scope with target := plan.target.getD {}, extension } module directory
            = .ok rendered ∧ IsTrimmed plan.commonDirectory rendered) ∧
        ∀ files : List Path,
          List.Forall₂ (IsEntryName plan.commonDirectory)
            (artifacts.map (·.filename) ++ files.map Plan.portableName)
            ((plan.entries files).map Prod.fst) ∧
          ∀ fs : Files, StaysBelow (format.pack fs [] (plan.entries files)).entries) ∧
    ∀ (ctx : Context) (h : Host) (place : Place) (kind : ArchiveKind) (entries : List ArchiveEntry),
      (m.run ctx h).host.files.node? place = some (.file (.archive kind entries)) →
        h.files.node? place = some (.file (.archive kind entries)) ∨ StaysBelow entries := by
  constructor
  · intro module extension directory output ctx artifacts plan hplan
    obtain ⟨rfl, rendered, hrender, htrimmed⟩ := of_make hplan
    refine ⟨⟨rendered, hrender, htrimmed⟩, fun files => ⟨?_, fun fs => ?_⟩⟩
    · exact forall₂_isEntryName htrimmed.relative files
    · exact hm.keepsRelative.staysBelow_pack fun _ hsource =>
        isRelative_of_mem_entries htrimmed.relative hsource
  · intro ctx h place kind entries hnode
    exact (hm.filesGain ctx h place _ hnode).imp id fun hbelow => hbelow kind entries rfl

end Run

/-- A program whose file is called as if it were below the root. -/
def rooted : Context where
  projectName := "demo"
  targetDirectory := ⟨"dist"⟩
  catalog := ⟨[⟨"default", "././/bin/demo", ⟨"demo"⟩, {}, .raw⟩]⟩

/-- It is there. -/
def rootedHost : Host where
  files := { nodes := [(["demo"], .file (.ofText "elf"))] }

/-- The directory for it is named as if it were below the root, too. -/
def belowRoot : Build.Zip.Settings :=
  { Build.Zip.schema.defaults with
    commonDirectory := "//{{ProjectName}}/", output := "demo.zip", files := [] }

/-- The plan for its archive. -/
def rootedPlan : Plan where
  target := none
  commonDirectory := "demo"
  output := "demo.zip"
  artifacts := rooted.catalog.artifacts

/-- The names in the archive at a place. -/
def namesAt (fs : Files) (place : Place) : List String :=
  match fs.node? place with
  | some (.file (.archive _ entries)) => entries.map ArchiveEntry.name
  | _ => []

/-- Where there are names, there is an archive. -/
theorem exists_archive_of_namesAt {fs : Files} {place : Place} {name : String}
    {names : List String} (h : namesAt fs place = name :: names) :
    ∃ kind entries, fs.node? place = some (.file (.archive kind entries)) ∧
      entries.map ArchiveEntry.name = name :: names := by
  unfold namesAt at h
  split at h
  · next kind entries hnode => exact ⟨kind, entries, hnode, h⟩
  · cases h

/-- The program is packed below the directory, and so would be a file whose path has backslashes. -/
theorem rooted_program_packed_below :
    Plan.make "build:zip" ".zip" belowRoot.commonDirectory belowRoot.output rooted
        rooted.catalog.artifacts = .ok rootedPlan ∧
      List.Forall₂ (IsEntryName "demo") ["././/bin/demo", ".//etc/motd"]
        ["demo/bin/demo", "demo/etc/motd"] ∧
      ∃ kind entries,
        ((Build.Zip.module belowRoot).run rooted rootedHost).host.files.node? ["demo.zip", "dist"]
          = some (.file (.archive kind entries)) ∧
        entries.map ArchiveEntry.name = ["demo/", "demo/bin/", "demo/bin/demo"] ∧
        StaysBelow entries := by
  have hmade : Plan.make "build:zip" ".zip" belowRoot.commonDirectory belowRoot.output rooted
      rooted.catalog.artifacts = .ok rootedPlan := by decide +kernel
  have hasked : rooted.catalog.artifacts.map (·.filename)
      ++ [⟨"./\\etc\\motd"⟩].map Plan.portableName = ["././/bin/demo", ".//etc/motd"] := by
    decide +kernel
  have hentries : (rootedPlan.entries [⟨"./\\etc\\motd"⟩]).map Prod.fst
      = ["demo/bin/demo", "demo/etc/motd"] := by decide +kernel
  have hafter : namesAt ((Build.Zip.module belowRoot).run rooted rootedHost).host.files
      ["demo.zip", "dist"] = ["demo/", "demo/bin/", "demo/bin/demo"] := by decide +kernel
  -- the names of the plan, with a file whose path has backslashes, and then the archive of the run
  obtain ⟨hplans, hruns⟩ := entries_stay_below (.zip belowRoot)
  have hnames := ((hplans _ _ _ _ _ _ _ hmade).2 [⟨"./\\etc\\motd"⟩]).1
  rw [hasked, hentries] at hnames
  obtain ⟨kind, entries, hnode, hpacked⟩ := exists_archive_of_namesAt hafter
  refine ⟨hmade, hnames, kind, entries, hnode, hpacked, ?_⟩
  refine (hruns rooted rootedHost _ kind entries hnode).resolve_left fun hold => ?_
  -- there was no archive at its place before
  have hbefore : namesAt rootedHost.files ["demo.zip", "dist"] = [] := by decide +kernel
  rw [namesAt, hold] at hbefore
  exact absurd (hpacked.symm.trans hbefore) (List.cons_ne_nil _ _)

end Archive

end ReleasePipeline
