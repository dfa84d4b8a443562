/-
What a module that packs archives did to the files, if it ended well.

It wrote one archive for each group of artifacts, one after the other. An archive is begun with
nothing in it, so that its place is taken before the first source is read, and it is packed from the
files as they are then; all else that happens to the files is that directories are created
(`WritesOne`). The archives follow each other in the order of the groups, each on the files that the
one before it left (`WritesAll`). These two relations are all that is kept of the code: no later
proof goes back to the actions on the host.

Two things follow for the files as they are at the end. They have grown, and were written at the
places of the archives only (`WritesAll.grows`); and where an archive was written there is an
archive of that kind, packed for one of the plans, though it may be another one, if later archives
were written to the same place (`WritesAll.exists_packed`).

A run that fails has written some of the archives, and maybe one not to its end. What is kept
whenever one is written, such a run keeps as well (`keeps_run_of_write`).
-/
import Mathlib.Data.List.Forall2
import ReleasePipeline.Archive.Write
import ReleasePipeline.Build.Tar
import ReleasePipeline.Build.Zip
import ReleasePipeline.Proofs.Archive.Packing
import ReleasePipeline.Proofs.Host.Succeeding

set_option autoImplicit false

namespace ReleasePipeline

namespace Archive

open Effect

/-- Where the archive goes. -/
def Plan.locationIn (ctx : Context) (plan : Plan) : Path := ctx.targetDirectory.join ⟨plan.output⟩

/-- The regular files that patterns stand for, pattern by pattern, if they can be read. -/
def matched (fs : Files) (patterns : List String) : List Path :=
  patterns.flatMap fun pattern =>
    match Pattern.parse pattern with
    | .ok parsed => (fs.glob parsed).filter fs.isFile
    | .error _ => []

/-- A pattern that can be read adds the files that it stands for to those of the patterns behind it.
-/
theorem matched_cons {pattern : String} {parsed : Pattern}
    (h : Pattern.parse pattern = .ok parsed) (fs : Files) (rest : List String) :
    matched fs (pattern :: rest) = (fs.glob parsed).filter fs.isFile ++ matched fs rest := by
  rw [matched, List.flatMap_cons, h]
  rfl

/-! ## One archive -/

/-- An archive is written at a place. `begun` are the files when it was begun: what it holds is
packed from these. -/
structure WritesOne (format : Format) (sources : List (String × Path)) (location : Path)
    (place : Place) (before begun after : Files) : Prop where
  begins : before.Grows (· = place) begun
  ends : begun.Grows (· = place) after
  packed : (format.pack begun [] sources).failure? = none
  find : after.find location
    = .ok (place, .file (.archive format.kind (format.pack begun [] sources).entries))

namespace WritesOne

variable {format : Format} {sources : List (String × Path)} {location : Path} {place : Place}
  {before begun after : Files}

/-- From before the archive was begun to when it was done, its place is the only one that was
written. -/
theorem grows (h : WritesOne format sources location place before begun after) :
    before.Grows (· = place) after := h.begins.trans h.ends

end WritesOne

/-- If the writing of an archive succeeds, it did what `WritesOne` says. The steps are taken apart
from the front: directories, the empty archive, and the archive with what was packed. -/
theorem exists_writesOne_of_write {format : Format} {plan : Plan} {location : Path}
    {files : List Path} {h after : Host} {u : Unit}
    (hrun : ExceptT.run (write format plan location files) h = (.ok u, after)) :
    ∃ place begun,
      WritesOne format (plan.entries files) location place h.files begun after.files := by
  obtain ⟨_, above, habove, hrun⟩ := exists_of_run_bind_ok hrun
  obtain ⟨_, begun, hbegin, hrun⟩ := exists_of_run_bind_ok hrun
  rw [run_get_bind] at hrun
  obtain ⟨_, ended, hend, hrun⟩ := exists_of_run_bind_ok hrun
  have hcreated (Written : Place → Prop) : h.files.Grows Written above.files := by
    have hkeeps : Host.FilesGrow Written h (ExceptT.run (HostM.createParent location) h).2 :=
      HostM.filesGrow_createParent location h
    rw [habove] at hkeeps
    exact hkeeps
  have hfirst := HostM.files_of_run_change_ok (HostM.run_of_run_during_ok hbegin)
  have hsecond := HostM.files_of_run_change_ok hend
  obtain ⟨place, hgrows, hfind⟩ := Files.exists_place_of_write hfirst
  obtain ⟨place', hgrows', hfind'⟩ := Files.exists_place_of_write hsecond
  -- the place is the one that was taken when the archive was begun
  obtain rfl : place' = place := Files.Names.unique ⟨_, hfind'⟩ (hgrows'.names ⟨_, hfind⟩)
  -- a failure of packing is thrown after the archive was written, so a success says that there was
  -- none
  cases hfailure : (format.pack begun.files [] (plan.entries files)).failure? with
  | some f =>
    simp only [hfailure] at hrun
    cases hrun
  | none =>
    simp only [hfailure] at hrun
    cases hrun
    exact ⟨place', begun.files, (hcreated _).trans hgrows, hgrows', hfailure, hfind'⟩

/-! ## All archives

The relation for all archives is the one for a single archive, repeated along the plans. Each stands
on the files that are there when its turn comes. -/

/-- Archives are written by plans, one after the other. -/
inductive WritesAll (format : Format) (ctx : Context) (files : List Path) :
    Files → List Plan → Files → Prop
  | nil (fs : Files) : WritesAll format ctx files fs [] fs
  | cons {plan : Plan} {plans : List Plan} {place : Place} {before begun middle after : Files}
    (hfirst : WritesOne format (plan.entries files) (plan.locationIn ctx) place before begun middle)
    (hrest : WritesAll format ctx files middle plans after) :
    WritesAll format ctx files before (plan :: plans) after

/-- The place is the one that the archive of one of the plans goes to. -/
def Taken (ctx : Context) (plans : List Plan) (fs : Files) (place : Place) : Prop :=
  ∃ plan ∈ plans, fs.Names (plan.locationIn ctx) place

namespace WritesAll

variable {format : Format} {ctx : Context} {files : List Path} {before after : Files}
  {plans : List Plan}

/-- The files have grown, and were written at the places of the archives. -/
theorem grows (h : WritesAll format ctx files before plans after) :
    before.Grows (Taken ctx plans after) after := by
  induction h with
  | nil fs => exact .refl fs
  | cons hfirst hrest ih =>
    -- what is found at a place in the middle is found there at the end
    refine (hfirst.grows.mono ?_).trans (ih.mono ?_)
    · rintro _ rfl
      exact ⟨_, List.mem_cons_self, ih.names ⟨_, hfirst.find⟩⟩
    · rintro place ⟨plan, hplan, hnames⟩
      exact ⟨plan, List.mem_cons_of_mem _ hplan, hnames⟩

/-- Wherever the list of plans is cut, there are the files as they were between. -/
theorem exists_middle {earlier later : List Plan}
    (h : WritesAll format ctx files before (earlier ++ later) after) :
    ∃ middle, WritesAll format ctx files before earlier middle ∧
      WritesAll format ctx files middle later after := by
  induction earlier generalizing before with
  | nil => exact ⟨before, .nil before, h⟩
  | cons plan rest ih =>
    cases h with
    | cons hfirst hrest =>
      obtain ⟨middle, hbefore, hafter⟩ := ih hrest
      exact ⟨middle, .cons hfirst hbefore, hafter⟩

end WritesAll

/-! ### The last archive at a place -/

/-- The entries are those of the archive of a plan, which was packed to its end, and all that was
there then is there still. -/
structure PackedFor (format : Format) (files : List Path) (plan : Plan) (begun after : Files)
    (entries : List ArchiveEntry) : Prop where
  packed : (format.pack begun [] (plan.entries files)).failure? = none
  entries_eq : entries = (format.pack begun [] (plan.entries files)).entries
  grows : begun.Grows (fun _ => True) after

section Last

variable {format : Format} {ctx : Context} {files : List Path} {plans : List Plan}
  {before after : Files} {place : Place} {content : Content}

/-- What was packed stays what was packed when the files grow on. -/
theorem PackedFor.trans {plan : Plan} {begun middle : Files} {entries : List ArchiveEntry}
    (h : PackedFor format files plan begun middle entries)
    (hgrows : middle.Grows (fun _ => True) after) :
    PackedFor format files plan begun after entries :=
  ⟨h.packed, h.entries_eq, h.grows.trans hgrows⟩

/-- At the place is the archive that was packed for one of the plans. -/
def HeldBy (format : Format) (ctx : Context) (files : List Path) (after : Files) (place : Place)
    (content : Content) (plan : Plan) : Prop :=
  after.Names (plan.locationIn ctx) place ∧ ∃ entries begun,
    content = .archive format.kind entries ∧ PackedFor format files plan begun after entries

/-- An archive that was just written is held by its own plan. -/
theorem WritesOne.heldBy {plan : Plan} {begun : Files}
    (h : WritesOne format (plan.entries files) (plan.locationIn ctx) place before begun after) :
    HeldBy format ctx files after place
      (.archive format.kind (format.pack begun [] (plan.entries files)).entries) plan :=
  ⟨⟨_, h.find⟩, _, begun, rfl, h.packed, rfl, h.ends.mono fun _ _ => trivial⟩

/-- What is found in a file after an archive was written is this archive or was there before. -/
theorem WritesOne.heldBy_of_node {plan : Plan} {begun : Files} {other : Place}
    (h : WritesOne format (plan.entries files) (plan.locationIn ctx) place before begun after)
    (hnode : after.node? other = some (.file content)) :
    before.node? other = some (.file content) ∨
      HeldBy format ctx files after other content plan := by
  -- elsewhere nothing was written
  by_cases hother : other = place
  · obtain ⟨-, -, hplace, -⟩ := Files.find_eq_file_iff.mp h.find
    subst hother
    rw [hplace] at hnode
    cases hnode
    exact .inr h.heldBy
  · exact .inl ((h.grows.unwritten other hother content).mp hnode)

/-- And it is so still, wherever no later archive went to. -/
theorem HeldBy.trans {plan : Plan} {middle : Files}
    (h : HeldBy format ctx files middle place content plan)
    (hgrows : middle.Grows (fun _ => True) after) :
    HeldBy format ctx files after place content plan := by
  obtain ⟨hnames, entries, begun, hcontent, hpacked⟩ := h
  exact ⟨hgrows.names hnames, entries, begun, hcontent, hpacked.trans hgrows⟩

/-- What is found in a file at the end was there before, or it was packed for one of the plans. -/
theorem WritesAll.exists_heldBy (h : WritesAll format ctx files before plans after)
    (hnode : after.node? place = some (.file content)) :
    before.node? place = some (.file content) ∨
      ∃ last ∈ plans, HeldBy format ctx files after place content last := by
  induction h with
  | nil fs => exact .inl hnode
  | cons hfirst hrest ih =>
    rcases ih hnode with hmiddle | ⟨last, hlast, hheld⟩
    · rcases hfirst.heldBy_of_node hmiddle with hbefore | hheld
      · exact .inl hbefore
      · exact .inr ⟨_, List.mem_cons_self,
          hheld.trans (hrest.grows.mono fun _ _ => trivial)⟩
    · exact .inr ⟨last, List.mem_cons_of_mem _ hlast, hheld⟩

/-- Where an archive was written, there is one that was packed for one of the plans. -/
theorem WritesAll.exists_packed (h : WritesAll format ctx files before plans after) {plan : Plan}
    (hplan : plan ∈ plans) : ∃ place content,
      after.find (plan.locationIn ctx) = .ok (place, .file content) ∧
        ∃ last ∈ plans, HeldBy format ctx files after place content last := by
  induction h with
  | nil fs => cases hplan
  | cons hfirst hrest ih =>
    rcases List.mem_cons.mp hplan with rfl | hplan
    · obtain ⟨content, hfind, -⟩ := hrest.grows.find_file hfirst.find
      obtain ⟨-, -, hnode, -⟩ := Files.find_eq_file_iff.mp hfind
      rcases hrest.exists_heldBy hnode with hmiddle | ⟨last, hlast, hheld⟩
      · -- it is still the one that was written first
        obtain ⟨-, -, hwritten, -⟩ := Files.find_eq_file_iff.mp hfirst.find
        rw [hwritten] at hmiddle
        cases hmiddle
        exact ⟨_, _, hfind, _, List.mem_cons_self,
          hfirst.heldBy.trans (hrest.grows.mono fun _ _ => trivial)⟩
      · exact ⟨_, content, hfind, last, List.mem_cons_of_mem _ hlast, hheld⟩
    · obtain ⟨place, content, hfind, last, hlast, hheld⟩ := ih hplan
      exact ⟨place, content, hfind, last, List.mem_cons_of_mem _ hlast, hheld⟩

/-- So where an archive was written, there is an archive of its kind. -/
theorem WritesAll.exists_archive (h : WritesAll format ctx files before plans after) {plan : Plan}
    (hplan : plan ∈ plans) : ∃ place entries,
      after.find (plan.locationIn ctx) = .ok (place, .file (.archive format.kind entries)) := by
  obtain ⟨place, content, hfind, last, -, -, entries, begun, rfl, -⟩ := h.exists_packed hplan
  exact ⟨place, entries, hfind⟩

end Last

/-! ## The run

From the writing of archives to the whole run: the check of the selection, the files that the
patterns stand for, the archives, and the record of their artifacts. -/

section Run

variable {γ : Type} {format : Format} {labels : Labels} {s : Settings γ} {ctx : Context}

/-- The plan for the archive of a group. -/
def Plans (labels : Labels) (s : Settings γ) (ctx : Context) (group : String × List Artifact)
    (plan : Plan) : Prop :=
  Plan.make labels.module labels.extension s.commonDirectory s.output ctx group.2 = .ok plan

/-- A plan is for the artifacts of its group, and for the target of the first of them. -/
theorem Plans.of_group {group : String × List Artifact} {plan : Plan}
    (h : Plans labels s ctx group plan) :
    plan.artifacts = group.2 ∧ plan.target = group.2.head?.bind Artifact.target? := by
  obtain ⟨directory, -, h⟩ := exists_of_bind_eq_ok h
  obtain ⟨output, -, h⟩ := exists_of_bind_eq_ok h
  cases h
  exact ⟨rfl, rfl⟩

/-- If all patterns can be read, what is found for them is what they stand for. -/
theorem of_run_staticFiles {patterns : List String} {found : List Path} {h after : Host}
    (hrun : ExceptT.run (staticFiles patterns) h = (.ok found, after)) :
    found = matched h.files patterns ∧ after = h := by
  induction patterns generalizing found with
  | nil =>
    cases hrun
    exact ⟨rfl, rfl⟩
  | cons pattern rest ih =>
    obtain ⟨parsed, _, hread, hsearch⟩ := exists_of_run_bind_ok hrun
    obtain ⟨hparse, rfl⟩ := HostM.of_run_lift_ok (HostM.run_of_run_during_ok hread)
    rw [run_get_bind] at hsearch
    obtain ⟨more, _, hmore, hreturn⟩ := exists_of_run_bind_ok hsearch
    cases hreturn
    obtain ⟨rfl, rfl⟩ := ih hmore
    exact ⟨(matched_cons hparse _ rest).symm, rfl⟩

/-- If all groups are written, there was a plan for each, and the archives were written by these
plans. By induction on the groups, each step as in `exists_writesOne_of_write`. -/
theorem exists_writesAll_of_writeGroups {files : List Path}
    {groups : List (String × List Artifact)} {archives : List Artifact} {h after : Host}
    (hrun : ExceptT.run (writeGroups format labels s ctx files groups) h = (.ok archives, after)) :
    ∃ plans, List.Forall₂ (Plans labels s ctx) groups plans ∧
      WritesAll format ctx files h.files plans after.files ∧
      archives = plans.map fun plan => plan.toArtifact s.id (plan.locationIn ctx) := by
  induction groups generalizing archives h with
  | nil =>
    cases hrun
    exact ⟨[], .nil, .nil _, rfl⟩
  | cons group rest ih =>
    obtain ⟨plan, _, hmake, hfirst⟩ := exists_of_run_bind_ok hrun
    obtain ⟨hplan, rfl⟩ := HostM.of_run_ofExcept_ok hmake
    obtain ⟨_, written, hwrite, htell⟩ := exists_of_run_bind_ok hfirst
    obtain ⟨place, begun, hone⟩ := exists_writesOne_of_write (HostM.run_of_run_during_ok hwrite)
    -- the message that the archive is written says nothing about the files
    obtain ⟨_, told, hinfo, hrest⟩ := exists_of_run_bind_ok htell
    cases hinfo
    obtain ⟨later, ended, hlater, hreturn⟩ := exists_of_run_bind_ok hrest
    cases hreturn
    obtain ⟨plans, hplans, hall, rfl⟩ := ih hlater
    exact ⟨plan :: plans, .cons hplan hplans, .cons hone hall, rfl⟩

/-- What a run came to that ended well: the selection was a rectangle, there was a plan for each
group, the archives were written by these plans, and then they were recorded. -/
structure Succeeded (format : Format) (labels : Labels) (s : Settings γ) (ctx : Context)
    (before : Files) (plans : List Plan) (context : Context) (after : Files) : Prop where
  rectangle : (ctx.catalog.group s.builds s.skip).validate = .ok ()
  planned : List.Forall₂ (Plans labels s ctx) (ctx.catalog.group s.builds s.skip).toList plans
  written : WritesAll format ctx (matched before s.files) before plans after
  context : context
    = ctx.record (plans.map fun plan => plan.toArtifact s.id (plan.locationIn ctx))

/-- A success of the module is all of this. The archives are recorded when the last one is written.
-/
theorem exists_succeeded_of_run {h : Host}
    (hok : ((Module.ofSteps (run format labels s)).run ctx h).result = .ok ()) :
    ∃ plans, Succeeded format labels s ctx h.files plans
      ((Module.ofSteps (run format labels s)).run ctx h).context
      ((Module.ofSteps (run format labels s)).run ctx h).host.files := by
  rw [Module.run_ofSteps, run, RunM.run_context_bind] at hok ⊢
  cases hsteps : ExceptT.run (RunM.host (packAll format labels s ctx) >>= fun archives =>
      RunM.update (·.record archives)) (ctx, h) with
  | mk r after =>
    rw [hsteps] at hok
    dsimp only at hok ⊢
    subst hok
    obtain ⟨archives, ⟨kept, packed⟩, hhost, hrecord⟩ := exists_of_run_bind_ok hsteps
    obtain ⟨hpack, hkept⟩ := RunM.of_run_host_ok hhost
    dsimp only at hpack hkept
    subst hkept
    cases hrecord
    -- on the host: the selection is accepted, then files are looked for, then the archives are
    -- written
    obtain ⟨_, _, hvalid, hfind⟩ := exists_of_run_bind_ok hpack
    obtain ⟨hrectangle, rfl⟩ := HostM.of_run_lift_ok hvalid
    obtain ⟨files, _, hfiles, hwrite⟩ := exists_of_run_bind_ok hfind
    obtain ⟨rfl, rfl⟩ := of_run_staticFiles hfiles
    obtain ⟨plans, hplans, hwritten, rfl⟩ := exists_writesAll_of_writeGroups hwrite
    exact ⟨plans, hrectangle, hplans, hwritten, rfl⟩

end Run

/-! ### What a run keeps -/

section Keeping

variable {γ : Type} {format : Format} {labels : Labels} {s : Settings γ}
  {Rc : Context → Context → Prop} {R : Host → Host → Prop} [IsPreorder Context Rc]
  [IsPreorder Host R]

/-- Looking for files reads the tree and nothing more. -/
theorem keeps_staticFiles (patterns : List String) : Keeps R (staticFiles patterns) := by
  induction patterns with
  | nil => exact Keeps.pure _
  | cons pattern rest ih =>
    exact (HostM.keeps_during _ (HostM.keeps_lift _ _)).bind fun _ => Keeps.get.bind fun _ =>
      ih.bind fun _ => Keeps.pure _

/-- What is kept when an archive is written by a plan, and when something is said, is kept by the
run, whether it ends well or not. -/
theorem keeps_run_of_write
    (hwrite : ∀ (ctx : Context) (artifacts : List Artifact) (plan : Plan) (files : List Path),
      Plan.make labels.module labels.extension s.commonDirectory s.output ctx artifacts = .ok plan →
        Keeps R (write format plan (plan.locationIn ctx) files))
    (hsay : ∀ (h : Host) (o : Output), R h (h.say o))
    (hrecord : ∀ (ctx : Context) (archives : List Artifact), Rc ctx (ctx.record archives)) :
    Keeps (RunM.Both Rc R) (run format labels s) := by
  -- group by group: a plan, which may be refused, the archive, and a message
  have hgroups : ∀ (ctx : Context) (files : List Path) (groups : List (String × List Artifact)),
      Keeps R (writeGroups format labels s ctx files groups) := by
    intro ctx files groups
    induction groups with
    | nil => exact Keeps.pure _
    | cons group rest ih =>
      refine HostM.keeps_ofExcept_bind fun plan hplan => ?_
      exact (HostM.keeps_during _ (hwrite ctx _ plan files hplan)).bind fun _ =>
        (Keeps.modify fun h => hsay h _).bind fun _ => ih.bind fun _ => Keeps.pure _
  refine RunM.keeps_context.bind fun ctx => ?_
  have hpackAll : Keeps R (packAll format labels s ctx) :=
    (HostM.keeps_lift _ _).bind fun _ => (keeps_staticFiles _).bind fun _ => hgroups ctx _ _
  exact (RunM.keeps_host hpackAll).bind fun archives =>
    RunM.keeps_update fun ctx => hrecord ctx archives

end Keeping

/-! ## The modules -/

/-- The modules that pack artifacts, with the format of their archives and what they go by. -/
inductive IsPacker : {γ : Type} → Format → Labels → Settings γ → Module → Prop
  | zip (s : Build.Zip.Settings) :
    IsPacker (zip s.compression) ⟨"build:zip", ".zip"⟩ s (Build.Zip.module s)
  | tar (s : Build.Tar.Settings) :
    IsPacker (tar (s.compression == .gzip)) ⟨"build:tar", s.compression.extension⟩ s
      (Build.Tar.module s)

namespace IsPacker

variable {γ : Type} {format : Format} {labels : Labels} {s : Settings γ} {m : Module}

/-- Both formats keep contents faithfully, whatever they are set to. -/
theorem faithful (hm : IsPacker format labels s m) : format.Faithful := by
  cases hm with
  | zip s => exact faithful_zip _
  | tar s => exact faithful_tar _

/-- Such a module that ends well has done all that packing takes. -/
theorem exists_succeeded (hm : IsPacker format labels s m) {ctx : Context} {h : Host}
    (hok : (m.run ctx h).result = .ok ()) :
    ∃ plans, Succeeded format labels s ctx h.files plans (m.run ctx h).context
      (m.run ctx h).host.files := by
  cases hm with
  | zip s => exact exists_succeeded_of_run hok
  | tar s => exact exists_succeeded_of_run hok

end IsPacker

end Archive

end ReleasePipeline
