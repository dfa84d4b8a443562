/-
The protocol of publishing.

What publishing is to ask of the service is a tree of errands (`Course`): what comes next depends
on what the last answer told. First the release of the tag is looked for. Then it is created, or
else edited, with the number that was found. Then each artifact is attached to the release that
this answer names.

A server may answer as it likes, or not at all. `Talk` says what is exchanged with it along a
course: only a success leads on, and so the requests are those of a path from the root, which may
stop early. The actions of the program follow their courses (`Follows`), by the errands that they
run, and for the assets by induction on the artifacts.
-/
import ReleasePipeline.Proofs.Publish.Errands
import ReleasePipeline.Publish.Release

set_option autoImplicit false

namespace ReleasePipeline.Publish

open Effect

/-! ## Courses -/

/-- What is still to be done: nothing, or an errand, and then what its answer leads to. -/
inductive Course : Type 1
  | finished
  | errand {α : Type} (e : Errand α) (next : α → Course)

namespace Course

/-- Give the release its assets, one after the other. -/
def attachAll (id : Nat) : List Artifact → Course
  | [] => .finished
  | a :: rest => .errand (.attach id a) fun _ => attachAll id rest

end Course

/-- The notes of a release that is there already, or these if it has none. -/
def ReleaseInfo.notesOr (info : ReleaseInfo) (notes : String) : String :=
  (info.body.filter (· ≠ "")).getD notes

namespace Course

/-- Look for the release of the tag. Create it if there is none, or else edit it, but leave its
notes alone. Then give it its assets. -/
def publish (data : ReleaseData) (artifacts : List Artifact) : Course :=
  .errand (.find data.tagName) fun
    | none => .errand (.create data) fun created => attachAll created.id artifacts
    | some existing =>
      .errand (.edit existing.id { data with body := existing.notesOr data.body }) fun edited =>
        attachAll edited.id artifacts

end Course

/-! ## Talks -/

/-- A request that was sent, and what came of it. -/
structure Exchange where
  request : Request
  /-- The answer, if one came. -/
  answer? : Option Response
  /-- The answer told what the request was sent for. -/
  succeeded : Bool

section Talk

variable (c : ReleaseClient) (files : Files) (server : Server)

/-- What is exchanged along a course, after some earlier requests, and whether its end is reached.
A request that cannot be made is not sent, and only a success leads on. -/
inductive Talk : Course → List Request → List Exchange → Bool → Prop
  | finished {earlier : List Request} : Talk .finished earlier [] true
  | unsent {α : Type} {e : Errand α} {next : α → Course} {earlier : List Request}
      (hrequest : e.request? c files = none) : Talk (.errand e next) earlier [] false
  | failed {α : Type} {e : Errand α} {next : α → Course} {earlier : List Request} {r : Request}
      (hrequest : e.request? c files = some r)
      (hanswer : (server earlier r).bind e.read? = none) :
      Talk (.errand e next) earlier [⟨r, server earlier r, false⟩] false
  | succeeded {α : Type} {e : Errand α} {next : α → Course} {earlier : List Request} {r : Request}
      {a : α} {xs : List Exchange} {done : Bool}
      (hrequest : e.request? c files = some r)
      (hanswer : (server earlier r).bind e.read? = some a)
      (hrest : Talk (next a) (earlier ++ [r]) xs done) :
      Talk (.errand e next) earlier (⟨r, server earlier r, true⟩ :: xs) done

end Talk

namespace Talk

variable {c : ReleaseClient} {files : Files} {server : Server} {course : Course}
  {earlier : List Request} {xs : List Exchange} {done : Bool}

end Talk

/-! ## Actions that follow a course -/

/-- Wherever the action starts, what it sends is what is exchanged along the course, and it
succeeds exactly if the end of the course is reached. -/
def Follows (c : ReleaseClient) (course : Course) (action : HostM Unit) : Prop :=
  ∀ h : Host, ∃ xs done, Talk c h.files h.server course h.requests xs done ∧
    (ExceptT.run action h).2.requests = h.requests ++ xs.map (·.request) ∧
    ((ExceptT.run action h).1 = .ok () ↔ done = true)

namespace Follows

variable {c : ReleaseClient} {course : Course}

/-- Where nothing is to be done nothing is sent, and that succeeds. -/
theorem finished : Follows c .finished (pure ()) :=
  fun _ => ⟨[], true, .finished, (List.append_nil _).symm, iff_of_true rfl rfl⟩

/-- An errand that is run, and then what its answer leads to. -/
theorem errand {α : Type} {e : Errand α} {next : α → Course} {action : HostM α}
    {rest : α → HostM Unit} (hruns : ∀ h, e.Runs c action h)
    (hrest : ∀ a, Follows c (next a) (rest a)) :
    Follows c (.errand e next) (action >>= rest) := by
  intro h
  have hsteps := run_bind action rest h
  cases hruns h with
  | unsent hrequest hrun =>
    rw [hrun] at hsteps
    rw [hsteps]
    exact ⟨[], false, .unsent hrequest, (List.append_nil _).symm, iff_of_false nofun nofun⟩
  | failed hrequest hanswer hrun =>
    rw [hrun] at hsteps
    rw [hsteps]
    exact ⟨_, false, .failed hrequest hanswer, rfl, iff_of_false nofun nofun⟩
  | @succeeded r a hrequest hanswer hrun =>
    rw [hrun] at hsteps
    dsimp only at hsteps
    rw [hsteps]
    -- the rest starts from a host on which nothing but the record of requests is different
    obtain ⟨xs, done, htalk, hrequests, hends⟩ := hrest a (h.sent r)
    refine ⟨_, done, .succeeded hrequest hanswer htalk, ?_, hends⟩
    rw [hrequests, Host.sent, List.append_assoc, List.map_cons, List.singleton_append]

/-- A message is nothing that the server gets to see. -/
theorem info_bind {rest : HostM Unit} (source message : String) (hrest : Follows c course rest) :
    Follows c course (HostM.info source message >>= fun _ => rest) :=
  fun h => hrest (h.say _)

end Follows

/-- The notes of a release that is there already are kept. -/
theorem ReleaseClient.keepingNotes_eq (data : ReleaseData) (existing : ReleaseInfo) :
    keepingNotes data existing = { data with body := existing.notesOr data.body } := by
  rw [keepingNotes, ReleaseInfo.notesOr]
  cases existing.body with
  | none => rfl
  | some body =>
    by_cases hbody : body = "" <;> simp [hbody, Option.filter]

namespace Release

open ReleaseClient

/-- `uploadAll` attaches the artifacts to the release one after the other, and what it logs after
each of them does not show. -/
theorem follows_uploadAll (s : Settings) (c : ReleaseClient) (id : Nat)
    (artifacts : List Artifact) :
    Follows c (.attachAll id artifacts) (uploadAll s c id artifacts) := by
  induction artifacts with
  | nil => exact .finished
  | cons a rest ih =>
    exact .errand (fun h => (runs_uploadAsset id a h).during _) fun _ => ih.info_bind _ _

/-- What `publish` of the client and `uploadAll` send together is the course from the look-up to the
last asset. The number that the assets are given to is the one in the answer to the second request.
-/
theorem follows_publish (s : Settings) (c : ReleaseClient) (data : ReleaseData)
    (artifacts : List Artifact) :
    Follows c (.publish data artifacts)
      (c.publish data >>= fun id => uploadAll s c id artifacts) := by
  rw [ReleaseClient.publish, bind_assoc]
  refine .errand (runs_releaseByTag data.tagName) fun found => ?_
  cases found with
  | none =>
    dsimp only
    simp only [bind_assoc, pure_bind]
    refine .errand (fun h => (runs_createRelease data h).during _) fun created => ?_
    exact (follows_uploadAll s c created.id artifacts).info_bind _ _
  | some existing =>
    dsimp only
    simp only [bind_assoc, pure_bind, keepingNotes_eq]
    -- the data that is sent for a release that is there differs in its notes only
    generalize { data with body := existing.notesOr data.body } = kept
    refine .errand (fun h => (runs_editRelease existing.id kept h).during _) fun edited => ?_
    exact (follows_uploadAll s c edited.id artifacts).info_bind _ _

/-! ## Publishing -/

end Release

end ReleasePipeline.Publish
