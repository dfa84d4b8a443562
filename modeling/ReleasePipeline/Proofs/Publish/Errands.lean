/-
The errands of a release at its service.

There are four: a release is looked for, created, edited, or given an asset. An errand is what is
sent for it and what is read in the answer, if that counts as a success. That a release is not found
is a success in one of the four only.

Each action of the client runs one errand (`Errand.Runs`): it sends the one request, or none if the
request cannot be made, and then it succeeds exactly if the answer does. Later statements about
publishing put errands together and do not look into the actions again.
-/
import ReleasePipeline.Proofs.Host.Effects
import ReleasePipeline.Publish.ReleaseClient

set_option autoImplicit false

namespace ReleasePipeline

open Effect

/-- The host after one more request was sent. -/
def Host.sent (h : Host) (r : Request) : Host := { h with requests := h.requests ++ [r] }

namespace Publish

/-! ## Errands -/

/-- An errand at the service, whose successful answer tells an `α`. -/
structure Errand (α : Type) where
  /-- What is sent, if it can be made. -/
  request? : ReleaseClient → Files → Option Request
  /-- What is read in an answer, if that is a success. -/
  read? : Response → Option α

/-- The request to an address, if one can be made with the address and the token. -/
def ReleaseClient.request? (c : ReleaseClient) (method : HttpMethod) (url : String)
    (change : Request → Request) : Option Request :=
  (requestUrl url c.token).toOption.map fun u => change { method, url := u, headers := c.headers }

/-- Reads a successful answer. -/
def ifSuccess {α : Type} (read? : Response → Option α) (r : Response) : Option α :=
  if r.isSuccess then read? r else none

/-- What a successful answer tells about a release, if it is readable. -/
def infoIn? : Response → Option ReleaseInfo := ifSuccess fun r => ReleaseInfo.read? r.body

namespace Errand

/-- Look for the release of a tag. -/
def find (tag : String) : Errand (Option ReleaseInfo) where
  request? c _ := c.request? .get (c.tagUrl tag) id
  read? r := if r.status = 404 then some none else (infoIn? r).map some

/-- Create a release. -/
def create (data : ReleaseData) : Errand ReleaseInfo where
  request? c _ := c.request? .post c.releasesUrl (ReleaseClient.carrying data.toJson)
  read? := infoIn?

/-- Change a release. -/
def edit (id : Nat) (data : ReleaseData) : Errand ReleaseInfo where
  request? c _ := c.request? .patch (c.releaseUrl id) (ReleaseClient.carrying data.toJson)
  read? := infoIn?

/-- Give a release an asset, whose file has to be readable. -/
def attach (id : Nat) (a : Artifact) : Errand Unit where
  request? c files := (files.read a.location).toOption.bind fun content =>
    c.request? .post (c.assetsUrl id) (ReleaseClient.carryingFile a.filename content.toBytes)
  read? := ifSuccess fun _ => some ()

/-- A request that is sent for its answer, whatever that is. -/
def plain (request? : Option Request) : Errand Response where
  request? _ _ := request?
  read? := some

variable {α : Type}

/-- How an action runs an errand from a host. A request that cannot be made is not sent. Otherwise
the action succeeds exactly if an answer comes that is a success, and with what that tells. Nothing
else happens on the host. -/
inductive Runs (c : ReleaseClient) (e : Errand α) (action : HostM α) (h : Host) : Prop
  | unsent {f : Failure} (hrequest : e.request? c h.files = none)
      (hrun : ExceptT.run action h = (.error f, h))
  | failed {r : Request} {f : Failure} (hrequest : e.request? c h.files = some r)
      (hanswer : (h.server h.requests r).bind e.read? = none)
      (hrun : ExceptT.run action h = (.error f, h.sent r))
  | succeeded {r : Request} {a : α} (hrequest : e.request? c h.files = some r)
      (hanswer : (h.server h.requests r).bind e.read? = some a)
      (hrun : ExceptT.run action h = (.ok a, h.sent r))

/-- Naming what is being done changes no more than the failure. -/
theorem Runs.during {c : ReleaseClient} {e : Errand α} {action : HostM α} {h : Host}
    (activity : Activity) (hruns : e.Runs c action h) :
    e.Runs c (HostM.during activity action) h := by
  have hrun' := run_tryCatch action (fun f => throw (.during activity f)) h
  cases hruns with
  | unsent hrequest hrun =>
    rw [hrun] at hrun'
    exact .unsent hrequest hrun'
  | failed hrequest hanswer hrun =>
    rw [hrun] at hrun'
    exact .failed hrequest hanswer hrun'
  | succeeded hrequest hanswer hrun =>
    rw [hrun] at hrun'
    exact .succeeded hrequest hanswer hrun'

/-- It only counts how the action runs from there. -/
theorem Runs.of_run_eq {c : ReleaseClient} {e : Errand α} {action other : HostM α} {h : Host}
    (hrun : ExceptT.run action h = ExceptT.run other h) (hruns : e.Runs c other h) :
    e.Runs c action h := by
  cases hruns with
  | unsent hrequest hother => exact .unsent hrequest (hrun.trans hother)
  | failed hrequest hanswer hother => exact .failed hrequest hanswer (hrun.trans hother)
  | succeeded hrequest hanswer hother => exact .succeeded hrequest hanswer (hrun.trans hother)

end Errand

/-! ## Reading answers -/

/-- What an action makes of an answer, without the host: it fails exactly if there is nothing to be
read. -/
def Reads {α : Type} (read? : Response → Option α) (action : Response → HostM α) : Prop :=
  ∀ r, ∃ outcome : Except Failure α,
    outcome.toOption = read? r ∧ action r = HostM.ofExcept outcome

namespace ReleaseClient

/-- Reading goes on only with an answer that is a success. -/
theorem reads_checked_bind {α : Type} {read? : Response → Option α} {next : Response → HostM α}
    (hnext : Reads read? next) : Reads (ifSuccess read?) fun r => checked r >>= next := by
  intro r
  dsimp only
  rw [checked, ifSuccess]
  by_cases hsuccess : r.isSuccess = true
  · rw [if_pos hsuccess, if_pos hsuccess, pure_bind]
    exact hnext r
  · rw [if_neg hsuccess, if_neg hsuccess]
    exact ⟨.error _, rfl, rfl⟩

/-- `releaseIn` fails for an answer that is no success, and for one in which there is no release to
be read. -/
theorem reads_releaseIn : Reads infoIn? releaseIn := by
  refine reads_checked_bind fun r => ?_
  cases ReleaseInfo.read? r.body with
  | none => exact ⟨.error _, rfl, rfl⟩
  | some info => exact ⟨.ok info, rfl, rfl⟩

/-- A missing release is an answer, too. -/
theorem reads_found (tag : String) : Reads (Errand.find tag).read? fun r =>
    if r.status = 404 then pure none else releaseIn r >>= fun info => pure (some info) := by
  intro r
  rw [Errand.find]
  dsimp only
  by_cases hstatus : r.status = 404
  · rw [if_pos hstatus, if_pos hstatus]
    exact ⟨.ok none, rfl, rfl⟩
  · obtain ⟨outcome, hread, haction⟩ := reads_releaseIn r
    rw [if_neg hstatus, if_neg hstatus, haction, ← hread]
    cases outcome with
    | error f => exact ⟨.error f, rfl, rfl⟩
    | ok info => exact ⟨.ok (some info), rfl, rfl⟩

/-! ## What the client does -/

variable {c : ReleaseClient} {method : HttpMethod} {url : String} {change : Request → Request}
  {h : Host}

/-- A request that can be made is sent, whether an answer comes or not. -/
theorem runs_send :
    (Errand.plain (c.request? method url change)).Runs c (c.send method url change) h := by
  refine Errand.Runs.during _ ?_
  cases hu : requestUrl url c.token with
  | error cause =>
    refine .unsent (f := .because cause) ?_ rfl
    rw [Errand.plain, request?, hu]
    rfl
  | ok u =>
    have hrequest : (Errand.plain (c.request? method url change)).request? c h.files
        = some (change { method, url := u, headers := c.headers }) := by
      rw [Errand.plain, request?, hu]
      rfl
    have hlift : HostM.lift id (.ok u : Except Cause Url) = pure u := rfl
    rw [hlift, pure_bind]
    cases hanswer : h.server h.requests (change { method, url := u, headers := c.headers }) with
    | none =>
      refine .failed hrequest (congrArg (Option.bind · some) hanswer) (f := .because (.unreachable
        (change { method, url := u, headers := c.headers }).url.text)) ?_
      rw [run_get_bind, run_set_bind, hanswer]
      rfl
    | some answer =>
      refine .succeeded hrequest (congrArg (Option.bind · some) hanswer) ?_
      rw [run_get_bind, run_set_bind, hanswer]
      rfl

/-- An errand is run by sending its request and then reading the answer. -/
theorem runs_send_bind {α : Type} {e : Errand α} {next : Response → HostM α}
    (hrequest : e.request? c h.files = c.request? method url change)
    (hreads : Reads e.read? next) : e.Runs c (c.send method url change >>= next) h := by
  have hbind := run_bind (c.send method url change) next h
  -- an answer that came is no success yet: what it counts for is up to the reading
  cases @runs_send c method url change h with
  | unsent hsend hrun =>
    rw [hrun] at hbind
    exact .unsent (hrequest.trans hsend) hbind
  | failed hsend hanswer hrun =>
    rw [Errand.plain, Option.bind_fun_some] at hanswer
    rw [hrun] at hbind
    refine .failed (hrequest.trans hsend) ?_ hbind
    rw [hanswer, Option.bind_none]
  | @succeeded r answer hsend hanswer hrun =>
    rw [Errand.plain, Option.bind_fun_some] at hanswer
    rw [hrun] at hbind
    obtain ⟨outcome, hread, haction⟩ := hreads answer
    dsimp only at hbind
    rw [haction] at hbind
    cases outcome with
    | error f =>
      refine .failed (hrequest.trans hsend) ?_ hbind
      rw [hanswer, Option.bind_some, ← hread]
      rfl
    | ok a =>
      refine .succeeded (hrequest.trans hsend) ?_ hbind
      rw [hanswer, Option.bind_some, ← hread]
      rfl

/-- The look-up by the tag is one request, and the answer `404` says that there is no release yet.
-/
theorem runs_releaseByTag (tag : String) (h : Host) :
    (Errand.find tag).Runs c (c.releaseByTag tag) h := by
  refine runs_send_bind ?_ (reads_found tag)
  rw [Errand.find]

/-- Creating a release is one request, with the data as its body. -/
theorem runs_createRelease (data : ReleaseData) (h : Host) :
    (Errand.create data).Runs c (c.createRelease data) h := by
  refine runs_send_bind ?_ reads_releaseIn
  rw [Errand.create]

/-- Editing a release is one request to the address of its number, with the data as its body. -/
theorem runs_editRelease (id : Nat) (data : ReleaseData) (h : Host) :
    (Errand.edit id data).Runs c (c.editRelease id data) h := by
  refine runs_send_bind ?_ reads_releaseIn
  rw [Errand.edit]

/-- The file of an asset is read before anything is sent. -/
theorem runs_uploadAsset (release : Nat) (a : Artifact) (h : Host) :
    (Errand.attach release a).Runs c (c.uploadAsset release a) h := by
  have hsteps : ExceptT.run (c.uploadAsset release a) h = _ :=
    run_bind (HostM.during (.openingSource a.location) (HostM.query (·.read a.location))) _ h
  rw [HostM.during, run_tryCatch, HostM.query, run_get_bind] at hsteps
  cases hcontent : h.files.read a.location with
  | error e =>
    rw [hcontent] at hsteps
    refine .unsent ?_ hsteps
    simp only [Errand.attach, hcontent, Except.toOption, Option.bind_none]
  | ok content =>
    rw [hcontent] at hsteps
    have hreads : Reads (Errand.attach release a).read? fun r => checked r >>= fun _ => pure () :=
      reads_checked_bind fun _ => ⟨.ok (), rfl, rfl⟩
    refine .of_run_eq hsteps (runs_send_bind ?_ hreads)
    simp only [Errand.attach, hcontent, Except.toOption, Option.bind_some]

end ReleaseClient

end Publish

end ReleasePipeline
