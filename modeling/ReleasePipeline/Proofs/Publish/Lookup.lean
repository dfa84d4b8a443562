/-
The release that a tag leads to.

A release is looked for at the address of all tags with its tag written behind it, and what that
is for the request depends on the tag (`exists_of_lookup?`): from a number sign on nothing of it is
sent, steps that go up lead out of the tags, and a percent sign may stand for itself or begin what
another character is encoded as. So different tags may name the same target, and then the release
of one of them is edited for the other.

This does not happen to plain tags, which have none of these marks. The target of a plain tag
spells it (`percentText?_of_isPlain`), so a service that goes by the spelling tells of the
release of this tag, and only that one is edited.
-/
import ReleasePipeline.Proofs.Publish.Protocol
import ReleasePipeline.Proofs.Text.ByteOrder
import ReleasePipeline.Proofs.Url.Reading

set_option autoImplicit false

namespace ReleasePipeline

/-! ## Addresses of requests

Before a request is sent, a user and a password are taken out of its address and made a header. -/

namespace Url

/-- A user is not part of the scheme. -/
theorem scheme_asked (u : Url) : u.asked.scheme = u.scheme := by
  unfold asked
  split
  · rfl
  · dsimp only
    split
    · rfl
    · split <;> rfl

/-- A user is not part of what a request names. -/
theorem target_asked (u : Url) : u.asked.target = u.target := by
  unfold asked
  split
  · rfl
  · dsimp only
    split
    · rfl
    · split <;> rfl

end Url

/-! ## Strings of an answer -/

namespace Json

/-- A character that stands for itself in a string and takes one byte. -/
def IsPlain (c : Char) : Prop := 32 ≤ c.toNat ∧ c.toNat < 128 ∧ c ≠ '"' ∧ c ≠ '\\'

instance (c : Char) : Decidable (IsPlain c) :=
  inferInstanceAs (Decidable (32 ≤ c.toNat ∧ c.toNat < 128 ∧ c ≠ '"' ∧ c ≠ '\\'))

/-- Plain characters are read one by one up to the quote that ends the string. -/
theorem readString?_of_isPlain {cs : List Char} (h : ∀ c ∈ cs, IsPlain c) :
    readString? (cs ++ ['"']) = some (cs, []) := by
  induction cs with
  | nil => rfl
  | cons c cs ih =>
    obtain ⟨⟨hlow, -, hquote, hslash⟩, hrest⟩ := List.forall_mem_cons.mp h
    rw [List.cons_append, readString?, if_neg (by omega), ih hrest]
    · rfl
    · exact hquote
    · exact fun _ _ _ _ _ hc => absurd hc hslash
    · exact fun _ _ hc => absurd hc hslash

/-- A string of plain characters is its own text. -/
theorem text?_of_isPlain {text : String} (h : ∀ c ∈ text.toList, IsPlain c) :
    text? text = some text := by
  have hbytes : (⟨(text.toList.map fun c => UInt8.ofNat c.toNat).toArray⟩ : ByteArray)
      = Text.encode text := by
    have hlist : text.toList.map (fun c => UInt8.ofNat c.toNat) = Text.bytes text := by
      rw [Text.bytes_eq, List.map_eq_flatMap]
      refine List.flatMap_congr fun c hc => ?_
      obtain ⟨-, hascii, -⟩ := h c hc
      rw [String.utf8EncodeChar, if_pos (by simpa using Nat.le_of_lt_succ hascii)]
      rfl
    rw [hlist]
    rfl
  rw [text?, hbytes, Text.decode?_encode, Option.bind_some, readString?_of_isPlain h]
  exact congrArg some String.ofList_toList

/-- An answer that is a text is passed over byte by byte of its characters. -/
theorem skim?_encode (text : String) : skim? (Text.encode text)
    = readWith? skipString?
        ((text.toList.flatMap String.utf8EncodeChar).map fun b => Char.ofNat b.toNat) := by
  rw [skim?, ← Text.bytes_eq]
  rfl

end Json

namespace Publish

open Effect

/-- What passes a check that may break off. -/
theorem of_check {b : Bool} {e : Cause} {rest : Except Cause Url} {u : Url}
    (h : (if b = true then throw e >>= fun _ : PUnit => rest else rest) = .ok u) :
    b = false ∧ rest = .ok u := by
  cases b with
  | true => exact absurd h nofun
  | false => exact ⟨rfl, h⟩

/-- The address of a request was read from a text, can be asked, and names the target that it names
there. -/
theorem exists_of_requestUrl {address token : String} {v : Url}
    (h : ReleaseClient.requestUrl address token = .ok v) :
    ∃ u, Url.parse address = .ok u ∧ u.canBeAsked = true ∧ v.target = u.target := by
  rw [ReleaseClient.requestUrl] at h
  cases hu : Url.parse address with
  | error fault => rw [hu] at h; exact absurd h nofun
  | ok u =>
    rw [hu] at h
    obtain ⟨-, h⟩ := of_check h
    obtain ⟨-, h⟩ := of_check h
    obtain ⟨hasked, h⟩ := of_check h
    obtain ⟨-, h⟩ := of_check h
    cases h
    rw [Bool.not_eq_false', Url.canBeAsked, Url.scheme_asked] at hasked
    exact ⟨u, rfl, hasked, Url.target_asked u⟩

/-! ## Tags

The condition on a tag comes in three strengths. A tag that is a text for tags is found in the
address at all; one that leads straight on is spelled there; and one that is plain can be read again
from that spelling. -/

/-- A text that can be a tag: without blanks, control characters and question marks. -/
def IsTagText (tag : String) : Prop := ∀ c ∈ tag.toList, Url.Counts c ∧ c ≠ '?'

/-- Whether a text can be a tag can be computed. -/
theorem isTagText_of_all {tag : String}
    (h : tag.toList.all (fun c => Url.Counts c ∧ c ≠ '?') = true) : IsTagText tag :=
  fun c hc => of_decide_eq_true (List.all_eq_true.mp h c hc)

/-- A tag that leads straight on: before a number sign it has neither backslashes nor steps that
stay or go up. -/
structure LeadsOn (tag : String) : Prop where
  isTagText : IsTagText tag
  isStraight : Url.IsStraight (Url.cut '#' tag.toList).1

/-- A tag that has no number signs and no percent signs, either. -/
structure IsPlain (tag : String) : Prop extends LeadsOn tag where
  noNumberSign : '#' ∉ tag.toList
  noPercentSign : '%' ∉ tag.toList

/-- The request for the release of a tag, if one can be made. -/
def ReleaseClient.lookup? (c : ReleaseClient) (tag : String) : Option Request :=
  c.request? .get (c.tagUrl tag) id

variable {c : ReleaseClient} {tag : String} {look : Request} {tags : Url}

/-- A tag stands behind the address of all releases and the step `tags`. -/
theorem tagUrl_eq (c : ReleaseClient) (tag : String) :
    c.tagUrl tag = String.ofList
      (c.releasesUrl.toList ++ '/' :: (['t', 'a', 'g', 's'] ++ '/' :: tag.toList)) := by
  apply String.toList_injective
  simp [ReleaseClient.tagUrl]

/-- A request that is made has a method, the address that was read, and the headers of the client.
-/
theorem exists_of_request? {method : HttpMethod} {address : String} {change : Request → Request}
    {r : Request} (h : c.request? method address change = some r) :
    ∃ u, ReleaseClient.requestUrl address c.token = .ok u ∧
      r = change { method, url := u, headers := c.headers } := by
  rw [ReleaseClient.request?, Option.map_eq_some_iff] at h
  obtain ⟨u, hu, rfl⟩ := h
  cases hread : ReleaseClient.requestUrl address c.token with
  | error cause =>
    rw [hread] at hu
    exact absurd hu (Option.some_ne_none u).symm
  | ok v =>
    rw [hread] at hu
    exact ⟨v, rfl, by rw [Option.some.inj hu]⟩

/-- A tag is looked for at what it leads to when it is written behind the address of all tags. -/
theorem exists_of_lookup? (htag : IsTagText tag) (h : c.lookup? tag = some look) :
    look.method = .get ∧ ∃ tags, Url.parse (c.tagUrl "") = .ok tags ∧
      Url.manner tags.scheme ≠ .other ∧
      (tags.fragment = none → tags.query = none → tags.EndsWithSlash) ∧
      look.url.target = (tags.continued tag.toList).target := by
  obtain ⟨v, hv, rfl⟩ := exists_of_request? h
  obtain ⟨u, hparse, hasked, htarget⟩ := exists_of_requestUrl hv
  have hname : ∀ c ∈ ['t', 'a', 'g', 's'], Url.Counts c ∧ c ≠ '/' ∧ c ≠ '\\' := by
    have hall : ['t', 'a', 'g', 's'].all (fun c => Url.Counts c ∧ c ≠ '/' ∧ c ≠ '\\')
        = true := by decide
    exact fun c hc => of_decide_eq_true (List.all_eq_true.mp hall c hc)
  rw [tagUrl_eq] at hparse
  obtain ⟨tags, htags, hscheme, hslash, rfl⟩ :=
    Url.exists_of_parse_append c.releasesUrl.toList (List.cons_ne_nil _ _) hname htag hparse hasked
  obtain ⟨port, hmanner⟩ := Url.exists_manner_of_canBeAsked hasked
  refine ⟨rfl, tags, (congrArg Url.parse (tagUrl_eq c "")).trans htags, ?_, hslash, htarget⟩
  rw [hscheme, hmanner]
  exact nofun

/-- What leads straight on is spelled behind the target of all tags. -/
theorem target_of_leadsOn (htag : LeadsOn tag) (h : c.lookup? tag = some look)
    (htags : Url.parse (c.tagUrl "") = .ok tags) (hfragment : tags.fragment = none) :
    look.url.target = tags.target ++ String.ofList (tags.spelling tag.toList) := by
  obtain ⟨-, tags', htags', hmanner, hslash, htarget⟩ := exists_of_lookup? htag.isTagText h
  rw [htags] at htags'
  cases htags'
  rw [htarget,
    Url.target_continued_of_straight hmanner hfragment (hslash hfragment) htag.isStraight]

/-- A plain tag can be read from its spelling. -/
theorem percentText?_of_isPlain (tags : Url) (htag : IsPlain tag) :
    Url.percentText? (tags.spelling tag.toList) = some tag := by
  rw [Url.percentText?_spelling tags htag.noNumberSign htag.noPercentSign, String.ofList_toList]

/-! ## What is sent -/

/-- Looking for a release is asking for its tag. -/
theorem request?_find (c : ReleaseClient) (tag : String) (files : Files) :
    (Errand.find tag).request? c files = c.lookup? tag := by
  rw [ReleaseClient.lookup?, Errand.find]

/-- Looking for a release sends this one request, whatever comes of it. -/
theorem requests_releaseByTag (tag : String) (h : Host) :
    (ExceptT.run (c.releaseByTag tag) h).2.requests = h.requests ++ (c.lookup? tag).toList := by
  -- whether the answer is understood makes no difference to what was sent
  cases ReleaseClient.runs_releaseByTag (c := c) tag h with
  | unsent hrequest hrun =>
    rw [request?_find] at hrequest
    rw [hrun, hrequest]
    exact (List.append_nil _).symm
  | failed hrequest _ hrun | succeeded hrequest _ hrun =>
    rw [request?_find] at hrequest
    rw [hrun, hrequest]
    rfl

/-- Along a course with one errand its request is sent. -/
theorem Talk.requests_eq {α : Type} {e : Errand α} {next : α → Course} {files : Files}
    {server : Server} {earlier : List Request} {xs : List Exchange} {done : Bool}
    (htalk : Talk c files server (.errand e next) earlier xs done)
    (hnext : ∀ a, next a = .finished) : xs.map (·.request) = (e.request? c files).toList := by
  cases htalk with
  | unsent hrequest | failed hrequest =>
    rw [hrequest]
    rfl
  | @succeeded _ _ _ _ _ a _ _ hrequest _ hrest =>
    rw [hnext a] at hrest
    cases hrest
    rw [hrequest]
    rfl

/-- An action that ends a course sends what is exchanged along that. -/
theorem Follows.exists_requests {course : Course} {α : Type} {action : HostM α}
    {rest : α → HostM Unit} (hfollows : Follows c course (action >>= rest))
    (hrest : ∀ a, rest a = pure ()) (h : Host) :
    ∃ xs done, Talk c h.files h.server course h.requests xs done ∧
      (ExceptT.run action h).2.requests = h.requests ++ xs.map (·.request) := by
  obtain ⟨xs, done, htalk, hrequests, -⟩ := hfollows h
  refine ⟨xs, done, htalk, ?_⟩
  have hsteps := run_bind action rest h
  rw [hsteps] at hrequests
  rw [← hrequests]
  cases ExceptT.run action h with
  | mk result after =>
    cases result with
    | error f => rfl
    | ok a =>
      dsimp only
      rw [hrest]
      rfl

/-- The request that follows the look-up: nothing, unless that was a success; and else the release
is created, or the one that was found is edited. -/
def ReleaseClient.followUp? (c : ReleaseClient) (data : ReleaseData) :
    Option (Option ReleaseInfo) → Option Request
  | none => none
  | some none => c.request? .post c.releasesUrl (carrying data.toJson)
  | some (some found) =>
    c.request? .patch (c.releaseUrl found.id)
      (carrying { data with body := found.notesOr data.body }.toJson)

/-- Along the course of publishing the look-up is sent, and then what follows from its answer. -/
theorem Talk.requests_eq_of_publish {data : ReleaseData} {files : Files} {server : Server}
    {earlier : List Request} {xs : List Exchange} {done : Bool}
    (htalk : Talk c files server (.publish data []) earlier xs done) :
    xs.map (·.request) = (c.lookup? data.tagName).toList
      ++ (c.followUp? data (((c.lookup? data.tagName).bind (server earlier)).bind
          (Errand.find data.tagName).read?)).toList := by
  rw [Course.publish] at htalk
  cases htalk with
  | unsent hrequest =>
    rw [request?_find] at hrequest
    rw [hrequest]
    rfl
  | failed hrequest hanswer =>
    rw [request?_find] at hrequest
    rw [hrequest, Option.bind_some, hanswer]
    rfl
  | @succeeded _ _ _ _ look found _ _ hrequest hanswer hrest =>
    rw [request?_find] at hrequest
    rw [hrequest, Option.bind_some, hanswer, List.map_cons, Option.toList_some,
      List.singleton_append]
    cases found with
    | none =>
      rw [hrest.requests_eq fun _ => rfl, ReleaseClient.followUp?, Errand.create]
    | some found =>
      rw [hrest.requests_eq fun _ => rfl, ReleaseClient.followUp?, Errand.edit]

/-- Publishing sends the look-up, and then what follows from its answer. -/
theorem requests_publish (c : ReleaseClient) (data : ReleaseData) (h : Host) :
    (ExceptT.run (c.publish data) h).2.requests
      = h.requests ++ ((c.lookup? data.tagName).toList
        ++ (c.followUp? data (((c.lookup? data.tagName).bind (h.server h.requests)).bind
            (Errand.find data.tagName).read?)).toList) := by
  obtain ⟨xs, done, htalk, hrequests⟩ :=
    (Release.follows_publish {} c data []).exists_requests (fun _ => rfl) h
  rw [hrequests, htalk.requests_eq_of_publish]

/-- If the look-up tells of a release, the answer held it. -/
theorem infoIn?_of_find {answer : Response} {found : ReleaseInfo}
    (h : (Errand.find tag).read? answer = some (some found)) : infoIn? answer = some found := by
  rw [Errand.find] at h
  dsimp only at h
  split at h
  · exact absurd (Option.some.inj h).symm (Option.some_ne_none found)
  · obtain ⟨info, hinfo, heq⟩ := Option.map_eq_some_iff.mp h
    rw [hinfo, heq]

/-- Only a release that the look-up told of is edited. -/
theorem exists_found_of_followUp? {data : ReleaseData} {server : Server} {earlier : List Request}
    {r : Request}
    (h : c.followUp? data (((c.lookup? data.tagName).bind (server earlier)).bind
      (Errand.find data.tagName).read?) = some r) (hpatch : r.method = .patch) :
    ∃ look found kept, c.lookup? data.tagName = some look ∧
      (server earlier look).bind infoIn? = some found ∧
      c.request? .patch (c.releaseUrl found.id) (ReleaseClient.carrying kept) = some r := by
  cases htold : ((c.lookup? data.tagName).bind (server earlier)).bind
      (Errand.find data.tagName).read? with
  -- if nothing was found, a release is created
  | none =>
    rw [htold] at h
    exact absurd h.symm (Option.some_ne_none r)
  | some told =>
    rw [htold] at h
    cases told with
    | none =>
      obtain ⟨u, -, rfl⟩ := exists_of_request? h
      exact absurd hpatch nofun
    | some found =>
      obtain ⟨answer, hanswer, hread⟩ := Option.bind_eq_some_iff.mp htold
      obtain ⟨look, hlook, hanswer⟩ := Option.bind_eq_some_iff.mp hanswer
      refine ⟨look, found, _, hlook, ?_, h⟩
      rw [hanswer, Option.bind_some]
      exact infoIn?_of_find hread

/-! ## Which release a tag leads to -/

/-- The service goes by the spelling: what it tells when it is asked for something behind the
address of all tags is about the release of the tag that is spelled there. `tagOf` are the tags of
its releases. -/
def FindsByTag (server : Server) (tags : Url) (tagOf : Nat → String) : Prop :=
  ∀ earlier r rest found, r.method = .get → r.url.target = tags.target ++ String.ofList rest →
    (server earlier r).bind infoIn? = some found →
    Url.percentText? rest = some (tagOf found.id)

/-- **Plain tags are told apart.** To look for the release of a tag, the one request for it is
sent, or none if it cannot be made. It is a request for what the tag leads to when it is written
behind the address of all tags. Unless this address ends in a fragment, tags that lead straight on
have the same target exactly if they are spelled alike, and so different plain tags have different
targets. Then publishing under a plain tag, at a service that goes by the spelling, edits no release
but that of the tag. -/
theorem plain_tags_told_apart (c : ReleaseClient) :
    (∀ tag h, (ExceptT.run (c.releaseByTag tag) h).2.requests
      = h.requests ++ (c.lookup? tag).toList) ∧
    (∀ tag look, IsTagText tag → c.lookup? tag = some look → look.method = .get ∧
      ∃ tags, Url.parse (c.tagUrl "") = .ok tags ∧
        look.url.target = (tags.continued tag.toList).target) ∧
    ∀ tags, Url.parse (c.tagUrl "") = .ok tags → tags.fragment = none →
      (∀ tag tag' look look', c.lookup? tag = some look → c.lookup? tag' = some look' →
        (LeadsOn tag → LeadsOn tag' → (look.url.target = look'.url.target
          ↔ tags.spelling tag.toList = tags.spelling tag'.toList)) ∧
        (IsPlain tag → IsPlain tag' → tag ≠ tag' → look.url.target ≠ look'.url.target)) ∧
      ∀ tagOf h data, FindsByTag h.server tags tagOf → IsPlain data.tagName →
        ∃ sent, (ExceptT.run (c.publish data) h).2.requests = h.requests ++ sent ∧
          ∀ r ∈ sent, r.method = .patch → ∃ id kept, tagOf id = data.tagName ∧
            c.request? .patch (c.releaseUrl id) (ReleaseClient.carrying kept) = some r := by
  refine ⟨requests_releaseByTag, fun tag look htag hlook => ?_, fun tags htags hfragment => ?_⟩
  · obtain ⟨hget, tags, htags, -, -, htarget⟩ := exists_of_lookup? htag hlook
    exact ⟨hget, tags, htags, htarget⟩
  -- both targets begin with that of all tags, so the spellings are what is left
  have hspelled {tag tag' : String} {look look' : Request} (hlook : c.lookup? tag = some look)
      (hlook' : c.lookup? tag' = some look') (htag : LeadsOn tag) (htag' : LeadsOn tag') :
      look.url.target = look'.url.target
        ↔ tags.spelling tag.toList = tags.spelling tag'.toList := by
    rw [target_of_leadsOn htag hlook htags hfragment,
      target_of_leadsOn htag' hlook' htags hfragment, String.append_right_inj,
      String.ofList_inj]
  refine ⟨fun tag tag' look look' hlook hlook' => ⟨hspelled hlook hlook', ?_⟩, ?_⟩
  · intro htag htag' hne heq
    have hsame := (hspelled hlook hlook' htag.toLeadsOn htag'.toLeadsOn).mp heq
    have hread := percentText?_of_isPlain tags htag
    rw [hsame, percentText?_of_isPlain tags htag'] at hread
    exact hne (Option.some.inj hread).symm
  · intro tagOf h data hserver hdata
    refine ⟨_, requests_publish c data h, fun r hr hpatch => ?_⟩
    rw [List.mem_append, Option.mem_toList, Option.mem_toList] at hr
    rcases hr with hlook | hnext
    · obtain ⟨hget, -⟩ := exists_of_lookup? hdata.isTagText hlook
      exact absurd (hget.symm.trans hpatch) nofun
    · obtain ⟨look, found, kept, hlook, hfound, hedit⟩ := exists_found_of_followUp? hnext hpatch
      obtain ⟨hget, -⟩ := exists_of_lookup? hdata.isTagText hlook
      have htag := hserver _ _ _ _ hget
        (target_of_leadsOn hdata.toLeadsOn hlook htags hfragment) hfound
      rw [percentText?_of_isPlain tags hdata] at htag
      exact ⟨found.id, kept, (Option.some.inj htag).symm, hedit⟩

/-! ## Tags with and without marks -/

/-- A client for a service on the same machine. -/
def loopback : ReleaseClient := .make "https://[::1]" "token" "acme" "demo"

/-- A look-up whose target is known was made. -/
theorem lookup?_loopback {target : String}
    (h : (loopback.lookup? tag).map (·.url.target) = some target) :
    ∃ look, loopback.lookup? tag = some look ∧ look.url.target = target :=
  Option.map_eq_some_iff.mp h

/-- The address of all tags can be read, and ends in a slash. -/
theorem exists_tags_loopback : ∃ tags, Url.parse (loopback.tagUrl "") = .ok tags ∧
    tags.target = "/api/v3/repos/acme/demo/releases/tags/" ∧ tags.fragment = none := by
  have hread : (Url.parse (loopback.tagUrl "")).toOption.map (fun u => (u.target, u.fragment))
      = some ("/api/v3/repos/acme/demo/releases/tags/", none) := by decide +kernel
  cases htags : Url.parse (loopback.tagUrl "") with
  | error fault => rw [htags] at hread; exact absurd hread nofun
  | ok tags =>
    rw [htags] at hread
    obtain ⟨htarget, hfragment⟩ := Prod.mk.inj (Option.some.inj hread)
    exact ⟨tags, rfl, htarget, hfragment⟩

/-- A release can be edited there. -/
theorem exists_edit_loopback (kept : Json) : ∃ edit,
    loopback.request? .patch (loopback.releaseUrl 7) (ReleaseClient.carrying kept) = some edit := by
  have hmade : (ReleaseClient.requestUrl (loopback.releaseUrl 7) loopback.token).toOption.isSome
      = true := by decide +kernel
  obtain ⟨u, hu⟩ := Option.isSome_iff_exists.mp hmade
  rw [ReleaseClient.request?, hu]
  exact ⟨_, rfl⟩

/-- The data of a release of which nothing but the tag is known. -/
def onlyTagged (tag : String) : ReleaseData := .make tag "" tag ""

/-- A service with one release, which it tells of for one target. -/
def oneRelease (target : String) : Server := fun _ r =>
  if r.method = .get ∧ r.url.target ≠ target then some { status := 404 }
  else some { status := 200, body := Text.encode "\x7b\"id\":7\x7d" }

/-- The tag of its release, and of those that it does not have. -/
def oneTag (tag : String) (id : Nat) : String := if id = 7 then tag else ""

/-- The one release is understood from the answer. -/
theorem infoIn?_oneRelease :
    infoIn? { status := 200, body := Text.encode "\x7b\"id\":7\x7d" } = some { id := 7 } := by
  have hcs : "\x7b\"id\":7\x7d".toList = ['\x7b', '"', 'i', 'd', '"', ':', '7', '\x7d'] := by
    decide
  -- step by step, because the texts of an answer are too large to be computed as a whole
  have hskim : Json.skim? (Text.encode "\x7b\"id\":7\x7d")
      = some (.object [("id", .number "7")]) := by
    rw [Json.skim?_encode, hcs]
    rfl
  have hplain : ∀ c ∈ ['i', 'd'], Json.IsPlain c :=
    List.forall_mem_cons.mpr ⟨by decide, List.forall_mem_singleton.mpr (by decide)⟩
  have hname : Json.text? "id" = some "id" := Json.text?_of_isPlain hplain
  have hid : ReleaseInfo.id? (.number "7") = some 7 := by
    have hseven : "7".toNat? = some 7 := by
      simp [String.toNat?, String.Slice.toNat?, String.Slice.isNat,
        String.Slice.forIn_eq_forIn_toList]
    rw [ReleaseInfo.id?, if_pos (by decide), hseven]
    rfl
  have hnamed : ReleaseInfo.named? [("id", .number "7")] = some [("id", .number "7")] := by
    rw [ReleaseInfo.named?, List.mapM_cons]
    dsimp only
    rw [hname]
    rfl
  have hinfo : ReleaseInfo.ofMembers? [("id", .number "7")]
      = (ReleaseInfo.id? (.number "7")).bind fun id => some { id } := rfl
  rw [infoIn?, ifSuccess, if_pos (by decide), ReleaseInfo.read?, hskim, Option.bind_some,
    ReleaseInfo.ofSkimmed?, hnamed, Option.bind_some, hinfo, hid]
  rfl

/-- Asked for its target, the service tells of the release. -/
theorem read_oneRelease {target : String} {earlier : List Request} {r : Request}
    (h : r.url.target = target) :
    (oneRelease target earlier r).bind (Errand.find tag).read? = some (some { id := 7 }) := by
  rw [oneRelease, if_neg fun hother => hother.2 h, Option.bind_some, Errand.find]
  dsimp only
  rw [if_neg (by decide), infoIn?_oneRelease]
  rfl

/-- This service goes by the spelling, if its target is that of the tag. -/
theorem findsByTag_oneRelease {spelling : String}
    (htag : Url.percentText? spelling.toList = some tag) :
    FindsByTag (oneRelease (tags.target ++ spelling)) tags (oneTag tag) := by
  intro earlier r rest found hget htarget hfound
  by_cases heq : r.url.target = tags.target ++ spelling
  · rw [oneRelease, if_neg fun hother => hother.2 heq, Option.bind_some, infoIn?_oneRelease]
      at hfound
    rw [htarget, String.append_right_inj] at heq
    rw [← heq, String.toList_ofList] at htag
    rw [← Option.some.inj hfound]
    exact htag
  · rw [oneRelease, if_pos ⟨hget, heq⟩] at hfound
    exact absurd hfound nofun

/-- Pairs of tags that have the same target. -/
def confusedTags : List (String × String) :=
  [("v1", "v1#x"), ("v1", "a/%2e%2E/v1"), ("\u00E9", "%C3%A9")]

/-- Tags with marks are confused with others, and then the release of the other one is edited. -/
theorem marked_tags_confused :
    (∀ pair ∈ confusedTags, pair.1 ≠ pair.2 ∧ IsTagText pair.1 ∧ IsTagText pair.2 ∧
      ∃ look look', loopback.lookup? pair.1 = some look ∧ loopback.lookup? pair.2 = some look' ∧
        look.url.target = look'.url.target) ∧
    ∃ tags, Url.parse (loopback.tagUrl "") = .ok tags ∧
      let server := oneRelease (tags.target ++ "v1")
      FindsByTag server tags (oneTag "v1") ∧
      ∃ look kept edit,
        loopback.request? .patch (loopback.releaseUrl 7) (ReleaseClient.carrying kept)
          = some edit ∧
        (ExceptT.run (loopback.publish (onlyTagged "v1#x")) { server }).2.requests
          = [look, edit] := by
  -- a mark begins the fragment, steps upwards are taken back, and a letter is spelled as the name
  -- of the other tag is
  have hplain : (loopback.lookup? "v1").map (·.url.target)
      = some "/api/v3/repos/acme/demo/releases/tags/v1" := by decide +kernel
  have hmarked : (loopback.lookup? "v1#x").map (·.url.target)
      = some "/api/v3/repos/acme/demo/releases/tags/v1" := by decide +kernel
  have hup : (loopback.lookup? "a/%2e%2E/v1").map (·.url.target)
      = some "/api/v3/repos/acme/demo/releases/tags/v1" := by decide +kernel
  have hletter : (loopback.lookup? "\u00E9").map (·.url.target)
      = some "/api/v3/repos/acme/demo/releases/tags/%C3%A9" := by decide +kernel
  have hspelled : (loopback.lookup? "%C3%A9").map (·.url.target)
      = some "/api/v3/repos/acme/demo/releases/tags/%C3%A9" := by decide +kernel
  have hconfused {tag tag' target : String}
      (h : (loopback.lookup? tag).map (·.url.target) = some target)
      (h' : (loopback.lookup? tag').map (·.url.target) = some target) :
      ∃ look look', loopback.lookup? tag = some look ∧ loopback.lookup? tag' = some look' ∧
        look.url.target = look'.url.target := by
    obtain ⟨look, hlook, rfl⟩ := lookup?_loopback h
    obtain ⟨look', hlook', htarget⟩ := lookup?_loopback h'
    exact ⟨look, look', hlook, hlook', htarget.symm⟩
  constructor
  · rw [confusedTags]
    simp only [List.forall_mem_cons]
    have htext : IsTagText "v1" := isTagText_of_all (by decide)
    exact ⟨⟨by decide, htext, isTagText_of_all (by decide), hconfused hplain hmarked⟩,
      ⟨by decide, htext, isTagText_of_all (by decide), hconfused hplain hup⟩,
      ⟨by decide, isTagText_of_all (by decide), isTagText_of_all (by decide),
        hconfused hletter hspelled⟩, List.forall_mem_nil _⟩
  · obtain ⟨tags, htags, htarget, -⟩ := exists_tags_loopback
    obtain ⟨look, hlook, hmarked⟩ := lookup?_loopback hmarked
    obtain ⟨edit, hedit⟩ := exists_edit_loopback { onlyTagged "v1#x" with
      body := ReleaseInfo.notesOr { id := 7 } (onlyTagged "v1#x").body }.toJson
    -- the look-up for `v1#x` is answered with the release of `v1`, and so the next request edits
    -- that
    refine ⟨tags, htags, findsByTag_oneRelease (by decide +kernel), look, _, edit, hedit, ?_⟩
    have htag : (onlyTagged "v1#x").tagName = "v1#x" := rfl
    have htold : (oneRelease (tags.target ++ "v1") [] look).bind (Errand.find "v1#x").read?
        = some (some { id := 7 }) := by
      refine read_oneRelease ?_
      rw [hmarked, htarget]
      rfl
    rw [requests_publish, htag, hlook, Option.bind_some, htold, ReleaseClient.followUp?, hedit]
    rfl

/-- Two tags as they are commonly used are plain. -/
theorem isPlain_version : IsPlain "v1.0" ∧ IsPlain "v1.1" := by
  have hplain {tag : String} (h : tag.toList.all (fun c => Url.Counts c ∧ c ≠ '?') = true)
      (hmarks : '#' ∉ tag.toList ∧ '%' ∉ tag.toList ∧ '\\' ∉ tag.toList)
      (hsteps : ∀ step ∈ List.splitOn '/' tag.toList,
        Url.isUp step = false ∧ Url.isStay step = false) : IsPlain tag := by
    refine ⟨⟨isTagText_of_all h, ?_⟩, hmarks.1, hmarks.2.1⟩
    rw [Url.cut_of_notMem hmarks.1]
    exact ⟨hmarks.2.2, hsteps⟩
  exact ⟨hplain (by decide) (by decide) (by decide), hplain (by decide) (by decide) (by decide)⟩

/-- Plain tags are not confused: two versions have different targets, and publishing under one of
them at a service that has its release edits no release but this one. -/
theorem versions_told_apart :
    (∃ look look', loopback.lookup? "v1.0" = some look ∧ loopback.lookup? "v1.1" = some look' ∧
      look.url.target ≠ look'.url.target) ∧
    ∃ tags, Url.parse (loopback.tagUrl "") = .ok tags ∧
      let server := oneRelease (tags.target ++ "v1.0")
      ∀ r ∈ (ExceptT.run (loopback.publish (onlyTagged "v1.0")) { server }).2.requests,
        r.method = .patch → ∃ kept,
          loopback.request? .patch (loopback.releaseUrl 7) (ReleaseClient.carrying kept)
            = some r := by
  obtain ⟨hplain, hplain'⟩ := isPlain_version
  obtain ⟨tags, htags, htarget, hfragment⟩ := exists_tags_loopback
  obtain ⟨-, -, htold⟩ := plain_tags_told_apart loopback
  obtain ⟨hapart, hedits⟩ := htold tags htags hfragment
  constructor
  -- that both look-ups can be sent is computed, and that they differ is not: it follows from the
  -- tags being plain
  · have hmade : (loopback.lookup? "v1.0").isSome = true ∧
        (loopback.lookup? "v1.1").isSome = true := by decide +kernel
    obtain ⟨look, hlook⟩ := Option.isSome_iff_exists.mp hmade.1
    obtain ⟨look', hlook'⟩ := Option.isSome_iff_exists.mp hmade.2
    exact ⟨look, look', hlook, hlook',
      (hapart _ _ _ _ hlook hlook').2 hplain hplain' (by decide)⟩
  · refine ⟨tags, htags, fun r hr hpatch => ?_⟩
    obtain ⟨sent, hsent, hpatched⟩ := hedits (oneTag "v1.0")
      { server := oneRelease (tags.target ++ "v1.0") } (onlyTagged "v1.0")
      (findsByTag_oneRelease (by decide +kernel)) hplain
    rw [hsent] at hr
    obtain ⟨id, kept, htag, hedit⟩ := hpatched r hr hpatch
    -- no release but the one with the number 7 has this tag
    by_cases hid : id = 7
    · exact ⟨kept, hid ▸ hedit⟩
    · rw [oneTag, if_neg hid] at htag
      exact absurd htag (by decide)

end Publish

end ReleasePipeline
