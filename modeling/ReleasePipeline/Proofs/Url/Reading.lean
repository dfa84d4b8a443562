/-
Addresses with a text written behind them.

A text that is written behind an address goes to the last part that the address has: to its
fragment, or else to its query, or else to its path (`Url.continued`). From a number sign in the
text on it goes to the fragment in any case. This is what reading makes of it, too, if the address
ends in a directory that has a name (`exists_of_parse_append`): the parts of the address in front of
it, and what they are read as, stay what they are.
-/
import Mathlib.Data.List.TakeWhile
import ReleasePipeline.Proofs.Url.Path

set_option autoImplicit false

namespace ReleasePipeline

namespace Url

variable {mark : Char} {front text : List Char}

/-- A text that has no mark to be cut at is in front of it as a whole. -/
theorem cut_fst_of_none (h : (cut mark front).2 = none) : (cut mark front).1 = front := by
  rw [cut] at h ⊢
  cases hfront : Text.splitOnce? mark front with
  | some parts => rw [hfront] at h; exact absurd h (Option.some_ne_none _)
  | none => rfl

/-- What is written behind a text is cut only if the text itself is not. -/
theorem cut_append (mark : Char) (front text : List Char) :
    cut mark (front ++ text)
      = match (cut mark front).2 with
        | some after => ((cut mark front).1, some (after ++ text))
        | none => (front ++ (cut mark text).1, (cut mark text).2) := by
  simp only [cut, Text.splitOnce?_append]
  cases Text.splitOnce? mark front with
  | some parts => rfl
  | none => cases Text.splitOnce? mark text <;> rfl

/-- What is in front of the mark is the beginning of the text. -/
theorem cut_fst_isPrefix (mark : Char) (text : List Char) : (cut mark text).1 <+: text := by
  rw [cut]
  cases htext : Text.splitOnce? mark text with
  | some parts =>
    rw [(Text.splitOnce?_eq_some_iff.mp htext).2]
    exact List.prefix_append _ _
  | none => exact List.prefix_rfl

/-- Without the mark there is nothing to cut. -/
theorem cut_of_notMem (h : mark ∉ text) : cut mark text = (text, none) := by
  rw [cut]
  cases htext : Text.splitOnce? mark text with
  | some parts =>
    rw [(Text.splitOnce?_eq_some_iff.mp htext).2, List.mem_append, List.mem_cons] at h
    exact absurd (.inr (.inl rfl)) h
  | none => rfl

/-! ## Before the scheme, and the scheme

Before an address is read, blanks and control characters are taken from both of its ends, and tabs
and line ends from everywhere. A text with characters of this kind might therefore lose them when it
is written behind an address, so such texts are left out. -/

/-- A character that counts in an address wherever it stands. -/
def Counts (c : Char) : Prop := 32 < c.toNat

instance : DecidablePred Counts := fun c => Nat.decLt 32 c.toNat

/-- A character that counts is not taken from an end. -/
theorem isBorder_eq_false {c : Char} (h : Counts c) : isBorder c = false :=
  decide_eq_false (Nat.not_le.mpr h)

/-- What counts is still there at the end of an address that was cleaned. -/
theorem exists_cleaned_append (front : List Char) :
    ∃ kept, ∀ text, text ≠ [] → (∀ c ∈ text, Counts c) →
      cleaned (front ++ text) = kept ++ text := by
  refine ⟨(front.dropWhile isBorder).filter fun c => c != '\t' && c != '\n' && c != '\r', ?_⟩
  intro text hne hcounts
  have hstays {cs : List Char} (hne : cs ≠ []) (hcounts : ∀ c ∈ cs, Counts c) :
      cs.dropWhile isBorder = cs := by
    cases cs with
    | nil => exact absurd rfl hne
    | cons c cs =>
      have hc : isBorder c = false := isBorder_eq_false (hcounts c List.mem_cons_self)
      rw [List.dropWhile_cons, hc, if_neg Bool.false_ne_true]
  -- the front may be blank as a whole, and the text still stays
  have hfront : (front ++ text).dropWhile isBorder = front.dropWhile isBorder ++ text := by
    rw [List.dropWhile_append, hstays hne hcounts]
    split
    · next hnone => rw [List.isEmpty_iff.mp hnone, List.nil_append]
    · rfl
  -- the end of the whole is the end of the text, which does not begin with a blank seen from there
  have hend : (text.reverse ++ (front.dropWhile isBorder).reverse).dropWhile isBorder
      = text.reverse ++ (front.dropWhile isBorder).reverse := by
    rw [List.dropWhile_append, hstays (List.reverse_ne_nil_iff.mpr hne)
      fun c hc => hcounts c (List.mem_reverse.mp hc)]
    split
    · next hnone => exact absurd (List.isEmpty_iff.mp hnone) (List.reverse_ne_nil_iff.mpr hne)
    · rfl
  have hkept : text.filter (fun c => c != '\t' && c != '\n' && c != '\r') = text := by
    refine List.filter_eq_self.mpr fun c hc => ?_
    have hne {d : Char} (hd : d.toNat ≤ 32) : (c != d) = true := by
      refine bne_iff_ne.mpr fun heq => ?_
      have hlt : 32 < c.toNat := hcounts c hc
      rw [heq] at hlt
      omega
    rw [hne (by decide), hne (by decide), hne (by decide)]
    rfl
  rw [cleaned, hfront, List.reverse_append, hend, List.reverse_append, List.reverse_reverse,
    List.reverse_reverse, List.filter_append, hkept]

/-- The scheme stands before the first slash, or there is none. -/
theorem scheme?_append_slash (front text : List Char) :
    scheme? (front ++ '/' :: text)
      = (scheme? front).map fun (scheme, rest) => (scheme, rest ++ '/' :: text) := by
  rw [scheme?, scheme?, Text.splitOnce?_append]
  cases Text.splitOnce? ':' front with
  | some parts =>
    dsimp only [Option.bind_eq_bind, Option.bind_some]
    split <;> rfl
  | none =>
    cases hparts : Text.splitOnce? ':' ('/' :: text) with
    | none => rfl
    | some parts =>
      -- the part before the colon holds the slash, so it is no scheme
      obtain ⟨before, after⟩ := parts
      have hslash : (front ++ before).all isSchemeChar = false := by
        have htext := (Text.splitOnce?_eq_some_iff.mp hparts).2
        cases before with
        | nil => exact absurd (List.cons.inj htext).1 (by decide)
        | cons c before =>
          rw [← (List.cons.inj htext).1]
          exact List.all_eq_false.mpr ⟨'/', by simp, by decide⟩
      dsimp only [Option.bind_eq_bind, Option.map_some, Option.bind_some]
      rw [hslash, Bool.and_false, if_neg Bool.false_ne_true]
      rfl

/-! ## Tails

The fragment begins at the first number sign, and the query at the first question mark before that.
So what is written behind the tail belongs to the last part that was begun, unless it begins a part
of its own. A question mark is excluded, for it might begin a query in the middle of a tag. -/

/-- The parts after the scheme with a text written behind them. -/
def Tail.continued (t : Tail) (text : List Char) : Tail :=
  match t.fragment with
  | some f => { t with fragment := some (f ++ text) }
  | none =>
    let (before, fragment) := cut '#' text
    match t.query with
    | some q => { t with query := some (q ++ before), fragment }
    | none => { t with body := t.body ++ before, fragment }

/-- The fragment is cut off first, and then the query. -/
theorem tail_eq (cs : List Char) :
    tail cs = ⟨(cut '?' (cut '#' cs).1).1, (cut '?' (cut '#' cs).1).2, (cut '#' cs).2⟩ := rfl

/-- Without the other parts, the body is everything. -/
theorem body_tail {cs : List Char} (hfragment : (tail cs).fragment = none)
    (hquery : (tail cs).query = none) : (tail cs).body = cs := by
  rw [tail_eq] at hfragment hquery ⊢
  exact (cut_fst_of_none hquery).trans (cut_fst_of_none hfragment)

/-- A text without question marks goes to the last part of the tail. -/
theorem tail_append (front : List Char) {text : List Char} (h : '?' ∉ text) :
    tail (front ++ text) = (tail front).continued text := by
  rw [tail_eq, tail_eq, cut_append, Tail.continued]
  cases hfragment : (cut '#' front).2 with
  | some f => rfl
  | none =>
    have hbefore : '?' ∉ (cut '#' text).1 := fun hmem => h ((cut_fst_isPrefix _ _).subset hmem)
    dsimp only
    rw [cut_fst_of_none hfragment, cut_append, cut_of_notMem hbefore]
    -- the query takes what is in front of the number sign, if there is a query, and else the body
    -- does
    cases hquery : (cut '?' front).2 with
    | some q => rfl
    | none =>
      dsimp only
      rw [cut_fst_of_none hquery]

/-! ## Authorities -/

variable {m : Manner}

/-- Only the slashes in front are dropped. -/
theorem dropSlashes_append (h : ∃ c ∈ front, m.isSlash c = false) :
    (front ++ text).dropWhile m.isSlash = front.dropWhile m.isSlash ++ text := by
  rw [List.dropWhile_append]
  split
  · next hnone =>
    obtain ⟨c, hc, hslash⟩ := h
    have hall := List.dropWhile_eq_nil_iff.mp (List.isEmpty_iff.mp hnone) c hc
    exact absurd (hslash.symm.trans hall) Bool.false_ne_true
  · rfl

/-- What stands in front of the first slash is not changed behind one. -/
theorem takeWhile_append_slash (m : Manner) (front text : List Char) :
    (front ++ '/' :: text).takeWhile (!m.isSlash ·) = front.takeWhile (!m.isSlash ·) := by
  have hslash : ('/' :: text).takeWhile (!m.isSlash ·) = [] := by
    rw [List.takeWhile_cons, isSlash_slash, Bool.not_true, if_neg Bool.false_ne_true]
  rw [List.takeWhile_append, hslash, List.append_nil]
  split
  · next hall =>
    exact ((List.takeWhile_prefix _).eq_of_length hall).symm
  · rfl

/-- In the network an authority reaches up to the first slash. -/
theorem authorityLength_eq (hm : m ≠ .other) (cs : List Char) :
    authorityLength m cs = (cs.takeWhile (!m.isSlash ·)).length := by
  have hslash : m.isSlash '\\' = true := by
    cases m with
    | network | file => rfl
    | other => exact absurd rfl hm
  have hnone : ∀ c ∈ (cutLast '@' (cs.takeWhile (!m.isSlash ·))).2, (c != '\\') = true := by
    intro c hc
    have hmem : c ∈ cs.takeWhile (!m.isSlash ·) :=
      List.mem_reverse.mp ((cut_fst_isPrefix _ _).subset (List.mem_reverse.mp hc))
    refine bne_iff_ne.mpr fun heq => ?_
    have hno := List.mem_takeWhile_imp hmem
    rw [heq, hslash] at hno
    exact absurd hno (by decide)
  -- there is no backslash in it that the port could end at
  have hport : ((cutLast '@' (cs.takeWhile (!m.isSlash ·))).2.drop
      (hostLength false (cutLast '@' (cs.takeWhile (!m.isSlash ·))).2)).dropWhile (· != '\\')
        = [] :=
    List.dropWhile_eq_nil_iff.mpr fun c hc => hnone c (List.mem_of_mem_drop hc)
  rw [authorityLength, hport, List.length_nil, Nat.sub_zero]

/-- So the authority is found in front of a slash, whatever stands behind it. -/
theorem authorityLength_append_slash (hm : m ≠ .other) (front text : List Char) :
    authorityLength m (front ++ '/' :: text) = (front.takeWhile (!m.isSlash ·)).length := by
  rw [authorityLength_eq hm, takeWhile_append_slash]

/-- The authority and the path are read apart from each other. -/
theorem withAuthority_eq (m : Manner) (scheme : String) (t : Tail) :
    withAuthority m scheme t
      = (readAuthority m (t.body.take (authorityLength m t.body))
          ((t.body.drop (authorityLength m t.body)).isEmpty && t.query.isNone
            && t.fragment.isNone)).map fun a =>
        t.finish scheme (some a) (normalPath m (t.body.drop (authorityLength m t.body))) := by
  rw [withAuthority]
  cases readAuthority m (t.body.take (authorityLength m t.body)) _ <;> rfl

/-- What is read has the parts of the tail, with a path of its own. -/
theorem eq_finish_of_withAuthority {scheme : String} {t : Tail} {u : Url}
    (h : withAuthority m scheme t = .ok u) :
    ∃ a, u = t.finish scheme (some a) (normalPath m (t.body.drop (authorityLength m t.body))) := by
  rw [withAuthority_eq] at h
  cases ha : readAuthority m (t.body.take (authorityLength m t.body)) _ with
  | error e => rw [ha] at h; exact absurd h nofun
  | ok a =>
    rw [ha] at h
    cases h
    exact ⟨a, rfl⟩

/-- Reading keeps the scheme that it was given. -/
theorem scheme_of_withAuthority {scheme : String} {t : Tail} {u : Url}
    (h : withAuthority m scheme t = .ok u) : u.scheme = scheme := by
  obtain ⟨a, rfl⟩ := eq_finish_of_withAuthority h
  rfl

/-! ## Texts behind an address -/

/-- An address with a text written behind it. -/
def continued (u : Url) (text : List Char) : Url :=
  let shown (stands : Char → Bool) (cs : List Char) := String.ofList (percentEncode stands cs)
  match u.fragment with
  | some f => { u with fragment := some (f ++ shown standsInFragment text) }
  | none =>
    let (before, fragment) := cut '#' text
    let fragment := fragment.map (shown standsInFragment)
    match u.query with
    | some q => { u with query := some (q ++ shown standsInQuery before), fragment }
    | none => { u with path := String.ofList (below (manner u.scheme) u.path before), fragment }

/-- Two texts are encoded one after the other, also as they are shown. -/
theorem ofList_percentEncode_append (stands : Char → Bool) (cs ds : List Char) :
    String.ofList (percentEncode stands (cs ++ ds))
      = String.ofList (percentEncode stands cs) ++ String.ofList (percentEncode stands ds) := by
  rw [percentEncode_append, String.ofList_append]

/-- A text behind the parts after a scheme is a text behind the address. The path has to end in a
slash, if that is where the text goes. -/
theorem withAuthority_continued {scheme : String} {port : Nat}
    (hscheme : manner scheme = .network port) {t : Tail}
    (hend : t.fragment = none → t.query = none → ∃ front, t.body = front ++ ['/'])
    (text : List Char) :
    withAuthority (manner scheme) scheme (t.continued text)
      = (withAuthority (manner scheme) scheme t).map (·.continued text) := by
  have hm : manner scheme ≠ .other := by rw [hscheme]; exact nofun
  obtain ⟨body, query, fragment⟩ := t
  rw [withAuthority_eq, withAuthority_eq]
  -- the text goes to the last part that there is: in the end to the path, where the slash is needed
  cases fragment with
  | some f =>
    simp only [Tail.continued, Option.isNone_some, Bool.and_false]
    cases readAuthority (manner scheme) _ false with
    | error e => rfl
    | ok a =>
      simp only [Except.map, Tail.finish, continued, Option.map_some, ofList_percentEncode_append]
  | none =>
    cases query with
    | some q =>
      simp only [Tail.continued, Option.isNone_some, Bool.and_false, Bool.false_and]
      cases readAuthority (manner scheme) _ false with
      | error e => rfl
      | ok a =>
        simp only [Except.map, Tail.finish, continued, Option.map_some, Option.map_none,
          ofList_percentEncode_append, if_neg hm]
    | none =>
      obtain ⟨front, rfl⟩ := hend rfl rfl
      -- the authority ends before the slash at the end, so the text is behind it
      have hle : (front.takeWhile (!(manner scheme).isSlash ·)).length ≤ front.length :=
        (List.takeWhile_prefix _).length_le
      have hbefore : front ++ ['/'] ++ (cut '#' text).1 = front ++ '/' :: (cut '#' text).1 := by
        rw [List.append_assoc, List.singleton_append]
      have hmore (path cs : List Char) : (path ++ '/' :: cs).isEmpty = false :=
        List.isEmpty_eq_false_iff.mpr
          (List.append_ne_nil_of_right_ne_nil path (List.cons_ne_nil '/' cs))
      simp only [Tail.continued, hbefore, authorityLength_append_slash hm,
        List.take_append_of_le_length hle, List.drop_append_of_le_length hle, hmore,
        Bool.false_and]
      cases readAuthority (manner scheme) _ false with
      | error e => rfl
      | ok a =>
        simp only [Except.map, Tail.finish, continued, Option.map_none]
        rw [normalPath_append hm _ (cut '#' text).1]

/-- The path is what a text is read as that ends with a slash. -/
def EndsWithSlash (u : Url) : Prop :=
  ∃ front, u.path = String.ofList (normalPath (manner u.scheme) (front ++ ['/']))

/-- If neither a query nor a fragment follows, the path ends as the body does. -/
theorem endsWithSlash_of_withAuthority {scheme : String} {port : Nat}
    (hscheme : manner scheme = .network port) {t : Tail}
    (hend : t.fragment = none → t.query = none → ∃ front, t.body = front ++ ['/']) {u : Url}
    (h : withAuthority (manner scheme) scheme t = .ok u) (hfragment : u.fragment = none)
    (hquery : u.query = none) : u.EndsWithSlash := by
  have hm : manner scheme ≠ .other := by rw [hscheme]; exact nofun
  obtain ⟨a, rfl⟩ := eq_finish_of_withAuthority h
  obtain ⟨front, hbody⟩ := hend (Option.map_eq_none_iff.mp hfragment)
    (Option.map_eq_none_iff.mp hquery)
  have hlength : authorityLength (manner scheme) t.body ≤ front.length := by
    rw [hbody, authorityLength_append_slash hm]
    exact (List.takeWhile_prefix _).length_le
  refine ⟨front.drop (authorityLength (manner scheme) t.body), ?_⟩
  rw [← List.drop_append_of_le_length hlength, ← hbody]
  rfl

/-- What a request spells of a text behind the address, if that is read without a fragment: nothing
from a number sign on, and before that what cannot stand there by its bytes. -/
def spelling (u : Url) (text : List Char) : List Char :=
  percentEncode (if u.query.isNone then standsInPath else standsInQuery) (cut '#' text).1

/-- What leads straight on is spelled behind the target. -/
theorem target_continued_of_straight {u : Url} (hm : manner u.scheme ≠ .other)
    (hfragment : u.fragment = none) (hend : u.query = none → u.EndsWithSlash) {text : List Char}
    (hstraight : IsStraight (cut '#' text).1) :
    (u.continued text).target = u.target ++ String.ofList (u.spelling text) := by
  rw [continued, hfragment, spelling]
  cases hquery : u.query with
  | some q =>
    simp only [target, hquery, Option.isNone_some, if_neg Bool.false_ne_true, String.append_assoc]
  | none =>
    obtain ⟨front, hpath⟩ := hend hquery
    simp only [target, hquery, Option.isNone_none, if_true]
    rw [hpath, ← normalPath_append hm, normalPath_append_of_straight hm front hstraight,
      String.ofList_append]

/-- A text without number signs and percent signs can be read again. -/
theorem percentText?_spelling (u : Url) {text : List Char} (hmark : '#' ∉ text)
    (hpercent : '%' ∉ text) : percentText? (u.spelling text) = some (String.ofList text) := by
  rw [spelling, cut_of_notMem hmark, percentText?_percentEncode hpercent]

/-- An address of the network is read as an authority behind its scheme. -/
theorem parse_of_network {address scheme : String} {rest : List Char} {port : Nat}
    (hscheme : scheme? (cleaned address.toList) = some (scheme, rest))
    (hmanner : manner scheme = .network port) :
    parse address = withAuthority (manner scheme) scheme
      (tail (rest.dropWhile (manner scheme).isSlash)) := by
  simp only [parse, hscheme, hmanner]

/-- Only files have the manner of files. -/
theorem eq_file_of_manner {scheme : String} (h : manner scheme = .file) : scheme = "file" := by
  unfold manner at h
  split at h
  all_goals first | rfl | exact absurd h nofun

/-- The address of a file keeps its scheme. -/
theorem scheme_of_file {t : Tail} {u : Url} (h : file t = .ok u) : u.scheme = "file" := by
  unfold file at h
  dsimp only at h
  split at h
  · split at h
    · split at h
      · cases h; rfl
      · cases hhost : networkHost _ with
        | error e => rw [hhost] at h; exact absurd h nofun
        | ok host => rw [hhost] at h; cases h; rfl
    · cases h; rfl
  · cases h; rfl

/-- The scheme of an address is the one that stands in front of it. -/
theorem exists_scheme_of_parse {address : String} {u : Url} (h : parse address = .ok u) :
    ∃ rest, scheme? (cleaned address.toList) = some (u.scheme, rest) := by
  unfold parse at h
  split at h
  · exact absurd h nofun
  · next scheme rest hread =>
    rw [hread]
    suffices hscheme : u.scheme = scheme by exact ⟨rest, by rw [hscheme]⟩
    split at h
    · next hfile => rw [scheme_of_file h, eq_file_of_manner hfile]
    · exact scheme_of_withAuthority h
    · exact scheme_of_withAuthority h
    · cases h
      rfl

/-- Only addresses of the network can be asked. -/
theorem exists_manner_of_canBeAsked {u : Url} (h : u.canBeAsked = true) :
    ∃ port, manner u.scheme = .network port := by
  rw [canBeAsked, askedSchemes, List.contains_iff_mem, List.mem_cons, List.mem_singleton] at h
  rcases h with hscheme | hscheme
  · exact ⟨80, by rw [hscheme]; rfl⟩
  · exact ⟨443, by rw [hscheme]; rfl⟩

/-- Whatever counts and is written behind a name with slashes around it, the scheme and what
follows it are read in front of that. -/
theorem exists_scheme?_append (front : List Char) {name : List Char}
    (hname : ∀ c ∈ name, Counts c) :
    ∃ kept, ∀ text, (∀ c ∈ text, Counts c) →
      scheme? (cleaned (String.ofList (front ++ '/' :: (name ++ '/' :: text))).toList)
        = (scheme? kept).map fun (scheme, rest) =>
          (scheme, rest ++ '/' :: (name ++ '/' :: text)) := by
  obtain ⟨kept, hkept⟩ := exists_cleaned_append front
  refine ⟨kept, fun text htext => ?_⟩
  have hslash : Counts '/' := by decide
  have hcounts : ∀ c ∈ '/' :: (name ++ '/' :: text), Counts c := by
    simp only [List.forall_mem_cons, List.forall_mem_append]
    exact ⟨hslash, hname, hslash, htext⟩
  rw [String.toList_ofList, hkept _ (List.cons_ne_nil _ _) hcounts, scheme?_append_slash]

/-- **A text behind a directory with a name.** If an address that ends in a text can be read and
asked, then the address in front of the text can be read, and the text is what is written behind
it. -/
theorem exists_of_parse_append (front : List Char) {name text : List Char} (hne : name ≠ [])
    (hname : ∀ c ∈ name, Counts c ∧ c ≠ '/' ∧ c ≠ '\\') (htext : ∀ c ∈ text, Counts c ∧ c ≠ '?')
    {u : Url} (h : parse (String.ofList (front ++ '/' :: (name ++ '/' :: text))) = .ok u)
    (hasked : u.canBeAsked = true) :
    ∃ base, parse (String.ofList (front ++ '/' :: (name ++ ['/']))) = .ok base ∧
      base.scheme = u.scheme ∧ (base.fragment = none → base.query = none → base.EndsWithSlash) ∧
      u = base.continued text := by
  obtain ⟨rest, hscheme⟩ := exists_scheme_of_parse h
  obtain ⟨port, hmanner⟩ := exists_manner_of_canBeAsked hasked
  obtain ⟨kept, hkept⟩ := exists_scheme?_append front fun c hc => (hname c hc).1
  have hwhole := hkept text fun c hc => (htext c hc).1
  have hfront := hkept [] (List.forall_mem_nil _)
  rw [hwhole] at hscheme
  obtain ⟨⟨scheme, behind⟩, hread, heq⟩ := Option.map_eq_some_iff.mp hscheme
  obtain ⟨rfl, rfl⟩ := Prod.mk.inj heq
  rw [hread, Option.map_some] at hwhole hfront
  -- the slashes in front of the authority end before the name
  have hno : ∃ c ∈ behind ++ '/' :: name, (manner u.scheme).isSlash c = false := by
    obtain ⟨c, hc⟩ := List.exists_mem_of_ne_nil name hne
    refine ⟨c, List.mem_append_right _ (List.mem_cons_of_mem _ hc), ?_⟩
    refine Bool.eq_false_iff.mpr fun hslash => ?_
    rcases eq_of_isSlash hslash with heq | heq
    · exact (hname c hc).2.1 heq
    · exact (hname c hc).2.2 heq
  have hdrop (text : List Char) :
      (behind ++ '/' :: (name ++ '/' :: text)).dropWhile (manner u.scheme).isSlash
        = (behind ++ '/' :: name).dropWhile (manner u.scheme).isSlash ++ '/' :: text := by
    rw [← dropSlashes_append hno, List.append_assoc, List.cons_append]
  -- what is left of the front does not matter from here on, except that a slash follows it
  generalize (behind ++ '/' :: name).dropWhile (manner u.scheme).isSlash = start at hdrop
  have htail : tail (start ++ '/' :: text) = (tail (start ++ ['/'])).continued text := by
    rw [← tail_append _ fun hmem => (htext _ hmem).2 rfl, List.append_assoc,
      List.singleton_append]
  have hend (hfragment : (tail (start ++ ['/'])).fragment = none)
      (hquery : (tail (start ++ ['/'])).query = none) :
      ∃ front, (tail (start ++ ['/'])).body = front ++ ['/'] :=
    ⟨start, body_tail hfragment hquery⟩
  have hbefore := parse_of_network hfront hmanner
  rw [hdrop []] at hbefore
  rw [parse_of_network hwhole hmanner, hdrop, htail, withAuthority_continued hmanner hend,
    ← hbefore] at h
  cases hbase : parse (String.ofList (front ++ '/' :: (name ++ ['/']))) with
  | error e => rw [hbase] at h; exact absurd h nofun
  | ok base =>
    rw [hbase] at h hbefore
    cases h
    exact ⟨base, rfl, scheme_of_withAuthority hbefore.symm,
      endsWithSlash_of_withAuthority hmanner hend hbefore.symm, rfl⟩

end Url

end ReleasePipeline
