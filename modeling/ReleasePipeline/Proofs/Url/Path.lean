/-
Paths that are written behind one another.

Steps are taken one after the other, and all but the last one leave nothing behind but the steps so
far (`pass`). So what a text leads to, if it is written behind the slash at the end of a path, can
be told from the text and from the path as it is shown (`below`), however the path was spelled
(`normalPath_append`). If no step of the text stays or goes up, the path is still there in front of
it (`normalPath_append_of_straight`).
-/
import ReleasePipeline.Proofs.Url.Percent
import ReleasePipeline.Url.Reading

set_option autoImplicit false

namespace ReleasePipeline.Url

variable {m : Manner}

/-! ## Steps

In the network a backslash counts as a slash, so both are made slashes before the text is cut. A
text without backslashes is cut at its slashes as it is. -/

/-- A slash is one in every manner of addresses. -/
theorem isSlash_slash (m : Manner) : m.isSlash '/' = true := by cases m <;> rfl

/-- The steps on both sides of a slash are cut apart from each other. -/
theorem steps_append_slash (m : Manner) (front text : List Char) :
    steps m (front ++ '/' :: text) = steps m front ++ steps m text := by
  simp only [steps, Text.splitOn_eq, List.map_append, List.map_cons, isSlash_slash, if_true,
    List.splitOn_append_cons_self]

/-- Even an empty text has a step, which is empty. -/
theorem steps_ne_nil (m : Manner) (text : List Char) : steps m text ≠ [] :=
  Text.splitOn_ne_nil _ _

/-- No step has a slash in it. -/
theorem slash_not_mem_of_mem_steps {text step : List Char} (h : step ∈ steps m text) :
    '/' ∉ step := by
  rw [steps, Text.splitOn_eq] at h
  exact Text.not_mem_of_mem_splitOn h

/-- Nothing but a slash or a backslash counts as one. -/
theorem eq_of_isSlash {c : Char} (h : m.isSlash c = true) : c = '/' ∨ c = '\\' := by
  cases m with
  | network | file => simpa [Manner.isSlash] using h
  | other => exact .inl (beq_iff_eq.mp h)

/-- Without backslashes, the steps are what stands between the slashes. -/
theorem steps_of_no_backslash {text : List Char} (h : '\\' ∉ text) :
    steps m text = List.splitOn '/' text := by
  have hsame : ∀ c ∈ text, (if m.isSlash c then '/' else c) = c := by
    intro c hc
    split
    · next hslash =>
      rcases eq_of_isSlash hslash with rfl | rfl
      · rfl
      · exact absurd hc h
    · rfl
  rw [steps, Text.splitOn_eq, List.map_congr_left hsame, List.map_id']

/-! ## Passing steps

The last step of a path is special: if it stays or goes up, a slash is left at the end. All others
are passed alike, and so they are a fold over the steps so far. -/

/-- The steps so far, the last one first, after one more that is not the end of the path. -/
def pass (m : Manner) (above : List (List Char)) (step : List Char) : List (List Char) :=
  if isUp step then goUp m above
  else if isStay step then above
  else percentEncode standsInPath step :: above

/-- Before the end, steps are passed one by one. -/
theorem resolve_append (above front : List (List Char)) {back : List (List Char)}
    (hback : back ≠ []) :
    resolve m above (front ++ back) = resolve m (front.foldl (pass m) above) back := by
  induction front generalizing above with
  | nil => rfl
  | cons step front ih =>
    have hmore : (front ++ back).isEmpty = false :=
      List.isEmpty_eq_false_iff.mpr (List.append_ne_nil_of_right_ne_nil front hback)
    rw [List.cons_append, resolve, List.foldl_cons, pass, hmore]
    split
    · exact ih _
    · split
      · exact ih _
      · exact ih _

/-- Going up takes a step away and adds none. -/
theorem mem_of_mem_goUp {above : List (List Char)} {step : List Char} (h : step ∈ goUp m above) :
    step ∈ above := by
  unfold goUp at h
  split at h
  · split at h
    · exact h
    · exact absurd h List.not_mem_nil
  · exact List.mem_of_mem_tail h

/-- What is passed has no slashes either, since a slash is not written by its bytes. -/
theorem slash_not_mem_of_mem_passed {above front : List (List Char)}
    (habove : ∀ step ∈ above, '/' ∉ step) (hfront : ∀ step ∈ front, '/' ∉ step) :
    ∀ step ∈ front.foldl (pass m) above, '/' ∉ step := by
  induction front generalizing above with
  | nil => exact habove
  | cons next front ih =>
    rw [List.forall_mem_cons] at hfront
    refine ih ?_ hfront.2
    rw [pass]
    split
    · exact fun step hstep => habove step (mem_of_mem_goUp hstep)
    · split
      · exact habove
      · exact List.forall_mem_cons.mpr ⟨slash_not_mem_percentEncode hfront.1, habove⟩

/-! ## Joining -/

/-- Behind a slash at the end, steps go on where the path ended. -/
theorem joinSteps_append (front : List (List Char)) {back : List (List Char)} (hback : back ≠ []) :
    joinSteps (front ++ back) = joinSteps (front ++ [[]]) ++ ['/'].intercalate back := by
  by_cases hfront : front = []
  · rw [hfront]
    rfl
  · rw [joinSteps, joinSteps, Text.intercalate_append '/' hfront hback,
      Text.intercalate_append '/' hfront (List.cons_ne_nil _ _), List.intercalate_singleton,
      List.cons_append, List.append_assoc, List.singleton_append]

/-- The steps of a path that begins with a slash. -/
def stepsOf (path : String) : List (List Char) := List.splitOn '/' (path.toList.drop 1)

/-- Steps without slashes can be told again from the path that they were joined to. -/
theorem stepsOf_joinSteps {parts : List (List Char)} (hne : parts ≠ [])
    (h : ∀ step ∈ parts, '/' ∉ step) : stepsOf (String.ofList (joinSteps parts)) = parts := by
  rw [stepsOf, String.toList_ofList, joinSteps, List.drop_succ_cons, List.drop_zero]
  exact List.splitOn_intercalate '/' h hne

/-! ## Below a path -/

/-- The path that a text leads to, if it is written behind a path that ends with a slash. -/
def below (m : Manner) (path : String) (text : List Char) : List Char :=
  joinSteps (resolve m (stepsOf path).dropLast.reverse (steps m text))

/-- In the network and for files, the path is always taken apart into steps. -/
theorem normalPath_eq (hm : m ≠ .other) (cs : List Char) :
    normalPath m cs = joinSteps (resolve m [] (steps m (dropSlash m cs))) := by
  rw [normalPath, beq_false_of_ne hm, Bool.false_and, if_neg Bool.false_ne_true]

/-- The steps up to a slash, the last one first. -/
theorem exists_passed (m : Manner) (front : List Char) :
    ∃ above, (∀ step ∈ above, '/' ∉ step) ∧
      ∀ text, resolve m [] (steps m (dropSlash m (front ++ '/' :: text)))
        = resolve m above (steps m text) := by
  -- a slash in front of the path is dropped, and that may be the very slash that the text is behind
  cases front with
  | nil =>
    refine ⟨[], List.forall_mem_nil _, fun text => ?_⟩
    rw [List.nil_append, dropSlash, isSlash_slash, if_pos rfl]
  | cons c front =>
    have hdrop (text : List Char) : dropSlash m (c :: front ++ '/' :: text)
        = dropSlash m (c :: front) ++ '/' :: text := by
      rw [List.cons_append, dropSlash, dropSlash]
      split <;> rfl
    refine ⟨(steps m (dropSlash m (c :: front))).foldl (pass m) [],
      slash_not_mem_of_mem_passed (List.forall_mem_nil _) fun _ => slash_not_mem_of_mem_steps,
      fun text => ?_⟩
    rw [hdrop, steps_append_slash, resolve_append _ _ (steps_ne_nil m text)]

/-- What is written behind a slash leads on from the path up to there. -/
theorem normalPath_append (hm : m ≠ .other) (front text : List Char) :
    normalPath m (front ++ '/' :: text)
      = below m (String.ofList (normalPath m (front ++ ['/']))) text := by
  obtain ⟨above, hslash, habove⟩ := exists_passed m front
  have hpath (text : List Char) : normalPath m (front ++ '/' :: text)
      = joinSteps (resolve m above (steps m text)) := by
    rw [normalPath_eq hm, habove]
  -- an empty text behind the slash leaves an empty last step, which is the slash at the end
  have hend : resolve m above (steps m []) = above.reverse ++ [[]] := by
    rw [steps, List.map_nil, Text.splitOn_nil]
    exact List.reverse_cons
  have hsteps : stepsOf (String.ofList (joinSteps (above.reverse ++ [[]])))
      = above.reverse ++ [[]] := by
    refine stepsOf_joinSteps (List.append_ne_nil_of_right_ne_nil _ (List.cons_ne_nil _ _)) ?_
    intro step hstep
    rw [List.mem_append, List.mem_reverse, List.mem_singleton] at hstep
    rcases hstep with hstep | rfl
    · exact hslash step hstep
    · exact List.not_mem_nil
  rw [below, hpath text, hpath [], hend, hsteps, List.dropLast_concat, List.reverse_reverse]

/-! ## Texts that lead straight on -/

/-- A text that leads straight on: without backslashes, and without steps that stay or go up. -/
structure IsStraight (text : List Char) : Prop where
  noBackslash : '\\' ∉ text
  goesOn : ∀ step ∈ List.splitOn '/' text, isUp step = false ∧ isStay step = false

/-- Steps that neither stay nor go up are all kept, each of them encoded. -/
theorem resolve_of_goesOn {above parts : List (List Char)}
    (h : ∀ step ∈ parts, isUp step = false ∧ isStay step = false) :
    resolve m above parts = above.reverse ++ parts.map (percentEncode standsInPath) := by
  induction parts generalizing above with
  | nil => exact (List.append_nil _).symm
  | cons step parts ih =>
    obtain ⟨⟨hup, hstay⟩, hrest⟩ := List.forall_mem_cons.mp h
    rw [resolve, hup, hstay, if_neg Bool.false_ne_true, if_neg Bool.false_ne_true, ih hrest,
      List.reverse_cons, List.append_assoc, List.map_cons, List.singleton_append]

/-- A slash stands for itself in a path. -/
theorem standsInPath_slash : standsInPath '/' = true := by decide

/-- It is written behind the path as it is, but for the characters that cannot stand there. -/
theorem normalPath_append_of_straight (hm : m ≠ .other) (front : List Char) {text : List Char}
    (h : IsStraight text) :
    normalPath m (front ++ '/' :: text)
      = normalPath m (front ++ ['/']) ++ percentEncode standsInPath text := by
  obtain ⟨above, -, habove⟩ := exists_passed m front
  have hend : IsStraight [] := ⟨List.not_mem_nil, by decide⟩
  have hpath {text : List Char} (h : IsStraight text) : normalPath m (front ++ '/' :: text)
      = joinSteps (above.reverse ++ (List.splitOn '/' text).map (percentEncode standsInPath)) := by
    rw [normalPath_eq hm, habove, steps_of_no_backslash h.noBackslash,
      resolve_of_goesOn h.goesOn]
  have hparts : (List.splitOn '/' text).map (percentEncode standsInPath) ≠ [] :=
    List.map_eq_nil_iff.not.mpr (List.splitOn_ne_nil '/' text)
  rw [hpath h, hpath hend, joinSteps_append _ hparts,
    ← percentEncode_intercalate standsInPath_slash, List.intercalate_splitOn]
  rfl

end ReleasePipeline.Url
