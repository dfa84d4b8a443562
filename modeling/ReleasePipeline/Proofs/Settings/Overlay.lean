/-
Parameters laid over defaults.

Parameters whose keys are plain texts are rows of names and values, and so are the written
defaults. Laying them over each other and reading the result is then described without either:
the rows that are read are `Schema.merged`, each row by itself is in order or not
(`Schema.offence?`), the first that is not decides, and if all are, every field has the value
that its row is read as.

That a record can be described field by field is not a matter of course. `Schema.Lawful` says
what it takes: names that are different, places in the record that do not overlap and make up
the whole of it, and defaults that are read back as they were written. The last is why a field
without a parameter keeps its default, which is written and read like all others.
-/
import Mathlib.Data.List.Nodup
import Mathlib.Data.List.Perm.Basic
import ReleasePipeline.Settings

set_option autoImplicit false

namespace ReleasePipeline

/-! ## Rows

Entries of a mapping may have any keys, and look-up among them is by a comparison of their own. Once
all keys are plain texts that differ, a mapping is a list of rows with different names, and the list
functions of the library are all that is needed. -/

/-- The entries of a mapping whose keys are plain texts. -/
def textEntries (rows : List (String × Yaml.Value)) : Yaml.Entries :=
  rows.map fun row => (.text row.1, row.2)

/-- The names of rows. -/
def rowNames (rows : List (String × Yaml.Value)) : List String := rows.map Prod.fst

/-- Rows with other rows laid over them: each value in the place of the name it is for, and
what is for no name of theirs at the end. -/
def laidOver (rows changes : List (String × Yaml.Value)) : List (String × Yaml.Value) :=
  rows.map (fun row => (row.1, (changes.lookup row.1).getD row.2))
    ++ changes.filter fun row => row.1 ∉ rowNames rows

section Rows

variable {rows changes : List (String × Yaml.Value)} {name : String} {value : Yaml.Value}

/-- A name is listed if there is a row with it. -/
theorem mem_rowNames : name ∈ rowNames rows ↔ ∃ value, (name, value) ∈ rows := by
  simp only [rowNames, List.mem_map, Prod.exists, exists_and_right, exists_eq_right]

/-- The names of two lists of rows are those of both. -/
@[simp] theorem rowNames_append (a b : List (String × Yaml.Value)) :
    rowNames (a ++ b) = rowNames a ++ rowNames b := List.map_append

/-- Other values under the same names. -/
@[simp] theorem rowNames_map (f : String × Yaml.Value → Yaml.Value) :
    rowNames (rows.map fun row => (row.1, f row)) = rowNames rows := by
  simp only [rowNames, List.map_map, Function.comp_def]

/-- Some of the rows, when names are different. -/
theorem nodup_rowNames_filter {p : String × Yaml.Value → Bool} (hnodup : (rowNames rows).Nodup) :
    (rowNames (rows.filter p)).Nodup :=
  hnodup.sublist (List.filter_sublist.map Prod.fst)

/-- Nothing is found under a name that no row has. -/
theorem lookup_eq_none_of_notMem (h : name ∉ rowNames rows) : rows.lookup name = none := by
  rw [List.lookup_eq_none_iff]
  intro row hrow
  exact bne_iff_ne.mpr fun heq => h (mem_rowNames.mpr ⟨row.2, heq ▸ hrow⟩)

/-- When names are different, a row is found under its name. -/
theorem lookup_eq_some_iff (hnodup : (rowNames rows).Nodup) :
    rows.lookup name = some value ↔ (name, value) ∈ rows := by
  induction rows with
  | nil => simp
  | cons row rows ih =>
    obtain ⟨other, v⟩ := row
    obtain ⟨hother, hnodup⟩ := List.nodup_cons.mp hnodup
    rw [List.lookup_cons, List.mem_cons, Prod.mk.injEq]
    -- the first row has the name, and then no other one has it, or the search goes on
    by_cases hname : name = other
    · subst hname
      have hrest : (name, value) ∉ rows := fun h => hother (mem_rowNames.mpr ⟨value, h⟩)
      simp [hrest, eq_comm]
    · rw [beq_false_of_ne hname]
      simpa [hname] using ih hnodup

/-- Plain texts are the same key exactly if they are the same text. -/
theorem same_text (a b : String) : Yaml.Value.same (.text a) (.text b) = (a == b) := by
  simp only [Yaml.Value.same]

/-- A value is put in the place of its name. -/
theorem insert_textEntries_of_mem (hnodup : (rowNames rows).Nodup) (hname : name ∈ rowNames rows) :
    Yaml.Entries.insert (textEntries rows) (.text name) value
      = textEntries (rows.map fun row => (row.1, if row.1 = name then value else row.2)) := by
  induction rows with
  | nil => exact absurd hname List.not_mem_nil
  | cons row rows ih =>
    obtain ⟨other, v⟩ := row
    obtain ⟨hother, hnodup⟩ := List.nodup_cons.mp hnodup
    simp only [textEntries, List.map_cons, Yaml.Entries.insert, same_text, beq_iff_eq]
    by_cases h : name = other
    · -- no later row has the name, so the others stay as they are
      subst h
      have hrest : ∀ row ∈ rows, ¬row.1 = name := by
        rintro row hrow rfl
        exact hother (mem_rowNames.mpr ⟨row.2, hrow⟩)
      have hsame : (rows.map fun row => (row.1, if row.1 = name then value else row.2)) = rows :=
        (List.map_congr_left fun row hrow => by rw [if_neg (hrest row hrow)]; rfl).trans
          rows.map_id
      rw [if_pos rfl, if_pos rfl, hsame]
    · have hname : name ∈ rowNames rows := (List.mem_cons.mp hname).resolve_left h
      rw [if_neg h, if_neg (Ne.symm h)]
      exact congrArg _ (ih hnodup hname)

/-- A value for a new name is put at the end. -/
theorem insert_textEntries_of_notMem (hname : name ∉ rowNames rows) :
    Yaml.Entries.insert (textEntries rows) (.text name) value
      = textEntries (rows ++ [(name, value)]) := by
  induction rows with
  | nil => rfl
  | cons row rows ih =>
    obtain ⟨hne, hname⟩ := List.ne_and_not_mem_of_not_mem_cons hname
    simp only [textEntries, List.map_cons, Yaml.Entries.insert, same_text, beq_iff_eq, if_neg hne]
    exact congrArg _ (ih hname)

/-- Rows with one laid over them whose name they have. -/
theorem laidOver_map_of_mem (hname : name ∈ rowNames rows) (hnew : name ∉ rowNames changes) :
    laidOver (rows.map fun row => (row.1, if row.1 = name then value else row.2)) changes
      = laidOver rows ((name, value) :: changes) := by
  rw [laidOver, laidOver, rowNames_map, List.filter_cons_of_neg (by simpa using hname),
    List.map_map]
  congr 1
  refine List.map_congr_left fun row _ => ?_
  by_cases h : row.1 = name
  · simp [h, lookup_eq_none_of_notMem hnew]
  · simp [h, List.lookup_cons, beq_false_of_ne h]

/-- Rows with one laid over them whose name is new. -/
theorem laidOver_append_of_notMem (hname : name ∉ rowNames rows) (hnew : name ∉ rowNames changes) :
    laidOver (rows ++ [(name, value)]) changes = laidOver rows ((name, value) :: changes) := by
  have hplace : ∀ row ∈ rows, ¬row.1 = name := by
    rintro row hrow rfl
    exact hname (mem_rowNames.mpr ⟨row.2, hrow⟩)
  have hlookup : ∀ row ∈ rows, ((name, value) :: changes).lookup row.1 = changes.lookup row.1 := by
    intro row hrow
    rw [List.lookup_cons, beq_false_of_ne (hplace row hrow)]
  -- a name that the new row has is not among the changes that are left
  have hfilter : changes.filter (fun row => row.1 ∉ rowNames (rows ++ [(name, value)]))
      = changes.filter fun row => row.1 ∉ rowNames rows := by
    refine List.filter_congr fun row hrow => ?_
    have hne : row.1 ≠ name := fun h => hnew (mem_rowNames.mpr ⟨row.2, h ▸ hrow⟩)
    have hsingle : row.1 ∉ rowNames [(name, value)] := by simpa [rowNames] using hne
    simp only [rowNames_append, List.mem_append, hsingle, or_false]
  rw [laidOver, laidOver, hfilter, List.filter_cons_of_pos (by simpa using hname), List.map_append,
    List.append_assoc]
  congr 1
  · exact List.map_congr_left fun row hrow => by rw [hlookup row hrow]
  · simp [lookup_eq_none_of_notMem hnew]

/-- The parameters that are settings: all but the type of the module. -/
def settingRows (params : List (String × Yaml.Value)) : List (String × Yaml.Value) :=
  params.filter (·.1 ≠ Schema.typeKey)

/-- Laying parameters over entries, when both are rows with different names. -/
theorem overlay_textEntries {params : List (String × Yaml.Value)} (hrows : (rowNames rows).Nodup)
    (hparams : (rowNames params).Nodup) :
    Schema.overlay (textEntries rows) (textEntries params)
      = textEntries (laidOver rows (settingRows params)) := by
  induction params generalizing rows with
  | nil => simp [Schema.overlay, textEntries, laidOver, settingRows]
  | cons row params ih =>
    obtain ⟨name, value⟩ := row
    obtain ⟨hnew, hparams⟩ := List.nodup_cons.mp hparams
    have hstep : Schema.overlay (textEntries rows) (textEntries ((name, value) :: params))
        = Schema.overlay (if name = Schema.typeKey then textEntries rows
            else Yaml.Entries.insert (textEntries rows) (.text name) value)
          (textEntries params) := by
      simp [Schema.overlay, textEntries, Yaml.Value.asText?, Yaml.Value.untagged]
    have hnew' : name ∉ rowNames (settingRows params) := fun h => by
      obtain ⟨v, hv⟩ := mem_rowNames.mp h
      exact hnew (mem_rowNames.mpr ⟨v, List.mem_of_mem_filter hv⟩)
    rw [hstep]
    -- the type is passed over, a name that is there keeps its place, and a new one goes to the end
    by_cases htype : name = Schema.typeKey
    · rw [if_pos htype, ih hrows hparams, settingRows, settingRows,
        List.filter_cons_of_neg (by simpa using htype)]
    · rw [if_neg htype, show settingRows ((name, value) :: params)
        = (name, value) :: settingRows params from List.filter_cons_of_pos (by simpa using htype)]
      by_cases hname : name ∈ rowNames rows
      · rw [insert_textEntries_of_mem hrows hname, ih _ hparams, laidOver_map_of_mem hname hnew']
        rwa [rowNames_map]
      · rw [insert_textEntries_of_notMem hname, ih _ hparams, laidOver_append_of_notMem hname hnew']
        rw [rowNames_append]
        exact hrows.append (List.nodup_singleton name) (List.disjoint_singleton.mpr hname)

end Rows

namespace Schema

variable {σ : Type}

/-! ## Reading rows

The reader keeps a list of the names that it has seen, since a mapping might have a field twice.
With different names this never finds anything, so of each row only two things are asked: whether
there is a field of its name, and whether its value can be read for it. -/

/-- What is wrong with a row by itself: its name is that of no field, or its value cannot be
read for the field. -/
def offence? (s : Schema σ) (row : String × Yaml.Value) : Option DecodeError :=
  match s.field? row.1 with
  | none => some (.unknownField row.1 s.names)
  | some f =>
    match f.codec.decode row.2 with
    | .error e => some e
    | .ok _ => none

/-- Puts the value of a row into the place of its field. -/
def put (s : Schema σ) (settings : σ) (row : String × Yaml.Value) : σ :=
  match s.field? row.1 with
  | none => settings
  | some f =>
    match f.codec.decode row.2 with
    | .error _ => settings
    | .ok a => f.set a settings

/-- Rows with different names are read to the first that is not in order. -/
theorem decodeFrom_textEntries (s : Schema σ) {seen : List String} {settings : σ}
    {rows : List (String × Yaml.Value)} (hnodup : (rowNames rows).Nodup)
    (hseen : ∀ name ∈ rowNames rows, name ∉ seen) :
    s.decodeFrom seen settings (textEntries rows)
      = match rows.findSome? s.offence? with
        | some e => .error e
        | none => .ok (rows.foldl s.put settings) := by
  induction rows generalizing seen settings with
  | nil => rfl
  | cons row rows ih =>
    obtain ⟨name, value⟩ := row
    obtain ⟨hname, hnodup⟩ := List.nodup_cons.mp hnodup
    have hunseen : name ∉ seen := hseen name List.mem_cons_self
    -- the name that was just seen does not come again
    have hlater : ∀ other ∈ rowNames rows, other ∉ name :: seen := by
      intro other hother hmem
      rcases List.mem_cons.mp hmem with rfl | hmem
      · exact hname hother
      · exact hseen other (List.mem_cons_of_mem _ hother) hmem
    simp only [textEntries, List.map_cons, decodeFrom, Yaml.Value.asText?, Yaml.Value.untagged,
      List.findSome?_cons, offence?, List.foldl_cons, put]
    cases hfield : s.field? name with
    | none => rfl
    | some f =>
      simp only [if_neg hunseen, SettingsField.decode]
      cases hdecode : f.codec.decode value with
      | error e => rfl
      | ok a => exact ih hnodup hlater

/-! ## Lawful schemas

The laws of `get` and `set` are those of a record update, for each two fields of the schema. They
are not consequences of anything, because a field is a pair of functions and could be any. -/

/-- A schema whose record can be described field by field. -/
structure Lawful (s : Schema σ) : Prop where
  names_nodup : s.names.Nodup
  /-- The type of a module is no setting. -/
  typeKey_notMem : typeKey ∉ s.names
  codec : ∀ f ∈ s.fields, f.codec.Lawful
  /-- A value that was put into a record is there. -/
  get_set : ∀ f ∈ s.fields, ∀ a settings, f.get (f.set a settings) = a
  /-- It takes the place of no other field. -/
  get_set_of_ne : ∀ f ∈ s.fields, ∀ g ∈ s.fields, f.name ≠ g.name →
    ∀ a settings, f.get (g.set a settings) = f.get settings
  /-- There is nothing in a record but its fields. -/
  ext : ∀ a b, (∀ f ∈ s.fields, f.get a = f.get b) → a = b

/-- The rows that are read when parameters are given: the fields in their order, each with its
parameter or else its default, and then the parameters that are for no field. -/
def merged (s : Schema σ) (params : List (String × Yaml.Value)) : List (String × Yaml.Value) :=
  s.fields.map (fun f => (f.name, (params.lookup f.name).getD (f.encode s.defaults)))
    ++ params.filter fun row => row.1 ≠ typeKey ∧ row.1 ∉ s.names

section Lookup

variable {s : Schema σ} {name : String} {f : SettingsField σ}

/-- A name is unknown exactly if no field has it. -/
theorem field?_eq_none_iff : s.field? name = none ↔ name ∉ s.names := by
  rw [field?, List.find?_eq_none, names, List.mem_map]
  simp only [beq_iff_eq, not_exists, not_and]

/-- What is found by a name is a field with this name. -/
theorem of_field?_eq_some (h : s.field? name = some f) : f ∈ s.fields ∧ f.name = name := by
  rw [field?] at h
  exact ⟨List.mem_of_find?_eq_some h, by simpa using List.find?_some h⟩

/-- A field is among the fields, and so is its name among the names. -/
theorem mem_names (hf : f ∈ s.fields) : f.name ∈ s.names := List.mem_map_of_mem hf

end Lookup

namespace Lawful

variable {s : Schema σ} {params : List (String × Yaml.Value)}

/-- A field is found under its name. -/
theorem field?_name (hs : s.Lawful) {f : SettingsField σ} (hf : f ∈ s.fields) :
    s.field? f.name = some f := by
  obtain ⟨g, hg⟩ : ∃ g, s.field? f.name = some g :=
    Option.ne_none_iff_exists'.mp fun h => field?_eq_none_iff.mp h (mem_names hf)
  obtain ⟨hmem, hname⟩ := of_field?_eq_some hg
  rw [hg, List.inj_on_of_nodup_map hs.names_nodup hmem hf hname]

/-- Laying parameters over the written defaults makes the merged rows. -/
theorem overlay_serialise (hs : s.Lawful) (hparams : (rowNames params).Nodup) :
    overlay (s.serialise s.defaults) (textEntries params) = textEntries (s.merged params) := by
  have hdefaults : s.serialise s.defaults
      = textEntries (s.fields.map fun f => (f.name, f.encode s.defaults)) := by
    rw [serialise, textEntries, List.map_map]
    rfl
  have hnames : rowNames (s.fields.map fun f => (f.name, f.encode s.defaults)) = s.names := by
    rw [rowNames, List.map_map]
    rfl
  have hlookup : ∀ f ∈ s.fields, (settingRows params).lookup f.name = params.lookup f.name := by
    intro f hf
    have hne : f.name ≠ typeKey := fun h => hs.typeKey_notMem (h ▸ mem_names hf)
    refine Option.ext fun v => ?_
    rw [settingRows, lookup_eq_some_iff (nodup_rowNames_filter hparams),
      lookup_eq_some_iff hparams, List.mem_filter]
    simp [hne]
  rw [hdefaults, overlay_textEntries (hnames ▸ hs.names_nodup) hparams, laidOver, merged, hnames,
    List.map_map]
  congr 2
  · exact List.map_congr_left fun f hf => by rw [Function.comp_apply, hlookup f hf]
  · rw [settingRows, List.filter_filter]
    exact List.filter_congr fun row _ => by rw [Bool.and_comm, Bool.decide_and]

/-- Merged rows have different names: those of the fields, and others that are none of these. -/
theorem nodup_rowNames_merged (hs : s.Lawful) (hparams : (rowNames params).Nodup) :
    (rowNames (s.merged params)).Nodup := by
  have hfields : rowNames (s.fields.map fun f =>
      (f.name, (params.lookup f.name).getD (f.encode s.defaults))) = s.names := by
    rw [rowNames, List.map_map]
    rfl
  rw [merged, rowNames_append, hfields]
  refine hs.names_nodup.append (nodup_rowNames_filter hparams) ?_
  intro name hname hrest
  obtain ⟨v, hv⟩ := mem_rowNames.mp hrest
  simp only [List.mem_filter, decide_eq_true_eq] at hv
  exact hv.2.2 hname

/-- A merged row is a parameter, or the default of a field that has none. -/
theorem mem_merged_iff (hs : s.Lawful) (hparams : (rowNames params).Nodup)
    {row : String × Yaml.Value} :
    row ∈ s.merged params ↔ (row ∈ params ∧ row.1 ≠ typeKey)
      ∨ ∃ f ∈ s.fields, f.name ∉ rowNames params ∧ row = (f.name, f.encode s.defaults) := by
  rw [merged, List.mem_append, List.mem_map, List.mem_filter, decide_eq_true_eq]
  constructor
  · rintro (⟨f, hf, rfl⟩ | ⟨hrow, htype, -⟩)
    -- the field has a parameter, or its default is written in its place
    · cases hlookup : params.lookup f.name with
      | none =>
        refine .inr ⟨f, hf, fun h => ?_, rfl⟩
        obtain ⟨v, hv⟩ := mem_rowNames.mp h
        rw [(lookup_eq_some_iff hparams).mpr hv] at hlookup
        cases hlookup
      | some v =>
        exact .inl ⟨(lookup_eq_some_iff hparams).mp hlookup,
          fun h => hs.typeKey_notMem (h ▸ mem_names hf)⟩
    · exact .inl ⟨hrow, htype⟩
  · rintro (⟨hrow, htype⟩ | ⟨f, hf, hnew, rfl⟩)
    · by_cases hname : row.1 ∈ s.names
      · obtain ⟨f, hf, hfname⟩ := List.mem_map.mp hname
        refine .inl ⟨f, hf, ?_⟩
        rw [hfname, (lookup_eq_some_iff hparams).mpr hrow]
        rfl
      · exact .inr ⟨hrow, htype, hname⟩
    · refine .inl ⟨f, hf, ?_⟩
      rw [lookup_eq_none_of_notMem hnew]
      rfl

/-- What configuring with parameters comes to. -/
theorem configure_textEntries (hs : s.Lawful) (hparams : (rowNames params).Nodup) :
    s.configure (some (textEntries params))
      = match (s.merged params).findSome? s.offence? with
        | some e => .error e
        | none => .ok ((s.merged params).foldl s.put s.defaults) := by
  change s.decodeFrom [] s.defaults (overlay (s.serialise s.defaults) (textEntries params)) = _
  rw [hs.overlay_serialise hparams]
  exact s.decodeFrom_textEntries (hs.nodup_rowNames_merged hparams) fun _ _ => List.not_mem_nil

/-! ### Rows that are in order -/

/-- A row is in order when it names a field and its value can be read for it. -/
theorem offence?_eq_none_iff (hs : s.Lawful) {row : String × Yaml.Value} :
    s.offence? row = none
      ↔ ∃ f ∈ s.fields, f.name = row.1 ∧ ∃ a, f.codec.decode row.2 = .ok a := by
  constructor
  · intro h
    rw [offence?] at h
    split at h
    · cases h
    · rename_i f hfield
      obtain ⟨hmem, hname⟩ := of_field?_eq_some hfield
      split at h
      · cases h
      · rename_i a hdecode
        exact ⟨f, hmem, hname, a, hdecode⟩
  · rintro ⟨f, hf, hname, a, hdecode⟩
    simp only [offence?, ← hname, hs.field?_name hf, hdecode]

/-- The row of a field puts what it is read as into the place of the field. -/
theorem put_of_decode (hs : s.Lawful) {f : SettingsField σ} (hf : f ∈ s.fields) {v : Yaml.Value}
    {a : f.Carrier} (hdecode : f.codec.decode v = .ok a) (settings : σ) :
    s.put settings (f.name, v) = f.set a settings := by
  simp only [put, hs.field?_name hf, hdecode]

/-- A row changes no other field than its own. -/
theorem get_put_of_ne (hs : s.Lawful) {f : SettingsField σ} (hf : f ∈ s.fields)
    {row : String × Yaml.Value} (hne : f.name ≠ row.1) (settings : σ) :
    f.get (s.put settings row) = f.get settings := by
  rw [put]
  split
  · rfl
  · rename_i g hfield
    split
    · rfl
    · obtain ⟨hmem, hname⟩ := of_field?_eq_some hfield
      exact hs.get_set_of_ne f hf g hmem (hname ▸ hne) _ settings

/-- Rows of other names leave a field as it was. -/
theorem get_foldl_put_of_notMem (hs : s.Lawful) {f : SettingsField σ} (hf : f ∈ s.fields)
    {rows : List (String × Yaml.Value)} (hname : f.name ∉ rowNames rows) (settings : σ) :
    f.get (rows.foldl s.put settings) = f.get settings := by
  induction rows generalizing settings with
  | nil => rfl
  | cons row rows ih =>
    obtain ⟨hne, hname⟩ := List.ne_and_not_mem_of_not_mem_cons hname
    rw [List.foldl_cons, ih hname, hs.get_put_of_ne hf hne]

/-- After rows with different names, a field has the value that its row is read as. -/
theorem get_foldl_put (hs : s.Lawful) {f : SettingsField σ} (hf : f ∈ s.fields)
    {rows : List (String × Yaml.Value)} (hnodup : (rowNames rows).Nodup) {v : Yaml.Value}
    (hrow : (f.name, v) ∈ rows) {a : f.Carrier} (hdecode : f.codec.decode v = .ok a)
    (settings : σ) : f.get (rows.foldl s.put settings) = a := by
  obtain ⟨before, after, rfl⟩ := List.append_of_mem hrow
  -- the name does not come again behind its row, so nothing is put over the value
  have hlater : f.name ∉ rowNames after := by
    rw [rowNames_append] at hnodup
    exact (List.nodup_cons.mp (List.nodup_append.mp hnodup).2.1).1
  rw [List.foldl_append, List.foldl_cons, hs.get_foldl_put_of_notMem hf hlater,
    hs.put_of_decode hf hdecode, hs.get_set f hf]

end Lawful

/-! ## What settings come out -/

/-- Settings are what parameters make of the defaults: every parameter is for a field, and a
field with a parameter has the value that this is read as, each other one its default. -/
structure MadeFrom (s : Schema σ) (params : List (String × Yaml.Value)) (settings : σ) : Prop where
  known : ∀ row ∈ params, row.1 ≠ typeKey → row.1 ∈ s.names
  given : ∀ f ∈ s.fields, ∀ v, (f.name, v) ∈ params → f.codec.decode v = .ok (f.get settings)
  default : ∀ f ∈ s.fields, f.name ∉ rowNames params → f.get settings = f.get s.defaults

namespace Lawful

variable {s : Schema σ} {params : List (String × Yaml.Value)}

/-- Parameters are refused for their first merged row that is not in order. -/
theorem configure_eq_error_iff (hs : s.Lawful) (hparams : (rowNames params).Nodup)
    {e : DecodeError} :
    s.configure (some (textEntries params)) = .error e
      ↔ ∃ before row after, s.merged params = before ++ row :: after
          ∧ (∀ earlier ∈ before, s.offence? earlier = none) ∧ s.offence? row = some e := by
  rw [hs.configure_textEntries hparams]
  constructor
  · intro h
    cases hfind : (s.merged params).findSome? s.offence? with
    | none => simp [hfind] at h
    | some e' =>
      obtain rfl : e' = e := by simpa [hfind] using h
      obtain ⟨before, row, after, hsplit, hrow, hbefore⟩ := List.findSome?_eq_some_iff.mp hfind
      exact ⟨before, row, after, hsplit, hbefore, hrow⟩
  · rintro ⟨before, row, after, hsplit, hbefore, hrow⟩
    rw [List.findSome?_eq_some_iff.mpr ⟨before, row, after, hsplit, hrow, hbefore⟩]

/-- They are accepted when each of them but the type is for a field and can be read for it. -/
theorem configure_accepts_iff (hs : s.Lawful) (hparams : (rowNames params).Nodup) :
    (∃ settings, s.configure (some (textEntries params)) = .ok settings)
      ↔ ∀ row ∈ params, row.1 ≠ typeKey →
          ∃ f ∈ s.fields, f.name = row.1 ∧ ∃ a, f.codec.decode row.2 = .ok a := by
  have hrows : (∃ settings, s.configure (some (textEntries params)) = .ok settings)
      ↔ ∀ row ∈ s.merged params, s.offence? row = none := by
    rw [hs.configure_textEntries hparams, ← List.findSome?_eq_none_iff]
    cases (s.merged params).findSome? s.offence? <;> simp
  rw [hrows]
  constructor
  · intro h row hrow htype
    exact hs.offence?_eq_none_iff.mp (h row ((hs.mem_merged_iff hparams).mpr (.inl ⟨hrow, htype⟩)))
  · intro h row hrow
    rw [hs.offence?_eq_none_iff]
    -- a parameter is in order by assumption, and a default because it was written by the codec
    obtain ⟨hrow, htype⟩ | ⟨f, hf, -, rfl⟩ := (hs.mem_merged_iff hparams).mp hrow
    · exact h row hrow htype
    · exact ⟨f, hf, rfl, f.get s.defaults, hs.codec f hf _⟩

/-- The settings are those that the parameters make of the defaults. -/
theorem configure_eq_ok_iff (hs : s.Lawful) (hparams : (rowNames params).Nodup) {settings : σ} :
    s.configure (some (textEntries params)) = .ok settings ↔ s.MadeFrom params settings := by
  have hmade : ∀ {settings}, s.configure (some (textEntries params)) = .ok settings →
      s.MadeFrom params settings := by
    intro settings h
    have haccepted := (hs.configure_accepts_iff hparams).mp ⟨settings, h⟩
    -- what is read for the merged row of a field is what the field holds in the end
    have hvalue : ∀ f ∈ s.fields, ∀ v, (f.name, v) ∈ s.merged params → ∀ a,
        f.codec.decode v = .ok a → f.get settings = a := by
      intro f hf v hrow a hdecode
      rw [hs.configure_textEntries hparams] at h
      split at h
      · cases h
      · cases h
        exact hs.get_foldl_put hf (hs.nodup_rowNames_merged hparams) hrow hdecode _
    refine ⟨fun row hrow htype => ?_, fun f hf v hv => ?_, fun f hf hnew => ?_⟩
    · obtain ⟨f, hf, hname, -⟩ := haccepted row hrow htype
      exact hname ▸ mem_names hf
    · have htype : f.name ≠ typeKey := fun h => hs.typeKey_notMem (h ▸ mem_names hf)
      obtain ⟨g, hg, hname, a, hdecode⟩ := haccepted _ hv htype
      obtain rfl : g = f := List.inj_on_of_nodup_map hs.names_nodup hg hf hname
      rw [hdecode, hvalue g hf v ((hs.mem_merged_iff hparams).mpr (.inl ⟨hv, htype⟩)) a hdecode]
    · exact hvalue f hf _ ((hs.mem_merged_iff hparams).mpr (.inr ⟨f, hf, hnew, rfl⟩)) _
        (hs.codec f hf _)
  refine ⟨hmade, fun h => ?_⟩
  -- such parameters are accepted, and what they make agrees with the settings in every field
  obtain ⟨made, hconfigure⟩ := (hs.configure_accepts_iff hparams).mpr fun row hrow htype => by
    obtain ⟨f, hf, hname⟩ := List.mem_map.mp (h.known row hrow htype)
    exact ⟨f, hf, hname, f.get settings, h.given f hf row.2 (hname ▸ hrow)⟩
  have hmade := hmade hconfigure
  rw [hconfigure, hs.ext made settings fun f hf => ?_]
  by_cases hname : f.name ∈ rowNames params
  · obtain ⟨v, hv⟩ := mem_rowNames.mp hname
    exact Except.ok.inj ((hmade.given f hf v hv).symm.trans (h.given f hf v hv))
  · rw [hmade.default f hf hname, h.default f hf hname]

end Lawful

/-- The order of the parameters makes no difference. -/
theorem MadeFrom.perm {s : Schema σ} {params reordered : List (String × Yaml.Value)} {settings : σ}
    (hperm : reordered.Perm params) (h : s.MadeFrom params settings) :
    s.MadeFrom reordered settings where
  known row hrow := h.known row (hperm.mem_iff.mp hrow)
  given f hf v hv := h.given f hf v (hperm.mem_iff.mp hv)
  default f hf hname := h.default f hf fun hmem =>
    hname ((hperm.map Prod.fst).mem_iff.mpr hmem)

end Schema

end ReleasePipeline
