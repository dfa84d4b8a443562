/-
The settings of the built-in modules are what their parameters make of their defaults.

Each of the thirteen schemas is lawful: its codecs read what they write, and its fields are the
fields of the record, each in a place of its own. With that, `configure_overlays` is what the
module on overlays says of lawful schemas, for every built-in module at once.
-/
import ReleasePipeline.Proofs.BuiltIn
import ReleasePipeline.Proofs.Settings.Overlay

set_option autoImplicit false

namespace ReleasePipeline

/-! ## Codecs

A codec is lawful if it reads what it writes. For a choice between words this is seen word by word.
-/

attribute [simp] Codec.lawful_text Codec.lawful_path Codec.lawful_flag Codec.lawful_word

/-- Lists of texts are read as they are written. -/
@[simp] theorem lawful_list_text : (Codec.list .text).Lawful := Codec.lawful_list Codec.lawful_text

/-- Lists of revisions are read as they are written. -/
@[simp] theorem lawful_list_word : (Codec.list .word).Lawful := Codec.lawful_list Codec.lawful_word

/-- Each digest algorithm is read by the name that it is written as. -/
@[simp] theorem lawful_algorithm : (Codec.choice Build.Checksum.algorithm).Lawful :=
  Codec.lawful_choice fun a => by cases a <;> rfl

/-- So is each compression of a zip archive. -/
@[simp] theorem lawful_zip_compression : (Codec.choice Build.Zip.compression).Lawful :=
  Codec.lawful_choice fun a => by cases a <;> rfl

/-- So is each compression of a tar archive. -/
@[simp] theorem lawful_tar_compression : (Codec.choice Build.Tar.compression).Lawful :=
  Codec.lawful_choice fun a => by cases a <;> rfl

/-- There is one kind of storage, and it is read by its name. -/
@[simp] theorem lawful_storage : (Codec.choice Publish.Release.storage).Lawful :=
  Codec.lawful_choice fun a => by cases a; rfl

/-! ## Schemas

Each proof goes through the laws in their order: the names by computation, then what is said of
fields one by one, and last that the record has no other parts. -/

section Schemas

attribute [local simp] SettingsField.of Setup.Project.schema Setup.PublishGate.schema
  Build.Go.schema Build.Checksum.schema Archive.Settings.schema Build.Upx.schema
  Build.Changelog.schema Publish.Copy.schema Publish.Release.schema

/-- A schema without fields. -/
theorem lawful_of_no_fields : (⟨(), []⟩ : Schema Unit).Lawful :=
  ⟨List.nodup_nil, List.not_mem_nil, nofun, nofun, nofun, fun _ _ _ => rfl⟩

/-- The default of a field may depend on the directory that a project is in; that does not touch the
laws. -/
theorem Setup.Project.lawful_schema (directoryName : String) :
    (Setup.Project.schema directoryName).Lawful := by
  refine ⟨by simp [Schema.names], by simp [Schema.names, Schema.typeKey], by simp, by simp,
    by simp, ?_⟩
  rintro ⟨⟩ ⟨⟩ h
  simpa using h

/-- Both kinds of archives have the same fields, but for the codec of their compression. -/
theorem Archive.Settings.lawful_schema {γ : Type} {compression : Codec γ}
    (hcompression : compression.Lawful) (defaults : Archive.Settings γ) :
    (Archive.Settings.schema compression defaults).Lawful := by
  refine ⟨by simp [Schema.names], by simp [Schema.names, Schema.typeKey], by simp [hcompression],
    by simp, by simp, ?_⟩
  rintro ⟨⟩ ⟨⟩ h
  simpa using h

/-- The settings of the publishing gate are the name of a variable. -/
theorem Setup.PublishGate.lawful_schema : Setup.PublishGate.schema.Lawful := by
  refine ⟨by decide, by decide, by simp, by simp, by simp, ?_⟩
  rintro ⟨⟩ ⟨⟩ h
  simpa using h

/-- The settings of a build have the most fields; still each of them has a place of its own. -/
theorem Build.Go.lawful_schema : Build.Go.schema.Lawful := by
  refine ⟨by decide, by decide, by simp, by simp, by simp, ?_⟩
  rintro ⟨⟩ ⟨⟩ h
  simpa using h

/-- The settings of a listing of digests. -/
theorem Build.Checksum.lawful_schema : Build.Checksum.schema.Lawful := by
  refine ⟨by decide, by decide, by simp, by simp, by simp, ?_⟩
  rintro ⟨⟩ ⟨⟩ h
  simpa using h

/-- The settings of the module that compresses executables. -/
theorem Build.Upx.lawful_schema : Build.Upx.schema.Lawful := by
  refine ⟨by decide, by decide, by simp, by simp, by simp, ?_⟩
  rintro ⟨⟩ ⟨⟩ h
  simpa using h

/-- The settings of the module that cuts out a section. -/
theorem Build.Changelog.lawful_schema : Build.Changelog.schema.Lawful := by
  refine ⟨by decide, by decide, by simp, by simp, by simp, ?_⟩
  rintro ⟨⟩ ⟨⟩ h
  simpa using h

/-- The settings of the module that copies artifacts. -/
theorem Publish.Copy.lawful_schema : Publish.Copy.schema.Lawful := by
  refine ⟨by decide, by decide, by simp, by simp, by simp, ?_⟩
  rintro ⟨⟩ ⟨⟩ h
  simpa using h

/-- The settings of the module that makes a release. -/
theorem Publish.Release.lawful_schema : Publish.Release.schema.Lawful := by
  refine ⟨by decide, by decide, by simp, by simp, by simp, ?_⟩
  rintro ⟨⟩ ⟨⟩ h
  simpa using h

end Schemas

/-- All built-in modules have lawful schemas. -/
theorem BuiltInModule.lawful_schema (directoryName : String) (m : BuiltInModule) :
    (m.schema directoryName).Lawful := by
  cases m with
  | listing | capture | git => exact lawful_of_no_fields
  | project => exact Setup.Project.lawful_schema directoryName
  | gate => exact Setup.PublishGate.lawful_schema
  | go => exact Build.Go.lawful_schema
  | checksum => exact Build.Checksum.lawful_schema
  | zip => exact Archive.Settings.lawful_schema lawful_zip_compression _
  | tar => exact Archive.Settings.lawful_schema lawful_tar_compression _
  | upx => exact Build.Upx.lawful_schema
  | changelog => exact Build.Changelog.lawful_schema
  | copy => exact Publish.Copy.lawful_schema
  | release => exact Publish.Release.lawful_schema

/-! ## Parameters of built-in modules -/

/-- What is registered for a built-in module reads its parameters with a schema, and this is
what becomes of parameters whose keys are plain and different texts. They are accepted exactly
when each of them, but the type of the module, is for a field and can be read for it. Then each
field has the value that its parameter is read as, or its default if it has none; the order
makes no difference. Else the first row that is not in order is what is wrong. -/
theorem BuiltInModule.configure_overlays (directoryName : String) (m : BuiltInModule)
    {params : List (String × Yaml.Value)} (hparams : (rowNames params).Nodup) :
    let s := m.schema directoryName
    (Registry.builtIn directoryName).entries.find? m.key
        = some (.ofSchema s m.module m.dependencies)
      ∧ ((∃ settings, s.configure (some (textEntries params)) = .ok settings)
          ↔ ∀ row ∈ params, row.1 ≠ Schema.typeKey →
              ∃ f ∈ s.fields, f.name = row.1 ∧ ∃ a, f.codec.decode row.2 = .ok a)
      ∧ (∀ settings, s.configure (some (textEntries params)) = .ok settings →
          ∀ f ∈ s.fields,
            (∀ v, (f.name, v) ∈ params → f.codec.decode v = .ok (f.get settings))
              ∧ (f.name ∉ rowNames params → f.get settings = f.get s.defaults))
      ∧ (∀ reordered, reordered.Perm params → ∀ settings,
          s.configure (some (textEntries reordered)) = .ok settings
            ↔ s.configure (some (textEntries params)) = .ok settings)
      ∧ ∀ e, s.configure (some (textEntries params)) = .error e
          ↔ ∃ before row after, s.merged params = before ++ row :: after
              ∧ (∀ earlier ∈ before, s.offence? earlier = none) ∧ s.offence? row = some e := by
  intro s
  have hs : s.Lawful := m.lawful_schema directoryName
  -- only that the schema is lawful is used, whichever module it is
  refine ⟨Registry.find?_builtIn_eq_some_iff.mpr ⟨m, rfl, rfl⟩, hs.configure_accepts_iff hparams,
    fun settings h f hf => ?_, fun reordered hperm settings => ?_,
    fun e => hs.configure_eq_error_iff hparams⟩
  · have hmade := (hs.configure_eq_ok_iff hparams).mp h
    exact ⟨hmade.given f hf, hmade.default f hf⟩
  · have hreordered : (rowNames reordered).Nodup := (hperm.map Prod.fst).nodup_iff.mpr hparams
    rw [hs.configure_eq_ok_iff hreordered, hs.configure_eq_ok_iff hparams]
    exact ⟨fun h => h.perm hperm.symm, fun h => h.perm hperm⟩

/-- Two parameters for a build; its type is passed over, and what is not given stays. -/
theorem configure_overlays_go :
    let params := [("goarm", .list [.int 7]), ("type", .text "go"), ("id", .text "cli")]
    (rowNames params).Nodup ∧ ∃ settings : Build.Go.Settings,
      Build.Go.schema.configure (some (textEntries params)) = .ok settings
        ∧ settings.revisions = [7] ∧ settings.id = "cli" ∧ settings.package = "." := by
  intro params
  have hparams : (rowNames params).Nodup := by decide
  obtain ⟨-, haccepts, hvalues, -, -⟩ := BuiltInModule.configure_overlays "app" .go hparams
  obtain ⟨settings, h⟩ := haccepts.mpr <| by
    intro row hrow htype
    simp only [params, List.mem_cons, List.not_mem_nil, or_false] at hrow
    obtain rfl | rfl | rfl := hrow
    · exact ⟨Build.Go.schema.fields[4], List.getElem_mem _, rfl, [7], rfl⟩
    · exact absurd rfl htype
    · exact ⟨Build.Go.schema.fields[5], List.getElem_mem _, rfl, "cli", rfl⟩
  have hrevisions := (hvalues settings h Build.Go.schema.fields[4] (List.getElem_mem _)).1 _
    (List.mem_cons_self)
  have hid := (hvalues settings h Build.Go.schema.fields[5] (List.getElem_mem _)).1 (.text "cli")
    (List.mem_cons_of_mem _ (List.mem_cons_of_mem _ List.mem_cons_self))
  have hpackage := (hvalues settings h Build.Go.schema.fields[7] (List.getElem_mem _)).2 (by decide)
  exact ⟨hparams, settings, h, Except.ok.inj hrevisions.symm, Except.ok.inj hid.symm, hpackage⟩

end ReleasePipeline
