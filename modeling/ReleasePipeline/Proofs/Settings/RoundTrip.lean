/-
Settings written out are read back.

Written settings are rows with different names, one for each field, and a row is what its codec
writes. So as parameters they leave no field to the defaults, and what they make of these is the
settings they were written from (`Schema.Lawful.madeFrom_of_gives`). The order in which they are
given and the type of the module, which may be among them, are of no account; both were settled for
parameters in general.
-/
import ReleasePipeline.Proofs.Settings.Schemas

set_option autoImplicit false

namespace ReleasePipeline

/-- Entries that are rows in another order are rows. -/
theorem exists_rows_of_perm {entries : Yaml.Entries} {rows : List (String × Yaml.Value)}
    (h : entries.Perm (textEntries rows)) :
    ∃ reordered, reordered.Perm rows ∧ entries = textEntries reordered := by
  have hcomp := congrFun₂ (List.eq_map_comp_perm
    fun row : String × Yaml.Value => (Yaml.Value.text row.1, row.2)) entries rows
  obtain ⟨reordered, rfl, hperm⟩ := hcomp.mpr h
  exact ⟨reordered, hperm, rfl⟩

namespace Schema

variable {σ : Type}

/-- Written settings as rows: every field under its name. -/
def rows (s : Schema σ) (settings : σ) : List (String × Yaml.Value) :=
  s.fields.map fun f => (f.name, f.encode settings)

/-- Written settings are a mapping with plain texts for keys. -/
theorem serialise_eq (s : Schema σ) (settings : σ) :
    s.serialise settings = textEntries (s.rows settings) := by
  rw [serialise, rows, textEntries, List.map_map]
  rfl

/-- Every field has a row, and nothing else has one. -/
theorem rowNames_rows (s : Schema σ) (settings : σ) : rowNames (s.rows settings) = s.names := by
  rw [rows, rowNames, List.map_map]
  rfl

/-- The parameters that settings are given by: their rows, and perhaps the type of the module. -/
inductive Gives (s : Schema σ) (settings : σ) : List (String × Yaml.Value) → Prop
  | plain : Gives s settings (s.rows settings)
  | typed (type : Yaml.Value) : Gives s settings ((typeKey, type) :: s.rows settings)

namespace Lawful

variable {s : Schema σ} {settings : σ} {params : List (String × Yaml.Value)}

/-- The row of a field says what the field holds. -/
theorem decode_of_mem_rows (hs : s.Lawful) {f : SettingsField σ} (hf : f ∈ s.fields)
    {v : Yaml.Value} (hrow : (f.name, v) ∈ s.rows settings) :
    f.codec.decode v = .ok (f.get settings) := by
  obtain ⟨g, hg, hrow⟩ := List.mem_map.mp hrow
  obtain ⟨hname, rfl⟩ := Prod.mk.inj hrow
  -- names of fields differ, so the row is the one that this field wrote
  obtain rfl : g = f := List.inj_on_of_nodup_map hs.names_nodup hg hf hname
  exact hs.codec g hf _

/-- The type of a module is not the name of a field, so no name comes twice. -/
theorem nodup_rowNames_of_gives (hs : s.Lawful) (h : s.Gives settings params) :
    (rowNames params).Nodup := by
  cases h with
  | plain =>
    rw [rowNames_rows]
    exact hs.names_nodup
  | typed type =>
    have htype : typeKey ∉ rowNames (s.rows settings) := by
      rw [rowNames_rows]
      exact hs.typeKey_notMem
    have hnames : (rowNames (s.rows settings)).Nodup := by
      rw [rowNames_rows]
      exact hs.names_nodup
    exact List.nodup_cons.mpr ⟨htype, hnames⟩

/-- The rows of settings make these settings of the defaults. -/
theorem madeFrom_of_gives (hs : s.Lawful) (h : s.Gives settings params) :
    s.MadeFrom params settings := by
  have hnamed : ∀ f ∈ s.fields, f.name ∈ rowNames (s.rows settings) := by
    intro f hf
    rw [rowNames_rows]
    exact mem_names hf
  have hknown : ∀ row ∈ s.rows settings, row.1 ∈ s.names := by
    intro row hrow
    rw [← s.rowNames_rows settings]
    exact mem_rowNames.mpr ⟨row.2, hrow⟩
  cases h with
  | plain =>
    exact ⟨fun row hrow _ => hknown row hrow, fun f hf v => hs.decode_of_mem_rows hf,
      fun f hf hname => absurd (hnamed f hf) hname⟩
  -- the type is passed over, so it neither has to be known nor does it stand for a field
  | typed type =>
    refine ⟨fun row hrow hne => ?_, fun f hf v hrow => ?_, fun f hf hname => ?_⟩
    · rcases List.mem_cons.mp hrow with rfl | hrow
      · exact absurd rfl hne
      · exact hknown row hrow
    · rcases List.mem_cons.mp hrow with heq | hrow
      · exact absurd ((Prod.mk.inj heq).1 ▸ mem_names hf) hs.typeKey_notMem
      · exact hs.decode_of_mem_rows hf hrow
    · exact absurd (List.mem_cons_of_mem _ (hnamed f hf)) hname

/-- Written settings are read back, in whatever order and with or without a type. -/
theorem configure_of_gives (hs : s.Lawful) (h : s.Gives settings params) {entries : Yaml.Entries}
    (hperm : entries.Perm (textEntries params)) : s.configure (some entries) = .ok settings := by
  obtain ⟨reordered, hreordered, rfl⟩ := exists_rows_of_perm hperm
  have hnodup : (rowNames reordered).Nodup :=
    (hreordered.map Prod.fst).nodup_iff.mpr (hs.nodup_rowNames_of_gives h)
  exact (hs.configure_eq_ok_iff hnodup).mpr ((hs.madeFrom_of_gives h).perm hreordered)

end Lawful

end Schema

/-- **Settings survive being written out.** What is registered for a built-in module reads its
parameters with a schema. Any settings, written out with every field under its name and given back
as parameters in any order, with or without a type, are read as these settings. So settings that
were read from any parameters, or made without, are read again from how they are written. -/
theorem BuiltInModule.written_settings_read_back (directoryName : String) (m : BuiltInModule) :
    let s := m.schema directoryName
    (Registry.builtIn directoryName).entries.find? m.key
        = some (.ofSchema s m.module m.dependencies) ∧
      (∀ (settings : m.Settings) (params : Yaml.Entries),
        params.Perm (s.serialise settings) ∨
            (∃ type, params.Perm ((.text Schema.typeKey, type) :: s.serialise settings)) →
          s.configure (some params) = .ok settings) ∧
      ∀ (params : Option Yaml.Entries) (settings : m.Settings),
        s.configure params = .ok settings →
          s.configure (some (s.serialise settings)) = .ok settings := by
  intro s
  have hs : s.Lawful := m.lawful_schema directoryName
  have hback : ∀ (settings : m.Settings) (params : Yaml.Entries),
      params.Perm (s.serialise settings) ∨
          (∃ type, params.Perm ((.text Schema.typeKey, type) :: s.serialise settings)) →
        s.configure (some params) = .ok settings := by
    rintro settings params (hplain | ⟨type, htyped⟩)
    · rw [s.serialise_eq] at hplain
      exact hs.configure_of_gives .plain hplain
    · rw [s.serialise_eq] at htyped
      exact hs.configure_of_gives (.typed type) htyped
  exact ⟨Registry.find?_builtIn_eq_some_iff.mpr ⟨m, rfl, rfl⟩, hback,
    fun _ settings _ => hback settings _ (.inl (.refl _))⟩

/-- The settings of a compressed archive, written last field first, and the type at the end. -/
theorem compressed_archive_read_back :
    let settings : Build.Tar.Settings :=
      { Build.Tar.schema.defaults with compression := .gzip, skip := ["linux-arm64"] }
    let params := (Build.Tar.schema.serialise settings).reverse ++ [(.text "type", .text "tar")]
    params[0]? = some (.text "skip", .list [.text "linux-arm64"]) ∧
      params[4]? = some (.text "compression", .text "gzip") ∧
      Build.Tar.schema.configure (some params) = .ok settings := by
  intro settings params
  have hperm : params.Perm
      ((.text Schema.typeKey, .text "tar") :: Build.Tar.schema.serialise settings) :=
    List.perm_append_comm.trans ((List.reverse_perm _).cons _)
  obtain ⟨-, hback, -⟩ := BuiltInModule.written_settings_read_back "app" .tar
  exact ⟨rfl, rfl, hback settings params (.inr ⟨_, hperm⟩)⟩

end ReleasePipeline
