import TableReach.Settings.Sources
import Mathlib.Data.List.Basic

/-!
# Which source a setting comes from

A source defines some settings and is silent about the others.  Here a setting is a
value of its own, so that one statement covers all of them: where a file of settings
writes it, what the environment and the command line say about it, and what it is in
the settings of a run.

The environment goes before a file and a file before the usual value, setting by
setting.  The two files are not laid over each other: the one in the working directory
stands in for the one in the home directory even where it is silent.
-/

namespace TableReach

namespace Document

/-- The value of a field of a record, which is written as a table or as the list of its fields in
order. -/
def member? (names : List String) (name : String) : Document → Option Document
  | .table entries => entries.lookup name
  | .list items => items[names.idxOf name]?
  | _ => none

/-- An entry that is given at most once is the one that is found by its key. -/
theorem eq_lookup_of_atMostOne
    {name : String}
    {entries : List (String × Document)}
    {value : Option Document}
    (single : atMostOne (entriesNamed [name] entries) = some value) :
    value = entries.lookup name := by
  induction entries with
  | nil => exact (Option.some_inj.mp single).symm
  | cons entry others inductionHypothesis =>
      obtain ⟨key, document⟩ := entry
      by_cases same : key = name
      · subst same
        have named : entriesNamed [key] ((key, document) :: others) =
            document :: entriesNamed [key] others := by
          simp [entriesNamed]
        rw [named] at single
        cases rest : entriesNamed [key] others with
        | nil =>
            rw [rest] at single
            rw [List.lookup_cons_self]
            exact (Option.some_inj.mp single).symm
        | cons second _ =>
            rw [rest] at single
            cases single
      · have named : entriesNamed [name] ((key, document) :: others) =
            entriesNamed [name] others := by
          simp [entriesNamed, same]
        rw [named] at single
        rw [inductionHypothesis single, List.lookup_cons, beq_false_of_ne (Ne.symm same)]

/-- The values of fields that are each given at most once are found by their keys. -/
theorem eq_lookups_of_mapM
    {names : List String}
    {entries : List (String × Document)}
    {values : List (Option Document)}
    (read : (names.map fun name => [name]).mapM
      (fun field => atMostOne (entriesNamed field entries)) = some values) :
    values = names.map fun name => entries.lookup name := by
  induction names generalizing values with
  | nil => exact (Option.some_inj.mp read).symm
  | cons name names inductionHypothesis =>
      rw [List.map_cons, List.mapM_cons, Option.bind_eq_bind, Option.bind_eq_some_iff] at read
      obtain ⟨value, single, read⟩ := read
      obtain ⟨others, readOthers, equal⟩ := Option.bind_eq_some_iff.mp read
      rw [List.map_cons, ← inductionHypothesis readOthers, ← eq_lookup_of_atMostOne single]
      exact (Option.some_inj.mp equal).symm

/-- The items of a list are the fields in order; those behind its end are missing. -/
theorem items_eq_members
    {names : List String}
    {items : List Document}
    (different : names.Nodup)
    (few : items.length ≤ names.length) :
    items.map some ++ List.replicate (names.length - items.length) none =
      names.map fun name => items[names.idxOf name]? := by
  apply List.ext_getElem
  · simp only [List.length_append, List.length_map, List.length_replicate]
    omega
  · intro index _ inside
    rw [List.length_map] at inside
    rw [List.getElem_map, different.idxOf_getElem index inside]
    by_cases given : index < items.length
    · simp [given]
    · rw [List.getElem_append_right (by simpa using given)]
      simp [given]

/-- The fields of a record are its members. -/
theorem eq_members_of_fields
    {names : List String}
    {document : Document}
    {values : List (Option Document)}
    (different : names.Nodup)
    (read : fields (names.map fun name => [name]) document = some values) :
    values = names.map fun name => document.member? names name := by
  unfold fields at read
  split at read
  · exact eq_lookups_of_mapM read
  · rw [List.length_map] at read
    split at read
    · next few =>
        rw [← Option.some_inj.mp read, items_eq_members different few]
        rfl
    · cases read
  · rw [← Option.some_inj.mp read, List.map_map]
    rfl
  · rw [← Option.some_inj.mp read, List.map_map]
    rfl
  · cases read

end Document

/-- A setting. -/
inductive Setting where
  | dialect
  | suffixes
  | maxDepth
  | disabled
  | parallel
  | included
  | excluded
  | logLevel

namespace Setting

/-- What a setting can be set to. -/
abbrev Value : Setting → Type
  | dialect => Sql.Dialect
  | suffixes => List String
  | maxDepth => Nat
  | disabled => List String
  | parallel => Bool
  | included => List String
  | excluded => List String
  | logLevel => Option String

/-- What a setting is set to. -/
def value : (setting : Setting) → Settings → setting.Value
  | dialect, settings => settings.dialect
  | suffixes, settings => settings.suffixes
  | maxDepth, settings => settings.maxDepth
  | disabled, settings => settings.disabled
  | parallel, settings => settings.parallel
  | included, settings => settings.packages.included
  | excluded, settings => settings.packages.excluded
  | logLevel, settings => settings.logLevel

/-- What a source sets a setting to. -/
def given : (setting : Setting) → SettingsSource → Option setting.Value
  | dialect, source => source.dialect
  | suffixes, source => source.suffixes
  | maxDepth, source => source.maxDepth
  | disabled, source => source.disabled
  | parallel, source => source.parallel
  | included, source => source.included
  | excluded, source => source.excluded
  | logLevel, source => source.logLevel.map some

/-- The sections of a document of settings, each with the names of its settings in order. -/
def sections : List (String × List String) :=
  [("sql", ["dialect"]), ("resolver", ["data_access_suffixes", "max_depth"]),
    ("matcher", ["disabled"]), ("engine", ["parallel", "include_packages", "exclude_packages"]),
    ("log", ["level"])]

/-- The section and the name under which a setting is written. -/
def place : Setting → String × String
  | dialect => ("sql", "dialect")
  | suffixes => ("resolver", "data_access_suffixes")
  | maxDepth => ("resolver", "max_depth")
  | disabled => ("matcher", "disabled")
  | parallel => ("engine", "parallel")
  | included => ("engine", "include_packages")
  | excluded => ("engine", "exclude_packages")
  | logLevel => ("log", "level")

/-- What a document says about a setting. -/
def written? (setting : Setting) (document : Document) : Option Document :=
  (document.member? (sections.map Prod.fst) setting.place.1).bind fun record =>
    record.member? ((sections.lookup setting.place.1).getD []) setting.place.2

/-- The value that is written for a setting. -/
def read? : (setting : Setting) → Document → Option setting.Value
  | dialect => SettingsSource.dialectName .toml
  | suffixes => Document.listOf Document.text
  | maxDepth => Document.count
  | disabled => Document.listOf Document.text
  | parallel => Document.truth
  | included => Document.listOf Document.text
  | excluded => Document.listOf Document.text
  | logLevel => fun document => (Document.optional Document.text document).join.map some

/-- What a file sets a setting to. -/
def inFile (setting : Setting) : File → Option setting.Value
  | .text content => ((Document.read? .toml content).bind setting.written?).bind setting.read?
  | _ => none

/-- What the environment sets a setting to. -/
def inEnvironment : (setting : Setting) → Environment → Option setting.Value
  | dialect, environment => environment.dialect.bind Sql.Dialect.ofName?
  | parallel, environment => environment.parallel.bind Environment.truth?
  | _, _ => none

/-- What the command line sets a setting to. -/
def inOverrides : (setting : Setting) → Overrides → Option setting.Value
  | dialect, overrides => overrides.dialect
  | parallel, overrides => if overrides.sequential then some false else none
  | _, _ => none

/-- What a setting is by the order of the sources: the environment, the file in the working
directory, the file in the home directory, the usual value. -/
def byPrecedence
    (setting : Setting)
    (home near : File)
    (environment : Environment) : setting.Value :=
  (setting.inEnvironment environment <|> setting.inFile near <|> setting.inFile home).getD
    (setting.value Settings.usual)

end Setting

/-- There is no file, or one that holds settings. -/
def File.HoldsSettings (file : File) : Prop :=
  file = .absent ∨ ∃ source, SettingsSource.ofFile file = .ok source

/-- What the environment says can be understood. -/
def Environment.IsAccepted (environment : Environment) : Prop :=
  (∀ name ∈ environment.dialect, (Sql.Dialect.ofName? name).isSome) ∧
    ∀ word ∈ environment.parallel, (truth? word).isSome

namespace Setting

variable (setting : Setting)

/-- A source changes the settings that it defines. -/
theorem value_applyTo
    (source : SettingsSource)
    (settings : Settings) :
    setting.value (source.applyTo settings) =
      (setting.given source).getD (setting.value settings) := by
  cases setting with
  | logLevel =>
      simp only [value, given, SettingsSource.applyTo]
      cases source.logLevel <;> rfl
  | _ => rfl

theorem given_nothing : setting.given SettingsSource.nothing = none := by
  cases setting <;> rfl

/-- A setting that a section may define is what is written there. -/
theorem eq_bind_of_defined
    {decoder : Document.Decoder α}
    {value : Option Document}
    {found : Option α}
    (read : SettingsSource.defined decoder value = some found) : found = value.bind decoder := by
  cases value with
  | none => exact (Option.some_inj.mp read).symm
  | some document =>
      obtain ⟨result, decoded, equal⟩ := Option.map_eq_some_iff.mp read
      rw [Option.bind_some, decoded, ← equal]

/-- A setting that may be missing is what is written there, if that is a value. -/
theorem eq_bind_of_defaulted
    {decoder : Document.Decoder α}
    {value : Option Document}
    {found : Option α}
    (read : Document.defaulted (Document.optional decoder) none value = some found) :
    found = value.bind fun document => (Document.optional decoder document).join := by
  cases value with
  | none => exact (Option.some_inj.mp read).symm
  | some document =>
      change Document.optional decoder document = some found at read
      rw [Option.bind_some, read]
      rfl

/-- The settings of a section are its members; a section that is missing has none. -/
theorem eq_members_of_section?
    (names : List String)
    {record : Option Document}
    {values : List (Option Document)}
    (different : names.Nodup)
    (read : SettingsSource.section? (names.map fun name => [name]) record = some values) :
    values = names.map fun name => record.bind (Document.member? names name) := by
  cases record with
  | none =>
      rw [← Option.some_inj.mp read, List.map_map]
      rfl
  | some document => exact Document.eq_members_of_fields different read

/-- A source that is read from a document gives what is written there. -/
theorem given_of_decode
    {document : Document}
    {source : SettingsSource}
    (decoded : SettingsSource.decode .toml document = some source) :
    setting.given source = (setting.written? document).bind setting.read? := by
  unfold SettingsSource.decode at decoded
  simp only [Option.bind_eq_bind, Option.bind_eq_some_iff] at decoded
  obtain ⟨records, readRecords, decoded⟩ := decoded
  have members : records = (sections.map Prod.fst).map fun name =>
      document.member? (sections.map Prod.fst) name :=
    Document.eq_members_of_fields (by decide) readRecords
  subst members
  simp only [sections, List.map_cons, List.map_nil, Option.bind_eq_some_iff] at decoded
  obtain ⟨sql, readSql, resolver, readResolver, matcher, readMatcher, engine, readEngine, log,
    readLog, decoded⟩ := decoded
  obtain rfl := eq_members_of_section? ["dialect"] (by decide) readSql
  obtain rfl := eq_members_of_section? ["data_access_suffixes", "max_depth"] (by decide) readResolver
  obtain rfl := eq_members_of_section? ["disabled"] (by decide) readMatcher
  obtain rfl := eq_members_of_section? ["parallel", "include_packages", "exclude_packages"]
    (by decide) readEngine
  obtain rfl := eq_members_of_section? ["level"] (by decide) readLog
  simp only [List.map_cons, List.map_nil, Option.bind_eq_some_iff, Option.some_inj] at decoded
  obtain ⟨dialect, readDialect, suffixes, readSuffixes, maxDepth, readMaxDepth, disabled,
    readDisabled, parallel, readParallel, included, readIncluded, excluded, readExcluded, level,
    readLevel, rfl⟩ := decoded
  cases setting with
  | dialect => exact eq_bind_of_defined readDialect
  | suffixes => exact eq_bind_of_defined readSuffixes
  | maxDepth => exact eq_bind_of_defined readMaxDepth
  | disabled => exact eq_bind_of_defined readDisabled
  | parallel => exact eq_bind_of_defined readParallel
  | included => exact eq_bind_of_defined readIncluded
  | excluded => exact eq_bind_of_defined readExcluded
  | logLevel =>
      rw [given, eq_bind_of_defaulted readLevel, Option.map_bind]
      rfl

/-- A file that holds settings gives what is written there. -/
theorem given_of_ofFile
    {file : File}
    {source : SettingsSource}
    (read : SettingsSource.ofFile file = .ok source) :
    setting.given source = setting.inFile file := by
  cases file with
  | absent => cases read
  | unreadable reason => cases read
  | text content =>
      change SettingsSource.ofText content = .ok source at read
      unfold SettingsSource.ofText at read
      split at read
      · next found decoded =>
          cases read
          obtain ⟨document, isDocument, isSource⟩ := Option.bind_eq_some_iff.mp decoded
          rw [given_of_decode setting isSource, inFile, isDocument, Option.bind_some]
      · cases read

end Setting

/-- A file that can be read and understood holds settings. -/
theorem File.holdsSettings_of_isOk
    {file : File}
    (read : (SettingsSource.ofFile file).isOk = true) : file.HoldsSettings := by
  cases found : SettingsSource.ofFile file with
  | error failure =>
      rw [found] at read
      cases read
  | ok source => exact Or.inr ⟨source, found⟩

/-- A file that holds settings is read, and the source gives what is written there; it is missing
only where the file is. -/
theorem File.HoldsSettings.exists_source
    {file : File}
    (holds : file.HoldsSettings) :
    ∃ source?, SettingsSource.ofFile? file = .ok source? ∧
      (source? = none ↔ file = .absent) ∧
      ∀ setting : Setting,
        setting.given (source?.getD SettingsSource.nothing) = setting.inFile file := by
  rcases holds with rfl | ⟨source, read⟩
  · exact ⟨none, rfl, by simp, fun setting => setting.given_nothing⟩
  · have present : file ≠ .absent := by
      rintro rfl
      cases read
    refine ⟨some source, ?_, by simp [present], fun setting => setting.given_of_ofFile read⟩
    rw [SettingsSource.ofFile?, if_neg (by simpa using present), read]
    rfl

namespace Environment

/-- A word that can be understood is read. -/
theorem setting_eq_ok
    {read? : String → Option α}
    {value : Option String}
    (understood : ∀ word ∈ value, (read? word).isSome)
    (mistake : String → Failure) : setting read? mistake value = .ok (value.bind read?) := by
  cases value with
  | none => rfl
  | some word =>
      obtain ⟨found, isFound⟩ := Option.isSome_iff_exists.mp (understood word rfl)
      simp [setting, isFound]

/-- An environment that can be understood is read, and the source gives what it says. -/
theorem IsAccepted.exists_source
    {environment : Environment}
    (accepted : environment.IsAccepted) :
    ∃ source, environment.source = .ok source ∧
      ∀ setting : Setting, setting.given source = setting.inEnvironment environment := by
  refine ⟨{ SettingsSource.nothing with
    dialect := environment.dialect.bind Sql.Dialect.ofName?
    parallel := environment.parallel.bind truth? }, ?_, ?_⟩
  · unfold source
    rw [setting_eq_ok accepted.1, setting_eq_ok accepted.2]
    rfl
  · intro setting
    cases setting <;> rfl

end Environment

namespace Settings

/-- The settings of a run are there, and each is what the environment says, else what the one file
that counts says, else the usual value. -/
theorem exists_load
    {home near : File}
    {environment : Environment}
    (homeHolds : home.HoldsSettings)
    (nearHolds : near.HoldsSettings)
    (accepted : environment.IsAccepted) :
    ∃ settings, load home near environment = .ok settings ∧
      ∀ setting : Setting, setting.value settings =
        (setting.inEnvironment environment <|>
          setting.inFile (if near = .absent then home else near)).getD
            (setting.value usual) := by
  obtain ⟨homeSource, homeRead, -, homeGives⟩ := homeHolds.exists_source
  obtain ⟨nearSource, nearRead, nearAbsent, nearGives⟩ := nearHolds.exists_source
  obtain ⟨changes, changesRead, changesGive⟩ := accepted.exists_source
  refine ⟨changes.applyTo ((nearSource <|> homeSource).getD SettingsSource.nothing).settings,
    ?_, ?_⟩
  · rw [load, homeRead, nearRead, changesRead]
    rfl
  · intro setting
    have counts : setting.given ((nearSource <|> homeSource).getD SettingsSource.nothing) =
        setting.inFile (if near = .absent then home else near) := by
      split
      · next absent =>
          rw [nearAbsent.mpr absent]
          exact homeGives setting
      · next present =>
          obtain ⟨source, rfl⟩ := Option.ne_none_iff_exists'.mp (mt nearAbsent.mp present)
          exact nearGives setting
    rw [setting.value_applyTo, SettingsSource.settings, setting.value_applyTo, changesGive, counts]
    cases setting.inEnvironment environment <;> rfl

/-- The command line changes what it says and nothing else. -/
theorem value_override
    (setting : Setting)
    (settings : Settings)
    (overrides : Overrides) :
    setting.value (settings.override overrides) =
      (setting.inOverrides overrides).getD (setting.value settings) := by
  rw [override, setting.value_applyTo]
  cases setting <;> rfl

/-- Settings come from the environment, else from a file, else they are the usual ones, setting by
setting; but only one file counts, the one in the working directory where there is one.  So a
setting is what it is by the order of all sources exactly if there is no file in the working
directory, or the environment or that file defines it, or the file in the home directory does not
set it to anything unusual.  The command line then changes what it says and nothing else. -/
theorem load_one_file
    (home near : File)
    (environment : Environment)
    (homeHolds : home.HoldsSettings)
    (nearHolds : near.HoldsSettings)
    (accepted : environment.IsAccepted) :
    ∃ settings, load home near environment = .ok settings ∧
      (∀ setting : Setting, setting.value settings =
        (setting.inEnvironment environment <|>
          setting.inFile (if near = .absent then home else near)).getD
            (setting.value usual)) ∧
      (∀ setting : Setting,
        setting.value settings = setting.byPrecedence home near environment ↔
          near = .absent ∨ (setting.inEnvironment environment).isSome ∨
            (setting.inFile near).isSome ∨
            (setting.inFile home).getD (setting.value usual) = setting.value usual) ∧
      ∀ (overrides : Overrides) (setting : Setting),
        setting.value (settings.override overrides) =
          (setting.inOverrides overrides).getD (setting.value settings) := by
  obtain ⟨settings, loaded, values⟩ := exists_load homeHolds nearHolds accepted
  refine ⟨settings, loaded, values, ?_, fun overrides setting =>
    value_override setting settings overrides⟩
  intro setting
  rw [values, Setting.byPrecedence]
  cases fromEnvironment : setting.inEnvironment environment with
  | some value => simp
  | none =>
      by_cases absent : near = .absent
      · subst absent
        simp [Setting.inFile]
      · cases fromNear : setting.inFile near with
        | some value => simp [absent, fromNear]
        | none => simp [absent, fromNear, eq_comm]

/-- The environment goes before both files, the file in the working directory before the one in the
home directory, and the command line before all of them. -/
theorem load_one_file_of_four_sources :
    let home := File.text "[engine]\nparallel = true\n[sql]\ndialect = \"sqlite\"\n"
    let near := File.text "[sql]\ndialect = \"mysql\"\n[resolver]\nmax_depth = 3\n"
    let environment : Environment := { dialect := some " Postgres ", parallel := some "off" }
    home.HoldsSettings ∧ near.HoldsSettings ∧ environment.IsAccepted ∧
      ∃ settings, load home near environment = .ok settings ∧
        settings.dialect = .postgresql ∧ settings.maxDepth = 3 ∧ settings.parallel = false ∧
        (settings.override { dialect := some .generic, sequential := false }).dialect = .generic := by
  intro home near environment
  have homeHolds : home.HoldsSettings := File.holdsSettings_of_isOk (by decide +kernel)
  have nearHolds : near.HoldsSettings := File.holdsSettings_of_isOk (by decide +kernel)
  have accepted : environment.IsAccepted := by
    constructor
    · rintro _ ⟨⟩
      decide +kernel
    · rintro _ ⟨⟩
      decide +kernel
  obtain ⟨settings, loaded, values, -, overridden⟩ :=
    load_one_file home near environment homeHolds nearHolds accepted
  refine ⟨homeHolds, nearHolds, accepted, settings, loaded, (values .dialect).trans ?_,
    (values .maxDepth).trans ?_, (values .parallel).trans ?_, overridden _ .dialect⟩
  · decide +kernel
  · decide +kernel
  · decide +kernel

/-- A depth that only the file in the home directory sets is lost to a file in the working
directory that is silent about it. -/
theorem near_file_hides_depth :
    let home := File.text "[resolver]\nmax_depth = 3\n"
    let near := File.text "[sql]\ndialect = \"mysql\"\n"
    let environment : Environment := { dialect := none, parallel := none }
    home.HoldsSettings ∧ near.HoldsSettings ∧ environment.IsAccepted ∧
      Setting.maxDepth.byPrecedence home near environment = (3 : Nat) ∧
      (load home near environment).toOption.map Settings.maxDepth = some 0 := by
  intro home near environment
  refine ⟨File.holdsSettings_of_isOk (by decide +kernel),
    File.holdsSettings_of_isOk (by decide +kernel), ?_, by decide +kernel, by decide +kernel⟩
  simp [Environment.IsAccepted, environment]

end Settings
end TableReach
