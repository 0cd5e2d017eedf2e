import TableReach.Document.Fields
import TableReach.Settings.Basic

/-!
# Settings out of documents

A document of settings has one section for each concern.  Sections and settings
that are missing define nothing.
-/

namespace TableReach
namespace SettingsSource

open Document

/-- A setting that a section may define. -/
def defined (decoder : Decoder α) (value : Option Document) : Option (Option α) :=
  value.mapM decoder

/-- The settings of a section that may be missing. -/
def section? (names : List FieldNames) (value : Option Document) : Option (List (Option Document)) :=
  match value with
  | none => some (names.map fun _ => none)
  | some document => fields names document

/-- The dialect of exactly this name. -/
def dialectName (format : Format) : Decoder Sql.Dialect := fun document =>
  (choice format document).bind Sql.Dialect.ofExactName?

/-- The settings that a document defines. -/
def decode (format : Format) : Decoder SettingsSource := fun document => do
  match ← fields [["sql"], ["resolver"], ["matcher"], ["engine"], ["log"]] document with
  | [sql, resolver, matcher, engine, log] =>
      let sql ← section? [["dialect"]] sql
      let resolver ← section? [["data_access_suffixes"], ["max_depth"]] resolver
      let matcher ← section? [["disabled"]] matcher
      let engine ← section? [["parallel"], ["include_packages"], ["exclude_packages"]] engine
      let log ← section? [["level"]] log
      match sql, resolver, matcher, engine, log with
      | [dialect], [suffixes, maxDepth], [disabled], [parallel, included, excluded], [level] =>
          some
            { dialect := ← defined (dialectName format) dialect
              suffixes := ← defined (listOf text) suffixes
              maxDepth := ← defined count maxDepth
              disabled := ← defined (listOf text) disabled
              parallel := ← defined truth parallel
              included := ← defined (listOf text) included
              excluded := ← defined (listOf text) excluded
              logLevel := ← defaulted (optional text) none level }
      | _, _, _, _, _ => none
  | _ => none

end SettingsSource
end TableReach
