import TableReach.Document.Fields
import TableReach.Facts.Basic

/-!
# Facts out of documents
-/

namespace TableReach

open Document

/-- An endpoint. -/
def Endpoint.decode : Decoder Endpoint := fun document => do
  match ← fields [["http_method"], ["url_path"], ["entry_class"], ["entry_method"],
      ["package_name"]] document with
  | [httpMethod, urlPath, entryClass, entryMethod, packageName] =>
      some
        { httpMethod := ← required text httpMethod
          urlPath := ← required text urlPath
          entryClass := ← required text entryClass
          entryMethod := ← required text entryMethod
          packageName := ← defaulted text "" packageName }
  | _ => none

/-- A call. -/
def CallEdge.decode : Decoder CallEdge := fun document => do
  match ← fields [["from_class"], ["from_method"], ["to_class"], ["to_method"]] document with
  | [fromClass, fromMethod, toClass, toMethod] =>
      some
        { fromClass := ← required text fromClass
          fromMethod := ← required text fromMethod
          toClass := ← required text toClass
          toMethod := ← required text toMethod }
  | _ => none

/-- An operation by its exact name; any other word is an unknown operation. -/
def Operation.decode (format : Format) : Decoder Operation := fun document =>
  (choice format document).map Operation.ofExactName

/-- A statement. -/
def Mapping.decode (format : Format) : Decoder Mapping := fun document => do
  match ← fields [["owner"], ["operation_id"], ["operation"], ["raw_text"], ["tables"]]
      document with
  | [owner, operationId, operation, rawText, tables] =>
      some
        { owner := ← defaulted text "" owner
          operationId := ← defaulted text "" operationId
          operation := ← defaulted (Operation.decode format) .unknown operation
          rawText := ← defaulted (optional text) none rawText
          tables := ← defaulted (listOf text) [] tables }
  | _ => none

/-- A batch job. -/
def BatchJob.decode : Decoder BatchJob := fun document => do
  match ← fields [["class_name"], ["job_name"], ["package_name"]] document with
  | [className, jobName, packageName] =>
      some
        { className := ← required text className
          jobName := ← required text jobName
          packageName := ← defaulted text "" packageName }
  | _ => none

/-- All facts. -/
def Facts.decode (format : Format) : Decoder Facts := fun document => do
  match ← fields [["endpoints"], ["call_edges", "calls"], ["sql_mappings", "sqls"],
      ["batch_jobs"]] document with
  | [endpoints, callEdges, mappings, batchJobs] =>
      some
        { endpoints := ← defaulted (listOf Endpoint.decode) [] endpoints
          callEdges := ← defaulted (listOf CallEdge.decode) [] callEdges
          mappings := ← defaulted (listOf (Mapping.decode format)) [] mappings
          batchJobs := ← defaulted (listOf BatchJob.decode) [] batchJobs }
  | _ => none

end TableReach
