import TableReach.MethodId
import TableReach.Operation

/-!
# Facts

What is known about a service before the analysis: its endpoints, which method
calls which, the statements that methods of the data-access layer run, and its
batch jobs.
-/

namespace TableReach

/-- An endpoint of a service: where it listens and which method it enters. -/
structure Endpoint where
  /-- The method of the protocol. -/
  httpMethod : String
  /-- The path. -/
  urlPath : String
  /-- The class of the entered method. -/
  entryClass : String
  /-- The name of the entered method. -/
  entryMethod : String
  /-- The package of the entered class. -/
  packageName : String
deriving DecidableEq

namespace Endpoint

/-- The identifier of the entered method. -/
def entryId (endpoint : Endpoint) : MethodId :=
  MethodId.ofParts endpoint.entryClass endpoint.entryMethod

/-- The endpoint as it is shown. -/
def display (endpoint : Endpoint) : String :=
  endpoint.httpMethod ++ " " ++ endpoint.urlPath ++ " (" ++ endpoint.entryId ++ ")"

/-- The endpoint with the method of the protocol in upper case. -/
def normalize (endpoint : Endpoint) : Endpoint :=
  { endpoint with httpMethod := Text.upperAscii endpoint.httpMethod }

end Endpoint

/-- A call from one method to another. -/
structure CallEdge where
  /-- The class that calls. -/
  fromClass : String
  /-- The method that calls. -/
  fromMethod : String
  /-- The class that is called. -/
  toClass : String
  /-- The method that is called. -/
  toMethod : String
deriving DecidableEq

namespace CallEdge

/-- The identifier of the calling method. -/
def fromId (edge : CallEdge) : MethodId :=
  MethodId.ofParts edge.fromClass edge.fromMethod

/-- The identifier of the called method. -/
def toId (edge : CallEdge) : MethodId :=
  MethodId.ofParts edge.toClass edge.toMethod

end CallEdge

/-- A statement that a method of the data-access layer runs. -/
structure Mapping where
  /-- The class that owns the statement. -/
  owner : String
  /-- The name of the statement in its class. -/
  operationId : String
  /-- What the statement does. -/
  operation : Operation
  /-- The text of the statement. -/
  rawText : Option String
  /-- The tables of the statement. -/
  tables : List String
deriving DecidableEq

namespace Mapping

/-- The identifier of the statement. -/
def qualifiedId (mapping : Mapping) : MethodId :=
  MethodId.ofParts mapping.owner mapping.operationId

/-- The simple name of the owner. -/
def simpleOwner (mapping : Mapping) : String :=
  simpleName mapping.owner

end Mapping

/-- A job that runs on its own. -/
structure BatchJob where
  /-- The class of the job. -/
  className : String
  /-- The name of the job. -/
  jobName : String
  /-- The package of the class. -/
  packageName : String
deriving DecidableEq

/-- All that is known about a service. -/
structure Facts where
  /-- The endpoints. -/
  endpoints : List Endpoint
  /-- The calls. -/
  callEdges : List CallEdge
  /-- The statements. -/
  mappings : List Mapping
  /-- The batch jobs. -/
  batchJobs : List BatchJob
deriving DecidableEq

/-- What a statement does to one table for one endpoint. -/
structure Link where
  /-- The endpoint. -/
  endpoint : Endpoint
  /-- The table. -/
  table : String
  /-- The letter of the operation. -/
  code : Char
deriving DecidableEq

/-- The link of a known operation. -/
def Link.derive?
    (endpoint : Endpoint)
    (table : String)
    (operation : Operation) : Option Link :=
  operation.code?.map fun code => { endpoint := endpoint, table := table, code := code }

end TableReach
