import CsvCleaning.Flags
import CsvCleaning.Json.Shape

/-!
# Replies of the service

The bodies that the service answers with, their shapes and their JSON forms. A reply is read from an object
that has its members, in any order; what else may stand there is for the shape to say.
-/

namespace CsvCleaning

/-- A row of a table: its cells by column. -/
abbrev Row := SortedMap Json

/-- The answer to a health check. -/
structure HealthReply where
  message : String
deriving DecidableEq

/-- The answer to an upload. -/
structure UploadReply where
  filename : String
  status : Bool
  message : String
  fileId : String
deriving DecidableEq

/-- The service's profile of the uploaded data. -/
structure DataSummary where
  filename : String
  rowsCount : Nat
  columnsCount : Nat
  columns : List String
  dataTypes : SortedMap String
  missingValues : SortedMap Nat
  sampleRows : List Row
  duplicateRows : Nat
  memoryUsage : String
deriving DecidableEq

/-- The answer to a request for processing. -/
structure ProcessReply where
  fileId : String
  message : String
  script : Option String
  dataSummary : Option DataSummary
deriving DecidableEq

/-- The answer to a request for execution. -/
structure ExecuteReply where
  message : String
  processedRows : Nat
deriving DecidableEq

/-- The cleaned table as the service sends it. -/
structure ResultReply where
  fileId : String
  message : String
  data : List Row
  columns : List String
  rowsCount : Nat
deriving DecidableEq

/-- How far the service has come with a file. -/
structure StatusReport where
  fileId : String
  flags : Flags
deriving DecidableEq

/-- The body of an error answer. -/
structure ErrorEnvelope where
  detail : String
deriving DecidableEq

open Json (Doc Fault Shape readString readFlag readCount readList readMap readOption)

/-- Read a row. -/
def Row.ofDoc : Doc → Except Fault Row :=
  readMap Doc.value

/-- The JSON form of a row. -/
def Row.toJson (row : Row) : Json :=
  .object row.entries

namespace HealthReply

/-- The fields of a health answer. -/
def shape : Shape HealthReply :=
  (Shape.pure HealthReply.mk).and (.required "message" readString)

/-- Read a health answer. -/
def ofDoc : Doc → Except Fault HealthReply :=
  shape.read "HealthResponse"

/-- The members that a health answer has in JSON. -/
def members (r : HealthReply) : List (String × Json) :=
  [("message", .text r.message)]

/-- The JSON form of a health answer. -/
def toJson (r : HealthReply) : Json :=
  .ofMembers r.members

end HealthReply

namespace UploadReply

/-- The fields of an upload answer. -/
def shape : Shape UploadReply :=
  (((Shape.pure UploadReply.mk).and (.required "filename" readString)).and
    (.withDefault "status" readFlag false)).and (.withDefault "message" readString "")
    |>.and (.required "file_id" readString)

/-- Read an upload answer. -/
def ofDoc : Doc → Except Fault UploadReply :=
  shape.read "UploadResponse"

/-- The members that an upload answer has in JSON. -/
def members (r : UploadReply) : List (String × Json) :=
  [("filename", .text r.filename), ("status", .bool r.status), ("message", .text r.message),
    ("file_id", .text r.fileId)]

/-- The JSON form of an upload answer. -/
def toJson (r : UploadReply) : Json :=
  .ofMembers r.members

end UploadReply

namespace DataSummary

/-- The fields of a profile. -/
def shape : Shape DataSummary :=
  (Shape.pure DataSummary.mk).and (.required "filename" readString)
    |>.and (.required "rows_count" readCount)
    |>.and (.required "columns_count" readCount)
    |>.and (.required "columns" (readList readString))
    |>.and (.withDefault "data_types" (readMap readString) .empty)
    |>.and (.withDefault "missing_values" (readMap readCount) .empty)
    |>.and (.withDefault "sample_rows" (readList Row.ofDoc) [])
    |>.and (.withDefault "duplicate_rows" readCount 0)
    |>.and (.withDefault "memory_usage" readString "")

/-- Read a profile. -/
def ofDoc : Doc → Except Fault DataSummary :=
  shape.read "DataSummary"

/-- The members that a profile has in JSON. -/
def members (r : DataSummary) : List (String × Json) :=
  [("filename", .text r.filename), ("rows_count", .count r.rowsCount),
    ("columns_count", .count r.columnsCount), ("columns", .texts r.columns),
    ("data_types", .object (r.dataTypes.entries.map fun e => (e.1, .text e.2))),
    ("missing_values", .object (r.missingValues.entries.map fun e => (e.1, .count e.2))),
    ("sample_rows", .array (r.sampleRows.map Row.toJson)),
    ("duplicate_rows", .count r.duplicateRows), ("memory_usage", .text r.memoryUsage)]

/-- The JSON form of a profile. -/
def toJson (r : DataSummary) : Json :=
  .ofMembers r.members

end DataSummary

namespace ProcessReply

/-- The fields of a processing answer. -/
def shape : Shape ProcessReply :=
  (Shape.pure ProcessReply.mk).and (.required "file_id" readString)
    |>.and (.required "message" readString)
    |>.and (.withDefault "script" (readOption readString) none)
    |>.and (.withDefault "data_summary" (readOption DataSummary.ofDoc) none)

/-- Read a processing answer. -/
def ofDoc : Doc → Except Fault ProcessReply :=
  shape.read "ProcessResponse"

/-- The members that a processing answer has in JSON, with its profile written as given. -/
def members (r : ProcessReply) (summary : Json) : List (String × Json) :=
  [("file_id", .text r.fileId), ("message", .text r.message), ("script", .ofOption .text r.script),
    ("data_summary", summary)]

/-- The JSON form of a processing answer. -/
def toJson (r : ProcessReply) : Json :=
  .ofMembers (r.members (.ofOption DataSummary.toJson r.dataSummary))

end ProcessReply

namespace ExecuteReply

/-- The fields of an execution answer. -/
def shape : Shape ExecuteReply :=
  ((Shape.pure ExecuteReply.mk).and (.required "message" readString)).and
    (.required "processed_rows" readCount)

/-- Read an execution answer. -/
def ofDoc : Doc → Except Fault ExecuteReply :=
  shape.read "ExecuteResponse"

/-- The members that an execution answer has in JSON. -/
def members (r : ExecuteReply) : List (String × Json) :=
  [("message", .text r.message), ("processed_rows", .count r.processedRows)]

/-- The JSON form of an execution answer. -/
def toJson (r : ExecuteReply) : Json :=
  .ofMembers r.members

end ExecuteReply

namespace ResultReply

/-- The fields of a result. -/
def shape : Shape ResultReply :=
  (Shape.pure ResultReply.mk).and (.required "file_id" readString)
    |>.and (.withDefault "message" readString "")
    |>.and (.required "data" (readList Row.ofDoc))
    |>.and (.required "columns" (readList readString))
    |>.and (.required "rows_count" readCount)

/-- Read a result. -/
def ofDoc : Doc → Except Fault ResultReply :=
  shape.read "ResultResponse"

/-- The members that a result has in JSON. -/
def members (r : ResultReply) : List (String × Json) :=
  [("file_id", .text r.fileId), ("message", .text r.message), ("data", .array (r.data.map Row.toJson)),
    ("columns", .texts r.columns), ("rows_count", .count r.rowsCount)]

/-- The JSON form of a result. -/
def toJson (r : ResultReply) : Json :=
  .ofMembers r.members

end ResultReply

namespace ErrorEnvelope

/-- The fields of an error answer. -/
def shape : Shape ErrorEnvelope :=
  (Shape.pure ErrorEnvelope.mk).and (.required "detail" readString)

/-- Read an error answer. -/
def ofDoc : Doc → Except Fault ErrorEnvelope :=
  shape.read "ErrorEnvelope"

/-- The members that an error answer has in JSON. -/
def members (r : ErrorEnvelope) : List (String × Json) :=
  [("detail", .text r.detail)]

/-- The JSON form of an error answer. -/
def toJson (r : ErrorEnvelope) : Json :=
  .ofMembers r.members

end ErrorEnvelope

namespace Flags

/-- The fields of the flags. -/
def shape : Shape Flags :=
  (Shape.pure Flags.mk).and (.required "uploaded" readFlag)
    |>.and (.required "processed_by_llm" readFlag)
    |>.and (.required "script_executed" readFlag)
    |>.and (.required "ready" readFlag)

/-- The members that the flags have in JSON. -/
def members (f : Flags) : List (String × Json) :=
  [("uploaded", .bool f.uploaded), ("processed_by_llm", .bool f.processed),
    ("script_executed", .bool f.executed), ("ready", .bool f.ready)]

/-- The JSON form of the flags. -/
def toJson (f : Flags) : Json :=
  .ofMembers f.members

end Flags

namespace StatusReport

open Json (checkMembers needStop memberNamed)

/-- Check the members of a report in document order: its file id at its place, every other member
as a value that is kept for later. -/
def checkReport : Bool → List (Except Fault String × Doc) → Except Fault Bool
  | seen, [] => .ok seen
  | seen, (key, d) :: rest =>
    match key with
    | .error f => .error f
    | .ok k =>
      if k = "file_id" then
        if seen then .error (.duplicateField k)
        else
          match readString d with
          | .error f => .error f
          | .ok _ => checkReport true rest
      else
        match d.value with
        | .error f => .error f
        | .ok _ => checkReport seen rest

/-- The members that are flags. -/
def flagMembers (members : List (Except Fault String × Doc)) :
    List (Except Fault String × Doc) :=
  members.filter fun e => match e.1 with
    | .ok k => Flags.shape.rules.any (·.name == k)
    | .error _ => false

/-- Read a report: an object of a file id and the flags. The file id is read in its place, the
flags when the whole object has been read. -/
def ofDoc : Doc → Except Fault StatusReport
  | .object tooDeep members stop =>
    if tooDeep then .error .nestedTooDeep
    else
      match checkReport false members with
      | .error f => .error f
      | .ok seen =>
        match needStop stop with
        | .error f => .error f
        | .ok () =>
          if seen then
            match (Shape.required "file_id" readString).build (memberNamed members) with
            | .error f => .error f
            | .ok fileId =>
              (Flags.shape.read "StageFlags" (.object false (flagMembers members) none)).map
                fun flags => ⟨fileId, flags⟩
          else .error (.missingField "file_id")
  | d => .error (d.mismatch "struct StatusSnapshot")

/-- The members that a report has in JSON: its flags stand beside its file id. -/
def members (r : StatusReport) : List (String × Json) :=
  ("file_id", .text r.fileId) :: r.flags.members

/-- The JSON form of a report. -/
def toJson (r : StatusReport) : Json :=
  .ofMembers r.members

end StatusReport

end CsvCleaning
