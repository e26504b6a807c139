import AthenaModels.Engine.Shape

namespace AthenaModels.Engine

structure Operation where
  name : String
  result : Shape
  errors : List (String × Shape)

namespace Shape

def free (parts : List (String × Shape)) : Shape := .record parts []

def internalError : String × Shape :=
  ("InternalServerException", free [("Message", .text)])

def invalidRequest : String × Shape :=
  ("InvalidRequestException", free [("AthenaErrorCode", .text), ("Message", .text)])

def tooManyRequests : String × Shape :=
  ("TooManyRequestsException", free [("Message", .text), ("Reason", .text)])

def resultConfiguration : Shape :=
  free [
    ("OutputLocation", .text),
    ("EncryptionConfiguration",
      .record [("EncryptionOption", .text), ("KmsKey", .text)] ["EncryptionOption"]),
    ("ExpectedBucketOwner", .text),
    ("AclConfiguration", .record [("S3AclOption", .text)] ["S3AclOption"])]

def managedResults : Shape :=
  free [("Enabled", .flag), ("EncryptionConfiguration", free [("KmsKey", .text)])]

def resultReuse : Shape :=
  free [("ResultReuseByAgeConfiguration",
    free [("Enabled", .flag), ("MaxAgeInMinutes", .integer 32)])]

def accessGrants : Shape :=
  .record
    [("EnableS3AccessGrants", .flag), ("CreateUserLevelPrefix", .flag),
      ("AuthenticationType", .text)]
    ["AuthenticationType"]

def status : Shape :=
  free [
    ("State", .text),
    ("StateChangeReason", .text),
    ("SubmissionDateTime", .moment),
    ("CompletionDateTime", .moment),
    ("AthenaError",
      free [("ErrorCategory", .integer 32), ("ErrorType", .integer 32), ("Retryable", .flag),
        ("ErrorMessage", .text)])]

def statistics : Shape :=
  free [
    ("EngineExecutionTimeInMillis", .integer 64),
    ("DataScannedInBytes", .integer 64),
    ("DataManifestLocation", .text),
    ("TotalExecutionTimeInMillis", .integer 64),
    ("QueryQueueTimeInMillis", .integer 64),
    ("ServicePreProcessingTimeInMillis", .integer 64),
    ("QueryPlanningTimeInMillis", .integer 64),
    ("ServiceProcessingTimeInMillis", .integer 64),
    ("ResultReuseInformation", free [("ReusedPreviousResult", .flag)]),
    ("DpuCount", .real)]

def execution : Shape :=
  free [
    ("QueryExecutionId", .text),
    ("Query", .text),
    ("StatementType", .text),
    ("ManagedQueryResultsConfiguration", managedResults),
    ("ResultConfiguration", resultConfiguration),
    ("ResultReuseConfiguration", resultReuse),
    ("QueryExecutionContext", free [("Database", .text), ("Catalog", .text)]),
    ("Status", status),
    ("Statistics", statistics),
    ("WorkGroup", .text),
    ("EngineVersion", free [("SelectedEngineVersion", .text), ("EffectiveEngineVersion", .text)]),
    ("ExecutionParameters", .list .text),
    ("SubstatementType", .text),
    ("QueryResultsS3AccessGrantsConfiguration", accessGrants)]

def column : Shape :=
  free [
    ("CatalogName", .text),
    ("SchemaName", .text),
    ("TableName", .text),
    ("Name", .text),
    ("Label", .text),
    ("Type", .text),
    ("Precision", .integer 32),
    ("Scale", .integer 32),
    ("Nullable", .text),
    ("CaseSensitive", .flag)]

def row : Shape := free [("Data", .list (free [("VarCharValue", .text)]))]

def resultSet : Shape :=
  free [("Rows", .list row), ("ResultSetMetadata", free [("ColumnInfo", .list column)])]

end Shape

namespace Operation

open Shape

def start : Operation where
  name := "StartQueryExecution"
  result := free [("QueryExecutionId", .text)]
  errors := [internalError, invalidRequest, tooManyRequests]

def execution : Operation where
  name := "GetQueryExecution"
  result := free [("QueryExecution", Shape.execution)]
  errors := [internalError, invalidRequest]

def results : Operation where
  name := "GetQueryResults"
  result := free [("UpdateCount", .integer 64), ("ResultSet", resultSet), ("NextToken", .text)]
  errors := [internalError, invalidRequest, tooManyRequests]

def stop : Operation where
  name := "StopQueryExecution"
  result := free []
  errors := [internalError, invalidRequest]

end Operation
end AthenaModels.Engine
