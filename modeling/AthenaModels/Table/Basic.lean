import AthenaModels.Error
import AthenaModels.Json.Basic
import AthenaModels.Source.Basic
import AthenaModels.Text.Basic
import AthenaModels.Text.Case

namespace AthenaModels

inductive FileFormat where
  | orc
  | parquet
  | avro
  | json
  | textFile
deriving DecidableEq, Repr

namespace FileFormat

def name : FileFormat → String
  | .orc => "ORC"
  | .parquet => "PARQUET"
  | .avro => "AVRO"
  | .json => "JSON"
  | .textFile => "TEXTFILE"

def all : List FileFormat := [.orc, .parquet, .avro, .json, .textFile]

def parse (text : String) : Except ConfigError FileFormat :=
  let word := Text.asciiUpper (Text.trim text)
  match all.find? (·.name = word) with
  | some format => .ok format
  | none =>
      .error (.invalid "format"
        ("'" ++ word ++ "' is not one of " ++ ", ".intercalate (all.map name)))

def read? {V : Type} [Source V] (value : V) : Option FileFormat := do
  (parse (← Source.text? value)).toOption

def toJson (format : FileFormat) : Json := .string format.name

end FileFormat

structure TableConfig where
  location : Option String
  partitionedBy : List String
  bucketedBy : List String
  bucketCount : Option Nat
  format : FileFormat
  compression : Option String
  delimiter : Option String
deriving DecidableEq, Repr

namespace TableConfig

def default : TableConfig where
  location := none
  partitionedBy := []
  bucketedBy := []
  bucketCount := none
  format := .parquet
  compression := none
  delimiter := none

def staging (location : String) : TableConfig :=
  { default with location := some location }

def isPartitioned (t : TableConfig) : Bool := !t.partitionedBy.isEmpty

def checkBuckets (t : TableConfig) : Except ConfigError Unit :=
  match t.bucketedBy.isEmpty, t.bucketCount with
  | true, some _ => .error (.invalid "bucket_count" "set without bucketed_by")
  | false, none => .error (.invalid "bucketed_by" "set without bucket_count")
  | false, some 0 => .error (.invalid "bucket_count" "must be positive")
  | _, _ => .ok ()

def checkColumns (t : TableConfig) : Except ConfigError Unit :=
  match t.bucketedBy.find? (t.partitionedBy.contains ·) with
  | some column => .error (.invalid "bucketed_by" ("'" ++ column ++ "' is also a partition column"))
  | none => .ok ()

def checkDelimiter (t : TableConfig) : Except ConfigError Unit :=
  if t.delimiter.isSome && t.format ≠ .textFile then
    .error (.invalid "field_delimiter" ("only valid with format TEXTFILE, not " ++ t.format.name))
  else .ok ()

def checkLocation (t : TableConfig) : Except ConfigError Unit :=
  match t.location with
  | some location =>
      if Text.startsWith "s3://" location then .ok ()
      else
        .error (.invalid "external_location" ("expected an s3:// URI, got '" ++ location ++ "'"))
  | none => .ok ()

def validate (t : TableConfig) : Except ConfigError Unit := do
  t.checkBuckets
  t.checkColumns
  t.checkDelimiter
  t.checkLocation

def read? {V : Type} [Source V] (value : V) : Option TableConfig := do
  let optionalText := Source.option? (Source.text? (V := V))
  let texts := Source.list? (Source.text? (V := V))
  let members ← Source.members? value
  members.fits 7
  some {
    location := ← members.defaulted 0 ["external_location"] optionalText none
    partitionedBy := ← members.defaulted 1 ["partitioned_by"] texts []
    bucketedBy := ← members.defaulted 2 ["bucketed_by"] texts []
    bucketCount :=
      ← members.defaulted 3 ["bucket_count"] (Source.option? (Source.below? (Nat.pow 2 32))) none
    format := ← members.defaulted 4 ["format"] FileFormat.read? .parquet
    compression := ← members.defaulted 5 ["write_compression"] optionalText none
    delimiter := ← members.defaulted 6 ["field_delimiter"] optionalText none }

def toJson (t : TableConfig) : Json :=
  .ofMembers [("external_location", .ofOption .string t.location),
    ("partitioned_by", .ofTexts t.partitionedBy), ("bucketed_by", .ofTexts t.bucketedBy),
    ("bucket_count", .ofOption .natural t.bucketCount), ("format", t.format.toJson),
    ("write_compression", .ofOption .string t.compression),
    ("field_delimiter", .ofOption .string t.delimiter)]

end TableConfig
end AthenaModels
