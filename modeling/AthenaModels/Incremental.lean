import AthenaModels.Error
import AthenaModels.Json.Basic
import AthenaModels.Source.Basic
import AthenaModels.Text.Basic

namespace AthenaModels

/-- `append` only adds rows; `insertOverwrite` replaces the partitions that the new rows touch. -/
inductive Strategy where
  | append
  | insertOverwrite
deriving DecidableEq, Repr

namespace Strategy

def name : Strategy → String
  | .append => "append"
  | .insertOverwrite => "insert_overwrite"

def ofName? : String → Option Strategy
  | "append" => some .append
  | "insert_overwrite" => some .insertOverwrite
  | _ => none

def parse (text : String) : Except ConfigError Strategy :=
  match ofName? (Text.trim text) with
  | some strategy => .ok strategy
  | none =>
      .error (.unsupported ("incremental_strategy '" ++ Text.trim text ++
        "'; expected 'append' or 'insert_overwrite'"))

def read? {V : Type} [Source V] (value : V) : Option Strategy := do
  ofName? (← Source.choice? value)

def toJson (strategy : Strategy) : Json := .string strategy.name

end Strategy

inductive UniqueKey where
  | single (column : String)
  | multiple (columns : List String)
deriving DecidableEq, Repr

namespace UniqueKey

def isEmpty : UniqueKey → Bool
  | .single column => Text.isBlankText column
  | .multiple columns => columns.all Text.isBlankText

def read? {V : Type} [Source V] (value : V) : Option UniqueKey :=
  match Source.word? value with
  | some column => some (.single column)
  | none => (Source.words? value).map .multiple

def toJson : UniqueKey → Json
  | .single column => .string column
  | .multiple columns => .ofTexts columns

end UniqueKey

structure IncrementalConfig where
  strategy : Option String
  uniqueKey : Option UniqueKey
deriving DecidableEq, Repr

namespace IncrementalConfig

def ofStrategy (strategy : Strategy) : IncrementalConfig := ⟨some strategy.name, none⟩

/-- The strategy that is meant. Neither strategy merges, so a key is refused. -/
def validate (config : IncrementalConfig) : Except ConfigError Strategy := do
  let strategy ←
    match config.strategy with
    | some name => Strategy.parse name
    | none => .ok .insertOverwrite
  if config.uniqueKey.any (!·.isEmpty) then
    .error (.unsupported ("unique_key is not supported with the '" ++ strategy.name ++
      "' strategy; remove it or deduplicate in the model"))
  else .ok strategy

def read? {V : Type} [Source V] (value : V) : Option IncrementalConfig := do
  let members ← Source.members? value
  members.fits 2
  some {
    strategy := ← members.defaulted 0 ["incremental_strategy"] (Source.option? Source.text?) none
    uniqueKey := ← members.defaulted 1 ["unique_key"] (Source.option? UniqueKey.read?) none }

def toJson (config : IncrementalConfig) : Json :=
  .ofMembers [("incremental_strategy", .ofOption .string config.strategy),
    ("unique_key", .ofOption UniqueKey.toJson config.uniqueKey)]

end IncrementalConfig
end AthenaModels
