import AthenaModels.Partition.Plan
import AthenaModels.Relation
import AthenaModels.Table.Basic

namespace AthenaModels

structure Model where
  relation : Relation
  sql : String
  table : TableConfig
  incremental : IncrementalConfig

structure Summary where
  relation : Relation
  strategy : Strategy
  created : Bool
  plan : Plan
  objectsDeleted : Nat
deriving DecidableEq, Repr

def Summary.toJson (s : Summary) : Json :=
  .ofMembers [("relation", s.relation.toJson), ("strategy", s.strategy.toJson),
    ("created", .bool s.created), ("plan", s.plan.toJson),
    ("objects_deleted", .natural s.objectsDeleted)]

end AthenaModels
