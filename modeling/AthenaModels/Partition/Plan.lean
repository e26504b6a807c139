import AthenaModels.Incremental
import AthenaModels.Partition.Basic

namespace AthenaModels

structure Plan where
  /-- Partitions whose files are deleted and written again. -/
  replaced : List Partition
  /-- Partitions that are there and get more rows. -/
  appended : List Partition
  /-- Partitions that are not there yet. -/
  added : List Partition
  /-- Partitions that are there and get no rows. -/
  untouched : List Partition
deriving DecidableEq, Repr

namespace Plan

def empty : Plan := ⟨[], [], [], []⟩

def make (strategy : Strategy) (existing incoming : List Partition) : Plan :=
  let overlap := existing.filter (incoming.contains ·)
  { replaced := if strategy = .insertOverwrite then overlap else []
    appended := if strategy = .append then overlap else []
    added := incoming.filter (!existing.contains ·)
    untouched := existing.filter (!incoming.contains ·) }

def written (plan : Plan) : Nat :=
  plan.replaced.length + plan.appended.length + plan.added.length

def maxPartitions : Nat := 100

def exceedsLimit (plan : Plan) : Bool := maxPartitions < plan.written

def read? {V : Type} [Source V] (value : V) : Option Plan := do
  let members ← Source.members? value
  members.fits 4
  some {
    replaced := ← members.required 0 ["replaced"] (Source.list? Partition.read?)
    appended := ← members.required 1 ["appended"] (Source.list? Partition.read?)
    added := ← members.required 2 ["added"] (Source.list? Partition.read?)
    untouched := ← members.required 3 ["untouched"] (Source.list? Partition.read?) }

def toJson (plan : Plan) : Json :=
  .ofMembers [("replaced", .array (plan.replaced.map Partition.toJson)),
    ("appended", .array (plan.appended.map Partition.toJson)),
    ("added", .array (plan.added.map Partition.toJson)),
    ("untouched", .array (plan.untouched.map Partition.toJson))]

end Plan
end AthenaModels
