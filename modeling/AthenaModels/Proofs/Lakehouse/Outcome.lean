import AthenaModels.Proofs.Client.Overwriting
import AthenaModels.Proofs.Lakehouse.Engine
import AthenaModels.Proofs.Lakehouse.Writing

namespace AthenaModels

namespace Lakehouse

variable {lake : Lakehouse} {before after : lake.Table} {strategy : Strategy}

/-- Every file belongs to a partition that the catalog knows. -/
def Table.Tidy (table : lake.Table) : Prop :=
  ∀ file ∈ table.files, table.registered (lake.directory file.path)

theorem Table.Tidy.content_eq_zero (tidy : before.Tidy) {place : Place lake.keys}
    (unknown : ¬before.registered place) : before.content place = 0 := by
  have none : before.files.filter (fun file => lake.directory file.path = place) = [] := by
    rw [List.filter_eq_nil_iff]
    intro file listed here
    have there : lake.directory file.path = place := of_decide_eq_true here
    exact unknown (there ▸ tidy file listed)
  rw [Table.content, recordsIn, none]
  rfl

instance (place : Place lake.keys) : Decidable (lake.Incoming place) :=
  inferInstanceAs (Decidable (∃ record ∈ lake.staged, lake.placeOf record = place))

/-- What a strategy is to make of the records of a partition. -/
def intended (lake : Lakehouse) (strategy : Strategy) (table : lake.Table)
    (place : Place lake.keys) : Multiset lake.Record :=
  match strategy with
  | .append => table.content place + lake.arriving place
  | .insertOverwrite =>
      if lake.Incoming place then lake.arriving place else table.content place

theorem Written.content_eq (written : Written strategy before after) (tidy : before.Tidy)
    (place : Place lake.keys) : after.content place = lake.intended strategy before place := by
  cases strategy with
  | append => exact written.kept place fun replaced => nomatch replaced.1
  | insertOverwrite =>
      dsimp only [intended]
      by_cases incoming : lake.Incoming place
      · rw [if_pos incoming]
        by_cases known : before.registered place
        · exact written.replaced place ⟨rfl, known, incoming⟩
        · rw [written.kept place fun replaced => known replaced.2.1, tidy.content_eq_zero known,
            Multiset.zero_add]
      · rw [if_neg incoming, written.kept place fun replaced => incoming replaced.2.2,
          arriving_eq_zero incoming, Multiset.add_zero]

end Lakehouse

namespace Client

open Lakehouse

def dayPlace (day : String) (unmarked : day ≠ Partition.nullMarker) : Place ["day"] :=
  ⟨⟨[("day", some day)]⟩, rfl, by simpa using unmarked⟩

def monday : Place ["day"] := dayPlace "monday" (by decide)

def tuesday : Place ["day"] := dayPlace "tuesday" (by decide)

def wednesday : Place ["day"] := dayPlace "wednesday" (by decide)

def days : Lakehouse where
  Record := String × Place ["day"]
  target := dayTable
  columns := ["row", "day"]
  keys := ["day"]
  nodup := by decide
  partitioned := by decide
  staged := [("new", tuesday), ("new", wednesday)]
  placeOf := Prod.snd
  directory path :=
    if Text.startsWith "s3://b/days/monday/" path then monday
    else if Text.startsWith "s3://b/days/tuesday/" path then tuesday
    else wednesday

theorem directory_tuesday (name : String) :
    days.directory ("s3://b/days/tuesday/" ++ name) = tuesday := by
  simp only [days, Text.startsWith, String.toList_append]
  rfl

theorem directory_wednesday (name : String) :
    days.directory ("s3://b/days/wednesday/" ++ name) = wednesday := by
  simp only [days, Text.startsWith, String.toList_append]
  rfl

def dayEngine : days.Engine where
  plain := by decide
  path number record :=
    (if record.2 = tuesday then "s3://b/days/tuesday/" else "s3://b/days/wednesday/") ++
      String.ofList (List.replicate number 'n')
  inside := by
    intro number record member
    rcases List.mem_pair.mp member with rfl | rfl
    · exact directory_tuesday _
    · exact directory_wednesday _

/-- Old rows for two days, with deletions that are refused at first. -/
def dayLedger (refusals : Nat) : days.Ledger where
  known := [monday, tuesday]
  files := [⟨"s3://b/days/monday/o", [("old", monday)]⟩,
    ⟨"s3://b/days/tuesday/o", [("old", tuesday)]⟩]
  jobs _ := none
  submitted := 0
  refusals := refusals

theorem tidy_dayLedger (refusals : Nat) : (dayLedger refusals).world.table.Tidy := by
  change ∀ file ∈ (dayLedger 0).files, days.directory file.path ∈ (dayLedger 0).known
  decide +kernel

theorem idle_dayLedger (refusals : Nat) : (dayLedger refusals).Idle :=
  fun _ _ underway => nomatch underway

theorem fits_dayModel : days.Fits dayModel := ⟨rfl, rfl⟩

def dayClient : Client := ⟨.ofRequired "s3://b/" "region" "schema" "catalog", 1⟩

def dayRun (ledger : days.Ledger) :
    List Warehouse.service.Event × Program Warehouse.service (Except Error Summary) :=
  (dayClient.materialize dayModel).run.play dayEngine.serve ledger

theorem runs_dayRun (ledger : days.Ledger) :
    (dayClient.materialize dayModel).run.Runs (dayRun ledger).1 (dayRun ledger).2 :=
  Program.runs_play _ _ _

def dayAfter (ledger : days.Ledger) : days.Ledger :=
  Program.stateAfter dayEngine.serve ledger (dayRun ledger).1

theorem idle_dayAfter {ledger : days.Ledger} (idle : ledger.Idle) : (dayAfter ledger).Idle :=
  Program.stateAfter_of dayEngine.serve_idle idle _

theorem steps_dayRun (ledger : days.Ledger) :
    days.protocol.Steps ledger.world (dayRun ledger).1 (dayAfter ledger).world :=
  Program.steps_play dayEngine.serve_step _ _

theorem ended_dayRun : (dayRun (dayLedger 0)).2.ended? = some true := by
  decide +kernel

end Client
end AthenaModels
