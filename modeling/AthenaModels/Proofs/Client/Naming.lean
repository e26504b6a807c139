import AthenaModels.Proofs.Client.Removal
import AthenaModels.Proofs.Sql.Name

namespace AthenaModels.Client

open Materialization Program

variable {c : Client} {model : Model} {t : Relation} {catalog : Relation → Prop}
  {before after trace : List Warehouse.service.Event}
  {rest : Program Warehouse.service (Except Error Summary)} {location : String}

/-- The table whose name is written as the texts of the schema and the identifier. -/
def lookedUp (model : Model) (t : Relation) : Relation :=
  { t with schema := model.relation.schema, identifier := model.relation.identifier }

/-- The catalog answered whether it has the table that was asked for. -/
def ToldBy (c : Client) (model : Model) (catalog : Relation → Prop)
    (trace : List Warehouse.service.Event) : Prop :=
  ∀ result table, c.Finds model trace result →
    Sql.readTableExists (Sql.tableExists model.relation).toList = some table →
    (result.rows ≠ [] ↔ catalog table)

def EmptiesStaging (c : Client) (model : Model) (trace : List Warehouse.service.Event) : Prop :=
  ∀ before location reply after, trace = before ++ ⟨.deletePrefix location, reply⟩ :: after →
    ∃ suffix, ⟨.freshSuffix, suffix⟩ ∈ before ∧ location = c.stagingPlace model suffix

/-- All statements name the table, and a run takes it for the model's own if there is one. -/
structure TakesFor (c : Client) (model : Model) (t : Relation) (catalog : Relation → Prop)
    (trace : List Warehouse.service.Event) : Prop where
  names : model.relation.NamesOneTable t
  finds : catalog t → ¬ c.FindsNone model trace
  spares : catalog t → c.EmptiesStaging model trace

theorem ToldBy.rows_iff (told : c.ToldBy model catalog trace) (stands : model.relation.Stands t)
    {result : Result} (finds : c.Finds model trace result) :
    result.rows ≠ [] ↔ catalog (lookedUp model t) :=
  told result _ finds stands.readTableExists_eq

theorem ToldBy.not_findsNone (told : c.ToldBy model catalog trace)
    (stands : model.relation.Stands t) (listed : catalog (lookedUp model t)) :
    ¬ c.FindsNone model trace := by
  intro none
  obtain ⟨result, finds, rows⟩ := none
  exact (told.rows_iff stands finds).mpr listed rows

theorem FindsNone.append (none : c.FindsNone model before) : c.FindsNone model (before ++ after) := by
  obtain ⟨result, finds, rows⟩ := none
  exact ⟨result, finds.append after, rows⟩

theorem emptiesStaging_of_some (ran : Runs (c.materialize model).run trace rest)
    (some : ¬ c.FindsNone model trace) : c.EmptiesStaging model trace := by
  intro before location reply after split
  subst split
  rcases prefix_of_runs ran with staging | ⟨none, _⟩
  · exact staging
  · exact absurd none.append some

/-- A run goes by the texts of the schema and the identifier. These name the table, as all statements
on it do, just when the name is written as it is stored. -/
theorem takes_for_iff (c : Client) (model : Model) (catalog : Relation → Prop)
    (stands : model.relation.Stands t) (ran : Runs (c.materialize model).run trace rest)
    (told : c.ToldBy model catalog trace) :
    (c.TakesFor model t catalog trace ↔ model.relation.Bare) ∧
      Sql.readTable model.relation.display.toList = some t ∧
      Sql.readPair model.relation.ddlName.toList = some (t.schema, t.identifier) ∧
      (∀ result, c.Finds model trace result →
        (result.rows ≠ [] ↔ catalog (lookedUp model t))) ∧
      (catalog (lookedUp model t) → c.EmptiesStaging model trace) := by
  refine ⟨⟨fun takes => stands.namesOneTable_iff.mp takes.names, fun bare => ?_⟩,
    stands.readTable_display, stands.readPair_ddlName, fun _ => told.rows_iff stands,
    fun listed => emptiesStaging_of_some ran (told.not_findsNone stands listed)⟩
  -- A name without quotes and capitals is the stored one, so this is the table that is looked up.
  have same : model.relation = t := stands.eq_iff_bare.mpr bare
  have whole : lookedUp model t = t := by rw [lookedUp, same]
  have finds : catalog t → ¬ c.FindsNone model trace := by
    intro listed
    exact told.not_findsNone stands (whole ▸ listed)
  exact ⟨stands.namesOneTable_iff.mpr bare, finds,
    fun listed => emptiesStaging_of_some ran (finds listed)⟩

theorem Finds.played {σ : Type} {answer : (r : Warehouse.Request) → σ → Warehouse.Reply r × σ}
    {state : σ} {result : Result} (finds : c.Finds model trace result)
    (answered : AnsweredBy (S := Warehouse.service) answer state trace) :
    ((c.execute (Sql.tableExists model.relation)).run.play answer state).2 = .done (.ok result) := by
  obtain ⟨part, later, rfl, ran⟩ := finds
  rw [ran.play_eq answered.left_of_append]
  rfl

def isFound? : Program Warehouse.service (Except Error Result) → Option Bool
  | .done (.ok result) => some !result.rows.isEmpty
  | _ => none

theorem toldBy_play {σ : Type} {answer : (r : Warehouse.Request) → σ → Warehouse.Reply r × σ}
    {state : σ} {found : Bool} (stands : model.relation.Stands t)
    (looked : isFound? ((c.execute (Sql.tableExists model.relation)).run.play answer state).2 =
      some found) (agrees : found = true ↔ catalog (lookedUp model t)) :
    c.ToldBy model catalog ((c.materialize model).run.play answer state).1 := by
  intro result table finds read
  cases stands.readTableExists_eq.symm.trans read
  have answered := answeredBy_play answer (c.materialize model).run state
  rw [finds.played answered, isFound?, Option.some.injEq] at looked
  rw [lookedUp, ← looked] at agrees
  rw [← agrees]
  cases result.rows <;> simp

def storedPage (stored : Relation) (sql : String) : Page :=
  match Sql.readTableExists sql.toList with
  | some table => dayPage "table_name" (if table = stored then [stored.identifier] else [])
  | none => dayAnswer sql

def storedAnswers (stored : Relation) :
    (r : Warehouse.Request) → String → Warehouse.Reply r × String
  | .page _ _, sql => (.ok (storedPage stored sql), sql)
  | r, sql => dayAnswers r sql

/-- A run with a catalog of one table. -/
def runWith (stored : Relation) (c : Client) (model : Model) :
    List Warehouse.service.Event × Program Warehouse.service (Except Error Summary) :=
  (c.materialize model).run.play (storedAnswers stored) ""

theorem dayTable_stands : dayModel.relation.Stands dayTable where
  database := .of_plain (by decide) (by decide) (by decide)
  schema := .of_plain (by decide) (by decide) (by decide)
  identifier := .of_plain (by decide) (by decide) (by decide)

theorem takes_for_iff_day :
    let c : Client := ⟨.ofRequired "s3://b/" "region" "schema" "catalog", 1⟩
    isFound? ((c.execute (Sql.tableExists dayModel.relation)).run.play
        (storedAnswers dayTable) "").2 = some true ∧
      dayTable.Bare ∧ c.EmptiesStaging dayModel (runWith dayTable c dayModel).1 ∧
      c.TakesFor dayModel dayTable (· = dayTable) (runWith dayTable c dayModel).1 := by
  intro c
  have found : isFound? ((c.execute (Sql.tableExists dayModel.relation)).run.play
      (storedAnswers dayTable) "").2 = some true := by decide +kernel
  have told : c.ToldBy dayModel (· = dayTable) (runWith dayTable c dayModel).1 :=
    toldBy_play dayTable_stands found (by decide)
  have played : Runs (c.materialize dayModel).run (runWith dayTable c dayModel).1
      (runWith dayTable c dayModel).2 := runs_play _ _ _
  have bare : dayTable.Bare := dayTable_stands.eq_iff_bare.mp rfl
  obtain ⟨takes, _, _, _, empties⟩ := c.takes_for_iff dayModel _ dayTable_stands played told
  exact ⟨found, bare, empties rfl, takes.mpr bare⟩

def quotedTable : Relation := ⟨"awsdatacatalog", "analytics", "\"my-events\""⟩

def storedTable : Relation := ⟨"awsdatacatalog", "analytics", "my-events"⟩

def quotedModel : Model where
  relation := quotedTable
  sql := "SELECT * FROM source"
  table := { TableConfig.default with location := some "s3://b/events/" }
  incremental := .ofStrategy .append

theorem quotedTable_stands : quotedModel.relation.Stands storedTable where
  database := .of_plain (by decide) (by decide) (by decide)
  schema := .of_plain (by decide) (by decide) (by decide)
  identifier := .of_quoted (by decide) (by decide)

/-- The table is not found under its name with the quotes, and its place is emptied. -/
theorem empties_stored_table :
    let c : Client := ⟨.ofRequired "s3://b/" "region" "analytics" "awsdatacatalog", 1⟩
    let events := (runWith storedTable c quotedModel).1
    quotedModel.relation.Stands storedTable ∧ c.ToldBy quotedModel (· = storedTable) events ∧
      Sql.readTable quotedTable.partitionsTable.toList = none ∧
      (∃ reply, ⟨.deletePrefix "s3://b/events/", reply⟩ ∈ events) ∧
      ¬ c.EmptiesStaging quotedModel events ∧
      ¬ c.TakesFor quotedModel storedTable (· = storedTable) events := by
  intro c events
  have missed : isFound? ((c.execute (Sql.tableExists quotedModel.relation)).run.play
      (storedAnswers storedTable) "").2 = some false := by decide +kernel
  have told : c.ToldBy quotedModel (· = storedTable) events :=
    toldBy_play quotedTable_stands missed (by decide)
  have requests : events[4]?.map (·.request) = some (.deletePrefix "s3://b/events/") ∧
      ∀ event ∈ events.take 4, event.request ≠ .freshSuffix := by decide +kernel
  obtain ⟨emptied, unnamed⟩ := requests
  obtain ⟨reply, split⟩ := split_at_request emptied
  have elsewhere : ¬ c.EmptiesStaging quotedModel events := by
    intro staging
    obtain ⟨suffix, drawn, _⟩ := staging _ _ reply _ split
    exact unnamed _ drawn rfl
  exact ⟨quotedTable_stands, told, by decide +kernel, exists_mem_of_request emptied, elsewhere,
    fun takes => elsewhere (takes.spares rfl)⟩

end AthenaModels.Client
