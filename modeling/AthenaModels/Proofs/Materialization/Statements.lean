import AthenaModels.Proofs.Materialization.Requests
import AthenaModels.Proofs.Sql.Verb

namespace AthenaModels

namespace Sql

/-- The statement names a table together with its catalog. -/
inductive NamesInFull (table : Relation) : String → Prop where
  | tableExists : NamesInFull table (tableExists table)
  | columns : NamesInFull table (columns table)
  | distinctPartitions (keys : List String) : NamesInFull table (distinctPartitions table keys)
  | existingPartitions : NamesInFull table (existingPartitions table)
  | filePaths (partitions : List Partition) : NamesInFull table (filePaths table partitions)
  | insert (source : Relation) (names : List String) : NamesInFull table (insert table source names)
  | creation {config : TableConfig} {sql location text : String}
      (made : config.creation table sql location = .ok text) : NamesInFull table text

/-- The statement names a table without its catalog. -/
inductive NamesInPart (table : Relation) : String → Prop where
  | dropPartitions (partitions : List Partition) : NamesInPart table (dropPartitions table partitions)
  | dropTable : NamesInPart table (dropTable table)

end Sql

def Model.Uses (model : Model) (table : Relation) : Prop :=
  table = model.relation ∨ ∃ suffix, table = model.relation.staging suffix

namespace Materialization

open Fallible Sql

/-- Rows are only asked for from, and tables only filled under, names in full. -/
def Names (model : Model) : Request → Prop
  | .query sql | .fill sql _ => ∃ table, model.Uses table ∧ NamesInFull table sql
  | .statement sql => ∃ table, model.Uses table ∧ (NamesInFull table sql ∨ NamesInPart table sql)
  | _ => True

variable {profile : Profile} {model : Model} {suffix : String} {past : List service.Event}
  {request : Request}

theorem Writes.names (writes : Writes model suffix past request) : Names model request := by
  have target : model.Uses model.relation := .inl rfl
  cases writes with
  | columns => exact ⟨_, target, .columns⟩
  | incoming => exact ⟨_, .inr ⟨suffix, rfl⟩, .distinctPartitions _⟩
  | existing => exact ⟨_, target, .existingPartitions⟩
  | files _ partitions => exact ⟨_, target, .filePaths partitions⟩
  | alter _ partitions => exact ⟨_, target, .inr (.dropPartitions partitions)⟩
  | delete => trivial
  | insert columns => exact ⟨_, target, .inl (.insert _ columns)⟩

theorem Asks.names (asks : Asks profile model past request) : Names model request := by
  cases asks with
  | presence => exact ⟨_, .inl rfl, .tableExists⟩
  | create _ made => exact ⟨_, .inl rfl, .creation made⟩
  | stage _ made => exact ⟨_, .inr ⟨_, rfl⟩, .creation made⟩
  | write _ writes => exact writes.names
  | discard => exact ⟨_, .inr ⟨_, rfl⟩, .inr .dropTable⟩
  | uuid => trivial
  | suffix => trivial
  | clear => trivial

theorem run_names (profile : Profile) (model : Model) :
    (ExceptT.run (run profile model)).Makes (Names model) :=
  (run_keeps profile model).makes fun _ _ asks => asks.names

/-- Rows are asked for by queries, tables are created when they are filled, and what else is done to
tables is done to those that there are. -/
def Does (model : Model) (past : List service.Event) : Request → Prop
  | .query sql => Sql.Verb.select.Opens sql
  | .fill sql location => Sql.Verb.create.Opens sql ∧
      ∃ table, model.Uses table ∧ Sql.placeOf? table sql = some location
  | .statement sql => Present model past ∧ ∃ verb : Sql.Verb, verb.Opens sql ∧
      verb ≠ .select ∧ verb ≠ .create ∧
        (verb = .alter → model.incremental.validate = .ok .insertOverwrite)
  | _ => True

theorem Writes.does (writes : Writes model suffix past request)
    (present : Present model past) : Does model past request := by
  cases writes with
  | columns => exact Sql.opens_columns _
  | incoming => exact Sql.opens_distinctPartitions _ _
  | existing => exact Sql.opens_existingPartitions _
  | files => exact Sql.opens_filePaths _ _
  | alter overwrites partitions =>
      exact ⟨present, .alter, Sql.opens_dropPartitions _ _, nofun, nofun, fun _ => overwrites⟩
  | delete => trivial
  | insert columns =>
      exact ⟨present, .insert, Sql.opens_insert _ _ _, nofun, nofun, nofun⟩

theorem Asks.does (asks : Asks profile model past request) : Does model past request := by
  cases asks with
  | presence => exact Sql.opens_tableExists _
  | create placed made => exact ⟨Sql.opens_creation made, _, .inl rfl, Sql.placeOf?_creation made⟩
  | stage named made =>
      exact ⟨Sql.opens_creation made, _, .inr ⟨_, rfl⟩, Sql.placeOf?_creation made⟩
  | write named writes => exact writes.does named.present
  | discard named =>
      exact ⟨named.present, .drop, Sql.opens_dropTable _, nofun, nofun, nofun⟩
  | uuid => trivial
  | suffix => trivial
  | clear => trivial

def statement? : Request → Option String
  | .query sql | .statement sql | .fill sql _ => some sql
  | _ => none

theorem Asks.fills {sql : String} (asks : Asks profile model past request)
    (submits : statement? request = some sql) (creates : Sql.Verb.create.Opens sql) :
    ∃ table location, request = .fill sql location ∧ model.Uses table ∧
      Sql.placeOf? table sql = some location := by
  have does := asks.does
  cases request with
  | query =>
      cases submits
      cases creates.unique does
  | statement =>
      cases submits
      obtain ⟨_, verb, opens, _, other, _⟩ := does
      exact absurd (opens.unique creates) other
  | fill _ location =>
      cases submits
      obtain ⟨_, table, uses, place⟩ := does
      exact ⟨table, location, rfl, uses, place⟩
  | _ => cases submits

/-- What is neither asked for nor created is changed in a table that there is. -/
theorem Asks.changes {sql : String} {verb : Sql.Verb}
    (asks : Asks profile model past request) (submits : statement? request = some sql)
    (opens : verb.Opens sql) (asking : verb ≠ .select) (creating : verb ≠ .create) :
    Present model past ∧ (verb = .alter → model.incremental.validate = .ok .insertOverwrite) := by
  have does := asks.does
  cases request with
  | query =>
      cases submits
      exact absurd (opens.unique does) asking
  | fill =>
      cases submits
      exact absurd (opens.unique does.1) creating
  | statement =>
      cases submits
      obtain ⟨present, other, same, _, _, overwrites⟩ := does
      cases opens.unique same
      exact ⟨present, overwrites⟩
  | _ => cases submits

theorem Asks.not_looks {sql : String}
    (asks : Asks profile model past request) (submits : statement? request = some sql)
    (appends : model.incremental.validate = .ok .append)
    (plain : ∀ suffix, ⟨.freshSuffix, suffix⟩ ∈ past → ')' ∉ suffix.toList) :
    ¬ Sql.LooksAtFiles model.relation sql := by
  have creates : ∀ {text location}, Does model past (.fill text location) →
      ¬ Sql.LooksAtFiles model.relation text := fun does => does.1.not_looks nofun
  have states : ∀ {text}, Does model past (.statement text) →
      ¬ Sql.LooksAtFiles model.relation text := by
    rintro text ⟨_, verb, opens, other, _⟩
    exact opens.not_looks other
  have does := asks.does
  cases asks with
  | presence =>
      cases submits
      exact Sql.not_looks_of_tableExists
  | create =>
      cases submits
      exact creates does
  | stage =>
      cases submits
      exact creates does
  | discard =>
      cases submits
      exact states does
  | write named writes =>
      cases writes with
      | columns =>
          cases submits
          exact Sql.not_looks_of_columns
      | incoming =>
          cases submits
          exact Sql.not_looks_of_distinctPartitions (plain _ named.drawn) _
      | existing =>
          cases submits
          exact Sql.not_looks_of_existingPartitions
      | files overwrites => cases appends.symm.trans overwrites
      | alter overwrites => cases appends.symm.trans overwrites
      | delete overwrites => cases appends.symm.trans overwrites
      | insert =>
          cases submits
          exact states does
  | uuid => cases submits
  | suffix => cases submits
  | clear => cases submits

end Materialization
end AthenaModels
