import AthenaModels.Proofs.Client.Cleanup

namespace AthenaModels.Client

open Materialization Program
open Warehouse (started)

variable {c : Client} {model : Model} {before after trace : List Warehouse.service.Event}
  {earlier : List Materialization.service.Event}
  {rest : Program Warehouse.service (Except Error Summary)}

def Finds (c : Client) (model : Model) (trace : List Warehouse.service.Event) (result : Result) :
    Prop :=
  ∃ part later, trace = part ++ later ∧
    Runs (c.execute (Sql.tableExists model.relation)).run part (.done (.ok result))

def FindsNone (c : Client) (model : Model) (trace : List Warehouse.service.Event) : Prop :=
  ∃ result, c.Finds model trace result ∧ result.rows = []

def FindsSome (c : Client) (model : Model) (trace : List Warehouse.service.Event) : Prop :=
  ∃ result, c.Finds model trace result ∧ result.rows ≠ []

/-- A look at the files of the table was answered with this one among them. -/
def Shows (c : Client) (model : Model) (trace : List Warehouse.service.Event) (uri : String) :
    Prop :=
  ∃ partitions first part later result files, trace = first ++ part ++ later ∧
    Runs (c.execute (Sql.filePaths model.relation partitions)).run part (.done (.ok result)) ∧
      texts? "$path" result = some files ∧ uri ∈ files

theorem Finds.append {result : Result} (finds : c.Finds model before result)
    (later : List Warehouse.service.Event) : c.Finds model (before ++ later) result := by
  obtain ⟨part, others, rfl, ran⟩ := finds
  exact ⟨part, others ++ later, List.append_assoc _ _ _, ran⟩

theorem Finds.unique {result other : Result} (first : c.Finds model trace result)
    (second : c.Finds model trace other) : result = other := by
  obtain ⟨part, later, rfl, ran⟩ := first
  obtain ⟨again, rest, same, ended⟩ := second
  exact Except.ok.inj (ran.prefix_unique ended same).2

variable {carried : List Warehouse.service.Event} (expands : Expands c.carryOut earlier carried)
include expands

theorem told_of_drawn {suffix : String} (drawn : ⟨.freshSuffix, suffix⟩ ∈ earlier) :
    ⟨.freshSuffix, suffix⟩ ∈ carried := by
  obtain ⟨first, part, later, rfl, ran⟩ := expands.part_of_mem drawn
  rw [runs_request ran]
  simp

theorem told_of_uuid {uuid : String} (drawn : ⟨.freshUuid, uuid⟩ ∈ earlier) :
    ⟨.freshUuid, uuid⟩ ∈ carried := by
  obtain ⟨first, part, later, rfl, ran⟩ := expands.part_of_mem drawn
  rw [runs_request ran]
  simp

theorem finds_of_expands {result : Result} {later : List Materialization.service.Event}
    (looked : earlier = ⟨.query (Sql.tableExists model.relation), .ok result⟩ :: later) :
    c.Finds model carried result := by
  subst looked
  cases expands with
  | @cons _ _ part more ran _ => exact ⟨part, more, rfl, ran⟩

theorem finds_of_missing (missing : Missing model earlier) : c.FindsNone model carried := by
  obtain ⟨result, later, looked, none⟩ := missing
  exact ⟨result, finds_of_expands expands looked, none⟩

theorem finds_of_present (present : Present model earlier) : c.FindsSome model carried := by
  obtain ⟨result, later, looked, some⟩ := present
  exact ⟨result, finds_of_expands expands looked, some⟩

theorem shows_of_lists {uri : String} (lists : Lists model earlier uri) :
    c.Shows model carried uri := by
  obtain ⟨partitions, result, files, looked, read, listed⟩ := lists
  obtain ⟨first, part, later, rfl, ran⟩ := expands.part_of_mem looked
  exact ⟨partitions, first, part, later, result, files, rfl, ran, read, listed⟩

theorem not_told_of_undeleted (undeleted : Undeleted earlier) (uris : List String)
    (reply : Except Error Nat) : ⟨.deleteObjects uris, reply⟩ ∉ carried := by
  intro member
  obtain ⟨⟨request, answer⟩, listed, part, ran, inside⟩ := expands.exists_of_mem member
  have serves := (c.carryOut_makes request).allowed_of_mem ran inside
  cases request with
  | deleteObjects => exact undeleted _ _ listed
  | fill => rcases serves with serves | serves <;> cases serves
  | _ => cases serves

omit expands

theorem prefix_of_runs {location : String} {reply : Except Error Nat}
    (ran : Runs (c.materialize model).run (before ++ ⟨.deletePrefix location, reply⟩ :: after)
      rest) :
    (∃ suffix, ⟨.freshSuffix, suffix⟩ ∈ before ∧ location = c.stagingPlace model suffix) ∨
      c.FindsNone model before ∧ ∃ uuid,
        (model.table.location = none → ⟨.freshUuid, uuid⟩ ∈ before) ∧
          location = model.table.resolveLocation c.profile uuid := by
  obtain ⟨earlier, request, asks, serves, carried, start, _, rfl, expands, _⟩ :=
    origin_of_runs ran
  have staging : ∀ {suffix}, Named model suffix earlier →
      ∃ name, ⟨.freshSuffix, name⟩ ∈ carried ++ start ∧
        c.stagingPlace model suffix = c.stagingPlace model name := fun named =>
    ⟨_, List.mem_append_left start (told_of_drawn expands named.drawn), rfl⟩
  cases request with
  | fill sql place =>
      rcases serves with serves | serves
      · cases serves
      · cases serves
        cases asks with
        | stage named _ => exact .inl (staging named)
        | write _ writes => cases writes
        | @create uuid _ placed _ =>
            obtain ⟨result, finds, none⟩ := finds_of_missing expands placed.missing
            refine .inr ⟨⟨result, finds.append start, none⟩, uuid, fun unplaced => ?_, rfl⟩
            exact List.mem_append_left start (told_of_uuid expands (placed.drawn unplaced))
  | deletePrefix place =>
      cases serves
      cases asks with
      | clear named _ => exact .inl (staging named)
      | write _ writes => cases writes
  | _ => cases serves

theorem start_eq_nil {r : Warehouse.Request} {start : List Warehouse.service.Event}
    {lower : Warehouse.service.Event} {left : Program Warehouse.service (Warehouse.Reply r)}
    (ran : Runs (Work.ask r) (start ++ [lower]) left) : start = [] := by
  cases start with
  | nil => rfl
  | cons event start =>
      rcases runs_ask.mp ran with ⟨none, _⟩ | ⟨reply, later, same, ended⟩
      · cases none
      · rw [(runs_done.mp ended).1] at same
        cases start <;> cases (List.cons.inj same).2

theorem objects_of_runs {uris : List String} {reply : Except Error Nat}
    (ran : Runs (c.materialize model).run (before ++ ⟨.deleteObjects uris, reply⟩ :: after) rest) :
    model.incremental.validate = .ok .insertOverwrite ∧ c.FindsSome model before ∧
      (∀ others answer, ⟨.deleteObjects others, answer⟩ ∉ before) ∧
      ∀ uri ∈ uris, c.Shows model before uri := by
  obtain ⟨earlier, request, asks, serves, carried, start, left, rfl, expands, served⟩ :=
    origin_of_runs ran
  cases request with
  | deleteObjects =>
      cases serves
      cases start_eq_nil served
      rw [List.append_nil]
      cases asks with
      | write named writes =>
          cases writes with
          | delete overwrites undeleted listed =>
              exact ⟨overwrites, finds_of_present expands named.present,
                not_told_of_undeleted expands undeleted,
                fun uri member => shows_of_lists expands (listed uri member)⟩
  | fill => rcases serves with serves | serves <;> cases serves
  | _ => cases serves

theorem suffix_of_runs {suffix : String}
    (ran : Runs (c.materialize model).run (before ++ ⟨.freshSuffix, suffix⟩ :: after) rest)
    (other : String) : ⟨.freshSuffix, other⟩ ∉ before := by
  obtain ⟨earlier, request, asks, serves, carried, start, left, rfl, expands, served⟩ :=
    origin_of_runs ran
  cases request with
  | freshSuffix =>
      cases start_eq_nil served
      rw [List.append_nil]
      intro drawn
      cases asks with
      | suffix _ undrawn => exact undrawn other (drawn_of_mem expands drawn)
      | write _ writes => cases writes
  | fill => rcases serves with serves | serves <;> cases serves
  | _ => cases serves

/-- No drawn name has a closing parenthesis in it; in fact they are hexadecimal digits. -/
def PlainNames (trace : List Warehouse.service.Event) : Prop :=
  ∀ suffix, ⟨.freshSuffix, suffix⟩ ∈ trace → ')' ∉ suffix.toList

structure Spares (model : Model) (trace : List Warehouse.service.Event) : Prop where
  kept : ∀ uris reply, ⟨.deleteObjects uris, reply⟩ ∉ trace
  unaltered : ∀ query reply, started query reply ∈ trace → ¬ Sql.Verb.alter.Opens query.sql
  unseen : PlainNames trace → ∀ query reply, started query reply ∈ trace →
    ¬ Sql.LooksAtFiles model.relation query.sql

theorem spares_of_append (ran : Runs (c.materialize model).run trace rest)
    (appends : model.incremental.validate = .ok .append) : Spares model trace where
  kept := by
    intro uris reply member
    obtain ⟨before, after, rfl⟩ := List.append_of_mem member
    cases appends.symm.trans (objects_of_runs ran).1
  unaltered := by
    intro query reply member alters
    obtain ⟨before, after, rfl⟩ := List.append_of_mem member
    obtain ⟨earlier, request, origin⟩ := origin_of_runs ran
    have overwrites :=
      (origin.asks.changes (statement_of_serves origin.serves) alters nofun nofun).2 rfl
    cases appends.symm.trans overwrites
  unseen := by
    intro plain query reply member
    obtain ⟨before, after, rfl⟩ := List.append_of_mem member
    obtain ⟨earlier, request, asks, serves, carried, start, _, rfl, expands, _⟩ :=
      origin_of_runs ran
    refine asks.not_looks (statement_of_serves serves) appends fun suffix drawn => ?_
    exact plain suffix (List.mem_append_left _ (List.mem_append_left _
      (told_of_drawn expands drawn)))

theorem not_changes_of_none {query : QueryRequest} {reply : Except Error String}
    {verb : Sql.Verb} (ran : Runs (c.materialize model).run trace rest)
    (none : c.FindsNone model trace) (submitted : started query reply ∈ trace)
    (opens : verb.Opens query.sql) : verb = .select ∨ verb = .create := by
  by_contra changes
  obtain ⟨asking, creating⟩ := not_or.mp changes
  obtain ⟨before, after, rfl⟩ := List.append_of_mem submitted
  obtain ⟨earlier, request, asks, serves, carried, start, _, rfl, expands, _⟩ := origin_of_runs ran
  obtain ⟨present, _⟩ := asks.changes (statement_of_serves serves) opens asking creating
  obtain ⟨result, finds, some⟩ := finds_of_present expands present
  obtain ⟨other, found, rows⟩ := none
  have again : c.Finds model (carried ++ start ++ started query reply :: after) result :=
    (finds.append start).append _
  rw [found.unique again] at rows
  exact some rows

/-- What a run removes is its own staging table's, or lies where it creates its table, or it was
found to belong to the table that is overwritten. -/
structure RemovesItsOwn (c : Client) (model : Model) (trace : List Warehouse.service.Event) :
    Prop where
  prefixes : ∀ before location reply after,
    trace = before ++ ⟨.deletePrefix location, reply⟩ :: after →
    (∃ suffix, ⟨.freshSuffix, suffix⟩ ∈ before ∧ location = c.stagingPlace model suffix) ∨
      c.FindsNone model before ∧ ∃ uuid,
        (model.table.location = none → ⟨.freshUuid, uuid⟩ ∈ before) ∧
          location = model.table.resolveLocation c.profile uuid
  named_once : ∀ before suffix after, trace = before ++ ⟨.freshSuffix, suffix⟩ :: after →
    ∀ other, ⟨.freshSuffix, other⟩ ∉ before
  objects : ∀ before uris reply after, trace = before ++ ⟨.deleteObjects uris, reply⟩ :: after →
    model.incremental.validate = .ok .insertOverwrite ∧ c.FindsSome model before ∧
      (∀ others answer, ⟨.deleteObjects others, answer⟩ ∉ before) ∧
      ∀ uri ∈ uris, c.Shows model before uri
  appends : model.incremental.validate = .ok .append → Spares model trace
  creates : c.FindsNone model trace → ∀ query reply, started query reply ∈ trace →
    ¬ Sql.Verb.insert.Opens query.sql ∧ ¬ Sql.Verb.alter.Opens query.sql ∧
      ¬ Sql.Verb.drop.Opens query.sql

/-- However far it gets, a run of a model removes nothing but what is its own or is replaced. -/
theorem removes_its_own (c : Client) (model : Model) {trace : List Warehouse.service.Event}
    {rest : Program Warehouse.service (Except Error Summary)}
    (ran : Runs (c.materialize model).run trace rest) : c.RemovesItsOwn model trace where
  prefixes := by
    rintro before location reply after rfl
    exact prefix_of_runs ran
  named_once := by
    rintro before suffix after rfl
    exact suffix_of_runs ran
  objects := by
    rintro before uris reply after rfl
    exact objects_of_runs ran
  appends := spares_of_append ran
  creates := by
    intro none query reply submitted
    have changes : ∀ verb : Sql.Verb, verb ≠ .select → verb ≠ .create →
        ¬ verb.Opens query.sql := by
      intro verb asking creating opens
      exact (not_changes_of_none ran none submitted opens).elim asking creating
    exact ⟨changes .insert nofun nofun, changes .alter nofun nofun, changes .drop nofun nofun⟩

def latestPage : Nat → Page
  | 1 => dayPage "table_name" ["days"]
  | 3 => dayPage "column_name" ["row"]
  | _ => dayPage "$path" ["s3://b/days/file"]

def countingAnswers : (r : Warehouse.Request) → Nat → Warehouse.Reply r × Nat
  | .start _, count => (.ok "id", count + 1)
  | .page _ _, count => (.ok (latestPage count), count)
  | r, count => ((dayAnswers r "").1, count)

/-- A table without partitions is overwritten, or rows are appended to it. -/
theorem removes_its_own_file :
    let c : Client := ⟨.ofRequired "s3://b/" "region" "schema" "catalog", 1⟩
    let overwriting : Model := { dayModel with table := .default }
    let appending : Model := { overwriting with incremental := .ofStrategy .append }
    let overwrites := (c.materialize overwriting).run.play countingAnswers 0
    let appends := (c.materialize appending).run.play countingAnswers 0
    overwrites.1[17]?.map (·.request) = some (.deleteObjects ["s3://b/days/file"]) ∧
      c.Shows overwriting (overwrites.1.take 17) "s3://b/days/file" ∧
      c.RemovesItsOwn overwriting overwrites.1 ∧
      appends.2.ended? = some true ∧ Spares appending appends.1 := by
  intro c overwriting appending overwrites appends
  have first := runs_play countingAnswers (c.materialize overwriting).run 0
  have second := runs_play countingAnswers (c.materialize appending).run 0
  have overwritten : c.RemovesItsOwn overwriting overwrites.1 := c.removes_its_own overwriting first
  have appended : c.RemovesItsOwn appending appends.1 := c.removes_its_own appending second
  have deleted : overwrites.1[17]?.map (·.request) =
      some (.deleteObjects ["s3://b/days/file"]) := by decide +kernel
  obtain ⟨reply, split⟩ := split_at_request deleted
  have shown : c.Shows overwriting (overwrites.1.take 17) "s3://b/days/file" :=
    (overwritten.objects _ _ reply _ split).2.2.2 _ List.mem_cons_self
  exact ⟨deleted, shown, overwritten, by decide +kernel, appended.appends rfl⟩

end AthenaModels.Client
