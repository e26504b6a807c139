import AthenaModels.Proofs.Client.Attempt
import AthenaModels.Proofs.Client.Cleanup
import AthenaModels.Proofs.Materialization.Remainder

namespace AthenaModels

namespace Warehouse

def isCall : Request → Bool
  | .start _ | .status _ | .page _ _ | .stop _ | .deleteObjects _ | .deletePrefix _ => true
  | _ => false

def lastCall? (trace : List service.Event) : Option service.Event :=
  (trace.filter (isCall ·.request)).getLast?

def Emptied (location : String) (trace : List service.Event) : Prop :=
  ∃ count, lastCall? trace = some ⟨.deletePrefix location, .ok count⟩

theorem emptied_of_deleted (past : List service.Event) (location : String) (count : Nat) :
    Emptied location (past ++ [⟨.deletePrefix location, .ok count⟩]) := by
  refine ⟨count, ?_⟩
  rw [lastCall?, List.filter_append]
  exact List.getLast?_concat

theorem Emptied.snoc {location : String} {past : List service.Event} {event : service.Event}
    (emptied : Emptied location past) (quiet : isCall event.request = false) :
    Emptied location (past ++ [event]) := by
  obtain ⟨count, last⟩ := emptied
  refine ⟨count, ?_⟩
  rw [lastCall?, List.filter_append, List.filter_cons_of_neg (by simp [quiet]), List.filter_nil,
    List.append_nil]
  exact last

end Warehouse

namespace Client

open Fallible Program
open Materialization (Asks GivesUp cleaningUp statement?)
open Warehouse (started isCall lastCall? Emptied)

variable (c : Client) {sql location place : String} {error : Error}
  {past : List Warehouse.service.Event}

/-- A statement is submitted only when its place is empty. -/
def Fills (sql location : String) (past : List Warehouse.service.Event) :
    Warehouse.Request → Prop
  | .start query => query = c.requestFor sql ∧ Emptied location past
  | _ => True

def filling (sql location : String) : Protocol Call.service (List Warehouse.service.Event) :=
  Call.guarded (.ofPast (c.Fills sql location)) (fun _ => True)
    fun _ reply later => reply = .ok () → Emptied location later

theorem fills_of_attends {request : Warehouse.Request} (attends : Attends request) :
    c.Fills sql location past request := by
  cases request with
  | start => cases attends
  | _ => trivial

theorem attempts_keep_filling {withRows : Bool} :
    (c.attempts sql withRows).run.Keeps (c.filling sql location) (fun _ _ => True) past := by
  refine c.attemptsFrom_keeps_at (fun _ _ => True) (fun _ => Emptied location) (fun _ _ => True)
    ?_ ?_ ?_ (fun _ _ _ _ => trivial) rfl trivial
  · intro _ state _
    refine ⟨trivial, ?_⟩
    intro reply later prepared
    cases reply with
    | error => trivial
    | ok => exact prepared rfl
  · intro number state emptied
    refine Call.keeps_own_guarded (c.attempt_keeps_past (fun _ _ => c.fills_of_attends) ?_ ?_)
    · intro submittedAt
      exact ⟨rfl, emptied.snoc rfl⟩
    · intro trace outcome _
      exact ⟨trivial, fun _ _ _ => trivial⟩
  · intro _ state _ _
    exact Call.keeps_own_guarded (keeps_lift.mpr (keeps_request_ofPast.mpr
      ⟨trivial, fun _ => trivial⟩))

theorem fill_keeps :
    (c.carryOut (.fill sql location)).Keeps (.ofPast (c.Fills sql location)) (fun _ _ => True)
      past := by
  have called : (c.statementCall sql).run.Keeps (c.filling sql location) (fun _ _ => True) past :=
    keeps_bind_any c.attempts_keep_filling (fun _ _ => trivial) fun _ _ => trivial
  refine Call.keeps_prepared_guarded called ?_
  intro state _
  refine Fallible.keeps_bind.mpr (keeps_request_ofPast.mpr ⟨trivial, ?_⟩)
  intro reply
  cases reply with
  | error => exact nofun
  | ok count => exact fun _ => Warehouse.emptied_of_deleted state location count

abbrev unemptied (location : String) (error : Error) : Warehouse.service.Event :=
  ⟨.deletePrefix location, .error error⟩

abbrev unprepared (error : Error) : Call.service.Event := ⟨.prepare, .error error⟩

theorem prepare_leaves :
    Call.prepare.run.Leaves (unprepared error) (· = .done (.error error)) := by
  refine fun reply => ⟨fun same => ?_, trivial⟩
  cases same
  rfl

def NeverPrepares : Call.Request → Prop
  | .own _ => True
  | .prepare => False

theorem leaves_own {α : Type} {work : Work α}
    {post : Program Call.service (Except Error α) → Prop} :
    (Call.own work).run.Leaves (unprepared error) post := by
  have makes : (Call.own work).run.Makes NeverPrepares :=
    (makes_anything work.run).translate fun _ _ => ⟨trivial, fun _ => trivial⟩
  exact makes.leaves id

theorem attemptThen_leaves {withRows : Bool} {number : Nat} {again : Error → Call Result}
    (next : ∀ other, (again other).run.Leaves (unprepared error) (· = .done (.error error))) :
    (c.attemptThen sql withRows number again).run.Leaves (unprepared error)
      (· = .done (.error error)) := by
  refine leaves_bind_error prepare_leaves fun _ => ?_
  refine leaves_bind_outcome leaves_own fun outcome => ?_
  cases outcome with
  | ok => trivial
  | error other =>
      by_cases retryable : other.isRetryable = true
      · simp only [if_pos retryable]
        exact next other
      · simp only [if_neg retryable]
        trivial

theorem attemptsFrom_leaves {withRows : Bool} {number more : Nat} :
    (c.attemptsFrom sql withRows number more).run.Leaves (unprepared error)
      (· = .done (.error error)) := by
  induction more generalizing number with
  | zero => exact c.attemptThen_leaves fun _ => trivial
  | succ more ih =>
      refine c.attemptThen_leaves fun _ => ?_
      exact Fallible.leaves_bind leaves_own fun _ => ih

theorem fill_leaves :
    (c.carryOut (.fill sql location)).Leaves (unemptied place error)
      (· = .done (.error error)) := by
  have called : (c.statementCall sql).run.Leaves (unprepared error) (· = .done (.error error)) :=
    leaves_bind_error c.attemptsFrom_leaves fun _ => trivial
  refine Leaves.mono (called.translate c.statementCall_makes ?_) ?_
  · intro request allowed
    cases request with
    | own r =>
        have asks : (Work.ask r).Makes (c.Attempts sql) := ⟨allowed, fun _ => trivial⟩
        exact asks.leaves id
    | prepare =>
        have deletes : (Work.deletePrefix location).run.Leaves (unemptied place error)
            (· = .done (.error error)) := by
          refine fun reply => ⟨fun same => ?_, trivial⟩
          cases same
          rfl
        refine Leaves.mono (leaves_bind_error deletes fun _ => trivial) ?_
        rintro _ rfl
        exact ⟨.error error, rfl, rfl⟩
  · rintro _ ⟨_, rfl, rfl⟩
    rfl

variable {c} {model : Model} {before after trace : List Warehouse.service.Event}
  {rest : Program Warehouse.service (Except Error Summary)}

/-- The place that a statement names for the table that it creates was emptied just before. -/
def StartsEmpty (model : Model) (before : List Warehouse.service.Event) (sql : String) : Prop :=
  ∃ table location, model.Uses table ∧ Sql.placeOf? table sql = some location ∧
    Emptied location before

theorem startsEmpty_of_runs {query : QueryRequest} {reply : Except Error String}
    (ran : Runs (c.materialize model).run (before ++ started query reply :: after) rest)
    (creates : Sql.Verb.create.Opens query.sql) : StartsEmpty model before query.sql := by
  obtain ⟨earlier, request, origin⟩ := origin_of_runs ran
  obtain ⟨table, location, rfl, uses, place⟩ :=
    origin.asks.fills (statement_of_serves origin.serves) creates
  obtain ⟨carried, start, left, rfl, _, served⟩ := origin.part
  have submits : c.Fills query.sql location (carried ++ start) (.start query) :=
    c.fill_keeps.allowed served (Protocol.steps_ofPast_iff.mpr rfl)
  exact ⟨table, location, uses, place, submits.2⟩

/-- A run that has come so far ends with an error, at once or as soon as its staging table has been
dropped. -/
def EndsWith (c : Client) (model : Model) (error : Error)
    (trace : List Warehouse.service.Event) : Prop :=
  Runs (c.materialize model).run trace (.done (.error error)) ∨
    ∃ suffix, ∀ dropping emptied, c.Drops model suffix dropping →
      Runs (c.materialize model).run
        (trace ++ dropping ++ [⟨.deletePrefix (c.stagingPlace model suffix), emptied⟩])
        (.done (.error error))

theorem endsWith_of_givesUp {left : Program Materialization.service (Except Error Summary)}
    (ran : Runs (c.materialize model).run trace (left.translate c.carryOut))
    (gives : GivesUp c.profile model error left) : c.EndsWith model error trace := by
  cases gives with
  | atOnce => exact .inl ran
  | cleaning suffix =>
      refine .inr ⟨suffix, fun dropping emptied drops => ?_⟩
      rw [List.append_assoc]
      exact ran.append (runs_cleaningUp drops emptied)

theorem outcome_of_givesUp {left : Program Materialization.service (Except Error Summary)}
    {outcome : Except Error Summary} (gives : GivesUp c.profile model error left)
    (ran : Runs (left.translate c.carryOut) after (.done outcome)) : outcome = .error error := by
  obtain ⟨events, ended, _⟩ := ran.carried
  cases gives with
  | atOnce => exact Program.done.inj (runs_done.mp ended).2
  | cleaning suffix => exact Materialization.outcome_of_cleaningUp ended

def Creates : Warehouse.Request → Prop
  | .start query => Sql.Verb.create.Opens query.sql
  | _ => False

theorem not_creates_of_givesUp {left : Program Materialization.service (Except Error Summary)}
    (gives : GivesUp c.profile model error left) :
    (left.translate c.carryOut).Makes (¬ Creates ·) := by
  cases gives with
  | atOnce => trivial
  | cleaning suffix =>
      have discards : (cleaningUp c.profile model suffix (.error error)).Makes fun request =>
          ∀ sql, statement? request = some sql → Sql.Verb.drop.Opens sql := by
        refine ⟨?_, fun _ => ⟨nofun, fun _ => trivial⟩⟩
        rintro _ ⟨⟩
        exact Sql.opens_dropTable _
      refine discards.translate fun request drops => (c.carryOut_makes request).mono ?_
      intro lower serves creates
      cases lower with
      | start => cases creates.unique (drops _ (statement_of_serves serves))
      | _ => cases creates

/-- After a place could not be emptied no table is created any more, and the error is what the run
comes to. -/
structure Abandons (c : Client) (model : Model) (error : Error)
    (before after : List Warehouse.service.Event)
    (rest : Program Warehouse.service (Except Error Summary)) : Prop where
  ends : c.EndsWith model error before
  uncreated : ∀ event ∈ after, ¬ Creates event.request
  outcome : ∀ outcome, rest = .done outcome → outcome = .error error

theorem not_clears {earlier : List Materialization.service.Event}
    {carried start : List Warehouse.service.Event}
    (asks : Asks c.profile model earlier (.deletePrefix place))
    (expands : Expands c.carryOut earlier carried)
    (undropped : ∀ query reply, started query reply ∈ carried ++ start →
      ¬ Sql.Verb.drop.Opens query.sql) : False := by
  cases asks with
  | write _ writes => cases writes
  | clear _ dropped =>
      obtain ⟨_, part, _, rfl, executed⟩ := expands.part_of_mem dropped
      obtain ⟨reply, submitted⟩ := started_of_executeStatement executed
      refine undropped _ reply (List.mem_append_left _ (List.mem_append_left _
        (List.mem_append_right _ submitted))) ?_
      exact Sql.opens_dropTable _

theorem abandons_of_runs
    (ran : Runs (c.materialize model).run (before ++ unemptied place error :: after) rest)
    (undropped : ∀ query reply, started query reply ∈ before → ¬ Sql.Verb.drop.Opens query.sql) :
    c.Abandons model error (before ++ [unemptied place error]) after rest := by
  obtain ⟨earlier, request, next, carried, start, left, asked, expands, rfl, served, later⟩ :=
    ran.served_at
  have asked : Runs (ExceptT.run (Materialization.run c.profile model)) earlier
    (.ask request next) := asked
  have serves := (c.carryOut_makes request).allowed_of_mem served
    (List.mem_append_right _ List.mem_cons_self)
  cases request with
  | fill sql location =>
      -- The attempt is given up, and so is the filling of the table.
      cases c.fill_leaves.of_runs served
      have gives : GivesUp c.profile model error (next (.error error)) :=
        (Materialization.run_leaves c.profile model).of_runs (asked.append (.answer (.stop _)))
      have reached := (asked.translate expands).append (served.bind_done (.stop _))
      rw [List.append_nil, ← List.append_assoc] at reached
      refine ⟨endsWith_of_givesUp reached gives, ?_, ?_⟩
      · exact fun event member => (not_creates_of_givesUp gives).allowed_of_mem later member
      · rintro outcome rfl
        exact outcome_of_givesUp gives later
  | deletePrefix location =>
      cases serves
      have asks := ((Materialization.run_keeps c.profile model).run asked
        (Protocol.steps_ofPast_iff.mpr rfl)).1
      exact (not_clears asks expands undropped).elim
  | query => cases serves
  | statement => cases serves
  | _ => cases serves

/-- Each statement of a run that creates a table is submitted right after the place that it names
was emptied. A place that cannot be emptied for it is what the run fails with, and no table is
created any more; that a staging table is dropped, and its place emptied with it, comes later. -/
structure CreatesInEmptyPlaces (c : Client) (model : Model)
    (trace : List Warehouse.service.Event)
    (rest : Program Warehouse.service (Except Error Summary)) : Prop where
  emptied : ∀ before query reply after, trace = before ++ started query reply :: after →
    Sql.Verb.create.Opens query.sql → StartsEmpty model before query.sql
  abandoned : ∀ before location error after, trace = before ++ unemptied location error :: after →
    (∀ query reply, started query reply ∈ before → ¬ Sql.Verb.drop.Opens query.sql) →
      c.Abandons model error (before ++ [unemptied location error]) after rest

/-- A run of a model creates tables in empty places only. -/
theorem creates_in_empty_places (c : Client) (model : Model)
    {trace : List Warehouse.service.Event}
    {rest : Program Warehouse.service (Except Error Summary)}
    (ran : Runs (c.materialize model).run trace rest) :
    c.CreatesInEmptyPlaces model trace rest where
  emptied := by
    rintro before query reply after rfl creates
    exact startsEmpty_of_runs ran creates
  abandoned := by
    rintro before location error after rfl undropped
    exact abandons_of_runs ran undropped

def decliningAnswers : (r : Warehouse.Request) → Nat → Warehouse.Reply r × Nat
  | .page _ _, count => (.ok (dayPage "table_name" []), count)
  | .deletePrefix _, 0 => (.ok 3, 1)
  | .deletePrefix _, count => (.error (.storage "down"), count)
  | .start _, 0 => (.ok "id", 0)
  | .start _, count => (.error (.service "throttled"), count)
  | r, count => ((dayAnswers r "").1, count)

theorem creates_in_empty_places_declined :
    let c : Client := ⟨.ofRequired "s3://b/" "region" "schema" "catalog", 1⟩
    let ran := (c.materialize dayModel).run.play decliningAnswers 0
    let creation := "CREATE TABLE catalog.schema.days\nWITH (\n" ++
      "  external_location='s3://b/tables/uuid',\n  format='PARQUET',\n" ++
      "  partitioned_by=ARRAY['day']\n)\nAS\nSELECT * FROM source"
    ran.1[7]?.map (·.request) = some (.start (c.requestFor creation)) ∧
      StartsEmpty dayModel (ran.1.take 7) creation ∧
      ran.2.failure? = some (.storage "down") ∧ c.CreatesInEmptyPlaces dayModel ran.1 ran.2 := by
  intro c ran creation
  have submitted : ran.1[7]?.map (·.request) = some (.start (c.requestFor creation)) := by
    decide +kernel
  have played := runs_play decliningAnswers (c.materialize dayModel).run 0
  have creates : c.CreatesInEmptyPlaces dayModel ran.1 ran.2 :=
    c.creates_in_empty_places dayModel played
  obtain ⟨reply, split⟩ := split_at_request submitted
  have opens : Sql.Verb.create.Opens (c.requestFor creation).sql := by decide +kernel
  have empty : StartsEmpty dayModel (ran.1.take 7) (c.requestFor creation).sql :=
    creates.emptied _ _ reply _ split opens
  exact ⟨submitted, empty, by decide +kernel, creates⟩

end Client
end AthenaModels
