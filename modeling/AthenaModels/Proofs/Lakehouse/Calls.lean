import AthenaModels.Client.Materialization
import AthenaModels.Proofs.Client.Call
import AthenaModels.Proofs.Client.Loops
import AthenaModels.Proofs.Client.Requests
import AthenaModels.Proofs.Lakehouse.Progress
import AthenaModels.Proofs.Lakehouse.Results

open Relation (ReflTransGen)

namespace AthenaModels.Lakehouse

open Fallible Program

variable {lake : Lakehouse} {world : lake.World} {table : lake.Table} {id sql : String}
  {holds : lake.World → Prop}

def Quiet : Warehouse.Request → Prop
  | .start _ | .deleteObjects _ => False
  | _ => True

theorem answers_quiet (request : Warehouse.Request) (quiet : Quiet request)
    {reply : Warehouse.Reply request} {later : lake.World}
    (answered : world.Answers ⟨request, reply⟩ later) : later = world := by
  cases request with
  | start => cases quiet
  | deleteObjects => cases quiet
  | status id =>
      cases reply with
      | error => exact answered
      | ok => exact answered.1
  | page id token =>
      cases reply with
      | error => exact answered
      | ok => exact answered.1
  | _ => exact answered

theorem keeps_quiet (request : Warehouse.Request) (quiet : Quiet request)
    (stable : Stable holds) (now : holds world) :
    (Work.ask request).Keeps lake.protocol (fun later _ => holds later) world := by
  refine ⟨trivial, ?_⟩
  intro reply later given
  obtain ⟨answered, same, progress⟩ := given
  obtain rfl := answers_quiet request quiet same
  exact stable.run now progress

theorem keeps_status (id : String) (stable : Stable holds) (now : holds world) :
    (Work.ask (.status id)).Keeps lake.protocol
      (fun later reply => holds later ∧ ∀ status, reply = .ok status → later.Shows id status.state)
      world := by
  refine ⟨trivial, ?_⟩
  intro reply later given
  obtain ⟨answered, same, progress⟩ := given
  obtain rfl := answers_quiet (.status id) trivial same
  refine ⟨stable.run now progress, ?_⟩
  intro status same
  subst same
  exact (stable_shows status.state).run same.2 progress

theorem keeps_page {pages : Option String → Page} (id : String) (token : Option String)
    (stable : Stable holds) (now : holds world)
    (succeeded : world.jobs id = some ⟨sql, .succeeded pages⟩) :
    (Work.ask (.page id token)).Keeps lake.protocol
      (fun later reply => (holds later ∧ later.jobs id = some ⟨sql, .succeeded pages⟩) ∧
        ∀ page, reply = .ok page → page = pages token) world := by
  refine ⟨trivial, ?_⟩
  intro reply later given
  obtain ⟨answered, same, progress⟩ := given
  obtain rfl := answers_quiet (.page id token) trivial same
  refine ⟨(stable.and (stable_job (by nofun))).run ⟨now, succeeded⟩ progress, ?_⟩
  intro page same
  subst same
  exact same.2 sql pages succeeded

theorem keeps_start (query : QueryRequest) (here : At table world) :
    (Work.ask (.start query)).Keeps lake.protocol
      (ends (fun later id => Tracks table id query.sql later) (fun later _ => At table later))
      world := by
  refine ⟨trivial, ?_⟩
  intro reply later given
  obtain ⟨answered, same, progress⟩ := given
  cases reply with
  | error error =>
      obtain rfl := same
      exact (stable_at table).run here progress
  | ok id =>
      obtain ⟨_, rfl⟩ := same
      exact (stable_tracks table id query.sql).run (here.start id query.sql) progress

variable (c : Client)

theorem quiet_of_idles {request : Warehouse.Request} (idles : Client.Idles id request) :
    Quiet request := by
  cases request with
  | start => cases idles
  | deleteObjects => cases idles
  | _ => trivial

/-- A query was found to have succeeded, or may be submitted again because it was found to have
failed. -/
def afterPoll (holds : lake.World → Prop) (id : String) :
    lake.World → Except Error QueryStatus → Prop :=
  ends (fun later _ => holds later ∧ later.Shows id .succeeded)
    (fun later error => holds later ∧ (error.isRetryable = true → later.Shows id .failed))

theorem poll_keeps (id : String) (stable : Stable holds) (now : holds world) :
    (c.poll id).run.Keeps lake.protocol (afterPoll holds id) world := by
  refine c.poll_keeps_of (fun _ => holds) ?_ ?_ ?_ now
  · intro _ request world idles now
    exact keeps_request.mp (keeps_quiet request (quiet_of_idles idles) stable now)
  · intro _ world now
    obtain ⟨allowed, answered⟩ := keeps_request.mp (keeps_status id stable now)
    refine ⟨allowed, ?_⟩
    intro reply later step
    obtain ⟨now, shown⟩ := answered reply later step
    cases reply with
    | error error =>
        refine c.looked_error _ ?_ ?_ fun _ _ => now
        · intro final
          refine ⟨now, ?_⟩
          intro retried
          cases final.symm.trans retried
        · -- A look that fails once too often ends in an error that is never tried again.
          intro _ _
          refine ⟨now, ?_⟩
          rintro ⟨⟩
    | ok status =>
        have seen := shown status rfl
        simp only [Client.Looked]
        cases state : status.state with
        | succeeded =>
            rw [state] at seen
            exact ⟨now, seen⟩
        | failed =>
            rw [state] at seen
            exact ⟨now, fun _ => seen⟩
        | cancelled =>
            refine ⟨now, ?_⟩
            rintro ⟨⟩
        | queued | running => exact now
  · intro _ limit now
    refine ⟨now, ?_⟩
    rintro ⟨⟩

theorem pagesFrom_keeps {pages : Option String → Page} (id : String) (patience : Nat)
    (token : Option String) (stable : Stable holds) (now : holds world)
    (succeeded : world.jobs id = some ⟨sql, .succeeded pages⟩) :
    (Client.pagesFrom id patience token).run.Keeps lake.protocol
      (ends (fun later list => holds later ∧ Chain pages token list) (fun later _ => holds later))
      world := by
  induction patience generalizing token world with
  | zero => trivial
  | succ patience ih =>
      apply Fallible.keeps_bind.mpr
      apply (keeps_page id token stable now succeeded).mono
      intro later reply given
      obtain ⟨⟨now, succeeded⟩, shown⟩ := given
      cases reply with
      | error error => exact now
      | ok page =>
          obtain rfl := shown page rfl
          dsimp only [ends]
          cases link : (pages token).nextToken with
          | none => exact ⟨now, .last link⟩
          | some next =>
              apply keeps_bind_of (ih (some next) now succeeded) (fun _ _ kept => kept)
              intro later others kept
              exact ⟨kept.1, .more link kept.2⟩

theorem fetch_keeps {pages : Option String → Page} (metadata : Metadata) (stable : Stable holds)
    (now : holds world) (succeeded : world.jobs metadata.queryId = some ⟨sql, .succeeded pages⟩) :
    (c.fetch metadata).run.Keeps lake.protocol
      (ends (fun later result => holds later ∧ ReadFrom pages result) (fun later _ => holds later))
      world := by
  apply keeps_bind_of (pagesFrom_keeps metadata.queryId c.patience none stable now succeeded)
    (fun _ _ kept => kept)
  intro later list kept
  apply keeps_ofExcept.mpr
  cases merged : Page.merge list metadata with
  | error => exact kept.1
  | ok result => exact ⟨kept.1, list, metadata, kept.2, merged⟩

/-- What is known of the table after an attempt at a statement, or after all of them: it has had its
effect once, or it may have had it, or have it yet, when nothing is to be tried again. -/
def afterStatement {α : Type} (table : lake.Table) (sql : String) :
    lake.World → Except Error α → Prop :=
  ends (fun later _ => ∃ pages after, lake.Executes sql table pages after ∧ At after later)
    (fun later _ => At table later ∨ ∃ id, Tracks table id sql later)

theorem attempt_keeps_statement (number : Nat) (here : At table world) :
    (c.attempt sql false number).run.Keeps lake.protocol
      (fun later outcome => afterStatement table sql later outcome ∧
        ∀ error, outcome = .error error → error.isRetryable = true → At table later) world := by
  refine Fallible.keeps_bind.mpr (keeps_lift.mpr
    ((keeps_quiet .now trivial (stable_at table) here).mono ?_))
  intro later submittedAt here
  apply keeps_bind_of (keeps_start (c.requestFor sql) here)
    (fun _ _ here => ⟨.inl here, fun _ _ _ => here⟩)
  intro later id tracks
  refine keeps_bind_of (poll_keeps c id (stable_tracks table id sql) tracks) ?_ ?_
  · intro later error kept
    refine ⟨.inr ⟨id, kept.1⟩, ?_⟩
    -- What is tried again was found to have failed, and so has changed nothing.
    intro _ same retryable
    cases same
    exact kept.1.at_of_failed (kept.2 retryable)
  · intro later status kept
    obtain ⟨pages, _, executes, here⟩ := kept.1.at_of_succeeded kept.2
    exact ⟨⟨pages, _, executes, here⟩, nofun⟩

def afterQuery (table : lake.Table) (sql : String) : lake.World → Except Error Result → Prop :=
  ends (fun later result => At table later ∧
      ∃ pages, lake.Executes sql table pages table ∧ ReadFrom pages result)
    (fun later _ => At table later)

theorem attempt_keeps_query (number : Nat) (harmless : lake.Harmless sql) (here : At table world) :
    (c.attempt sql true number).run.Keeps lake.protocol (afterQuery table sql) world := by
  refine Fallible.keeps_bind.mpr (keeps_lift.mpr
    ((keeps_quiet .now trivial (stable_at table) here).mono ?_))
  intro later submittedAt here
  apply keeps_bind_of (keeps_start (c.requestFor sql) here) (fun _ _ kept => kept)
  intro later id tracks
  apply keeps_bind_of (poll_keeps c id (stable_tracks table id sql) tracks)
    (fun _ _ kept => kept.1.at_of_harmless harmless)
  intro later status kept
  obtain ⟨pages, succeeded, executes, here⟩ := kept.1.at_of_succeeded kept.2
  have same := harmless _ _ _ executes
  rw [same] at executes here
  apply keeps_of_ends (fetch_keeps c _ (stable_at table) here succeeded) (fun _ _ kept => kept)
  intro later result kept
  exact ⟨kept.1, pages, executes, kept.2⟩

/-- An attempt may be followed by another one only if the table is as it was. -/
theorem attempts_keep {withRows : Bool} {post : lake.World → Except Error Result → Prop}
    (attempted : ∀ number world, At table world →
      (c.attempt sql withRows number).run.Keeps lake.protocol
        (fun later outcome => post later outcome ∧
          ∀ error, outcome = .error error → error.isRetryable = true → At table later) world)
    (unchanged : ∀ later error, At table later → post later (.error error))
    (here : At table world) :
    (c.attempts sql withRows).run.Keeps
      (Call.protocol lake.protocol (ReflTransGen World.Progress)) post world := by
  refine c.attemptsFrom_keeps_of (At table) ?_ ?_ ?_ (fun _ _ _ => unchanged _ _) here
  · intro world here
    apply Call.keeps_prepare
    intro later reply progress
    have here := (stable_at table).run here progress
    cases reply with
    | error error => exact unchanged later error here
    | ok => exact here
  · intro number world here
    exact Call.keeps_own (attempted number world here)
  · intro world here
    exact Call.keeps_own (keeps_lift.mpr (keeps_quiet (.sleep _) trivial (stable_at table) here))

theorem execute_keeps (harmless : lake.Harmless sql) (here : At table world) :
    (c.execute sql).run.Keeps lake.protocol (afterQuery table sql) world := by
  refine Call.keeps_prepared (attempts_keep c ?_ (fun _ _ here => here) here) fun state => .refl
  intro number world here
  apply (attempt_keeps_query c number harmless here).mono
  intro later outcome kept
  refine ⟨kept, ?_⟩
  intro error same _
  subst same
  exact kept

theorem executePrepared_keeps {preparation : Work Unit}
    (prepares : ∀ world : lake.World, preparation.run.Keeps lake.protocol
      (fun later _ => ReflTransGen World.Progress world later) world)
    (here : At table world) :
    (c.executePrepared preparation sql).run.Keeps lake.protocol (afterStatement table sql)
      world := by
  refine Call.keeps_prepared ?_ prepares
  apply Fallible.keeps_bind.mpr
  refine (attempts_keep c (fun number _ here => attempt_keeps_statement c number here)
    (fun _ _ here => .inl here) here).mono ?_
  intro later outcome kept
  cases outcome with
  | ok => exact kept
  | error => exact kept

theorem quiet_of_attempts {request : Warehouse.Request} (allowed : c.Attempts sql request) :
    request = .start (c.requestFor sql) ∨ Quiet request := by
  cases request with
  | start query => exact .inl (congrArg _ allowed)
  | deleteObjects => cases allowed
  | _ => exact .inr trivial

theorem keeps_calm {α : Type} {p : Program Warehouse.service α} (makes : p.Makes (c.Attempts sql))
    (calm : Calm holds) (harmless : lake.Harmless sql) (now : holds world) :
    p.Keeps lake.protocol (fun later _ => holds later) world := by
  induction p generalizing world with
  | done => exact now
  | exhausted => trivial
  | ask request next ih =>
      refine ⟨trivial, ?_⟩
      intro reply later given
      obtain ⟨answered, same, progress⟩ := given
      apply ih reply (makes.2 reply)
      rcases quiet_of_attempts c makes.1 with rfl | quiet
      · cases reply with
        | error =>
            obtain rfl := same
            exact calm.stable.run now progress
        | ok id =>
            obtain ⟨_, rfl⟩ := same
            exact calm.stable.run (calm.start now harmless) progress
      · obtain rfl := answers_quiet request quiet same
        exact calm.stable.run now progress

theorem keeps_forall {ι : Sort*} {α : Type} {p : Program Warehouse.service α}
    {post : ι → lake.World → α → Prop} (keeps : ∀ i, p.Keeps lake.protocol (post i) world) :
    p.Keeps lake.protocol (fun later value => ∀ i, post i later value) world := by
  induction p generalizing world with
  | done => exact keeps
  | exhausted => trivial
  | ask request next ih =>
      refine ⟨trivial, ?_⟩
      intro reply later step
      exact ih reply fun i => (keeps i).2 reply later step

theorem keeps_and {α : Type} {p : Program Warehouse.service α}
    {first second : lake.World → α → Prop} (one : p.Keeps lake.protocol first world)
    (other : p.Keeps lake.protocol second world) :
    p.Keeps lake.protocol (fun later value => first later value ∧ second later value) world := by
  induction p generalizing world with
  | done => exact ⟨one, other⟩
  | exhausted => trivial
  | ask request next ih =>
      refine ⟨trivial, ?_⟩
      intro reply later step
      exact ih reply (one.2 reply later step) (other.2 reply later step)

def afterDeletion (table : lake.Table) (uris : List String) :
    lake.World → Except Error Nat → Prop :=
  ends (fun later _ => At (table.without uris) later)
    (fun later _ => ∃ removed, removed ⊆ uris ∧ At (table.without removed) later)

def calls (lake : Lakehouse) : Protocol Materialization.service lake.World where
  allowed _ _ := True
  step
    | world, ⟨.query sql, reply⟩, later =>
        ∀ table, At table world → lake.Harmless sql → afterQuery table sql later reply
    | world, ⟨.statement sql, reply⟩, later =>
        (∀ table, At table world → afterStatement table sql later reply) ∧
          ∀ holds, Calm holds → lake.Harmless sql → holds world → holds later
    | world, ⟨.fill sql _, reply⟩, later =>
        ∀ table, At table world → afterStatement table sql later reply
    | world, ⟨.deleteObjects uris, reply⟩, later =>
        ∀ table, At table world → afterDeletion table uris later reply
    | world, ⟨.deletePrefix _, _⟩, later => ReflTransGen World.Progress world later
    | world, ⟨.freshSuffix, _⟩, later => ReflTransGen World.Progress world later
    | world, ⟨.freshUuid, _⟩, later => ReflTransGen World.Progress world later

theorem stable_reached (world : lake.World) : Stable (ReflTransGen World.Progress world) :=
  fun _ _ reached progress => reached.tail progress

theorem carryOut_keeps (world : lake.World) (request : Materialization.Request) :
    (c.carryOut request).Keeps lake.protocol
      (fun later reply => lake.calls.step world ⟨request, reply⟩ later) world := by
  cases request with
  | query sql =>
      exact keeps_forall fun table => keeps_forall fun here => keeps_forall fun harmless =>
        execute_keeps c harmless here
  | statement sql =>
      refine keeps_and ?_ ?_
      · exact keeps_forall fun table => keeps_forall fun here =>
          executePrepared_keeps c (fun world => .refl) here
      · exact keeps_forall fun holds => keeps_forall fun calm => keeps_forall fun harmless =>
          keeps_forall fun now => keeps_calm c (c.carryOut_makes (.statement sql)) calm harmless now
  | fill sql location =>
      refine keeps_forall fun table => keeps_forall fun here => executePrepared_keeps c ?_ here
      intro world
      refine Fallible.keeps_bind.mpr
        ((keeps_quiet (.deletePrefix location) trivial (stable_reached world) .refl).mono ?_)
      intro later outcome reached
      cases outcome with
      | error => exact reached
      | ok => exact reached
  | deleteObjects uris =>
      refine keeps_forall fun table => keeps_forall fun here => ⟨trivial, ?_⟩
      intro reply later given
      obtain ⟨answered, same, progress⟩ := given
      have without : ∀ paths,
          At (table.without paths) { world with table := world.table.without paths } :=
        fun paths => ⟨here.settled, by rw [here.table_eq]⟩
      cases reply with
      | ok =>
          obtain rfl := same
          exact (stable_at _).run (without uris) progress
      | error =>
          obtain ⟨removed, subset, rfl⟩ := same
          exact ⟨removed, subset, (stable_at _).run (without removed) progress⟩
  | deletePrefix location =>
      exact keeps_quiet (.deletePrefix location) trivial (stable_reached world) .refl
  | freshSuffix => exact keeps_quiet .freshSuffix trivial (stable_reached world) .refl
  | freshUuid => exact keeps_quiet .freshUuid trivial (stable_reached world) .refl

end AthenaModels.Lakehouse
