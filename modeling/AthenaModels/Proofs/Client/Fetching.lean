import AthenaModels.Proofs.Client.Polling
import AthenaModels.Proofs.Query.Merging

namespace AthenaModels

open Program

namespace Warehouse

variable {id : String} {token : Option String} {past : List service.Event}

def pageEvents (id : String) : Option String → List Page → List service.Event
  | _, [] => []
  | token, page :: pages => ⟨.page id token, .ok page⟩ :: pageEvents id page.nextToken pages

/-- Each page tells how to ask for the next one, and the last page tells that it is the last. -/
inductive Linked : Page → List Page → Prop where
  | last {page : Page} (none : page.nextToken = none) : Linked page []
  | more {page next : Page} {others : List Page} {token : String}
      (link : page.nextToken = some token) (later : Linked next others) :
      Linked page (next :: others)

/-- The last submission was answered with this query. -/
def Submitted (id : String) (trace : List service.Event) : Prop :=
  ∃ before query after, trace = before ++ started query (.ok id) :: after ∧
    ∀ event ∈ after, ∀ other, event.request ≠ .start other

/-- A page is asked for with no token right after the query was found to have succeeded, or with the
token of the page that came right before. -/
inductive Due (id : String) : Option String → List service.Event → Prop where
  | first {past : List service.Event} {status : QueryStatus} (state : status.state = .succeeded) :
      Due id none (past ++ [checked id (.ok status)])
  | next {past : List service.Event} {token : Option String} {page : Page} {next : String}
      (link : page.nextToken = some next) :
      Due id (some next) (past ++ [⟨.page id token, .ok page⟩])

def reading : Protocol service (List service.Event) :=
  .ofPast fun past request =>
    ∀ id token, request = .page id token → Submitted id past ∧ Due id token past

theorem submitted_snoc (past : List service.Event) (query : QueryRequest) (id : String) :
    Submitted id (past ++ [started query (.ok id)]) :=
  ⟨past, query, [], rfl, nofun⟩

theorem Submitted.snoc {event : service.Event} (submitted : Submitted id past)
    (other : ∀ query, event.request ≠ .start query) : Submitted id (past ++ [event]) := by
  obtain ⟨before, query, after, rfl, none⟩ := submitted
  refine ⟨before, query, after ++ [event], by simp, ?_⟩
  exact List.forall_mem_append.mpr ⟨none, List.forall_mem_singleton.mpr other⟩

end Warehouse

namespace Client

open Fallible Warehouse

variable {c : Client} {sql id : String} {token : Option String} {patience : Nat}
  {past : List service.Event}

theorem pagesFrom_reads (submitted : Submitted id past) (due : Due id token past) :
    (pagesFrom id patience token).run.Keeps reading (fun _ _ => True) past := by
  induction patience generalizing token past with
  | zero => trivial
  | succ patience ih =>
      refine Fallible.keeps_bind.mpr (keeps_request_ofPast.mpr ⟨?_, ?_⟩)
      · intro other asked same
        cases same
        exact ⟨submitted, due⟩
      · intro reply
        cases reply with
        | error => trivial
        | ok page =>
            dsimp only [Fallible.ends]
            cases link : page.nextToken with
            | none => trivial
            | some next =>
                refine keeps_bind_any (ih (submitted.snoc fun _ => nofun) (.next link)) ?_ ?_
                · exact fun _ _ => trivial
                · exact fun _ _ => trivial

theorem poll_reads (c : Client) (id : String) (submitted : Submitted id past) :
    (c.poll id).run.Keeps reading
      (Fallible.ends (fun later _ => Submitted id later ∧ Due id none later) fun _ _ => True)
      past := by
  refine c.poll_keeps_of (fun _ => Submitted id) ?_ ?_ (fun _ _ _ => trivial) submitted
  · intro failures request past idles submitted
    refine ⟨?_, ?_⟩
    · intro other token same
      subst same
      cases idles
    · intro reply later step
      subst step
      refine submitted.snoc ?_
      intro query same
      dsimp only at same
      subst same
      cases idles
  · intro failures past submitted
    refine ⟨fun _ _ => nofun, ?_⟩
    intro reply later step
    subst step
    have looked : Submitted id (past ++ [checked id reply]) := submitted.snoc fun _ => nofun
    cases reply with
    | error => exact c.looked_error _ (fun _ => trivial) (fun _ _ => trivial) fun _ _ => looked
    | ok status =>
        simp only [Looked]
        cases state : status.state with
        | succeeded => exact ⟨looked, .first state⟩
        | failed => trivial
        | cancelled => trivial
        | queued => exact looked
        | running => exact looked

theorem attempt_reads (c : Client) (sql : String) (number : Nat) :
    (c.attempt sql true number).run.Keeps reading (fun _ _ => True) past := by
  rw [attempt_eq]
  refine Fallible.keeps_bind.mpr (keeps_lift.mpr
    (keeps_request_ofPast.mpr ⟨fun _ _ => nofun, ?_⟩))
  intro submittedAt
  refine Fallible.keeps_bind.mpr (keeps_request_ofPast.mpr ⟨fun _ _ => nofun, ?_⟩)
  intro reply
  cases reply with
  | error => trivial
  | ok id =>
      have submitted := submitted_snoc (past ++ [⟨.now, submittedAt⟩]) (c.requestFor sql) id
      refine Fallible.keeps_bind_of (c.poll_reads id submitted) (fun _ _ _ => trivial) ?_
      intro past status due
      refine keeps_bind_any (pagesFrom_reads due.1 due.2) (fun _ _ => trivial) ?_
      intro past pages
      refine Fallible.keeps_ofExcept.mpr ?_
      trivial

theorem execute_reads (c : Client) (sql : String) :
    (c.execute sql).run.Keeps reading (fun _ _ => True) past := by
  have attempts : (c.attempts sql true).run.Keeps (Call.protocol reading Eq) (fun _ _ => True)
      past := by
    refine c.attemptsFrom_keeps_of (fun _ => True) ?_ ?_ ?_ (fun _ _ _ _ => trivial) trivial
    · intro past _
      refine Call.keeps_prepare fun later reply _ => ?_
      cases reply <;> trivial
    · intro number past _
      refine Call.keeps_own ((c.attempt_reads sql number).mono ?_)
      exact fun _ _ _ => ⟨trivial, fun _ _ _ => trivial⟩
    · intro past _
      refine Call.keeps_own (keeps_lift.mpr (keeps_request_ofPast.mpr ⟨fun _ _ => nofun, ?_⟩))
      exact fun _ => trivial
  exact Call.keeps_prepared attempts fun _ => rfl

theorem runs_pagesFrom {first : Page} {others : List Page} (linked : Linked first others)
    (enough : others.length < patience) :
    Runs (pagesFrom id patience token).run (pageEvents id token (first :: others))
      (.done (.ok (first :: others))) := by
  induction linked generalizing patience token with
  | @last page none =>
      obtain ⟨patience, rfl⟩ := Nat.exists_eq_succ_of_ne_zero (Nat.ne_of_gt enough)
      have read : Runs (Work.page id token).run [⟨.page id token, .ok page⟩] (.done (.ok page)) :=
        .answer (.stop _)
      change Runs _ ([(⟨.page id token, .ok page⟩ : service.Event)] ++ []) _
      refine runs_bind_ok read ?_
      rw [none]
      exact .stop _
  | @more page next others following link _ ih =>
      obtain ⟨patience, rfl⟩ := Nat.exists_eq_succ_of_ne_zero (Nat.ne_of_gt (Nat.zero_lt_of_lt enough))
      have read : Runs (Work.page id token).run [⟨.page id token, .ok page⟩] (.done (.ok page)) :=
        .answer (.stop _)
      refine runs_bind_ok read ?_
      rw [link]
      have rest := @ih (some following) patience (Nat.lt_of_succ_lt_succ enough)
      rw [← List.append_nil (pageEvents ..)]
      exact runs_bind_ok rest (.stop _)

theorem runs_fetch {metadata : Metadata} {first : Page} {others : List Page}
    (linked : Linked first others) (enough : others.length < c.patience) :
    Runs (c.fetch metadata).run (pageEvents metadata.queryId none (first :: others))
      (.done (Page.merge (first :: others) metadata)) := by
  rw [← List.append_nil (pageEvents ..)]
  refine runs_bind_ok (runs_pagesFrom linked enough) ?_
  cases Page.merge (first :: others) metadata with
  | error => exact .stop _
  | ok => exact .stop _

section
variable {status : QueryStatus} {other : String} {start failures : Nat}

theorem unlike_checked {request : Request} {reply : Reply request} {conclusion : Prop}
    (other : request ≠ .status id)
    (same : checked id (.ok status) = ⟨request, reply⟩) : conclusion := by
  cases same
  exact absurd rfl other

theorem stopOverdue_leaves {post : Program service (Except Error Unit) → Prop} :
    (c.stopOverdue other start).run.Leaves (checked id (.ok status)) post := by
  rw [stopOverdue]
  cases c.profile.timeout with
  | none => trivial
  | some limit =>
      refine Fallible.leaves_bind (fun reply => ⟨unlike_checked (by simp), trivial⟩) fun now => ?_
      split
      · exact leaves_bind_outcome (fun reply => ⟨unlike_checked (by simp), trivial⟩) fun _ => trivial
      · trivial

theorem pollFrom_leaves (state : status.state = .succeeded) :
    (c.pollFrom other start patience failures).run.Leaves (checked id (.ok status)) fun left =>
      other = id ∧ left = .done (.ok status) := by
  induction patience generalizing failures with
  | zero => trivial
  | succ patience ih =>
      rw [pollFrom_succ]
      intro reply
      dsimp only
      -- The look is the one that found success, or such a look comes later, with less patience.
      refine ⟨?_, ?_⟩
      · intro same
        cases same
        rw [afterLook, state]
        exact ⟨rfl, rfl⟩
      · have paused : ∀ failures, (do c.pause; c.pollFrom other start patience failures :
            Work QueryStatus).run.Leaves (checked id (.ok status)) fun left =>
              other = id ∧ left = .done (.ok status) := by
          intro failures
          exact Fallible.leaves_bind (fun reply => ⟨unlike_checked (by simp), trivial⟩) fun _ => ih
        cases reply with
        | error error =>
            rw [afterLook]
            split
            · trivial
            · split
              · trivial
              · exact paused _
        | ok other =>
            cases unfinished : other.state with
            | succeeded | failed | cancelled =>
                rw [afterLook, unfinished]
                trivial
            | queued | running =>
                rw [afterLook, unfinished]
                exact Fallible.leaves_bind stopOverdue_leaves fun _ => paused 0

theorem poll_leaves (state : status.state = .succeeded) :
    (c.poll other).run.Leaves (checked id (.ok status)) fun left =>
      other = id ∧ left = .done (.ok status) := by
  rw [poll]
  cases c.profile.timeout with
  | none => exact pollFrom_leaves state
  | some limit => exact fun start => ⟨unlike_checked (by simp), pollFrom_leaves state⟩

theorem pagesFrom_leaves {post : Program service (Except Error (List Page)) → Prop} :
    (pagesFrom other patience token).run.Leaves (checked id (.ok status)) post := by
  induction patience generalizing token post with
  | zero => trivial
  | succ patience ih =>
      refine Fallible.leaves_bind (fun reply => ⟨unlike_checked (by simp), ?_⟩) fun page => ?_
      · trivial
      · cases page.nextToken with
        | none => trivial
        | some next => exact Fallible.leaves_bind ih fun _ => trivial

theorem attempt_leaves_succeeded (c : Client) (sql : String) (number : Nat)
    (state : status.state = .succeeded) :
    (c.attempt sql true number).run.Leaves (checked id (.ok status)) fun left =>
      ∃ metadata : Metadata, metadata.queryId = id ∧ .mk left = c.fetch metadata := by
  rw [attempt_eq]
  refine Fallible.leaves_bind (fun reply => ⟨unlike_checked (by simp), trivial⟩) fun submittedAt => ?_
  refine Fallible.leaves_bind (fun reply => ⟨unlike_checked (by simp), trivial⟩) fun other => ?_
  refine Fallible.leaves_bind ((poll_leaves state).mono ?_) fun _ => ?_
  · intro left found
    obtain ⟨rfl, rfl⟩ := found
    exact ⟨_, rfl, rfl⟩
  · refine Fallible.leaves_bind pagesFrom_leaves fun pages => ?_
    cases Page.merge pages _ <;> trivial

theorem leaves_succeeded (c : Client) (sql : String) (state : status.state = .succeeded) :
    (c.execute sql).run.Leaves (checked id (.ok status)) fun left =>
      ∃ metadata : Metadata, metadata.queryId = id ∧
        Leads (c.fetch metadata) (fun trace => trace) left := by
  let fetches (attempt : Work Result) : Prop :=
    ∃ metadata : Metadata, metadata.queryId = id ∧ attempt = c.fetch metadata
  have leaves := @attemptsAlone_leaves (checked id (.ok status)) fetches c sql true
    (fun number => c.attempt_leaves_succeeded sql number state) (by simp [checked])
  apply leaves.mono
  intro left origin
  obtain ⟨attempt, ⟨metadata, same, rfl⟩, leads⟩ := origin
  exact ⟨metadata, same, leads⟩

end

section
variable {trace : List service.Event} {withRows : Bool} {number start failures : Nat}

theorem attempted_of_runs {last : Except Error Result}
    (ran : Runs (c.attempt sql withRows number).run trace (.done last)) :
    c.Attempted sql withRows number trace last := by
  rw [attempt_eq] at ran
  obtain ⟨submittedAt, before, after, rfl, dated, rest⟩ := runs_bind_lift ran
  cases runs_request dated
  rcases runs_bind rest with ⟨error, rfl, refused⟩ | ⟨id, before, after, rfl, submitted, attended⟩
  · cases runs_request refused
    exact .refused
  · cases runs_request submitted
    exact .submitted (c.attended_of_runs attended)

theorem Polled.ends_succeeded {outcome : Except Error QueryStatus} {status : QueryStatus}
    (polled : c.Polled id start failures trace outcome) (succeeded : outcome = .ok status) :
    status.state = .succeeded ∧ ∃ earlier, trace = earlier ++ [checked id (.ok status)] := by
  induction polled with
  | succeeded state =>
      cases succeeded
      exact ⟨state, [], rfl⟩
  | again _ _ _ ih =>
      obtain ⟨state, earlier, rfl⟩ := ih succeeded
      exact ⟨state, _ :: _ :: earlier, rfl⟩
  | @waiting _ other looks _ _ _ _ _ ih =>
      obtain ⟨state, earlier, rfl⟩ := ih succeeded
      exact ⟨state, checked id (.ok other) :: looks ++ ⟨.sleep c.profile.pollInterval, ()⟩ :: earlier,
        by simp⟩
  | _ => cases succeeded

theorem Polls.ends_succeeded {status : QueryStatus} (polls : c.Polls id trace (.ok status)) :
    status.state = .succeeded ∧ ∃ earlier, trace = earlier ++ [checked id (.ok status)] := by
  cases polls with
  | unlimited _ polled => exact polled.ends_succeeded rfl
  | limited _ polled =>
      obtain ⟨state, earlier, rfl⟩ := polled.ends_succeeded rfl
      exact ⟨state, _ :: earlier, rfl⟩

theorem Paged.linked {outcome : Except Error (List Page)} {pages : List Page}
    (paged : Paged id token trace outcome) (read : outcome = .ok pages) :
    ∃ first others, pages = first :: others ∧ Linked first others ∧
      trace = pageEvents id token pages := by
  induction paged generalizing pages with
  | refused => cases read
  | @last _ page link =>
      cases read
      exact ⟨page, [], rfl, .last link, rfl⟩
  | @more _ next page _ outcome link _ ih =>
      cases outcome with
      | error => cases read
      | ok later =>
          obtain ⟨first, others, rfl, linked, rfl⟩ := ih rfl
          cases read
          refine ⟨page, first :: others, rfl, .more link linked, ?_⟩
          change _ = (⟨.page id _, .ok page⟩ : service.Event) ::
            pageEvents id page.nextToken (first :: others)
          rw [link]

theorem Attempted.fetched {result : Result}
    (attempted : c.Attempted sql true number trace (.ok result)) :
    ∃ before id status first others,
      trace = before ++ checked id (.ok status) :: pageEvents id none (first :: others) ∧
        status.state = .succeeded ∧ Linked first others ∧ result.metadata.queryId = id ∧
          Page.merge (first :: others) result.metadata = .ok result := by
  cases attempted with
  | @submitted submittedAt id trace _ attended =>
      generalize same : (.ok result : Except Error Result) = outcome at attended
      cases attended with
      | unsuccessful => cases same
      | executed rowless => cases rowless
      | @fetched looks pages status read _ polls paged =>
          cases read with
          | error => cases same
          | ok list =>
              obtain ⟨state, earlier, rfl⟩ := polls.ends_succeeded
              obtain ⟨first, others, rfl, linked, rfl⟩ := paged.linked rfl
              have merged : Page.merge (first :: others) (metadataOf id status number submittedAt) =
                  .ok result := same.symm
              have about := Page.metadata_of_merge merged
              refine ⟨⟨.now, submittedAt⟩ :: started (c.requestFor sql) (.ok id) :: earlier, id,
                status, first, others, by simp, state, linked, ?_, ?_⟩
              · rw [about]
                rfl
              · rw [about]
                rfl

theorem fetched_of_runs {result : Result}
    (ran : Runs (c.execute sql).run trace (.done (.ok result))) :
    ∃ before id status first others,
      trace = before ++ checked id (.ok status) :: pageEvents id none (first :: others) ∧
        status.state = .succeeded ∧ Linked first others ∧ result.metadata.queryId = id ∧
          Page.merge (first :: others) result.metadata = .ok result := by
  obtain ⟨events, carried, expands⟩ := Runs.carried ran
  rw [Call.expands_unprepared expands]
  generalize same : (.ok result : Except Error Result) = outcome at carried
  cases ended_of_runs carried with
  | unprepared => cases same
  | @decided _ earlier part _ _ _ attempted =>
      subst same
      obtain ⟨before, id, status, first, others, rfl, fetched⟩ :=
        (attempted_of_runs attempted).fetched
      refine ⟨Call.ownEvents earlier ++ before, id, status, first, others, ?_, fetched⟩
      rw [Call.ownEvents_append, List.append_assoc]
      exact congrArg _ (Call.ownEvents_map_owned _)
  | exhausted => cases same

end

/-- A page is asked for of the query of the last submission, right after it was found to have
succeeded or right after the page before. Once it has succeeded, pages that are linked make together
what the call comes to; and a result has been made of the pages that were read last. -/
structure MergesPages (c : Client) (sql : String) : Prop where
  requested : ∀ before id token reply after rest,
    Runs (c.execute sql).run (before ++ ⟨.page id token, reply⟩ :: after) rest →
      Submitted id before ∧ Due id token before
  merged : ∀ before id status rest,
    Runs (c.execute sql).run (before ++ [checked id (.ok status)]) rest →
      status.state = .succeeded →
        ∃ metadata : Metadata, metadata.queryId = id ∧
          ∀ first others, Linked first others → others.length < c.patience →
            ∃ outcome, Page.Combines first others metadata outcome ∧
              Runs rest (pageEvents id none (first :: others)) (.done outcome)
  fetched : ∀ trace result, Runs (c.execute sql).run trace (.done (.ok result)) →
    ∃ before id status first others,
      trace = before ++ checked id (.ok status) :: pageEvents id none (first :: others) ∧
        status.state = .succeeded ∧ Linked first others ∧ result.metadata.queryId = id ∧
          Page.Combines first others result.metadata (.ok result)

/-- The pages of a query are merged into its result whatever their number, in one way only, and it
makes no difference where the rows are cut into pages. -/
theorem merges_pages (c : Client) (sql : String) :
    c.MergesPages sql ∧
    (∀ first others metadata outcome outcome', Page.Combines first others metadata outcome →
      Page.Combines first others metadata outcome' → outcome = outcome') ∧
    ∀ first first' others others' metadata outcome,
      first.columns = first'.columns → first.updateCount = first'.updateCount →
      first.rows ≠ [] → first'.rows ≠ [] →
      first.rows ++ others.flatMap Page.rows = first'.rows ++ others'.flatMap Page.rows →
      Page.Combines first others metadata outcome → Page.Combines first' others' metadata outcome := by
  refine ⟨⟨?_, ?_, ?_⟩, ?_, ?_⟩
  · intro before id token reply after rest ran
    have reads : (c.execute sql).run.Keeps reading (fun _ _ => True) [] := c.execute_reads sql
    exact reads.allowed ran (Protocol.steps_ofPast_iff.mpr rfl) id token rfl
  · intro before id status rest ran state
    obtain ⟨metadata, rfl, leads⟩ := (c.leaves_succeeded sql state).of_runs ran
    refine ⟨metadata, rfl, ?_⟩
    intro first others linked enough
    refine ⟨_, Page.combines_merge first others metadata,
      leads.ends _ _ (runs_fetch linked enough) ?_⟩
    intro error refused
    obtain ⟨text, rfl⟩ := Page.malformed_of_merge refused
    rfl
  · intro trace result ran
    obtain ⟨before, id, status, first, others, split, state, linked, about, merged⟩ :=
      fetched_of_runs ran
    exact ⟨before, id, status, first, others, split, state, linked, about,
      Page.combines_iff_merge.mpr merged.symm⟩
  · exact fun _ _ _ _ _ combines again => combines.unique again
  · intro first first' others others' metadata outcome columns counts filled filled' same combines
    rw [Page.combines_iff_merge] at combines ⊢
    rw [combines, Page.merge_recut columns counts filled filled' same]

def daysPage (rows : List Row) (token : Option String) : Page :=
  ⟨[⟨"day", "varchar"⟩], rows, none, token⟩

def pagedAnswers : (r : Request) → Nat → Reply r × Nat
  | .start _, count => (.ok (if count = 0 then "first" else "later"), count + 1)
  | .status _, count => (.ok ⟨.succeeded, none, 0, 0, none⟩, count)
  | .page _ none, count => (.ok (daysPage [[some "day"], [some "monday"]] (some "more")), count)
  | .page _ (some _), 1 => (.error (.service "throttled"), 1)
  | .page _ (some _), count => (.ok (daysPage [[some "tuesday"]] none), count)
  | request, count => ((failingAnswers request 0).1, count)

theorem merges_pages_again :
    let c : Client := ⟨{ Profile.ofRequired "s3://b/" "r" "s" "d" with retries := 1 }, 2⟩
    let ran := (c.execute "SELECT 1").run.play pagedAnswers 0
    let first := daysPage [[some "day"], [some "monday"]] (some "more")
    let last := daysPage [[some "tuesday"]] none
    let whole := daysPage [[some "day"], [some "monday"], [some "tuesday"]] none
    ∃ before status metadata,
      ran.1 = before ++ [checked "later" (.ok status)] ++ pageEvents "later" none [first, last] ∧
        ran.2 = .done (.ok ⟨first.columns, [[some "monday"], [some "tuesday"]], metadata⟩) ∧
          Page.Combines whole [] metadata
            (.ok ⟨first.columns, [[some "monday"], [some "tuesday"]], metadata⟩) := by
  intro c ran first last whole
  obtain ⟨merges, unique, recut⟩ := c.merges_pages "SELECT 1"
  have split : ran.1 = ran.1.take 8 ++ [checked "later" (.ok ⟨.succeeded, none, 0, 0, none⟩)] ++
      pageEvents "later" none [first, last] := rfl
  have played : Runs (c.execute "SELECT 1").run ran.1 ran.2 := runs_play _ _ _
  rw [split] at played
  obtain ⟨rest, reached, later⟩ := played.split
  obtain ⟨metadata, _, pages⟩ := merges.merged _ _ _ _ reached rfl
  obtain ⟨outcome, combines, ended⟩ := pages first [last] (.more rfl (.last rfl)) (by decide)
  have labels : Page.Labels first.columns [some "day"] := Page.isHeader_iff.mp rfl
  have expected : Page.Combines first [last] metadata
      (.ok ⟨first.columns, [[some "monday"]] ++ [last].flatMap Page.rows, metadata⟩) :=
    .complete (.skipped rfl rfl labels) (by decide)
  rw [unique _ _ _ _ _ combines expected] at ended
  exact ⟨_, _, metadata, split, later.unique ended,
    recut first whole [last] [] _ _ rfl rfl (by decide) (by decide) rfl expected⟩

end Client
end AthenaModels
