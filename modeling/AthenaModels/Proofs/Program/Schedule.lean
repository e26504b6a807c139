import AthenaModels.Fallible
import AthenaModels.Proofs.Program.Runs

/-! Programs that go through a list of steps and give up at the first that fails. -/

namespace AthenaModels

namespace Program

variable {S : Service} {α β γ : Type}

structure Step (S : Service) where
  request : S.Request
  /-- Which answers let the schedule go on. -/
  succeeds : S.Reply request → Prop
  /-- What is still asked for after any other answer. -/
  cleanup : List S.Request

namespace Step

def guarded (cleanup : List S.Request) (step : Step S) : Step S :=
  { step with cleanup := step.cleanup ++ cleanup }

def always (request : S.Request) : Step S := ⟨request, fun _ => True, []⟩

end Step

/-- The requests are made one after the other, whatever the answers, and then the program ends. -/
inductive WindsUp (outcome : Except Error α) :
    List S.Request → List S.Event → Program S (Except Error α) → Prop where
  | complete : WindsUp outcome [] [] (.done outcome)
  | pending {request : S.Request} {requests : List S.Request}
      {next : S.Reply request → Program S (Except Error α)} :
      WindsUp outcome (request :: requests) [] (.ask request next)
  | answered {request : S.Request} {requests : List S.Request} {reply : S.Reply request}
      {events : List S.Event} {rest : Program S (Except Error α)}
      (later : WindsUp outcome requests events rest) :
      WindsUp outcome (request :: requests) (⟨request, reply⟩ :: events) rest

/-- The steps are made one after the other. After one that fails only its cleanup is left, and the
program ends with an error; after the last one it ends with the value. -/
inductive Follows (value : α) :
    List (Step S) → List S.Event → Program S (Except Error α) → Prop where
  | finished : Follows value [] [] (.done (.ok value))
  | pending (step : Step S) {steps : List (Step S)}
      {next : S.Reply step.request → Program S (Except Error α)} :
      Follows value (step :: steps) [] (.ask step.request next)
  | succeeded (step : Step S) {steps : List (Step S)} {reply : S.Reply step.request}
      {events : List S.Event} {rest : Program S (Except Error α)} (success : step.succeeds reply)
      (later : Follows value steps events rest) :
      Follows value (step :: steps) (⟨step.request, reply⟩ :: events) rest
  | failed (step : Step S) {steps : List (Step S)} {reply : S.Reply step.request} {error : Error}
      {events : List S.Event} {rest : Program S (Except Error α)} (failure : ¬step.succeeds reply)
      (later : WindsUp (.error error : Except Error α) step.cleanup events rest) :
      Follows value (step :: steps) (⟨step.request, reply⟩ :: events) rest

theorem WindsUp.bind {outcome : Except Error α} {requests more : List S.Request}
    {events : List S.Event} {q : Program S (Except Error α)}
    (winds : WindsUp outcome requests events q) (unfinished : q.isOver = false)
    (last : Except Error β) (f : Except Error α → Program S (Except Error β)) :
    WindsUp last (requests ++ more) events (q.bind f) := by
  induction winds with
  | complete => cases unfinished
  | pending => exact .pending
  | answered _ ih => exact .answered (ih unfinished)

theorem WindsUp.append {outcome ended : Except Error α} {last : Except Error β}
    {requests more : List S.Request} {before after : List S.Event}
    {rest : Program S (Except Error β)} (first : WindsUp outcome requests before (.done ended))
    (second : WindsUp last more after rest) :
    WindsUp last (requests ++ more) (before ++ after) rest := by
  generalize complete : (.done ended : Program S (Except Error α)) = q at first
  induction first with
  | complete => exact second
  | pending => cases complete
  | answered _ ih => exact .answered (ih complete)

theorem WindsUp.outcome_eq {outcome ended : Except Error α} {requests : List S.Request}
    {events : List S.Event} (winds : WindsUp outcome requests events (.done ended)) :
    ended = outcome := by
  generalize complete : (.done ended : Program S (Except Error α)) = q at winds
  induction winds with
  | complete =>
      cases complete
      rfl
  | pending => cases complete
  | answered _ ih => exact ih complete

theorem Follows.bind {value : α} {last : β} {steps more : List (Step S)}
    {events : List S.Event} {q : Program S (Except Error α)}
    (follows : Follows value steps events q) (unfinished : q.isOver = false)
    (cleanup : List S.Request) (f : Except Error α → Program S (Except Error β)) :
    Follows last (steps.map (Step.guarded cleanup) ++ more) events (q.bind f) := by
  induction follows with
  | finished => cases unfinished
  | pending step => exact .pending (step.guarded cleanup)
  | succeeded step success _ ih =>
      exact .succeeded (step.guarded cleanup) success (ih unfinished)
  | @failed step _ _ error _ _ failure later =>
      exact .failed (step.guarded cleanup) failure (later.bind unfinished (.error error) f)

theorem Follows.append {value ended : α} {last : β} {steps more : List (Step S)}
    {before after : List S.Event} {rest : Program S (Except Error β)}
    (first : Follows value steps before (.done (.ok ended)))
    (second : Follows last more after rest) (cleanup : List S.Request) :
    Follows last (steps.map (Step.guarded cleanup) ++ more) (before ++ after) rest := by
  generalize complete : (.done (.ok ended) : Program S (Except Error α)) = q at first
  induction first with
  | finished => exact second
  | pending => cases complete
  | succeeded step success _ ih =>
      exact .succeeded (step.guarded cleanup) success (ih complete)
  | failed _ _ later =>
      subst complete
      cases later.outcome_eq

theorem Follows.append_cleanup {value : α} {last : β} {error : Error} {steps more : List (Step S)}
    {cleanup : List S.Request} {before after : List S.Event} {rest : Program S (Except Error β)}
    (first : Follows value steps before (.done (.error error)))
    (second : WindsUp (.error error : Except Error β) cleanup after rest) :
    Follows last (steps.map (Step.guarded cleanup) ++ more) (before ++ after) rest := by
  generalize complete : (.done (.error error) : Program S (Except Error α)) = q at first
  induction first with
  | finished => cases complete
  | pending => cases complete
  | succeeded step success _ ih =>
      exact .succeeded (step.guarded cleanup) success (ih complete)
  | failed step failure later =>
      subst complete
      exact .failed (step.guarded cleanup) failure (later.append second)

theorem Follows.value_eq {value ended : α} {steps : List (Step S)} {events : List S.Event}
    (follows : Follows value steps events (.done (.ok ended))) : ended = value := by
  generalize complete : (.done (.ok ended) : Program S (Except Error α)) = q at follows
  induction follows with
  | finished =>
      cases complete
      rfl
  | pending => cases complete
  | succeeded _ _ _ ih => exact ih complete
  | failed _ _ later =>
      subst complete
      cases later.outcome_eq

theorem WindsUp.follows {value : α} {requests : List S.Request} {events : List S.Event}
    {rest : Program S (Except Error α)} (winds : WindsUp (.ok value) requests events rest) :
    Follows value (requests.map Step.always) events rest := by
  induction winds with
  | complete => exact .finished
  | @pending request _ _ => exact .pending (.always request)
  | @answered request _ _ _ _ _ ih => exact .succeeded (.always request) trivial ih

theorem guarded_nil (steps : List (Step S)) : steps.map (Step.guarded []) = steps := by
  have same : ∀ step : Step S, step.guarded [] = step := by
    intro step
    simp only [Step.guarded, List.append_nil]
  rw [funext same, List.map_id']

end Program

namespace Fallible

open Program

variable {S : Service} {α β : Type}

def Performs (p : Fallible S α) (schedules : List (Step S) → α → Prop) : Prop :=
  ∀ events rest, Runs p.run events rest →
    ∃ steps value, schedules steps value ∧ Follows value steps events rest

variable {schedules weaker : List (Step S) → α → Prop}

theorem Performs.mono {p : Fallible S α} (performs : Performs p schedules)
    (implies : ∀ steps value, schedules steps value → weaker steps value) : Performs p weaker := by
  intro events rest ran
  obtain ⟨steps, value, scheduled, follows⟩ := performs events rest ran
  exact ⟨steps, value, implies steps value scheduled, follows⟩

theorem performs_pure (value : α) :
    Performs (pure value : Fallible S α) fun steps ended => steps = [] ∧ ended = value := by
  intro events rest ran
  obtain ⟨rfl, rfl⟩ := runs_done.mp ran
  exact ⟨[], value, ⟨rfl, rfl⟩, .finished⟩

theorem performs_ask_good {request : S.Request} {p : Fallible S α} {good : α → Prop}
    (succeeds : α → S.Reply request → Prop) (read : S.Reply request → Except Error α)
    (same : p.run = .ask request fun reply => .done (read reply))
    (reads : ∀ reply value, read reply = .ok value → succeeds value reply ∧ good value)
    (fails : ∀ reply value error, succeeds value reply → read reply ≠ .error error)
    (inhabited : ∃ value, good value) :
    Performs p fun steps value => steps = [⟨request, succeeds value, []⟩] ∧ good value := by
  intro events rest ran
  rw [same] at ran
  obtain ⟨some, goodSome⟩ := inhabited
  rcases runs_ask.mp ran with ⟨rfl, rfl⟩ | ⟨reply, later, rfl, complete⟩
  · exact ⟨_, some, ⟨rfl, goodSome⟩, .pending ⟨request, succeeds some, []⟩⟩
  · obtain ⟨rfl, rfl⟩ := runs_done.mp complete
    cases outcome : read reply with
    | ok value =>
        obtain ⟨success, goodValue⟩ := reads reply value outcome
        exact ⟨_, value, ⟨rfl, goodValue⟩,
          .succeeded ⟨request, succeeds value, []⟩ success .finished⟩
    | error error =>
        refine ⟨_, some, ⟨rfl, goodSome⟩, .failed ⟨request, succeeds some, []⟩ ?_ .complete⟩
        intro success
        exact fails reply some error success outcome

theorem performs_ask {request : S.Request} {p : Fallible S α} (some : α)
    (succeeds : α → S.Reply request → Prop) (read : S.Reply request → Except Error α)
    (same : p.run = .ask request fun reply => .done (read reply))
    (reads : ∀ reply value, read reply = .ok value → succeeds value reply)
    (fails : ∀ reply value error, succeeds value reply → read reply ≠ .error error) :
    Performs p fun steps value => steps = [⟨request, succeeds value, []⟩] := by
  have all : ∃ value : α, (fun _ => True) value := ⟨some, trivial⟩
  exact (performs_ask_good succeeds read same
    (fun reply value outcome => ⟨reads reply value outcome, trivial⟩) fails all).mono
    fun _ _ => And.left

theorem performs_finally {p : Fallible S α} {cleanup : List S.Request}
    {finish : Except Error α → Fallible S α} (performs : Performs p schedules)
    (winds : ∀ outcome events rest, Runs (finish outcome).run events rest →
      WindsUp outcome cleanup events rest) :
    Performs (p.outcome >>= finish) fun steps value => ∃ first, schedules first value ∧
      steps = first.map (Step.guarded cleanup) ++ cleanup.map Step.always := by
  intro events rest ran
  have same : (p.outcome >>= finish).run = p.run.bind fun outcome => (finish outcome).run := by
    exact Program.bind_assoc p.run _ _
  rw [same] at ran
  rcases ran.of_bind with ⟨q, first, unfinished, rfl⟩ | ⟨outcome, before, after, rfl, first, second⟩
  · obtain ⟨steps, value, scheduled, follows⟩ := performs events q first
    exact ⟨_, value, ⟨steps, scheduled, rfl⟩, follows.bind unfinished cleanup _⟩
  · obtain ⟨steps, value, scheduled, follows⟩ := performs before _ first
    have wound := winds outcome after rest second
    cases outcome with
    | error error => exact ⟨_, value, ⟨steps, scheduled, rfl⟩, follows.append_cleanup wound⟩
    | ok ended =>
        obtain rfl := follows.value_eq
        exact ⟨_, ended, ⟨steps, scheduled, rfl⟩, follows.append wound.follows cleanup⟩

theorem performs_bind {p : Fallible S α} {f : α → Fallible S β}
    {later : α → List (Step S) → β → Prop} (first : Performs p schedules)
    (second : ∀ value, Performs (f value) (later value)) :
    Performs (p >>= f) fun steps last => ∃ before value after,
      schedules before value ∧ later value after last ∧ steps = before ++ after := by
  intro events rest ran
  rcases Program.Runs.of_bind ran with
    ⟨q, begun, unfinished, rfl⟩ | ⟨outcome, before, after, rfl, begun, through⟩
  · obtain ⟨steps, value, scheduled, follows⟩ := first events q begun
    obtain ⟨more, last, planned, _⟩ := second value [] _ (.stop _)
    refine ⟨steps ++ more, last, ⟨steps, value, more, scheduled, planned, rfl⟩, ?_⟩
    rw [← guarded_nil steps]
    exact follows.bind unfinished [] (ExceptT.bindCont f)
  · obtain ⟨steps, value, scheduled, follows⟩ := first before _ begun
    cases outcome with
    | error error =>
        obtain ⟨rfl, rfl⟩ := runs_done.mp through
        obtain ⟨more, last, planned, _⟩ := second value [] _ (.stop _)
        refine ⟨steps ++ more, last, ⟨steps, value, more, scheduled, planned, rfl⟩, ?_⟩
        rw [← guarded_nil steps]
        exact follows.append_cleanup .complete
    | ok ended =>
        obtain rfl := follows.value_eq
        obtain ⟨more, last, planned, continued⟩ := second ended after rest through
        refine ⟨steps ++ more, last, ⟨steps, ended, more, scheduled, planned, rfl⟩, ?_⟩
        rw [← guarded_nil steps]
        exact follows.append continued []

theorem performs_mapM {ι : Type} {f : ι → Fallible S α} {step : ι → α → Step S}
    (performs : ∀ item, Performs (f item) fun steps value => steps = [step item value])
    (items : List ι) :
    Performs (items.mapM f) fun steps values => values.length = items.length ∧
      steps = List.zipWith step items values := by
  induction items with
  | nil =>
      rw [List.mapM_nil]
      apply (performs_pure []).mono
      intro _ _ given
      obtain ⟨rfl, rfl⟩ := given
      exact ⟨rfl, rfl⟩
  | cons item items ih =>
      rw [List.mapM_cons]
      have later : ∀ value, Performs (do let values ← items.mapM f; pure (value :: values))
          fun steps values => ∃ others, values = value :: others ∧ others.length = items.length ∧
            steps = List.zipWith step items others := by
        intro value
        refine (performs_bind ih fun others => performs_pure (value :: others)).mono ?_
        intro _ _ given
        obtain ⟨before, others, after, ⟨length, rfl⟩, ⟨rfl, rfl⟩, rfl⟩ := given
        exact ⟨others, rfl, length, by rw [List.append_nil]⟩
      apply (performs_bind (performs item) later).mono
      intro _ _ given
      obtain ⟨before, value, after, rfl, ⟨others, rfl, length, rfl⟩, rfl⟩ := given
      exact ⟨by rw [List.length_cons, List.length_cons, length], rfl⟩

theorem performs_forM {ι : Type} {f : ι → Fallible S PUnit} {step : ι → Step S}
    (performs : ∀ item, Performs (f item) fun steps _ => steps = [step item]) (items : List ι) :
    Performs (items.forM f) fun steps _ => steps = items.map step := by
  induction items with
  | nil =>
      apply (performs_pure _).mono
      intro _ _ given
      obtain ⟨rfl, _⟩ := given
      rfl
  | cons item items ih =>
      refine (performs_bind (performs item) fun _ => ih).mono ?_
      intro _ _ given
      obtain ⟨before, _, after, rfl, rfl, rfl⟩ := given
      rfl

end Fallible
end AthenaModels
