import AthenaModels.Proofs.Program.Protocol
import AthenaModels.Proofs.Program.Requests

namespace AthenaModels

namespace Program

variable {S : Service} {σ α β : Type} {protocol : Protocol S σ}

theorem bind_ne_done {q : Program S α} {f : α → Program S β} {last : β}
    (unfinished : q.isOver = false) : q.bind f ≠ .done last := by
  cases q with
  | done => cases unfinished
  | ask => exact nofun
  | exhausted => exact nofun

theorem Runs.of_bind_done {p : Program S α} {f : α → Program S β} {trace : List S.Event}
    {last : β} (ran : Runs (p.bind f) trace (.done last)) :
    ∃ value before after, trace = before ++ after ∧ Runs p before (.done value) ∧
      Runs (f value) after (.done last) := by
  rcases ran.of_bind with ⟨q, _, unfinished, same⟩ | through
  · exact absurd same.symm (bind_ne_done unfinished)
  · exact through

theorem Runs.bind_done {p : Program S α} {f : α → Program S β} {before after : List S.Event}
    {value : α} {rest : Program S β} (first : Runs p before (.done value))
    (second : Runs (f value) after rest) : Runs (p.bind f) (before ++ after) rest := by
  induction p generalizing before with
  | done other =>
      obtain ⟨rfl, same⟩ := runs_done.mp first
      cases same
      exact second
  | exhausted =>
      obtain ⟨_, same⟩ := runs_exhausted.mp first
      cases same
  | ask request next ih =>
      rcases runs_ask.mp first with ⟨_, same⟩ | ⟨reply, later, rfl, answered⟩
      · cases same
      · exact .answer (ih reply answered)

theorem Runs.unique {p rest other : Program S α} {trace : List S.Event} (ran : Runs p trace rest)
    (again : Runs p trace other) : rest = other := by
  induction ran with
  | stop =>
      cases again
      rfl
  | answer _ ih =>
      cases again with
      | answer again => exact ih again

theorem runs_request {request : S.Request} {trace : List S.Event} {reply : S.Reply request}
    (ran : Runs (Program.request request) trace (.done reply)) : trace = [⟨request, reply⟩] := by
  rcases runs_ask.mp ran with ⟨_, same⟩ | ⟨answer, later, rfl, complete⟩
  · cases same
  · obtain ⟨rfl, same⟩ := runs_done.mp complete
    cases same
    rfl

variable {T : Service} {carryOut : (r : S.Request) → Program T (S.Reply r)}

theorem Runs.carried {p : Program S α} {trace : List T.Event} {value : α}
    (ran : Runs (p.translate carryOut) trace (.done value)) :
    ∃ events, Runs p events (.done value) ∧ Expands carryOut events trace := by
  induction p generalizing trace with
  | done =>
      obtain ⟨rfl, same⟩ := runs_done.mp ran
      cases same
      exact ⟨[], .stop _, .nil⟩
  | exhausted =>
      obtain ⟨_, same⟩ := runs_exhausted.mp ran
      cases same
  | ask request next ih =>
      obtain ⟨reply, part, later, rfl, first, second⟩ := Runs.of_bind_done ran
      obtain ⟨events, ran, expands⟩ := ih reply second
      exact ⟨⟨request, reply⟩ :: events, .answer ran, .cons first expands⟩

theorem Account.complete {p reached : Program S α} {events : List S.Event} {trace : List T.Event}
    {rest : Program T α} {value : α} (account : Account carryOut p events reached trace rest)
    (finished : rest = .done value) : Runs p events (.done value) := by
  obtain ⟨before, begun, _, _, underway⟩ := account.carried
  cases underway with
  | complete =>
      cases finished
      exact account.ran
  | exhausted => cases finished
  | underway _ unfinished => exact absurd finished (bind_ne_done unfinished)

theorem Runs.translate {p rest : Program S α} {events : List S.Event} {trace : List T.Event}
    (ran : Runs p events rest) (expands : Expands carryOut events trace) :
    Runs (p.translate carryOut) trace (rest.translate carryOut) := by
  induction ran generalizing trace with
  | stop =>
      cases expands
      exact .stop _
  | answer _ ih =>
      cases expands with
      | cons part later => exact part.bind_done (ih later)

theorem Expands.forall_told {events : List S.Event} {trace : List T.Event}
    {told : S.Event → Prop} {heard : T.Event → Prop} (expands : Expands carryOut events trace)
    (carried : ∀ request part reply, Runs (carryOut request) part (.done reply) →
      (∀ event ∈ part, heard event) → told ⟨request, reply⟩)
    (all : ∀ event ∈ trace, heard event) : ∀ event ∈ events, told event := by
  induction expands with
  | nil => exact nofun
  | @cons event events part trace ran _ ih =>
      obtain ⟨inPart, later⟩ := List.forall_mem_append.mp all
      exact List.forall_mem_cons.mpr ⟨carried _ part event.reply ran inPart, ih later⟩

/-- A program that asks only for what is always allowed keeps to a protocol when what holds in the
end follows from its runs. -/
theorem keeps_of_runs {p : Program S α} {post : σ → α → Prop} {state : σ}
    {always : S.Request → Prop} (makes : p.Makes always)
    (permits : ∀ state request, always request → protocol.allowed state request)
    (ends : ∀ trace value last, Runs p trace (.done value) → protocol.Steps state trace last →
      post last value) : p.Keeps protocol post state := by
  induction p generalizing state with
  | done value => exact ends [] value state (.stop _) (.refl state)
  | exhausted => trivial
  | ask request next ih =>
      refine ⟨permits state request makes.1, ?_⟩
      intro reply middle step
      apply ih reply (makes.2 reply)
      intro trace value last ran steps
      exact ends (⟨request, reply⟩ :: trace) value last (.answer ran) (.cons step steps)

end Program

theorem Protocol.steps_ofPast_iff {S : Service} {allowed : List S.Event → S.Request → Prop}
    {past trace last : List S.Event} :
    (ofPast allowed).Steps past trace last ↔ last = past ++ trace := by
  induction trace generalizing past with
  | nil =>
      rw [List.append_nil]
      constructor
      · intro steps
        cases steps
        rfl
      · rintro rfl
        exact .refl _
  | cons event trace ih =>
      constructor
      · intro steps
        cases steps with
        | cons first later =>
            cases first
            rw [ih.mp later, List.append_assoc, List.singleton_append]
      · rintro rfl
        refine .cons rfl (ih.mpr ?_)
        rw [List.append_assoc, List.singleton_append]

namespace Fallible

open Program

variable {S : Service} {α β : Type} {trace : List S.Event} {last : Except Error β}

theorem runs_bind {p : Fallible S α} {f : α → Fallible S β}
    (ran : Runs (p >>= f).run trace (.done last)) :
    (∃ error, last = .error error ∧ Runs p.run trace (.done (.error error))) ∨
      ∃ value before after, trace = before ++ after ∧ Runs p.run before (.done (.ok value)) ∧
        Runs (f value).run after (.done last) := by
  obtain ⟨outcome, before, after, rfl, first, second⟩ := Runs.of_bind_done ran
  cases outcome with
  | error error =>
      obtain ⟨rfl, same⟩ := runs_done.mp second
      cases same
      exact .inl ⟨error, rfl, by rwa [List.append_nil]⟩
  | ok value => exact .inr ⟨value, before, after, rfl, first, second⟩

theorem runs_bind_ok {p : Fallible S α} {f : α → Fallible S β} {before after : List S.Event}
    {value : α} {rest : Program S (Except Error β)} (first : Runs p.run before (.done (.ok value)))
    (second : Runs (f value).run after rest) : Runs (p >>= f).run (before ++ after) rest :=
  first.bind_done second

theorem runs_bind_error {p : Fallible S α} {f : α → Fallible S β} {error : Error}
    (failed : Runs p.run trace (.done (.error error))) :
    Runs (p >>= f).run trace (.done (.error error)) := by
  have ended : Runs (Program.done (Except.error error : Except Error β)) ([] : List S.Event) _ :=
    .stop _
  have ran := failed.bind_done (f := ExceptT.bindCont f) ended
  rwa [List.append_nil] at ran

theorem runs_lift {p : Program S α} {last : Except Error α}
    (ran : Runs (ExceptT.lift p : Fallible S α).run trace (.done last)) :
    ∃ value, last = .ok value ∧ Runs p trace (.done value) := by
  obtain ⟨value, before, after, rfl, first, second⟩ := Runs.of_bind_done ran
  obtain ⟨rfl, same⟩ := runs_done.mp second
  cases same
  exact ⟨value, rfl, by rwa [List.append_nil]⟩

theorem runs_bind_lift {p : Program S α} {f : α → Fallible S β}
    (ran : Runs (ExceptT.lift p >>= f : Fallible S β).run trace (.done last)) :
    ∃ value before after, trace = before ++ after ∧ Runs p before (.done value) ∧
      Runs (f value).run after (.done last) := by
  rcases runs_bind ran with ⟨error, _, failed⟩ | ⟨value, before, after, rfl, first, second⟩
  · obtain ⟨value, same, _⟩ := runs_lift failed
    cases same
  · obtain ⟨_, same, first⟩ := runs_lift first
    cases same
    exact ⟨value, before, after, rfl, first, second⟩

theorem runs_bind_outcome {p : Fallible S α} {f : Except Error α → Fallible S β}
    (ran : Runs (p.outcome >>= f).run trace (.done last)) :
    ∃ outcome before after, trace = before ++ after ∧ Runs p.run before (.done outcome) ∧
      Runs (f outcome).run after (.done last) :=
  runs_bind_lift ran

theorem runs_outcome {p : Fallible S α} {outcome : Except Error α}
    (ran : Runs p.run trace (.done outcome)) : Runs p.outcome.run trace (.done (.ok outcome)) := by
  have ended : Runs (.done (.ok outcome) : Program S (Except Error (Except Error α))) [] _ :=
    .stop _
  rw [← List.append_nil trace]
  exact ran.bind_done ended

theorem runs_outcome_bind {p : Fallible S α} {f : Except Error α → Fallible S β}
    {outcome : Except Error α} (ran : Runs p.run trace (.done outcome)) :
    Runs (p.outcome >>= f).run trace (f outcome).run := by
  have reached := runs_bind_ok (runs_outcome ran) (.stop (f outcome).run)
  rwa [List.append_nil] at reached

theorem runs_ofExcept {outcome last : Except Error α}
    (ran : Runs (ofExcept outcome : Fallible S α).run trace (.done last)) :
    trace = [] ∧ last = outcome := by
  cases outcome with
  | error error =>
      obtain ⟨rfl, same⟩ := runs_done.mp ran
      exact ⟨rfl, Program.done.inj same⟩
  | ok value =>
      obtain ⟨rfl, same⟩ := runs_done.mp ran
      exact ⟨rfl, Program.done.inj same⟩

end Fallible
end AthenaModels
