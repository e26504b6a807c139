import AthenaModels.Program

/-! What a program does on one course of the answers, up to any point of it. -/

namespace AthenaModels

structure Service.Event (S : Service) where
  request : S.Request
  reply : S.Reply request

namespace Program

variable {S T : Service} {α β : Type}

/-- A program makes the requests of a trace and, when they are so answered, is left with `rest`. -/
inductive Runs : Program S α → List S.Event → Program S α → Prop where
  | stop (p : Program S α) : Runs p [] p
  | answer {request : S.Request} {next : S.Reply request → Program S α}
      {reply : S.Reply request} {trace : List S.Event} {rest : Program S α}
      (ran : Runs (next reply) trace rest) :
      Runs (.ask request next) (⟨request, reply⟩ :: trace) rest

@[simp] theorem runs_done {value : α} {trace : List S.Event} {rest : Program S α} :
    Runs (.done value) trace rest ↔ trace = [] ∧ rest = .done value := by
  constructor
  · intro ran
    cases ran
    exact ⟨rfl, rfl⟩
  · intro given
    obtain ⟨rfl, rfl⟩ := given
    exact .stop _

@[simp] theorem runs_exhausted {trace : List S.Event} {rest : Program S α} :
    Runs .exhausted trace rest ↔ trace = [] ∧ rest = .exhausted := by
  constructor
  · intro ran
    cases ran
    exact ⟨rfl, rfl⟩
  · intro given
    obtain ⟨rfl, rfl⟩ := given
    exact .stop _

theorem runs_ask {request : S.Request} {next : S.Reply request → Program S α}
    {trace : List S.Event} {rest : Program S α} :
    Runs (.ask request next) trace rest ↔
      (trace = [] ∧ rest = .ask request next) ∨
        ∃ reply later, trace = ⟨request, reply⟩ :: later ∧ Runs (next reply) later rest := by
  constructor
  · intro ran
    cases ran with
    | stop => exact .inl ⟨rfl, rfl⟩
    | answer ran => exact .inr ⟨_, _, rfl, ran⟩
  · intro given
    rcases given with ⟨rfl, rfl⟩ | ⟨reply, later, rfl, ran⟩
    · exact .stop _
    · exact .answer ran

theorem Runs.append {p q rest : Program S α} {before after : List S.Event}
    (first : Runs p before q) (second : Runs q after rest) : Runs p (before ++ after) rest := by
  induction first with
  | stop => exact second
  | answer _ ih => exact .answer (ih second)

theorem Runs.split {p rest : Program S α} {before after : List S.Event}
    (ran : Runs p (before ++ after) rest) : ∃ q, Runs p before q ∧ Runs q after rest := by
  induction before generalizing p with
  | nil => exact ⟨p, .stop p, ran⟩
  | cons event before ih =>
      cases ran with
      | answer ran =>
          obtain ⟨q, first, second⟩ := ih ran
          exact ⟨q, .answer first, second⟩

/-- The run of a program whose requests are answered from a state. -/
def play {σ : Type} (answer : (r : S.Request) → σ → S.Reply r × σ) :
    Program S α → σ → List S.Event × Program S α
  | .ask request next, state =>
      let (reply, later) := answer request state
      let (trace, rest) := (next reply).play answer later
      (⟨request, reply⟩ :: trace, rest)
  | p, _ => ([], p)

theorem runs_play {σ : Type} (answer : (r : S.Request) → σ → S.Reply r × σ) (p : Program S α)
    (state : σ) : Runs p (p.play answer state).1 (p.play answer state).2 := by
  induction p generalizing state with
  | done value => exact .stop _
  | exhausted => exact .stop _
  | ask request next ih => exact .answer (ih _ _)

def AnsweredBy {σ : Type} (answer : (r : S.Request) → σ → S.Reply r × σ) : σ → List S.Event → Prop
  | _, [] => True
  | state, event :: trace =>
      event.reply = (answer event.request state).1 ∧
        AnsweredBy answer (answer event.request state).2 trace

def stateAfter {σ : Type} (answer : (r : S.Request) → σ → S.Reply r × σ) (state : σ)
    (trace : List S.Event) : σ :=
  trace.foldl (fun state event => (answer event.request state).2) state

theorem stateAfter_append {σ : Type} (answer : (r : S.Request) → σ → S.Reply r × σ) (state : σ)
    (before after : List S.Event) :
    stateAfter answer state (before ++ after) =
      stateAfter answer (stateAfter answer state before) after :=
  List.foldl_append

theorem AnsweredBy.append {σ : Type} {answer : (r : S.Request) → σ → S.Reply r × σ} {state : σ}
    {before after : List S.Event} (first : AnsweredBy answer state before)
    (second : AnsweredBy answer (stateAfter answer state before) after) :
    AnsweredBy answer state (before ++ after) := by
  induction before generalizing state with
  | nil => exact second
  | cons event before ih => exact ⟨first.1, ih first.2 second⟩

theorem AnsweredBy.of_append {σ : Type} {answer : (r : S.Request) → σ → S.Reply r × σ} {state : σ}
    {before after : List S.Event} (answered : AnsweredBy answer state (before ++ after)) :
    AnsweredBy answer (stateAfter answer state before) after := by
  induction before generalizing state with
  | nil => exact answered
  | cons event before ih => exact ih answered.2

theorem AnsweredBy.left_of_append {σ : Type} {answer : (r : S.Request) → σ → S.Reply r × σ}
    {state : σ} {before after : List S.Event} (answered : AnsweredBy answer state (before ++ after)) :
    AnsweredBy answer state before := by
  induction before generalizing state with
  | nil => trivial
  | cons event before ih => exact ⟨answered.1, ih answered.2⟩

theorem answeredBy_play {σ : Type} (answer : (r : S.Request) → σ → S.Reply r × σ)
    (p : Program S α) (state : σ) : AnsweredBy answer state (p.play answer state).1 := by
  induction p generalizing state with
  | done value => trivial
  | exhausted => trivial
  | ask request next ih => exact ⟨rfl, ih _ _⟩

theorem Runs.play_eq {σ : Type} {answer : (r : S.Request) → σ → S.Reply r × σ} {state : σ}
    {p rest : Program S α} {trace : List S.Event} (ran : Runs p trace rest)
    (answered : AnsweredBy answer state trace) :
    p.play answer state =
      (trace ++ (rest.play answer (stateAfter answer state trace)).1,
        (rest.play answer (stateAfter answer state trace)).2) := by
  induction ran generalizing state with
  | stop => rfl
  | answer _ ih =>
      obtain ⟨told, later⟩ := answered
      dsimp only at told later
      subst told
      have played := ih later
      simp only [play, played]
      rfl

theorem stateAfter_of {σ : Type} {answer : (r : S.Request) → σ → S.Reply r × σ}
    {holds : σ → Prop} (kept : ∀ request state, holds state → holds (answer request state).2)
    {state : σ} (now : holds state) (trace : List S.Event) :
    holds (stateAfter answer state trace) := by
  induction trace generalizing state with
  | nil => exact now
  | cons event trace ih => exact ih (kept event.request state now)

def isOver : Program S α → Bool
  | .done _ => true
  | _ => false

def ended? {ε : Type} : Program S (Except ε α) → Option Bool
  | .done (.ok _) => some true
  | .done (.error _) => some false
  | _ => none

def failure? {ε : Type} : Program S (Except ε α) → Option ε
  | .done (.error error) => some error
  | _ => none

theorem eq_error_of_failure? {ε : Type} {p : Program S (Except ε α)} {error : ε}
    (failed : p.failure? = some error) : p = .done (.error error) := by
  cases p with
  | done outcome =>
      cases outcome with
      | ok => cases failed
      | error =>
          cases failed
          rfl
  | ask => cases failed
  | exhausted => cases failed

theorem eq_ok_of_ended? {ε : Type} {p : Program S (Except ε α)} (ended : p.ended? = some true) :
    ∃ value, p = .done (.ok value) := by
  cases p with
  | done outcome =>
      cases outcome with
      | ok value => exact ⟨value, rfl⟩
      | error => cases ended
  | ask => cases ended
  | exhausted => cases ended

theorem eq_error_of_ended? {ε : Type} {p : Program S (Except ε α)}
    (ended : p.ended? = some false) : ∃ error, p = .done (.error error) := by
  cases p with
  | done outcome =>
      cases outcome with
      | ok => cases ended
      | error error => exact ⟨error, rfl⟩
  | ask => cases ended
  | exhausted => cases ended

theorem split_at_request {events : List S.Event} {n : Nat} {request : S.Request}
    (asked : events[n]?.map (·.request) = some request) :
    ∃ reply, events = events.take n ++ ⟨request, reply⟩ :: events.drop (n + 1) := by
  obtain ⟨⟨other, reply⟩, here, rfl⟩ := Option.map_eq_some_iff.mp asked
  obtain ⟨inside, same⟩ := List.getElem?_eq_some_iff.mp here
  refine ⟨reply, ?_⟩
  rw [← same, ← List.drop_eq_getElem_cons inside, List.take_append_drop]

theorem exists_mem_of_request {events : List S.Event} {n : Nat} {request : S.Request}
    (asked : events[n]?.map (·.request) = some request) : ∃ reply, ⟨request, reply⟩ ∈ events := by
  obtain ⟨reply, split⟩ := split_at_request asked
  exact ⟨reply, split ▸ List.mem_append_right _ List.mem_cons_self⟩

/-- A run of a composed program is still in its first part, or has come through it. -/
theorem Runs.of_bind {p : Program S α} {f : α → Program S β} {trace : List S.Event}
    {rest : Program S β} (ran : Runs (p.bind f) trace rest) :
    (∃ q, Runs p trace q ∧ q.isOver = false ∧ rest = q.bind f) ∨
      ∃ value before after, trace = before ++ after ∧ Runs p before (.done value) ∧
        Runs (f value) after rest := by
  induction p generalizing trace with
  | done value => exact .inr ⟨value, [], trace, rfl, .stop _, ran⟩
  | exhausted =>
      obtain ⟨rfl, rfl⟩ := runs_exhausted.mp ran
      exact .inl ⟨.exhausted, .stop _, rfl, rfl⟩
  | ask request next ih =>
      rcases runs_ask.mp ran with ⟨rfl, rfl⟩ | ⟨reply, later, rfl, answered⟩
      · exact .inl ⟨.ask request next, .stop _, rfl, rfl⟩
      · rcases ih reply answered with
          ⟨q, first, left, equality⟩ | ⟨value, before, after, rfl, first, second⟩
        · exact .inl ⟨q, .answer first, left, equality⟩
        · exact .inr ⟨value, ⟨request, reply⟩ :: before, after, rfl, .answer first, second⟩

/-- Each request of the first trace was carried out in full, in a part of the second. -/
inductive Expands (carryOut : (r : S.Request) → Program T (S.Reply r)) :
    List S.Event → List T.Event → Prop where
  | nil : Expands carryOut [] []
  | cons {event : S.Event} {events : List S.Event} {part trace : List T.Event}
      (ran : Runs (carryOut event.request) part (.done event.reply))
      (later : Expands carryOut events trace) :
      Expands carryOut (event :: events) (part ++ trace)

/-- The next request of a program has been carried out in part, which leaves `rest`. -/
inductive Begun (carryOut : (r : S.Request) → Program T (S.Reply r)) :
    Program S α → List T.Event → Program T α → Prop where
  | complete (value : α) : Begun carryOut (.done value) [] (.done value)
  | exhausted : Begun carryOut .exhausted [] .exhausted
  | underway {request : S.Request} {next : S.Reply request → Program S α}
      {begun : List T.Event} {left : Program T (S.Reply request)}
      (ran : Runs (carryOut request) begun left) (unfinished : left.isOver = false) :
      Begun carryOut (.ask request next) begun
        (left.bind fun reply => (next reply).translate carryOut)

/-- A run of a program whose requests another service carries out: those of `events` have been, the
next one may have been in part. -/
structure Account (carryOut : (r : S.Request) → Program T (S.Reply r)) (p : Program S α)
    (events : List S.Event) (reached : Program S α) (trace : List T.Event)
    (rest : Program T α) : Prop where
  ran : Runs p events reached
  carried : ∃ before begun, trace = before ++ begun ∧ Expands carryOut events before ∧
    Begun carryOut reached begun rest

variable {carryOut : (r : S.Request) → Program T (S.Reply r)}

theorem Runs.account {p : Program S α} {trace : List T.Event} {rest : Program T α}
    (ran : Runs (p.translate carryOut) trace rest) :
    ∃ events reached, Account carryOut p events reached trace rest := by
  induction p generalizing trace with
  | done value =>
      obtain ⟨rfl, rfl⟩ := runs_done.mp ran
      exact ⟨[], .done value, .stop _, [], [], rfl, .nil, .complete value⟩
  | exhausted =>
      obtain ⟨rfl, rfl⟩ := runs_exhausted.mp ran
      exact ⟨[], .exhausted, .stop _, [], [], rfl, .nil, .exhausted⟩
  | ask request next ih =>
      rcases ran.of_bind with
        ⟨left, begun, unfinished, rfl⟩ | ⟨reply, part, later, rfl, first, second⟩
      · exact ⟨[], .ask request next, .stop _, [], trace, rfl, .nil, .underway begun unfinished⟩
      · obtain ⟨events, reached, account⟩ := ih reply second
        obtain ⟨before, begun, rfl, expands, underway⟩ := account.carried
        exact ⟨⟨request, reply⟩ :: events, reached, .answer account.ran, part ++ before, begun,
          by rw [List.append_assoc], .cons first expands, underway⟩

end Program
end AthenaModels
