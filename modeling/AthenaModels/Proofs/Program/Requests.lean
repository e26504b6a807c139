import AthenaModels.Fallible
import AthenaModels.Proofs.Program.Runs

namespace AthenaModels

variable {S T : Service} {α β : Type}

namespace Program

/-- Whatever the answers, the program makes only allowed requests. -/
def Makes (allowed : S.Request → Prop) : Program S α → Prop
  | .done _ => True
  | .ask request next => allowed request ∧ ∀ reply, (next reply).Makes allowed
  | .exhausted => True

variable {allowed wider : S.Request → Prop}

theorem makes_bind {p : Program S α} {f : α → Program S β} (first : p.Makes allowed)
    (second : ∀ value, (f value).Makes allowed) : (p.bind f).Makes allowed := by
  induction p with
  | done value => exact second value
  | ask request next ih => exact ⟨first.1, fun reply => ih reply (first.2 reply)⟩
  | exhausted => trivial

theorem Makes.mono {p : Program S α} (makes : p.Makes allowed)
    (implies : ∀ request, allowed request → wider request) : p.Makes wider := by
  induction p with
  | done => trivial
  | ask request next ih =>
      exact ⟨implies request makes.1, fun reply => ih reply (makes.2 reply)⟩
  | exhausted => trivial

theorem makes_anything (p : Program S α) : p.Makes fun _ => True := by
  induction p with
  | done => trivial
  | ask request next ih => exact ⟨trivial, ih⟩
  | exhausted => trivial

theorem Makes.translate {lower : T.Request → Prop}
    {carryOut : (r : S.Request) → Program T (S.Reply r)} {p : Program S α} (makes : p.Makes allowed)
    (carried : ∀ request, allowed request → (carryOut request).Makes lower) :
    (p.translate carryOut).Makes lower := by
  induction p with
  | done => trivial
  | ask request next ih =>
      exact makes_bind (carried request makes.1) fun reply => ih reply (makes.2 reply)
  | exhausted => trivial

theorem Makes.allowed_of_mem {p rest : Program S α} {trace : List S.Event}
    (makes : p.Makes allowed) (ran : Runs p trace rest) {event : S.Event}
    (member : event ∈ trace) : allowed event.request := by
  induction ran with
  | stop => cases member
  | answer _ ih =>
      rcases List.mem_cons.mp member with rfl | later
      · exact makes.1
      · exact ih (makes.2 _) later

theorem Makes.rest {p rest : Program S α} {trace : List S.Event} (makes : p.Makes allowed)
    (ran : Runs p trace rest) : rest.Makes allowed := by
  induction ran with
  | stop => exact makes
  | answer _ ih => exact ih (makes.2 _)

variable {carryOut : (r : S.Request) → Program T (S.Reply r)}
  {serves : S.Request → T.Request → Prop}

/-- A request that a program has made, or is about to make. -/
def Concerned (events : List S.Event) (reached : Program S α) (request : S.Request) : Prop :=
  (∃ event ∈ events, event.request = request) ∨ ∃ next, reached = .ask request next

theorem Makes.allowed_of_concerned {p reached : Program S α} {events : List S.Event}
    {request : S.Request} (makes : p.Makes allowed) (ran : Runs p events reached)
    (concerned : Concerned events reached request) : allowed request := by
  rcases concerned with ⟨event, member, rfl⟩ | ⟨next, rfl⟩
  · exact makes.allowed_of_mem ran member
  · exact (makes.rest ran).1

theorem Expands.serves_of_mem {events : List S.Event} {trace : List T.Event}
    (expands : Expands carryOut events trace)
    (carried : ∀ request, (carryOut request).Makes (serves request)) {lower : T.Event}
    (member : lower ∈ trace) : ∃ event ∈ events, serves event.request lower.request := by
  induction expands with
  | nil => cases member
  | @cons event events part trace ran _ ih =>
      rcases List.mem_append.mp member with inPart | later
      · exact ⟨event, List.mem_cons_self, (carried event.request).allowed_of_mem ran inPart⟩
      · obtain ⟨other, listed, served⟩ := ih later
        exact ⟨other, List.mem_cons_of_mem _ listed, served⟩

theorem Account.serves_of_mem {p reached : Program S α} {events : List S.Event}
    {trace : List T.Event} {rest : Program T α}
    (account : Account carryOut p events reached trace rest)
    (carried : ∀ request, (carryOut request).Makes (serves request)) {lower : T.Event}
    (member : lower ∈ trace) :
    ∃ request, Concerned events reached request ∧ serves request lower.request := by
  obtain ⟨before, begun, rfl, expands, underway⟩ := account.carried
  rcases List.mem_append.mp member with early | late
  · obtain ⟨event, listed, served⟩ := expands.serves_of_mem carried early
    exact ⟨event.request, .inl ⟨event, listed, rfl⟩, served⟩
  · cases underway with
    | complete => cases late
    | exhausted => cases late
    | @underway request next _ _ ran _ =>
        exact ⟨request, .inr ⟨next, rfl⟩, (carried request).allowed_of_mem ran late⟩

end Program

namespace Fallible

open Program

variable {allowed : S.Request → Prop}

theorem makes_pure {value : α} : (pure value : Fallible S α).run.Makes allowed := trivial

theorem makes_throw {error : Error} : (throw error : Fallible S α).run.Makes allowed := trivial

theorem makes_bind {p : Fallible S α} {f : α → Fallible S β} (first : p.run.Makes allowed)
    (second : ∀ value, (f value).run.Makes allowed) : (p >>= f).run.Makes allowed := by
  refine Program.makes_bind first fun outcome => ?_
  cases outcome with
  | error => trivial
  | ok value => exact second value

theorem makes_outcome {p : Fallible S α} (makes : p.run.Makes allowed) :
    p.outcome.run.Makes allowed :=
  Program.makes_bind makes fun _ => trivial

theorem makes_ofExcept {outcome : Except Error α} :
    (Fallible.ofExcept outcome : Fallible S α).run.Makes allowed := by
  cases outcome <;> trivial

end Fallible
end AthenaModels
