import AthenaModels.Proofs.Program.Requests

namespace AthenaModels

namespace Program

variable {S T : Service} {α β : Type} {event : S.Event} {post : Program S α → Prop}

/-- `post` holds of what is left of a program after each time that the event happens. -/
def Leaves (event : S.Event) (post : Program S α → Prop) : Program S α → Prop
  | .done _ => True
  | .ask request next =>
      ∀ reply, (event = ⟨request, reply⟩ → post (next reply)) ∧ (next reply).Leaves event post
  | .exhausted => True

theorem Runs.eq_of_nil {p rest : Program S α} (ran : Runs p [] rest) : rest = p := by
  cases ran
  rfl

theorem Leaves.of_runs {p rest : Program S α} {before : List S.Event}
    (leaves : p.Leaves event post) (ran : Runs p (before ++ [event]) rest) : post rest := by
  induction before generalizing p with
  | nil =>
      cases ran with
      | answer ran =>
          rw [ran.eq_of_nil]
          exact (leaves _).1 rfl
  | cons first before ih =>
      cases ran with
      | answer ran => exact ih (leaves _).2 ran

theorem leaves_bind {p : Program S α} {f : α → Program S β} {post : Program S β → Prop}
    (first : p.Leaves event fun left => post (left.bind f))
    (second : ∀ value, (f value).Leaves event post) : (p.bind f).Leaves event post := by
  induction p with
  | done value => exact second value
  | ask request next ih => exact fun reply => ⟨(first reply).1, ih reply (first reply).2⟩
  | exhausted => trivial

theorem Leaves.mono {p : Program S α} {weaker : Program S α → Prop} (leaves : p.Leaves event post)
    (implies : ∀ left, post left → weaker left) : p.Leaves event weaker := by
  induction p with
  | done => trivial
  | ask request next ih =>
      exact fun reply => ⟨fun same => implies _ ((leaves reply).1 same), ih reply (leaves reply).2⟩
  | exhausted => trivial

theorem Makes.leaves {allowed : S.Request → Prop} {p : Program S α} (makes : p.Makes allowed)
    (other : ¬ allowed event.request) : p.Leaves event post := by
  induction p with
  | done => trivial
  | ask request next ih =>
      refine fun reply => ⟨?_, ih reply (makes.2 reply)⟩
      rintro rfl
      exact absurd makes.1 other
  | exhausted => trivial

/-- The event is the end of carrying out a request, with the reply that another event tells. -/
theorem Leaves.translate {lower : T.Event} {carryOut : (r : S.Request) → Program T (S.Reply r)}
    {allowed : S.Request → Prop} {p : Program S α} (leaves : p.Leaves event post)
    (makes : p.Makes allowed)
    (carried : ∀ request, allowed request → (carryOut request).Leaves lower fun left =>
      ∃ reply, event = ⟨request, reply⟩ ∧ left = .done reply) :
    (p.translate carryOut).Leaves lower fun left =>
      ∃ upper, left = upper.translate carryOut ∧ post upper := by
  induction p with
  | done => trivial
  | ask request next ih =>
      refine leaves_bind ((carried request makes.1).mono ?_)
        fun reply => ih reply (leaves reply).2 (makes.2 reply)
      rintro _ ⟨reply, same, rfl⟩
      exact ⟨next reply, rfl, (leaves reply).1 same⟩
  | exhausted => trivial

end Program

namespace Fallible

open Program

variable {S : Service} {α β : Type} {event : S.Event} {post : Program S (Except Error β) → Prop}

theorem leaves_bind {p : Fallible S α} {f : α → Fallible S β}
    (first : p.run.Leaves event fun left => post (left.bind (ExceptT.bindCont f)))
    (second : ∀ value, (f value).run.Leaves event post) : (p >>= f).run.Leaves event post := by
  refine Program.leaves_bind first fun outcome => ?_
  cases outcome with
  | error => trivial
  | ok value => exact second value

theorem leaves_bind_error {p : Fallible S α} {f : α → Fallible S β} {error : Error}
    (first : p.run.Leaves event (· = .done (.error error)))
    (second : ∀ value, (f value).run.Leaves event (· = .done (.error error))) :
    (p >>= f).run.Leaves event (· = .done (.error error)) := by
  refine leaves_bind (first.mono ?_) second
  rintro _ rfl
  rfl

theorem leaves_bind_outcome {p : Fallible S α} {f : Except Error α → Fallible S β}
    (first : p.run.Leaves event fun left => post (left.bind fun outcome => (f outcome).run))
    (second : ∀ outcome, (f outcome).run.Leaves event post) :
    (p.outcome >>= f).run.Leaves event post := by
  have same : (p.outcome >>= f).run = p.run.bind fun outcome => (f outcome).run :=
    Program.bind_assoc _ _ _
  rw [same]
  exact Program.leaves_bind first second

end Fallible
end AthenaModels
