import AthenaModels.Proofs.Program.Completion

namespace AthenaModels.Fallible

open Program

variable {S T : Service} {α β : Type} {told : S.Event → Prop} {raised : Error → Prop}

/-- As long as the answers are as told, an error in the end is one of those that may be raised. -/
def Raises (told : S.Event → Prop) (raised : Error → Prop) (p : Fallible S α) : Prop :=
  ∀ trace error, Runs p.run trace (.done (.error error)) → (∀ event ∈ trace, told event) →
    raised error

theorem raises_pure {value : α} : (pure value : Fallible S α).Raises told raised := by
  intro trace error ran
  cases (runs_done.mp ran).2

theorem raises_exhausted : (exhausted : Fallible S α).Raises told raised := by
  intro trace error ran
  cases (runs_exhausted.mp ran).2

theorem raises_throw {error : Error} (raises : raised error) :
    (throw error : Fallible S α).Raises told raised := by
  intro trace other ran _
  cases (runs_done.mp ran).2
  exact raises

theorem raises_ofExcept {outcome : Except Error α}
    (raises : ∀ error, outcome = .error error → raised error) :
    (ofExcept outcome : Fallible S α).Raises told raised := by
  cases outcome with
  | error error => exact raises_throw (raises error rfl)
  | ok => exact raises_pure

theorem raises_lift {p : Program S α} : Raises told raised (.lift p : Fallible S α) := by
  intro trace error ran
  obtain ⟨_, same, _⟩ := runs_lift ran
  cases same

theorem raises_request {request : S.Request} {p : Fallible S α} {f : S.Reply request → Except Error α}
    (asked : p.run = (Program.request request).bind fun reply => .done (f reply))
    (raises : ∀ reply error, told ⟨request, reply⟩ → f reply = .error error → raised error) :
    p.Raises told raised := by
  intro trace error ran all
  rw [asked] at ran
  obtain ⟨reply, before, after, rfl, first, second⟩ := Runs.of_bind_done ran
  cases runs_request first
  obtain ⟨rfl, same⟩ := runs_done.mp second
  exact raises reply error (all _ List.mem_cons_self) (Program.done.inj same).symm

theorem raises_bind {p : Fallible S α} {f : α → Fallible S β} (first : p.Raises told raised)
    (second : ∀ value, (f value).Raises told raised) : (p >>= f).Raises told raised := by
  intro trace error ran all
  rcases runs_bind ran with ⟨_, same, failed⟩ | ⟨value, before, after, rfl, _, rest⟩
  · cases same
    exact first trace error failed all
  · exact second value after error rest (List.forall_mem_append.mp all).2

theorem raises_bind_outcome {p : Fallible S α} {f : Except Error α → Fallible S β}
    (first : p.Raises told raised)
    (second : ∀ outcome, (∀ error, outcome = .error error → raised error) →
      (f outcome).Raises told raised) : (p.outcome >>= f).Raises told raised := by
  intro trace error ran all
  obtain ⟨outcome, before, after, rfl, ended, rest⟩ := runs_bind_outcome ran
  obtain ⟨early, late⟩ := List.forall_mem_append.mp all
  refine second outcome ?_ after error rest late
  intro other same
  subst same
  exact first before other ended early

theorem raises_mapM {f : α → Fallible S β} {items : List α}
    (each : ∀ item, (f item).Raises told raised) : (items.mapM f).Raises told raised := by
  induction items with
  | nil => exact raises_pure
  | cons item items ih =>
      rw [List.mapM_cons]
      exact raises_bind (each item) fun _ => raises_bind ih fun _ => raises_pure

theorem raises_forM {f : α → Fallible S PUnit} {items : List α}
    (each : ∀ item, (f item).Raises told raised) : (items.forM f).Raises told raised := by
  induction items with
  | nil => exact raises_pure
  | cons item items ih => exact raises_bind (each item) fun _ => ih

theorem raises_translate {heard : T.Event → Prop}
    {carryOut : (r : S.Request) → Program T (S.Reply r)} {p : Fallible S α}
    (raises : p.Raises told raised)
    (carried : ∀ request part reply, Runs (carryOut request) part (.done reply) →
      (∀ event ∈ part, heard event) → told ⟨request, reply⟩) :
    (p.translate carryOut).Raises heard raised := by
  intro trace error ran all
  obtain ⟨events, ran, expands⟩ := Runs.carried ran
  exact raises events error ran (expands.forall_told carried all)

end AthenaModels.Fallible
