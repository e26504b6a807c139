import AthenaModels.Proofs.Program.Completion

namespace AthenaModels.Fallible

open Program

variable {S T : Service} {α β : Type} {gaveUp : Error → Prop}

def IsAnswer (gaveUp : Error → Prop) (outcome : Except Error α) : Prop :=
  ∀ error, outcome = .error error → ¬ gaveUp error

/-- Every run of the shorter one that does not give up is one of the longer one. -/
def Prolongs (gaveUp : Error → Prop) (longer shorter : Fallible S α) : Prop :=
  ∀ trace outcome, Runs shorter.run trace (.done outcome) → IsAnswer gaveUp outcome →
    Runs longer.run trace (.done outcome)

namespace Prolongs

variable {longer shorter : Fallible S α}

theorem refl (p : Fallible S α) : Prolongs gaveUp p p := fun _ _ ran _ => ran

theorem of_throw {error : Error} (given : gaveUp error) :
    Prolongs gaveUp longer (throw error : Fallible S α) := by
  intro trace outcome ran answer
  obtain ⟨_, same⟩ := runs_done.mp ran
  cases same
  exact absurd given (answer error rfl)

theorem bind {f g : α → Fallible S β} (first : Prolongs gaveUp longer shorter)
    (later : ∀ value, Prolongs gaveUp (f value) (g value)) :
    Prolongs gaveUp (longer >>= f) (shorter >>= g) := by
  intro trace outcome ran answer
  rcases runs_bind ran with ⟨error, rfl, failed⟩ | ⟨value, before, after, rfl, ran, rest⟩
  · have other : IsAnswer gaveUp (.error error : Except Error α) := by
      rintro _ ⟨⟩
      exact answer error rfl
    exact runs_bind_error (first trace _ failed other)
  · exact runs_bind_ok (first before _ ran nofun) (later value after outcome rest answer)

theorem outcome_bind {f g : Except Error α → Fallible S β}
    (first : Prolongs gaveUp longer shorter)
    (passes : ∀ error, gaveUp error → g (.error error) = throw error)
    (later : ∀ outcome, Prolongs gaveUp (f outcome) (g outcome)) :
    Prolongs gaveUp (longer.outcome >>= f) (shorter.outcome >>= g) := by
  intro trace last ran answer
  obtain ⟨outcome, before, after, rfl, ran, rest⟩ := runs_bind_outcome ran
  have other : IsAnswer gaveUp outcome := by
    rintro error rfl given
    rw [passes error given] at rest
    obtain ⟨_, same⟩ := runs_done.mp rest
    cases same
    exact answer error rfl given
  exact runs_bind_ok (runs_outcome (first before outcome ran other))
    (later outcome after last rest answer)

theorem translate {carryOut : (r : S.Request) → Program T (S.Reply r)}
    (prolongs : Prolongs gaveUp longer shorter) :
    Prolongs gaveUp (longer.translate carryOut) (shorter.translate carryOut) := by
  intro trace outcome ran answer
  obtain ⟨events, ran, expands⟩ := Runs.carried ran
  exact (prolongs events outcome ran answer).translate expands

end Prolongs

/-- On the same answers, from any state, the longer one makes the same requests and ends in the same
way, unless the shorter one gives up. -/
def Repeats (gaveUp : Error → Prop) (longer shorter : Fallible S α) : Prop :=
  ∀ (σ : Type) (answer : (r : S.Request) → σ → S.Reply r × σ) (state : σ)
    (outcome : Except Error α), (shorter.run.play answer state).2 = .done outcome →
      IsAnswer gaveUp outcome → longer.run.play answer state = shorter.run.play answer state

theorem Prolongs.repeats {longer shorter : Fallible S α}
    (prolongs : Prolongs gaveUp longer shorter) : Repeats gaveUp longer shorter := by
  intro σ answer state outcome ended given
  have ran := runs_play answer shorter.run state
  rw [ended] at ran
  rw [(prolongs _ outcome ran given).play_eq (answeredBy_play answer shorter.run state)]
  simp only [play, List.append_nil]
  rw [← ended]

end AthenaModels.Fallible
