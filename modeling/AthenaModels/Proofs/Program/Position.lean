import AthenaModels.Proofs.Program.Completion

namespace AthenaModels.Program

variable {S T : Service} {α : Type} {carryOut : (r : S.Request) → Program T (S.Reply r)}

theorem Runs.prefix_unique {p : Program S α} {part other later rest : List S.Event} {value last : α}
    (first : Runs p part (.done value)) (second : Runs p other (.done last))
    (same : part ++ later = other ++ rest) : part = other ∧ value = last := by
  induction p generalizing part other with
  | done _ =>
      obtain ⟨rfl, complete⟩ := runs_done.mp first
      obtain ⟨rfl, ended⟩ := runs_done.mp second
      cases complete
      cases ended
      exact ⟨rfl, rfl⟩
  | exhausted => cases (runs_exhausted.mp first).2
  | ask request next ih =>
      rcases runs_ask.mp first with ⟨_, complete⟩ | ⟨reply, more, rfl, answered⟩
      · cases complete
      · rcases runs_ask.mp second with ⟨_, complete⟩ | ⟨_, others, rfl, continued⟩
        · cases complete
        · obtain ⟨event, tails⟩ := List.cons.inj same
          cases event
          obtain ⟨rfl, values⟩ := ih reply answered continued tails
          exact ⟨rfl, values⟩

/-- Before an event some requests were carried out in full, and the next one in part; the event
serves that one. -/
theorem Runs.served_at {p : Program S α} {before after : List T.Event} {lower : T.Event}
    {rest : Program T α} (ran : Runs (p.translate carryOut) (before ++ lower :: after) rest) :
    ∃ earlier request next done start left, Runs p earlier (.ask request next) ∧
      Expands carryOut earlier done ∧ before = done ++ start ∧
      Runs (carryOut request) (start ++ [lower]) left ∧
      Runs (left.bind fun reply => (next reply).translate carryOut) after rest := by
  induction p generalizing before with
  | done =>
      obtain ⟨none, _⟩ := runs_done.mp ran
      cases before <;> cases none
  | exhausted =>
      obtain ⟨none, _⟩ := runs_exhausted.mp ran
      cases before <;> cases none
  | ask request next ih =>
      obtain ⟨middle, first, second⟩ := ran.split
      rcases first.of_bind with
        ⟨left, begun, unfinished, rfl⟩ | ⟨reply, part, start, rfl, served, later⟩
      · cases left with
        | done => cases unfinished
        | exhausted => cases (runs_exhausted.mp second).1
        | ask asked answer =>
            rcases runs_ask.mp second with ⟨none, _⟩ | ⟨reply, others, same, continued⟩
            · cases none
            · cases same
              exact ⟨[], request, next, [], before, answer reply, .stop _, .nil, rfl,
                begun.append (.answer (.stop _)), continued⟩
      · obtain ⟨earlier, asked, answer, done, rest, left, reached, expands, rfl, begun, onward⟩ :=
          ih reply (later.append second)
        exact ⟨⟨request, reply⟩ :: earlier, asked, answer, part ++ done, rest, left,
          .answer reached, .cons served expands, (List.append_assoc _ _ _).symm, begun, onward⟩

theorem Expands.split {events more : List S.Event} {trace : List T.Event}
    (expands : Expands carryOut (events ++ more) trace) :
    ∃ before after, trace = before ++ after ∧ Expands carryOut events before ∧
      Expands carryOut more after := by
  induction events generalizing trace with
  | nil => exact ⟨[], trace, rfl, .nil, expands⟩
  | cons event events ih =>
      cases expands with
      | @cons _ _ part _ ran later =>
          obtain ⟨before, after, rfl, first, second⟩ := ih later
          exact ⟨part ++ before, after, (List.append_assoc _ _ _).symm, .cons ran first, second⟩

theorem Expands.part_of_mem {events : List S.Event} {trace : List T.Event} {event : S.Event}
    (expands : Expands carryOut events trace) (member : event ∈ events) :
    ∃ before part after, trace = before ++ part ++ after ∧
      Runs (carryOut event.request) part (.done event.reply) := by
  obtain ⟨earlier, later, rfl⟩ := List.append_of_mem member
  obtain ⟨before, rest, rfl, _, second⟩ := expands.split
  cases second with
  | @cons _ _ part after ran _ =>
      exact ⟨before, part, after, (List.append_assoc _ _ _).symm, ran⟩

theorem Expands.exists_of_mem {events : List S.Event} {trace : List T.Event} {lower : T.Event}
    (expands : Expands carryOut events trace) (member : lower ∈ trace) :
    ∃ event ∈ events, ∃ part, Runs (carryOut event.request) part (.done event.reply) ∧
      lower ∈ part := by
  induction expands with
  | nil => cases member
  | @cons event events part trace ran _ ih =>
      rcases List.mem_append.mp member with early | late
      · exact ⟨event, List.mem_cons_self, part, ran, early⟩
      · obtain ⟨other, listed, found⟩ := ih late
        exact ⟨other, List.mem_cons_of_mem _ listed, found⟩

end AthenaModels.Program
