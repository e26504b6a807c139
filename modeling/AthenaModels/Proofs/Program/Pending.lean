import Mathlib.Data.List.Basic

namespace AthenaModels.Trace

variable {ε ι : Type} (opens : ε → Option ι) (closes : ι → ε → Bool)

/-- What is open at the end of a trace, in the order of its opening. -/
def pending : List ε → List ι
  | [] => []
  | event :: later =>
      match opens event with
      | some item => if later.any (closes item) then pending later else item :: pending later
      | none => pending later

variable {opens closes} {trace before after : List ε} {event : ε} {item : ι}

theorem mem_pending_cons :
    item ∈ pending opens closes (event :: trace) ↔
      (opens event = some item ∧ trace.any (closes item) = false) ∨
        item ∈ pending opens closes trace := by
  cases opened : opens event with
  | none => simp [pending, opened]
  | some other =>
      by_cases closed : trace.any (closes other)
      · simp only [pending, opened, if_pos closed, Option.some.injEq]
        constructor
        · exact .inr
        · rintro (⟨rfl, still⟩ | later)
          · rw [closed] at still
            cases still
          · exact later
      · simp only [pending, opened, if_neg closed, List.mem_cons, Option.some.injEq]
        constructor
        · rintro (rfl | later)
          · exact .inl ⟨rfl, Bool.eq_false_iff.mpr closed⟩
          · exact .inr later
        · rintro (⟨rfl, _⟩ | later)
          · exact .inl rfl
          · exact .inr later

theorem exists_of_mem_pending (isOpen : item ∈ pending opens closes trace) :
    ∃ event ∈ trace, opens event = some item := by
  induction trace with
  | nil => cases isOpen
  | cons event trace ih =>
      rcases mem_pending_cons.mp isOpen with ⟨opened, _⟩ | later
      · exact ⟨event, List.mem_cons_self, opened⟩
      · obtain ⟨other, member, opened⟩ := ih later
        exact ⟨other, List.mem_cons_of_mem event member, opened⟩

theorem mem_pending_append :
    item ∈ pending opens closes (before ++ after) ↔
      (item ∈ pending opens closes before ∧ after.any (closes item) = false) ∨
        item ∈ pending opens closes after := by
  induction before with
  | nil => simp [pending]
  | cons event before ih =>
      rw [List.cons_append, mem_pending_cons, mem_pending_cons, ih, List.any_append,
        Bool.or_eq_false_iff]
      tauto

theorem pending_eq_nil_of_forall (none : ∀ event ∈ trace, opens event = none) :
    pending opens closes trace = [] := by
  apply List.eq_nil_iff_forall_not_mem.mpr
  intro item isOpen
  obtain ⟨event, member, opened⟩ := exists_of_mem_pending isOpen
  rw [none event member] at opened
  cases opened

theorem pending_append_eq_nil (first : pending opens closes before = [])
    (second : pending opens closes after = []) : pending opens closes (before ++ after) = [] := by
  apply List.eq_nil_iff_forall_not_mem.mpr
  intro item isOpen
  rcases mem_pending_append.mp isOpen with ⟨early, _⟩ | late
  · rw [first] at early
    cases early
  · rw [second] at late
    cases late

end AthenaModels.Trace
