import AthenaModels.Proofs.Partition.Listing

/-! The order of partitions: columns before values, a missing value before any other, and texts by
the code points of their characters. -/

namespace AthenaModels

def Text.Before (a b : String) : Prop :=
  List.Lex (fun c d => c.toNat < d.toNat) a.toList b.toList

theorem Text.before_iff {a b : String} : Text.Before a b ↔ compare a b = .lt := by
  rw [iff_comm]
  exact compareOfLessAndEq_eq_lt

theorem Text.Before.ne {a b : String} (before : Text.Before a b) : a ≠ b := by
  rintro rfl
  cases Std.ReflOrd.compare_self.symm.trans (Text.before_iff.mp before)

namespace Partition

inductive ValueBefore : Option String → Option String → Prop where
  | missing (b : String) : ValueBefore none (some b)
  | text {a b : String} (before : Text.Before a b) : ValueBefore (some a) (some b)

inductive PairBefore : String × Option String → String × Option String → Prop where
  | column {a b : String} {value value' : Option String} (before : Text.Before a b) :
      PairBefore (a, value) (b, value')
  | value {column : String} {a b : Option String} (before : ValueBefore a b) :
      PairBefore (column, a) (column, b)

/-- The first pair that differs decides. -/
def Before (p q : Partition) : Prop := List.Lex PairBefore p.pairs q.pairs

theorem valueBefore_iff {a b : Option String} : ValueBefore a b ↔ compare a b = .lt := by
  cases a with
  | none =>
      cases b with
      | none => exact ⟨nofun, nofun⟩
      | some b => exact ⟨fun _ => rfl, fun _ => .missing b⟩
  | some a =>
      cases b with
      | none => exact ⟨nofun, nofun⟩
      | some b =>
          refine Iff.trans ⟨?_, .text⟩ Text.before_iff
          intro before
          cases before with
          | text before => exact before

theorem pairBefore_iff {a b : String × Option String} :
    PairBefore a b ↔ comparePairs a b = .lt := by
  obtain ⟨column, value⟩ := a
  obtain ⟨column', value'⟩ := b
  have split : comparePairs (column, value) (column', value') = .lt ↔
      compare column column' = .lt ∨ compare column column' = .eq ∧ compare value value' = .lt :=
    Ordering.then_eq_lt
  rw [split, Std.LawfulEqOrd.compare_eq_iff_eq, ← Text.before_iff, ← valueBefore_iff]
  constructor
  · intro before
    cases before with
    | column before => exact .inl before
    | value before => exact .inr ⟨rfl, before⟩
  · rintro (before | ⟨rfl, before⟩)
    · exact .column before
    · exact .value before

theorem before_iff {p q : Partition} : p.Before q ↔ compare p q = .lt :=
  Ascending.lex_iff fun _ _ => pairBefore_iff

end Partition

instance : Std.TransCmp Partition.comparePairs :=
  inferInstanceAs (Std.TransCmp (compareLex (compareOn Prod.fst) (compareOn Prod.snd)))

instance : Std.TransOrd Partition where
  eq_swap {p q} :=
    (Std.OrientedCmp.eq_swap : List.compareLex Partition.comparePairs p.pairs q.pairs = _)
  isLE_trans {p q r} :=
    (Std.TransCmp.isLE_trans :
      (List.compareLex Partition.comparePairs p.pairs q.pairs).isLE → _ →
        (List.compareLex Partition.comparePairs p.pairs r.pairs).isLE)

end AthenaModels
