import AthenaModels.Proofs.Sql.Token

/-! Conditions on rows: which rows they hold of, and how they are read, where AND binds closer than
OR. -/

namespace AthenaModels.Sql

inductive Condition where
  | equals (column value : String)
  | isNull (column : String)
  | both (left right : Condition)
  | either (left right : Condition)
deriving DecidableEq, Repr

namespace Condition

variable {row : String → Option String} {condition : Condition}

/-- Unknown values have no truth of their own, unless the other one decides. -/
def conj : Option Bool → Option Bool → Option Bool
  | some false, _ => some false
  | _, some false => some false
  | some true, some true => some true
  | _, _ => none

def disj : Option Bool → Option Bool → Option Bool
  | some true, _ => some true
  | _, some true => some true
  | some false, some false => some false
  | _, _ => none

/-- A comparison with a missing value is neither true nor false. -/
def truth (row : String → Option String) : Condition → Option Bool
  | .equals column value => (row column).map (· == value)
  | .isNull column => some (row column).isNone
  | .both left right => conj (left.truth row) (right.truth row)
  | .either left right => disj (left.truth row) (right.truth row)

/-- A row is selected when the condition is true of it. -/
def Holds (row : String → Option String) (condition : Condition) : Prop :=
  condition.truth row = some true

theorem conj_eq_true {left right : Option Bool} :
    conj left right = some true ↔ left = some true ∧ right = some true := by
  rcases left with _ | _ | _ <;> rcases right with _ | _ | _ <;> simp [conj]

theorem disj_eq_true {left right : Option Bool} :
    disj left right = some true ↔ left = some true ∨ right = some true := by
  rcases left with _ | _ | _ <;> rcases right with _ | _ | _ <;> simp [disj]

def alternatives : Condition → List Condition
  | .either left right => left.alternatives ++ right.alternatives
  | condition => [condition]

def factors : Condition → List Condition
  | .both left right => left.factors ++ right.factors
  | condition => [condition]

theorem holds_iff_factors :
    condition.Holds row ↔ ∀ factor ∈ condition.factors, factor.Holds row := by
  induction condition with
  | both left right first second =>
      rw [factors, List.forall_mem_append, ← first, ← second]
      exact conj_eq_true
  | _ => exact List.forall_mem_singleton.symm

theorem holds_iff_alternatives :
    condition.Holds row ↔ ∃ alternative ∈ condition.alternatives, alternative.Holds row := by
  induction condition with
  | either left right first second =>
      simp only [alternatives, List.mem_append, or_and_right, exists_or, ← first, ← second]
      exact disj_eq_true
  | _ => simp [alternatives]

/-- What was read inside of a parenthesis before an operand: the alternatives that are complete, and
the factors of the next one. -/
structure Inside where
  alternatives : Option Condition
  factors : Option Condition

inductive Expected where
  | operand (inside : Inside)
  | operator (alternatives : Option Condition) (factors : Condition)

def after (join : Condition → Condition → Condition) : Option Condition → Condition → Condition
  | none, next => next
  | some read, next => join read next

def Inside.add (inside : Inside) (next : Condition) : Expected :=
  .operator inside.alternatives (after .both inside.factors next)

def Inside.empty : Inside := ⟨none, none⟩

def readFrom (outer : List Inside) : Expected → List Token → Option Condition
  | .operand inside, .mark '(' :: rest => readFrom (inside :: outer) (.operand .empty) rest
  | .operand inside, .word "CAST" :: .mark '(' :: .word column :: .word "AS" ::
      .word "varchar" :: .mark ')' :: .mark '=' :: .text value :: rest =>
      readFrom outer (inside.add (.equals column value)) rest
  | .operand inside, .word column :: .word "IS" :: .word "NULL" :: rest =>
      readFrom outer (inside.add (.isNull column)) rest
  | .operator alternatives factors, .word "AND" :: rest =>
      readFrom outer (.operand ⟨alternatives, some factors⟩) rest
  | .operator alternatives factors, .word "OR" :: rest =>
      readFrom outer (.operand ⟨some (after .either alternatives factors), none⟩) rest
  | .operator alternatives factors, .mark ')' :: rest =>
      -- What was inside of the parenthesis is an operand outside of it.
      match outer with
      | inside :: outer => readFrom outer (inside.add (after .either alternatives factors)) rest
      | [] => none
  | .operator alternatives factors, [] =>
      if outer.isEmpty then some (after .either alternatives factors) else none
  | _, _ => none

def ofTokens? (tokens : List Token) : Option Condition := readFrom [] (.operand .empty) tokens

def tokens : Condition → List Token
  | .equals column value =>
      [.word "CAST", .mark '(', .word column, .word "AS", .word "varchar", .mark ')', .mark '=',
        .text value]
  | .isNull column => [.word column, .word "IS", .word "NULL"]
  | .both left right => .mark '(' :: left.tokens ++ .word "AND" :: right.tokens ++ [.mark ')']
  | .either left right => .mark '(' :: left.tokens ++ .word "OR" :: right.tokens ++ [.mark ')']

variable {outer : List Inside} {inside : Inside} {rest : List Token}

theorem readFrom_tokens (condition : Condition) :
    readFrom outer (.operand inside) (condition.tokens ++ rest) =
      readFrom outer (inside.add condition) rest := by
  induction condition generalizing outer inside rest with
  | equals column value => simp only [tokens, List.cons_append, List.nil_append, readFrom]
  | isNull column => simp only [tokens, List.cons_append, List.nil_append, readFrom]
  | both left right first second =>
      have shape : (both left right).tokens ++ rest = .mark '(' ::
          (left.tokens ++ .word "AND" :: (right.tokens ++ .mark ')' :: rest)) := by
        simp [tokens]
      rw [shape, readFrom, first, Inside.add, readFrom, second, Inside.add, readFrom]
      rfl
  | either left right first second =>
      have shape : (either left right).tokens ++ rest = .mark '(' ::
          (left.tokens ++ .word "OR" :: (right.tokens ++ .mark ')' :: rest)) := by
        simp [tokens]
      rw [shape, readFrom, first, Inside.add, readFrom, second, Inside.add, readFrom]
      rfl

variable {pairs : List (String × Option String)}

def ofPair : String × Option String → Condition
  | (column, some value) => .equals column value
  | (column, none) => .isNull column

theorem holds_ofPair (pair : String × Option String) :
    (ofPair pair).Holds row ↔ row pair.1 = pair.2 := by
  obtain ⟨column, value⟩ := pair
  cases value with
  | none => simp [ofPair, Holds, truth]
  | some value => simp [ofPair, Holds, truth]

theorem ofPair_injective : Function.Injective ofPair := by
  rintro ⟨column, value⟩ ⟨other, value'⟩ same
  cases value <;> cases value' <;> cases same <;> rfl

theorem factors_ofPair (pair : String × Option String) : (ofPair pair).factors = [ofPair pair] := by
  obtain ⟨column, value⟩ := pair
  cases value <;> rfl

theorem alternatives_ofPair (pair : String × Option String) :
    (ofPair pair).alternatives = [ofPair pair] := by
  obtain ⟨column, value⟩ := pair
  cases value <;> rfl

def pairTokens (pair : String × Option String) : List Token := (ofPair pair).tokens

theorem readFrom_pairs (nonempty : pairs ≠ []) :
    ∃ condition, condition.alternatives = [condition] ∧
      condition.factors = (inside.factors.map factors).getD [] ++ pairs.map ofPair ∧
      readFrom outer (.operand inside)
          ([.word "AND"].intercalate (pairs.map pairTokens) ++ rest) =
        readFrom outer (.operator inside.alternatives condition) rest := by
  induction pairs generalizing inside with
  | nil => exact absurd rfl nonempty
  | cons pair pairs ih =>
      have added : (after .both inside.factors (ofPair pair)).factors =
          (inside.factors.map factors).getD [] ++ [ofPair pair] := by
        cases inside.factors with
        | none => exact factors_ofPair pair
        | some read => rw [after, factors, factors_ofPair]; rfl
      cases pairs with
      | nil =>
          refine ⟨after .both inside.factors (ofPair pair), ?_, added, ?_⟩
          · cases inside.factors with
            | none => exact alternatives_ofPair pair
            | some read => rfl
          · rw [List.map_cons, List.map_nil, List.intercalate_singleton, pairTokens,
              readFrom_tokens]
            rfl
      | cons next pairs =>
          obtain ⟨condition, alone, all, read⟩ := @ih
            ⟨inside.alternatives, some (after .both inside.factors (ofPair pair))⟩
            (List.cons_ne_nil next pairs)
          refine ⟨condition, alone, ?_, ?_⟩
          · rw [all, Option.map_some, Option.getD_some, added, List.map_cons, List.map_cons,
              List.append_assoc]
            rfl
          · rw [List.map_cons, List.map_cons, List.intercalate_cons_cons, List.append_assoc,
              List.append_assoc, pairTokens, readFrom_tokens, Inside.add, List.singleton_append,
              readFrom, ← read, List.map_cons]

def groupTokens (pairs : List (String × Option String)) : List Token :=
  .mark '(' :: [.word "AND"].intercalate (pairs.map pairTokens) ++ [.mark ')']

theorem readFrom_group {complete : Option Condition} (nonempty : pairs ≠ []) :
    ∃ condition, condition.alternatives = [condition] ∧ condition.factors = pairs.map ofPair ∧
      readFrom outer (.operand ⟨complete, none⟩) (groupTokens pairs ++ rest) =
        readFrom outer (.operator complete condition) rest := by
  obtain ⟨condition, alone, all, read⟩ := @readFrom_pairs (⟨complete, none⟩ :: outer) .empty
    (.mark ')' :: rest) pairs nonempty
  refine ⟨condition, alone, all, ?_⟩
  rw [groupTokens, List.cons_append, List.cons_append, List.append_assoc, List.singleton_append,
    readFrom, read, readFrom]
  rfl

theorem readFrom_groups {complete : Option Condition}
    {groups : List (List (String × Option String))} (nonempty : groups ≠ [])
    (filled : ∀ pairs ∈ groups, pairs ≠ []) :
    ∃ condition, condition.alternatives.map factors =
        ((complete.map alternatives).getD []).map factors ++ groups.map (List.map ofPair) ∧
      readFrom [] (.operand ⟨complete, none⟩) ([.word "OR"].intercalate (groups.map groupTokens)) =
        some condition := by
  induction groups generalizing complete with
  | nil => exact absurd rfl nonempty
  | cons pairs groups ih =>
      have paired := filled pairs List.mem_cons_self
      cases groups with
      | nil =>
          obtain ⟨condition, alone, all, read⟩ := @readFrom_group [] [] pairs complete paired
          refine ⟨after .either complete condition, ?_, ?_⟩
          · cases complete with
            | none => simp [after, alone, all]
            | some complete => simp [after, alternatives, alone, all]
          · rw [List.map_cons, List.map_nil, List.intercalate_singleton, ← List.append_nil
              (groupTokens pairs), read]
            rfl
      | cons next groups =>
          obtain ⟨condition, alone, all, read⟩ := @readFrom_group []
            (.word "OR" :: [.word "OR"].intercalate ((next :: groups).map groupTokens)) pairs
            complete paired
          obtain ⟨result, split, later⟩ := @ih (some (after .either complete condition))
            (List.cons_ne_nil next groups) fun other member =>
              filled other (List.mem_cons_of_mem pairs member)
          refine ⟨result, ?_, ?_⟩
          · rw [split]
            cases complete with
            | none => simp [after, alone, all]
            | some complete => simp [after, alternatives, alone, all]
          · rw [List.map_cons, List.map_cons, List.intercalate_cons_cons, List.append_assoc,
              List.singleton_append, ← List.map_cons, read, readFrom, later]

end Condition
end AthenaModels.Sql
