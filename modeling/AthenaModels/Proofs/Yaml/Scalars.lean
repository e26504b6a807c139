import AthenaModels.Yaml.Atom
import Mathlib.Tactic.Common

namespace AthenaModels.Yaml.Atom

variable {tag : Option String} {style : Style} {text told : String} {n : Nat}

theorem whole?_ne_text : whole? text ≠ some (some (.text told)) := by
  rw [whole?]
  split <;> simp_all

theorem eq_of_ofPlain? (read : ofPlain? text = some (.text told)) : told = text := by
  rw [ofPlain?] at read
  split at read
  · nomatch read
  split at read
  · nomatch read
  obtain ⟨atom?, whole, read⟩ := Option.bind_eq_some_iff.mp read
  cases atom? with
  | some atom =>
      obtain rfl : atom = .text told := by simpa using read
      exact absurd whole whole?_ne_text
  | none =>
      dsimp only at read
      split at read
      · simpa using read.symm
      · cases real : real? text with
        | some value => simp [real] at read
        | none => simpa [real] using read.symm

/-- The tags that leave it to the style what a scalar stands for. -/
def Loose (tag : Option String) : Prop := tag.all (·.startsWith "!") = true

inductive Resolves (tag : Option String) (style : Style) (text : String) : Atom → Prop
  | plain {atom : Atom} (loose : Loose tag) (plain : style = .plain)
      (read : ofPlain? text = some atom) : Resolves tag style text atom
  | quoted (loose : Loose tag) (quoted : style ≠ .plain) : Resolves tag style text (.text text)
  | bool {value : Bool} (named : tag = some (coreTag "bool")) :
      Resolves tag style text (.bool value)
  | int {atom : Atom} (named : tag = some (coreTag "int"))
      (read : whole? text = some (some atom)) : Resolves tag style text atom
  | float {value : Real} (named : tag = some (coreTag "float")) :
      Resolves tag style text (.real value)
  | null (named : tag = some (coreTag "null")) (word : isNullWord text = true) :
      Resolves tag style text .null
  | other {name : String} (named : tag = some name) (strict : ¬ Loose tag) :
      Resolves tag style text (.text text)

theorem resolves_of_ofScalar? {atom : Atom} (read : ofScalar? tag style text = some atom) :
    Resolves tag style text atom := by
  have untagged (loose : Loose tag)
      (read : (if style == .plain then ofPlain? text else some (.text text)) = some atom) :
      Resolves tag style text atom := by
    split at read
    · rename_i plain
      exact .plain loose (by simpa using plain) read
    · rename_i quoted
      obtain rfl : Atom.text text = atom := by simpa using read
      exact .quoted loose (by simpa using quoted)
  cases tag with
  | none => exact untagged rfl read
  | some tag =>
      simp only [ofScalar?] at read
      split at read
      · rename_i named
        obtain ⟨value, -, rfl⟩ := Option.map_eq_some_iff.mp read
        exact .bool (congrArg some (eq_of_beq named))
      split at read
      · rename_i named
        exact .int (congrArg some (eq_of_beq named)) (Option.join_eq_some_iff.mp read)
      split at read
      · rename_i named
        obtain ⟨value, -, rfl⟩ := Option.map_eq_some_iff.mp read
        exact .float (congrArg some (eq_of_beq named))
      split at read
      · rename_i named
        split at read
        · rename_i word
          obtain rfl : Atom.null = atom := by simpa using read
          exact .null (congrArg some (eq_of_beq named)) word
        · nomatch read
      split at read
      · rename_i own
        exact untagged own read
      · rename_i strict
        obtain rfl : Atom.text text = atom := by simpa using read
        exact .other rfl (by simpa [Loose] using strict)

theorem eq_of_ofScalar? (read : ofScalar? tag style text = some (.text told)) : told = text := by
  cases resolves_of_ofScalar? read with
  | plain _ _ read => exact eq_of_ofPlain? read
  | int _ read => exact absurd read whole?_ne_text
  | quoted => rfl
  | other => rfl

theorem not_loose_coreTag (name : String) : ¬ Loose (some (coreTag name)) := by
  change ¬ ("tag:yaml.org,2002:" ++ name).startsWith "!" = true
  simp [String.startsWith_string_iff]

theorem ofScalar?_loose (loose : Loose tag) :
    ofScalar? tag style text = if style == .plain then ofPlain? text else some (.text text) := by
  cases tag with
  | none => rfl
  | some tag =>
      have own : tag.startsWith "!" = true := loose
      have apart (name : String) : (tag == coreTag name) = false := by
        rw [beq_eq_false_iff_ne]
        rintro rfl
        exact not_loose_coreTag name loose
      simp only [ofScalar?, apart, own, if_true, Bool.false_eq_true, if_false]

theorem ofScalar?_null : ofScalar? (some (coreTag "null")) style text =
    if isNullWord text then some .null else none := rfl

theorem whole?_of_natural? (read : natural? (Nat.pow 2 64) text = some n) :
    whole? text = some (some (.natural n)) := by
  rw [whole?, read]

theorem ofPlain?_of_natural? (read : natural? (Nat.pow 2 64) text = some n) :
    ofPlain? text = some (.natural n) := by
  have apart (word : String) (none : natural? (Nat.pow 2 64) word = none) :
      (text == word) = false := by
    rw [beq_eq_false_iff_ne]
    rintro rfl
    rw [none] at read
    nomatch read
  have given : (text.isEmpty || isNullWord text) = false := by
    have nonempty : text.isEmpty = false := by
      rw [← Bool.not_eq_true, String.isEmpty_iff]
      exact ne_of_beq_false (apart "" rfl)
    simp only [nonempty, isNullWord, apart "null" rfl, apart "Null" rfl, apart "NULL" rfl,
      apart "~" rfl, Bool.or_self]
  have number : bool? text = none := by
    simp only [bool?, apart "true" rfl, apart "True" rfl, apart "TRUE" rfl, apart "false" rfl,
      apart "False" rfl, apart "FALSE" rfl, Bool.or_self, Bool.false_eq_true, if_false]
  rw [ofPlain?, given, number, whole?_of_natural? read]
  rfl

/-- A number that is the same whether or not tags and quotes are minded. -/
structure Counts (tag : Option String) (style : Style) (text : String) (n : Nat) : Prop where
  digits : natural? (Nat.pow 2 64) text = some n
  kind : style = .plain ∧ Loose tag ∨
    tag = some (coreTag "int") ∧ (style = .plain ∨ style = .literal)

theorem Counts.ofScalar? (counts : Counts tag style text n) :
    ofScalar? tag style text = some (.natural n) := by
  obtain ⟨rfl, loose⟩ | ⟨rfl, -⟩ := counts.kind
  · rw [ofScalar?_loose loose]
    exact ofPlain?_of_natural? counts.digits
  · change (whole? text).join = some (.natural n)
    rw [whole?_of_natural? counts.digits]
    rfl

theorem counts_of_ofScalar? {m : Nat}
    (place : style = .plain ∨ style = .literal ∧ tag = some (coreTag "int"))
    (digits : natural? (Nat.pow 2 64) text = some n)
    (read : Atom.ofScalar? tag style text = some (.natural m)) : Counts tag style text n := by
  refine ⟨digits, ?_⟩
  cases resolves_of_ofScalar? read with
  | plain loose plain _ => exact .inl ⟨plain, loose⟩
  | int named _ => exact .inr ⟨named, place.imp_right And.left⟩

end AthenaModels.Yaml.Atom
