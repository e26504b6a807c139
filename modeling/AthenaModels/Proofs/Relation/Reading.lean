import AthenaModels.Proofs.Text.Splitting
import AthenaModels.Relation
import Mathlib.Data.List.Basic

namespace AthenaModels.Relation

variable {name part catalog schema identifier : String} {parts : List String} {r r' : Relation}

def Seen (text : String) : Prop := ∃ c ∈ text.toList, Text.isBlank c = false

structure IsPart (part : String) : Prop where
  undotted : '.' ∉ part.toList
  seen : Seen part

structure InParts (r : Relation) : Prop where
  database : IsPart r.database
  schema : IsPart r.schema
  identifier : IsPart r.identifier

/-- The tables that names stand for where one catalog is the default. -/
inductive Denotes (catalog : String) : String → Relation → Prop where
  | full {r : Relation} (inParts : r.InParts) :
      Denotes catalog (r.database ++ "." ++ r.schema ++ "." ++ r.identifier) r
  | short {schema identifier : String} (first : IsPart schema) (second : IsPart identifier) :
      Denotes catalog (schema ++ "." ++ identifier) ⟨catalog, schema, identifier⟩

theorem seen_iff : Seen part ↔ Text.isBlankText part = false := by
  simp [Seen, Text.isBlankText]

theorem split_dots_iff : Text.split '.' name = parts ↔
    parts ≠ [] ∧ (∀ part ∈ parts, '.' ∉ part.toList) ∧ ".".intercalate parts = name :=
  Text.split_eq_iff

theorem display_eq_intercalate (r : Relation) :
    r.display = ".".intercalate [r.database, r.schema, r.identifier] := by
  simp [display, String.append_assoc]

theorem split_display (inParts : r.InParts) :
    Text.split '.' r.display = [r.database, r.schema, r.identifier] := by
  refine split_dots_iff.mpr ⟨List.cons_ne_nil _ _, ?_, (display_eq_intercalate r).symm⟩
  simp [inParts.database.undotted, inParts.schema.undotted, inParts.identifier.undotted]

theorem display_of_split (split : Text.split '.' name = [r.database, r.schema, r.identifier]) :
    r.display = name :=
  (display_eq_intercalate r).trans (split_dots_iff.mp split).2.2

theorem ddlName_of_split (split : Text.split '.' name = [r.schema, r.identifier]) :
    r.ddlName = name :=
  (split_dots_iff.mp split).2.2

theorem isPart_of_split (split : Text.split '.' name = parts) (seen : ∀ part ∈ parts, Seen part) :
    ∀ part ∈ parts, IsPart part := fun part member =>
  ⟨(split_dots_iff.mp split).2.1 part member, seen part member⟩

theorem parse_ok_iff : parse name catalog = .ok r ↔
    (∀ part ∈ Text.split '.' name, Seen part) ∧
      (Text.split '.' name = [r.database, r.schema, r.identifier] ∨
        Text.split '.' name = [r.schema, r.identifier] ∧ r.database = catalog) := by
  have blank : (Text.split '.' name).any Text.isBlankText = true ↔
      ¬∀ part ∈ Text.split '.' name, Seen part := by
    simp [seen_iff]
  obtain ⟨database, schema, identifier⟩ := r
  rw [parse]
  dsimp only
  split
  · next some => exact ⟨nofun, fun read => absurd read.1 (blank.mp some)⟩
  · next none =>
      rw [blank, not_not] at none
      refine Iff.trans ?_ (and_iff_right none).symm
      split
      · next shape => simp [shape, eq_comm, and_comm]
      · next shape => simp [shape, eq_comm]
      · next two three =>
          refine ⟨nofun, ?_⟩
          rintro (shape | ⟨shape, _⟩)
          · exact (three _ _ _ shape).elim
          · exact (two _ _ shape).elim

theorem parse_iff : parse name catalog = .ok r ↔ Denotes catalog name r := by
  rw [parse_ok_iff]
  constructor
  · rintro ⟨seen, split | ⟨split, default⟩⟩
    · have parts := isPart_of_split split (split ▸ seen)
      rw [← display_of_split split]
      exact .full ⟨parts _ (by simp), parts _ (by simp), parts _ (by simp)⟩
    · have parts := isPart_of_split split (split ▸ seen)
      obtain ⟨database, schema, identifier⟩ := r
      obtain rfl : database = catalog := default
      rw [← ddlName_of_split split]
      exact .short (parts _ (by simp)) (parts _ (by simp))
  · intro denotes
    cases denotes with
    | full inParts =>
        have split := split_display inParts
        rw [display] at split
        rw [split]
        simp [inParts.database.seen, inParts.schema.seen, inParts.identifier.seen]
    | @short schema identifier first second =>
        have split : Text.split '.' (schema ++ "." ++ identifier) = [schema, identifier] :=
          split_dots_iff.mpr ⟨List.cons_ne_nil _ _, by simp [first.undotted, second.undotted], rfl⟩
        rw [split]
        simp [first.seen, second.seen]

theorem exists_parse_iff : (∃ r, parse name catalog = .ok r) ↔
    ((Text.split '.' name).length = 2 ∨ (Text.split '.' name).length = 3) ∧
      ∀ part ∈ Text.split '.' name, Seen part := by
  simp only [parse_ok_iff]
  constructor
  · rintro ⟨r, seen, split | ⟨split, _⟩⟩
    · exact ⟨.inr (by rw [split]; rfl), seen⟩
    · exact ⟨.inl (by rw [split]; rfl), seen⟩
  · rintro ⟨two | three, seen⟩
    · obtain ⟨schema, identifier, split⟩ := List.length_eq_two.mp two
      exact ⟨⟨catalog, schema, identifier⟩, seen, .inr ⟨split, rfl⟩⟩
    · obtain ⟨database, schema, identifier, split⟩ := List.length_eq_three.mp three
      exact ⟨⟨database, schema, identifier⟩, seen, .inl split⟩

theorem parse_display (inParts : r.InParts) (catalog : String) :
    parse r.display catalog = .ok r :=
  parse_iff.mpr (.full inParts)

/-- Of the names that are read, one in three parts is what its table is displayed as, and one in two
parts is displayed without the catalog, which is the default one. -/
theorem reads_names (catalog : String) :
    (∀ name r, parse name catalog = .ok r ↔ Denotes catalog name r) ∧
    (∀ name, (∃ r, parse name catalog = .ok r) ↔
      ((Text.split '.' name).length = 2 ∨ (Text.split '.' name).length = 3) ∧
        ∀ part ∈ Text.split '.' name, Seen part) ∧
    (∀ name r, parse name catalog = .ok r → (Text.split '.' name).length = 3 →
      r.display = name ∧ ∀ other, parse name other = .ok r) ∧
    (∀ name r, parse name catalog = .ok r → (Text.split '.' name).length = 2 →
      r.ddlName = name ∧ r.database = catalog) ∧
    (∀ r, InParts r → parse r.display catalog = .ok r) ∧
    ∀ r r', InParts r → InParts r' → r.display = r'.display → r = r' := by
  refine ⟨fun _ _ => parse_iff, fun _ => exists_parse_iff, ?_, ?_,
    fun _ inParts => parse_display inParts catalog, ?_⟩
  · intro name r read three
    obtain ⟨seen, split | ⟨split, _⟩⟩ := parse_ok_iff.mp read
    · exact ⟨display_of_split split, fun other => parse_ok_iff.mpr ⟨seen, .inl split⟩⟩
    · rw [split] at three
      cases three
  · intro name r read two
    obtain ⟨_, split | ⟨split, default⟩⟩ := parse_ok_iff.mp read
    · rw [split] at two
      cases two
    · exact ⟨ddlName_of_split split, default⟩
  · intro r r' inParts inParts' same
    have read := parse_display inParts catalog
    rw [same, parse_display inParts' catalog] at read
    exact (Except.ok.inj read).symm

/-- A blank around a name belongs to the name, and no blank is a name. -/
theorem reads_names_with_blanks :
    parse "lake. days.\u00a0é" "awsdatacatalog" = .ok ⟨"lake", " days", "\u00a0é"⟩ ∧
    (⟨"lake", " days", "\u00a0é"⟩ : Relation).display = "lake. days.\u00a0é" ∧
    (⟨"awsdatacatalog", " days", "\u00a0é"⟩ : Relation).ddlName = " days.\u00a0é" ∧
    ¬∃ r, parse "lake.\u3000.days" "awsdatacatalog" = .ok r := by
  obtain ⟨_, exact, full, short, back, _⟩ := reads_names "awsdatacatalog"
  have parts : InParts ⟨"lake", " days", "\u00a0é"⟩ :=
    ⟨⟨by decide, 'l', by decide⟩, ⟨by decide, 'd', by decide⟩, ⟨by decide, 'é', by decide⟩⟩
  have read := back _ parts
  have read' : parse " days.\u00a0é" "awsdatacatalog" =
      .ok ⟨"awsdatacatalog", " days", "\u00a0é"⟩ := by decide +kernel
  refine ⟨read, (full _ _ read (by decide +kernel)).1, (short _ _ read' (by decide +kernel)).1, ?_⟩
  rw [exact]
  rintro ⟨_, seen⟩
  have blank := seen_iff.mp (seen "\u3000" (by decide +kernel))
  revert blank
  decide +kernel

end AthenaModels.Relation
