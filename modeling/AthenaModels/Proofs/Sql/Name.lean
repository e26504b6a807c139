import AthenaModels.Proofs.Sql.Reading

namespace AthenaModels

namespace Sql

variable {text suffix tail rest : List Char} {name : String}

def startsName (c : Char) : Bool := c.isAlpha || c == '_'

def isNameChar (c : Char) : Bool := c.isAlphanum || c == '_'

def delimited (c : Char) : List Char := if c = '\x22' then ['\x22', '\x22'] else [c]

def readDelimited : Reader (List Char)
  | '\x22' :: '\x22' :: rest => (readDelimited rest).map fun (name, rest) => ('\x22' :: name, rest)
  | '\x22' :: rest => some ([], rest)
  | c :: rest => (readDelimited rest).map fun (name, rest) => (c :: name, rest)
  | [] => none

/-- A plain name is read in lower case, a name in quotes as it is. -/
def readName : Reader String
  | '\x22' :: rest => (readDelimited rest).map fun (name, rest) => (String.ofList name, rest)
  | c :: rest =>
      if startsName c then
        some (String.ofList ((c :: rest.takeWhile isNameChar).map Char.toLower),
          rest.dropWhile isNameChar)
      else none
  | [] => none

/-- The text is an identifier, and stands for the name. -/
inductive Spells : List Char → String → Prop where
  | plain {c : Char} {rest : List Char} (first : startsName c = true)
      (all : ∀ d ∈ rest, isNameChar d = true) :
      Spells (c :: rest) (String.ofList ((c :: rest).map Char.toLower))
  | quoted (content : List Char) (filled : content ≠ []) :
      Spells ('\x22' :: (content.flatMap delimited ++ ['\x22'])) (String.ofList content)

def Bare (text : List Char) : Prop := '\x22' ∉ text ∧ text.map Char.toLower = text

theorem Spells.of_plain (first : text.head?.any startsName = true)
    (all : text.all isNameChar = true) (lower : text.map Char.toLower = name.toList) :
    Spells text name := by
  cases text with
  | nil => cases first
  | cons c rest =>
      have spells := Spells.plain first fun d member =>
        List.all_eq_true.mp all d (List.mem_cons_of_mem c member)
      rwa [lower, String.ofList_toList] at spells

theorem Spells.of_quoted (filled : name.toList ≠ [])
    (shape : text = '\x22' :: (name.toList.flatMap delimited ++ ['\x22'])) : Spells text name := by
  have spells := Spells.quoted name.toList filled
  rwa [String.ofList_toList, ← shape] at spells

theorem readDelimited_end (ended : tail.head? ≠ some '\x22') :
    readDelimited ('\x22' :: tail) = some ([], tail) := by
  cases tail with
  | nil => rfl
  | cons c tail =>
      have other : c ≠ '\x22' := fun same => ended (congrArg some same)
      simp [readDelimited, other]

theorem readDelimited_delimited (content : List Char) (ended : tail.head? ≠ some '\x22') :
    readDelimited (content.flatMap delimited ++ '\x22' :: tail) = some (content, tail) := by
  induction content with
  | nil => exact readDelimited_end ended
  | cons c content ih =>
      by_cases quote : c = '\x22'
      · simp [delimited, quote, readDelimited, ih]
      · simp only [List.flatMap_cons, delimited, quote, if_false, List.cons_append, List.nil_append]
        rw [readDelimited, ih]
        · rfl
        · exact fun _ same _ => quote same
        · exact quote

theorem delimited_of_unquoted (unquoted : '\x22' ∉ text) : text.flatMap delimited = text := by
  induction text with
  | nil => rfl
  | cons c text ih =>
      rw [List.mem_cons, not_or] at unquoted
      rw [List.flatMap_cons, ih unquoted.2, delimited, if_neg (Ne.symm unquoted.1)]
      rfl

theorem isNameChar_of_startsName {c : Char} (first : startsName c = true) : isNameChar c = true := by
  simp only [startsName, isNameChar, Char.isAlphanum, Bool.or_eq_true] at first ⊢
  rcases first with letter | line
  · exact .inl (.inl letter)
  · exact .inr line

theorem ne_quote {c : Char} (inName : isNameChar c = true) : c ≠ '\x22' := by
  intro same
  subst same
  cases inName

theorem Spells.read (spells : Spells text name)
    (ended : ∀ c, tail.head? = some c → c ≠ '\x22' ∧ isNameChar c = false) :
    readName (text ++ tail) = some (name, tail) := by
  cases spells with
  | @plain c rest first all =>
      have other := ne_quote (isNameChar_of_startsName first)
      have stops : tail.takeWhile isNameChar = [] ∧ tail.dropWhile isNameChar = tail := by
        cases tail with
        | nil => exact ⟨rfl, rfl⟩
        | cons d tail => simp [(ended d rfl).2]
      have whole : (rest ++ tail).takeWhile isNameChar = rest := by
        rw [List.takeWhile_append_of_pos all, stops.1, List.append_nil]
      have left : (rest ++ tail).dropWhile isNameChar = tail := by
        rw [List.dropWhile_append_of_pos all, stops.2]
      rw [List.cons_append, readName, if_pos first, whole, left]
      exact fun same => other same
  | quoted content _ =>
      have closed : tail.head? ≠ some '\x22' := fun same => (ended _ same).1 rfl
      rw [List.cons_append, List.append_assoc, readName, List.singleton_append,
        readDelimited_delimited content closed]
      rfl

theorem ne_of_redelimited {content found : List Char} (start : suffix.head? ≠ some '\x22')
    (read : readDelimited ('\x22' :: (content.flatMap delimited ++ '\x22' :: tail)) =
      some (found, rest)) : found ≠ content ++ suffix := by
  induction content generalizing found with
  | nil =>
      -- The quotes before and after an empty name are one quote, inside of the outer ones.
      intro same
      simp only [List.flatMap_nil, List.nil_append, readDelimited, Option.map_eq_some_iff,
        Prod.mk.injEq] at read same
      obtain ⟨_, _, rfl, _⟩ := read
      subst same
      exact start rfl
  | cons c content ih =>
      by_cases quote : c = '\x22'
      · subst quote
        simp only [List.flatMap_cons, delimited, if_true, List.cons_append, List.nil_append,
          readDelimited, Option.map_eq_some_iff, Prod.mk.injEq] at read
        obtain ⟨⟨inner, left⟩, read, rfl, rfl⟩ := read
        intro same
        exact ih read (List.cons.inj same).2
      · simp only [List.flatMap_cons, delimited, quote, if_false, List.cons_append,
          List.nil_append] at read
        have other : (c :: (content.flatMap delimited ++ '\x22' :: tail)).head? ≠ some '\x22' :=
          fun same => quote (Option.some.inj same)
        rw [readDelimited_end other] at read
        cases read
        exact nofun

theorem length_le_delimited (content : List Char) :
    content.length ≤ (content.flatMap delimited).length := by
  induction content with
  | nil => exact Nat.le_refl _
  | cons c content ih =>
      have some : 1 ≤ (delimited c).length := by
        rw [delimited]
        split <;> simp
      simp only [List.flatMap_cons, List.length_append, List.length_cons]
      omega

theorem ne_content (content : List Char) :
    '\x22' :: (content.flatMap delimited ++ ['\x22']) ≠ content := by
  intro same
  have lengths := congrArg List.length same
  have bound := length_le_delimited content
  simp only [List.length_cons, List.length_append, List.length_nil] at lengths
  omega

/-- The text of a name, put in quotes as it is, is read as the name only where it is the name. -/
theorem Spells.read_redelimited_iff (spells : Spells text name) (unquoted : '\x22' ∉ suffix)
    (ended : tail.head? ≠ some '\x22') :
    readName ('\x22' :: (text ++ (suffix ++ '\x22' :: tail))) =
        some (name ++ String.ofList suffix, rest) ↔
      text = name.toList ∧ rest = tail := by
  have start : suffix.head? ≠ some '\x22' := by
    intro same
    cases suffix with
    | nil => cases same
    | cons c suffix =>
        cases same
        exact unquoted List.mem_cons_self
  cases spells with
  | @plain c word first all =>
      have clean : '\x22' ∉ c :: word ++ suffix := by
        intro member
        rcases List.mem_append.mp member with inside | after
        · rcases List.mem_cons.mp inside with rfl | later
          · cases first
          · exact ne_quote (all _ later) rfl
        · exact unquoted after
      have inside := readDelimited_delimited (c :: word ++ suffix) ended
      rw [delimited_of_unquoted clean, List.append_assoc] at inside
      rw [readName, inside, Option.map_some, Option.some.injEq, Prod.mk.injEq, ← String.ofList_append,
        String.ofList_inj, List.append_cancel_right_eq, String.toList_ofList, eq_comm (a := tail)]
  | quoted content _ =>
      constructor
      · intro read
        rw [readName, Option.map_eq_some_iff] at read
        obtain ⟨⟨found, left⟩, read, same⟩ := read
        rw [Prod.mk.injEq, ← String.ofList_append, String.ofList_inj] at same
        rw [List.cons_append, List.append_assoc, List.singleton_append] at read
        exact absurd same.1 (ne_of_redelimited start read)
      · intro given
        exact absurd (given.1.trans String.toList_ofList) (ne_content content)

theorem Spells.read_again_iff (spells : Spells text name) (ended : tail.head? ≠ some '\x22') :
    readName ('\x22' :: (text ++ '\x22' :: tail)) = some (name, rest) ↔
      text = name.toList ∧ rest = tail := by
  have read := @Spells.read_redelimited_iff text [] tail rest name spells nofun ended
  rwa [String.ofList_nil, String.append_empty, List.nil_append] at read

theorem Spells.eq_iff_bare (spells : Spells text name) : text = name.toList ↔ Bare text := by
  cases spells with
  | @plain c word first all =>
      rw [String.toList_ofList]
      constructor
      · intro same
        refine ⟨?_, same.symm⟩
        intro member
        rcases List.mem_cons.mp member with rfl | later
        · cases first
        · exact ne_quote (all _ later) rfl
      · exact fun bare => bare.2.symm
  | quoted content _ =>
      constructor
      · intro same
        exact absurd (same.trans String.toList_ofList) (ne_content content)
      · exact fun bare => absurd List.mem_cons_self bare.1

def readPair (text : List Char) : Option (String × String) := do
  let (schema, rest) ← readName text
  let (identifier, rest) ← readName (← ['.'].isPrefixOf? rest)
  if rest.isEmpty then some (schema, identifier) else none

def readTable (text : List Char) : Option Relation := do
  let (database, rest) ← readName text
  let (schema, identifier) ← readPair (← ['.'].isPrefixOf? rest)
  some ⟨database, schema, identifier⟩

/-- The table that is looked up in its catalog by the texts of its schema and its name. -/
def readLookup (opening place ending : String) (text : List Char) : Option Relation := do
  let rest ← opening.toList.isPrefixOf? text
  let (database, rest) ← readName rest
  let rest ← place.toList.isPrefixOf? rest
  let rest ← "table_schema = ".toList.isPrefixOf? rest
  let (schema, rest) ← readLiteral rest
  let rest ← " AND table_name = ".toList.isPrefixOf? rest
  let (identifier, rest) ← readLiteral rest
  if rest = ending.toList then some ⟨database, schema, identifier⟩ else none

def readTableExists : List Char → Option Relation :=
  readLookup "SELECT table_name FROM " ".information_schema.tables WHERE " ""

def readColumns : List Char → Option Relation :=
  readLookup "SELECT column_name FROM " ".information_schema.columns WHERE "
    " ORDER BY ordinal_position"

theorem readPair_eq_some_iff {schema identifier : String} :
    readPair text = some (schema, identifier) ↔
      ∃ rest, readName text = some (schema, '.' :: rest) ∧
        readName rest = some (identifier, []) := by
  constructor
  · intro read
    rw [readPair] at read
    obtain ⟨⟨first, rest⟩, started, read⟩ := Option.bind_eq_some_iff.mp read
    obtain ⟨after, dot, read⟩ := Option.bind_eq_some_iff.mp read
    obtain ⟨⟨second, last⟩, named, read⟩ := Option.bind_eq_some_iff.mp read
    cases last with
    | nil =>
        cases read
        cases List.isPrefixOf?_eq_some_iff_append_eq.mp dot
        exact ⟨after, started, named⟩
    | cons => cases read
  · intro given
    obtain ⟨rest, started, named⟩ := given
    simp [readPair, started, named, List.isPrefixOf?]

theorem readTable_eq_some_iff {table : Relation} :
    readTable text = some table ↔
      ∃ rest, readName text = some (table.database, '.' :: rest) ∧
        readPair rest = some (table.schema, table.identifier) := by
  constructor
  · intro read
    rw [readTable] at read
    obtain ⟨⟨database, rest⟩, started, read⟩ := Option.bind_eq_some_iff.mp read
    obtain ⟨after, dot, read⟩ := Option.bind_eq_some_iff.mp read
    obtain ⟨⟨schema, identifier⟩, named, read⟩ := Option.bind_eq_some_iff.mp read
    cases read
    cases List.isPrefixOf?_eq_some_iff_append_eq.mp dot
    exact ⟨after, started, named⟩
  · intro given
    obtain ⟨rest, started, named⟩ := given
    simp [readTable, started, named, List.isPrefixOf?]

theorem Spells.read_dot (spells : Spells text name) (rest : List Char) :
    readName (text ++ '.' :: rest) = some (name, '.' :: rest) := by
  apply spells.read
  intro c same
  cases same
  decide

theorem Spells.read_all (spells : Spells text name) : readName text = some (name, []) := by
  have read := @Spells.read text [] name spells nofun
  rwa [List.append_nil] at read

end Sql

open Sql

/-- Each part of the first name is an identifier, and stands for that part of the second. -/
structure Relation.Stands (r t : Relation) : Prop where
  database : Spells r.database.toList t.database
  schema : Spells r.schema.toList t.schema
  identifier : Spells r.identifier.toList t.identifier

/-- The name is written as it is stored. -/
structure Relation.Bare (r : Relation) : Prop where
  database : Sql.Bare r.database.toList
  schema : Sql.Bare r.schema.toList
  identifier : Sql.Bare r.identifier.toList

namespace Relation

variable {r t : Relation}

theorem Stands.eq_iff_bare (stands : r.Stands t) : r = t ↔ r.Bare := by
  have database := stands.database.eq_iff_bare
  have schema := stands.schema.eq_iff_bare
  have identifier := stands.identifier.eq_iff_bare
  rw [String.toList_inj] at database schema identifier
  obtain ⟨_, _, _⟩ := r
  obtain ⟨_, _, _⟩ := t
  rw [Relation.mk.injEq, database, schema, identifier]
  constructor
  · intro bare
    exact ⟨bare.1, bare.2.1, bare.2.2⟩
  · intro bare
    exact ⟨bare.database, bare.schema, bare.identifier⟩

theorem Stands.readPair_ddlName (stands : r.Stands t) :
    readPair r.ddlName.toList = some (t.schema, t.identifier) := by
  have shape : r.ddlName.toList = r.schema.toList ++ '.' :: r.identifier.toList := by
    simp [ddlName]
  rw [shape, readPair_eq_some_iff]
  exact ⟨_, stands.schema.read_dot _, stands.identifier.read_all⟩

theorem Stands.readTable_display (stands : r.Stands t) : readTable r.display.toList = some t := by
  have shape : r.display.toList = r.database.toList ++ '.' :: r.ddlName.toList := by
    simp [display, ddlName]
  rw [shape, readTable_eq_some_iff]
  exact ⟨_, stands.database.read_dot _, stands.readPair_ddlName⟩

theorem Stands.readTable_partitionsTable_iff (stands : r.Stands t) :
    readTable r.partitionsTable.toList = some { t with identifier := t.identifier ++ "$partitions" } ↔
      r = t := by
  have shape : r.partitionsTable.toList = '\x22' :: (r.database.toList ++ '\x22' :: '.' ::
      '\x22' :: (r.schema.toList ++ '\x22' :: '.' ::
        '\x22' :: (r.identifier.toList ++ ("$partitions".toList ++ ['\x22'])))) := by
    simp [partitionsTable]
  -- Dots keep the quotes of two parts from being read as one quote inside of a name.
  have dotted : ∀ rest : List Char, ('.' :: rest).head? ≠ some '\x22' := by simp
  rw [shape, readTable_eq_some_iff]
  constructor
  · intro read
    obtain ⟨rest, first, read⟩ := read
    obtain ⟨rest', second, third⟩ := readPair_eq_some_iff.mp read
    obtain ⟨database, tail⟩ := (stands.database.read_again_iff (dotted _)).mp first
    cases tail
    obtain ⟨schema, tail⟩ := (stands.schema.read_again_iff (dotted _)).mp second
    cases tail
    obtain ⟨identifier, _⟩ :=
      (stands.identifier.read_redelimited_iff (by decide) (by simp)).mp third
    obtain ⟨_, _, _⟩ := r
    obtain ⟨_, _, _⟩ := t
    rw [String.toList_inj] at database schema identifier
    rw [Relation.mk.injEq]
    exact ⟨database, schema, identifier⟩
  · intro same
    subst same
    refine ⟨_, (stands.database.read_again_iff (dotted _)).mpr ⟨rfl, rfl⟩,
      readPair_eq_some_iff.mpr ⟨_, (stands.schema.read_again_iff (dotted _)).mpr ⟨rfl, rfl⟩, ?_⟩⟩
    exact (stands.identifier.read_redelimited_iff (by decide) (by simp)).mpr ⟨rfl, rfl⟩

theorem toList_tableCondition : (tableCondition r).toList = "table_schema = ".toList ++
    ((literal r.schema).toList ++ (" AND table_name = ".toList ++ (literal r.identifier).toList)) := by
  -- The words of a statement stay strings: their letters are not looked at.
  have appended (a b c d : String) :
      (a ++ b ++ c ++ d).toList = a.toList ++ (b.toList ++ (c.toList ++ d.toList)) := by
    simp only [String.toList_append, List.append_assoc]
  exact appended _ _ _ _

theorem Stands.readLookup_eq (stands : r.Stands t) {opening place ending : String}
    (dotted : place.toList.head? = some '.') (ended : ending.toList.head? ≠ some '\x27') :
    readLookup opening place ending
        (opening ++ r.database ++ place ++ tableCondition r ++ ending).toList =
      some { t with schema := r.schema, identifier := r.identifier } := by
  have spaced : ∀ rest, (" AND table_name = ".toList ++ rest).head? ≠ some '\x27' := by simp
  obtain ⟨others, place_eq⟩ := List.head?_eq_some_iff.mp dotted
  simp only [String.toList_append, List.append_assoc]
  rw [readLookup, isPrefixOf?_append]
  simp only [Option.bind_eq_bind, Option.bind_some]
  rw [place_eq, List.cons_append, stands.database.read_dot]
  simp only [Option.bind_some]
  rw [← List.cons_append, isPrefixOf?_append]
  simp only [toList_tableCondition, List.append_assoc, Option.bind_some, isPrefixOf?_append,
    readLiteral_literal _ (spaced _), readLiteral_literal _ ended, if_true]

theorem Stands.readTableExists_eq (stands : r.Stands t) :
    readTableExists (tableExists r).toList =
      some { t with schema := r.schema, identifier := r.identifier } := by
  have read := @readLookup_eq r t stands "SELECT table_name FROM "
    ".information_schema.tables WHERE " "" (by decide) (by decide)
  rw [String.append_empty] at read
  exact read

theorem Stands.readColumns_eq (stands : r.Stands t) :
    readColumns (columns r).toList =
      some { t with schema := r.schema, identifier := r.identifier } :=
  stands.readLookup_eq (by decide) (by decide)

/-- In all statements about a table its name is that of this one. -/
structure NamesOneTable (r t : Relation) : Prop where
  display : readTable r.display.toList = some t
  ddl : readPair r.ddlName.toList = some (t.schema, t.identifier)
  partitions : readTable r.partitionsTable.toList =
    some { t with identifier := t.identifier ++ "$partitions" }
  existence : readTableExists (tableExists r).toList = some t
  columns : readColumns (columns r).toList = some t

theorem Stands.namesOneTable_iff (stands : r.Stands t) : r.NamesOneTable t ↔ r.Bare := by
  rw [← stands.eq_iff_bare]
  constructor
  · exact fun names => stands.readTable_partitionsTable_iff.mp names.partitions
  · intro same
    subst same
    exact ⟨stands.readTable_display, stands.readPair_ddlName,
      stands.readTable_partitionsTable_iff.mpr rfl, stands.readTableExists_eq,
      stands.readColumns_eq⟩

end Relation
end AthenaModels
