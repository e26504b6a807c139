import AthenaModels.Sql.Statement
import Mathlib.Data.List.Basic

namespace AthenaModels

/-- A partition with values for some keys, none of them the marker's text. -/
structure Partition.Keyed (keys : List String) (partition : Partition) : Prop where
  keys : partition.pairs.map Prod.fst = keys
  unmarked : ∀ pair ∈ partition.pairs, pair.2 ≠ some Partition.nullMarker

namespace Sql

/-- What takes a value off the front of a text. -/
abbrev Reader (α : Type) := List Char → Option (α × List Char)

def readBody : Reader (List Char)
  | '\x27' :: '\x27' :: rest => (readBody rest).map fun (body, rest) => ('\x27' :: body, rest)
  | '\x27' :: rest => some ([], rest)
  | c :: rest => (readBody rest).map fun (body, rest) => (c :: body, rest)
  | [] => none

def readLiteral : Reader String := fun text => do
  let rest ← ['\x27'].isPrefixOf? text
  let (body, rest) ← readBody rest
  some (String.ofList body, rest)

theorem isPrefixOf?_append (stem tail : List Char) : stem.isPrefixOf? (stem ++ tail) = some tail :=
  List.isPrefixOf?_eq_some_iff_append_eq.mpr rfl

theorem readBody_doubled (text tail : List Char) (ended : tail.head? ≠ some '\x27') :
    readBody (text.flatMap doubled ++ '\x27' :: tail) = some (text, tail) := by
  induction text with
  | nil =>
      cases tail with
      | nil => rfl
      | cons c tail =>
          have other : c ≠ '\x27' := fun same => ended (congrArg some same)
          simp [readBody, other]
  | cons c text ih =>
      by_cases quote : c = '\x27'
      · simp [doubled, quote, readBody, ih]
      · simp only [List.flatMap_cons, doubled, quote, if_false, List.cons_append, List.nil_append]
        rw [readBody, ih]
        · rfl
        · exact fun _ same _ => quote same
        · exact quote

theorem readLiteral_literal (text : String) {tail : List Char} (ended : tail.head? ≠ some '\x27') :
    readLiteral ((literal text).toList ++ tail) = some (text, tail) := by
  have shape : (literal text).toList ++ tail =
      ['\x27'] ++ (text.toList.flatMap doubled ++ '\x27' :: tail) := by
    simp [literal]
  rw [shape, readLiteral, isPrefixOf?_append]
  simp [readBody_doubled _ _ ended]

def readCondition (key : String) : Reader (Option String) := fun text =>
  match ("CAST(" ++ key ++ " AS varchar) = ").toList.isPrefixOf? text with
  | some rest => (readLiteral rest).map fun (value, rest) => (some value, rest)
  | none => ((key ++ " IS NULL").toList.isPrefixOf? text).map fun rest => (none, rest)

/-- The value of a column as data definitions have it, where a marker stands for a missing one. -/
def readValue (key : String) : Reader (Option String) := fun text => do
  let rest ← (key ++ "=").toList.isPrefixOf? text
  let (value, rest) ← readLiteral rest
  some (if value = Partition.nullMarker then none else some value, rest)

/-- The two forms of a condition cannot be taken for one another: they differ in the number of
parentheses, wherever the name of the column ends. -/
theorem isPrefixOf?_cast_null (key : String) (tail : List Char) :
    ("CAST(" ++ key ++ " AS varchar) = ").toList.isPrefixOf? ((key ++ " IS NULL").toList ++ tail) =
      none := by
  rw [Option.eq_none_iff_forall_ne_some]
  intro rest same
  have split := (List.isPrefixOf?_eq_some_iff_append_eq.mp same).symm
  simp only [String.toList_append, List.append_assoc] at split
  have front := congrArg (List.take (key.toList.length + 5)) split
  have left : (key.toList ++ (" IS NULL".toList ++ tail)).take (key.toList.length + 5) =
      key.toList ++ " IS N".toList := by
    rw [List.take_length_add_append]
    rfl
  have right : ("CAST(".toList ++ (key.toList ++ (" AS varchar) = ".toList ++ rest))).take
      (key.toList.length + 5) = "CAST(".toList ++ key.toList := by
    rw [← List.append_assoc]
    apply List.take_left'
    rw [List.length_append, Nat.add_comm]
    rfl
  rw [left, right] at front
  have count := congrArg (List.count '(') front
  rw [List.count_append, List.count_append] at count
  have none : List.count '(' " IS N".toList = 0 := rfl
  have one : List.count '(' "CAST(".toList = 1 := rfl
  omega

theorem readCondition_condition (key : String) (value : Option String) {tail : List Char}
    (ended : tail.head? ≠ some '\x27') :
    readCondition key ((Partition.condition (key, value)).toList ++ tail) = some (value, tail) := by
  cases value with
  | none =>
      rw [Partition.condition, readCondition, isPrefixOf?_cast_null, isPrefixOf?_append]
      rfl
  | some value =>
      rw [Partition.condition, String.toList_append, List.append_assoc, readCondition,
        isPrefixOf?_append]
      simp only [readLiteral_literal value ended, Option.map_some]

theorem readValue_spec (key : String) {value : Option String} {tail : List Char}
    (ended : tail.head? ≠ some '\x27') (unmarked : value ≠ some Partition.nullMarker) :
    readValue key ((key ++ "=" ++ literal (Partition.valueText value)).toList ++ tail) =
      some (value, tail) := by
  rw [String.toList_append, List.append_assoc, readValue, isPrefixOf?_append]
  simp only [Option.bind_eq_bind, Option.bind_some, readLiteral_literal _ ended]
  cases value with
  | none => rfl
  | some value =>
      have other : value ≠ Partition.nullMarker := fun same => unmarked (congrArg some same)
      simp [Partition.valueText, other]

def readEach {α : Type} (separator : String) (reader : String → Reader α) :
    List String → Reader (List α)
  | [], text => some ([], text)
  | [key], text => (reader key text).map fun (value, rest) => ([value], rest)
  | key :: next :: keys, text => do
      let (value, rest) ← reader key text
      let rest ← separator.toList.isPrefixOf? rest
      let (values, rest) ← readEach separator reader (next :: keys) rest
      some (value :: values, rest)

def readGroup (opening separator : String) (reader : String → Reader (Option String))
    (keys : List String) : Reader Partition := fun text => do
  let rest ← opening.toList.isPrefixOf? text
  let (values, rest) ← readEach separator reader keys rest
  let rest ← [')'].isPrefixOf? rest
  some (Partition.ofRow keys values, rest)

/-- The text is a list of what a reader reads. -/
inductive Lists {α : Type} (separator : String) (reader : Reader α) :
    List Char → List α → Prop where
  | last {text : List Char} {item : α} (read : reader text = some (item, [])) :
      Lists separator reader text [item]
  | more {text rest : List Char} {item : α} {items : List α}
      (read : reader text = some (item, separator.toList ++ rest))
      (later : Lists separator reader rest items) : Lists separator reader text (item :: items)

theorem Lists.unique {α : Type} {separator : String} {reader : Reader α} {text : List Char}
    {items others : List α} (some : separator.toList ≠ [])
    (first : Lists separator reader text items) (second : Lists separator reader text others) :
    items = others := by
  induction first generalizing others with
  | last read =>
      cases second with
      | last read' => cases read.symm.trans read'; rfl
      | more read' _ =>
          have ended := congrArg Prod.snd (Option.some.inj (read.symm.trans read'))
          exact absurd (List.append_eq_nil_iff.mp ended.symm).1 some
  | more read _ ih =>
      cases second with
      | last read' =>
          have ended := congrArg Prod.snd (Option.some.inj (read.symm.trans read'))
          exact absurd (List.append_eq_nil_iff.mp ended).1 some
      | more read' later =>
          obtain ⟨rfl, same⟩ := Prod.mk.inj (Option.some.inj (read.symm.trans read'))
          obtain rfl := List.append_cancel_left same
          rw [ih later]

def readList {α : Type} (separator : String) (reader : Reader α) : Nat → List Char → Option (List α)
  | 0, _ => none
  | bound + 1, text => do
      let (item, rest) ← reader text
      if rest.isEmpty then some [item]
      else
        let items ← readList separator reader bound (← separator.toList.isPrefixOf? rest)
        some (item :: items)

theorem lists_of_readList {α : Type} {separator : String} {reader : Reader α} {bound : Nat}
    {text : List Char} {items : List α} (read : readList separator reader bound text = some items) :
    Lists separator reader text items := by
  induction bound generalizing text items with
  | zero => cases read
  | succ bound ih =>
      rw [readList] at read
      obtain ⟨⟨item, rest⟩, first, read⟩ := Option.bind_eq_some_iff.mp read
      cases rest with
      | nil =>
          cases read
          exact .last first
      | cons c rest =>
          obtain ⟨later, separated, read⟩ := Option.bind_eq_some_iff.mp read
          obtain ⟨others, second, read⟩ := Option.bind_eq_some_iff.mp read
          cases read
          rw [← List.isPrefixOf?_eq_some_iff_append_eq.mp separated] at first
          exact .more first (ih second)

/-- The condition of a query holds for the rows of these partitions. -/
def Selects (keys : List String) : List Char → List Partition → Prop :=
  Lists " OR " (readGroup "(" " AND " readCondition keys)

/-- A data definition names these partitions. -/
def Names (keys : List String) : List Char → List Partition → Prop :=
  Lists ", " (readGroup "PARTITION (" ", " readValue keys)

theorem readEach_join {separator : String} {reader : String → Reader (Option String)}
    {render : String × Option String → String} {pairs : List (String × Option String)}
    {tail : List Char} (nonempty : pairs ≠ [])
    (read : ∀ pair ∈ pairs, ∀ tail : List Char, tail.head? ≠ some '\x27' →
      reader pair.1 ((render pair).toList ++ tail) = some (pair.2, tail))
    (separated : ∀ tail, (separator.toList ++ tail).head? ≠ some '\x27')
    (ended : tail.head? ≠ some '\x27') :
    readEach separator reader (pairs.map Prod.fst)
        ((separator.intercalate (pairs.map render)).toList ++ tail) =
      some (pairs.map Prod.snd, tail) := by
  induction pairs with
  | nil => exact absurd rfl nonempty
  | cons pair pairs ih =>
      cases pairs with
      | nil =>
          simp only [List.map_cons, List.map_nil, readEach, String.intercalate_singleton,
            read pair List.mem_cons_self tail ended, Option.map_some]
      | cons next pairs =>
          have later := ih (List.cons_ne_nil _ _) fun pair member =>
            read pair (List.mem_cons_of_mem _ member)
          simp only [List.map_cons, readEach, String.intercalate_cons_cons, String.toList_append,
            List.append_assoc]
          rw [read pair List.mem_cons_self _ (separated _)]
          simp only [Option.bind_eq_bind, Option.bind_some, isPrefixOf?_append]
          simp only [List.map_cons] at later
          rw [later]
          rfl

theorem readGroup_join (opening separator : String) {reader : String → Reader (Option String)}
    {render : String × Option String → String} {partition : Partition} (tail : List Char)
    (nonempty : partition.pairs ≠ [])
    (read : ∀ pair ∈ partition.pairs, ∀ tail : List Char, tail.head? ≠ some '\x27' →
      reader pair.1 ((render pair).toList ++ tail) = some (pair.2, tail))
    (separated : ∀ tail, (separator.toList ++ tail).head? ≠ some '\x27') :
    readGroup opening separator reader (partition.pairs.map Prod.fst)
        ((opening ++ separator.intercalate (partition.pairs.map render) ++ ")").toList ++ tail) =
      some (partition, tail) := by
  have closed : (')' :: tail).head? ≠ some '\x27' := by simp
  have shape :
      (opening ++ separator.intercalate (partition.pairs.map render) ++ ")").toList ++ tail =
        opening.toList ++ ((separator.intercalate (partition.pairs.map render)).toList ++
          ([')'] ++ tail)) := by
    simp
  rw [shape, readGroup, isPrefixOf?_append]
  simp only [Option.bind_eq_bind, Option.bind_some]
  rw [List.singleton_append, readEach_join nonempty read separated closed]
  have zipped : (partition.pairs.map Prod.fst).zip (partition.pairs.map Prod.snd) =
      partition.pairs := by
    rw [← List.unzip_fst, ← List.unzip_snd, List.zip_unzip]
  simp [List.isPrefixOf?, Partition.ofRow, zipped]

theorem lists_join {α : Type} {separator : String} {reader : Reader α} {render : α → String}
    {items : List α} (nonempty : items ≠ [])
    (read : ∀ item ∈ items, ∀ tail, reader ((render item).toList ++ tail) = some (item, tail)) :
    Lists separator reader (separator.intercalate (items.map render)).toList items := by
  induction items with
  | nil => exact absurd rfl nonempty
  | cons item items ih =>
      have first := read item List.mem_cons_self
      cases items with
      | nil =>
          refine .last ?_
          have alone := first []
          rwa [List.append_nil] at alone
      | cons next items =>
          have later := ih (List.cons_ne_nil _ _) fun item member =>
            read item (List.mem_cons_of_mem _ member)
          refine .more ?_ later
          rw [List.map_cons, List.map_cons, String.intercalate_cons_cons, String.toList_append,
            String.toList_append, List.append_assoc]
          exact first _

theorem selects_predicates {keys : List String} {partitions : List Partition}
    (nonempty : partitions ≠ []) (some : keys ≠ [])
    (keyed : ∀ partition ∈ partitions, partition.Keyed keys) :
    Selects keys (" OR ".intercalate (partitions.map fun p => "(" ++ p.predicate ++ ")")).toList
      partitions := by
  apply lists_join nonempty
  intro partition member tail
  obtain ⟨rfl, _⟩ := keyed partition member
  have nonempty : partition.pairs ≠ [] := fun empty => some (by rw [empty, List.map_nil])
  have read := readGroup_join "(" " AND " tail nonempty
    (fun pair _ _ ended => readCondition_condition pair.1 pair.2 ended) (by simp)
  rw [Partition.predicate, if_neg (by simpa using nonempty)]
  exact read

theorem names_specs {keys : List String} {partitions : List Partition}
    (nonempty : partitions ≠ []) (some : keys ≠ [])
    (keyed : ∀ partition ∈ partitions, partition.Keyed keys) :
    Names keys
      (", ".intercalate (partitions.map fun p => "PARTITION " ++ p.spec)).toList partitions := by
  apply lists_join nonempty
  intro partition member tail
  obtain ⟨rfl, unmarked⟩ := keyed partition member
  have nonempty : partition.pairs ≠ [] := fun empty => some (by rw [empty, List.map_nil])
  have read := readGroup_join "PARTITION (" ", " tail nonempty
    (fun pair member _ ended => readValue_spec pair.1 ended (unmarked pair member)) (by simp)
  have shape : "PARTITION " ++ partition.spec = "PARTITION (" ++ ", ".intercalate
      (partition.pairs.map fun pair =>
        pair.1 ++ "=" ++ literal (Partition.valueText pair.2)) ++ ")" := by
    simp only [Partition.spec, ← String.append_assoc]
    rfl
  rw [shape]
  exact read

end Sql
end AthenaModels
