import AthenaModels.Proofs.Partition.Path
import AthenaModels.Proofs.Sql.Condition
import AthenaModels.Proofs.Sql.Verb
import Mathlib.Logic.Basic

namespace AthenaModels

namespace Partition

structure Plain (partition : Partition) : Prop where
  filled : partition.pairs ≠ []
  words : ∀ pair ∈ partition.pairs, Sql.Token.IsWord pair.1.toList

/-- No value is the text that stands for a missing one. -/
def Unmarked (partition : Partition) : Prop :=
  ∀ pair ∈ partition.pairs, pair.2 ≠ some nullMarker

instance (partition : Partition) : Decidable partition.Plain :=
  decidable_of_iff (partition.pairs ≠ [] ∧ ∀ pair ∈ partition.pairs, Sql.Token.IsWord pair.1.toList)
    ⟨fun plain => ⟨plain.1, plain.2⟩, fun plain => ⟨plain.filled, plain.words⟩⟩

instance (partition : Partition) : Decidable partition.Unmarked :=
  inferInstanceAs (Decidable (∀ pair ∈ partition.pairs, _))

/-- The row, which has a text or nothing in each column, lies in the partition. -/
def HasRow (partition : Partition) (row : String → Option String) : Prop :=
  ∀ pair ∈ partition.pairs, row pair.1 = pair.2

instance (partition : Partition) (row : String → Option String) :
    Decidable (partition.HasRow row) :=
  inferInstanceAs (Decidable (∀ pair ∈ partition.pairs, _))

def ofValueText (text : String) : Option String :=
  if text = nullMarker then none else some text

def ofTexts (texts : List (String × String)) : Partition :=
  ⟨texts.map fun (column, text) => (column, ofValueText text)⟩

theorem ofValueText_valueText {value : Option String} (unmarked : value ≠ some nullMarker) :
    ofValueText (valueText value) = value := by
  cases value with
  | none => rfl
  | some text => exact if_neg fun same => unmarked (congrArg some same)

theorem ofTexts_texts {partition : Partition} (unmarked : partition.Unmarked) :
    ofTexts partition.texts = partition := by
  have each : ∀ pair ∈ partition.pairs, (pair.1, ofValueText (valueText pair.2)) = pair :=
    fun pair member => Prod.ext rfl (ofValueText_valueText (unmarked pair member))
  rw [ofTexts, texts, List.map_map]
  exact congrArg Partition.mk ((List.map_congr_left each).trans (List.map_id' _))

theorem map_ofTexts_texts {partitions : List Partition}
    (unmarked : ∀ partition ∈ partitions, partition.Unmarked) :
    (partitions.map texts).map ofTexts = partitions := by
  have each : ∀ partition ∈ partitions, ofTexts partition.texts = partition :=
    fun partition member => ofTexts_texts (unmarked partition member)
  rw [List.map_map]
  exact (List.map_congr_left each).trans (List.map_id' _)

end Partition

namespace Sql

open Token

variable {partition : Partition} {partitions others : List Partition}
  {pair : String × Option String} {row : String → Option String}

theorem cuts_condition (word : IsWord pair.1.toList) :
    Cuts (Partition.condition pair) (Condition.pairTokens pair) := by
  intro complete tail apart
  obtain ⟨column, value⟩ := pair
  have blank : ∀ rest, Apart (' ' :: rest) := fun _ => apart_cons (by decide) rfl
  cases value with
  | none =>
      have shape : (Partition.condition (column, none)).toList ++ tail =
          column.toList ++ ' ' :: ("IS".toList ++ ' ' :: ("NULL".toList ++ tail)) := by
        simp [Partition.condition]
      rw [shape, listFrom_word word (blank _), listFrom_blank, listFrom_word (by decide) (blank _),
        listFrom_blank, listFrom_word (by decide) apart]
      simp [Condition.pairTokens, Condition.ofPair, Condition.tokens]
  | some value =>
      have shape : (Partition.condition (column, some value)).toList ++ tail =
          "CAST".toList ++ '(' :: (column.toList ++ ' ' :: ("AS".toList ++ ' ' ::
            ("varchar".toList ++ ')' :: ' ' :: '=' :: ' ' ::
              ((literal value).toList ++ tail)))) := by
        simp [Partition.condition]
      rw [shape, listFrom_word (by decide) (apart_cons (by decide) rfl), listFrom_mark (by decide),
        listFrom_word word (blank _), listFrom_blank, listFrom_word (by decide) (blank _),
        listFrom_blank, listFrom_word (by decide) (apart_cons (by decide) rfl),
        listFrom_mark (by decide), listFrom_blank, listFrom_mark (by decide), listFrom_blank,
        listFrom_literal value apart]
      simp [Condition.pairTokens, Condition.ofPair, Condition.tokens]

def textTokens (part : String × String) : List Token :=
  [.word part.1, .mark '=', .text part.2]

theorem cuts_text {column text : String} (word : IsWord column.toList) :
    Cuts (column ++ "=" ++ literal text) (textTokens (column, text)) := by
  intro complete tail apart
  have shape : (column ++ "=" ++ literal text).toList ++ tail =
      column.toList ++ '=' :: ((literal text).toList ++ tail) := by
    simp
  rw [shape, listFrom_word word (apart_cons (by decide) rfl), listFrom_mark (by decide),
    listFrom_literal text apart]
  simp [textTokens]

theorem separates_word {separator name : String} (word : IsWord name.toList)
    (shape : separator.toList = ' ' :: (name.toList ++ [' '])) :
    Separates separator [.word name] where
  cuts complete tail := by
    rw [shape, List.cons_append, List.append_assoc, List.singleton_append, listFrom_blank,
      listFrom_word word (apart_cons (by decide) rfl), listFrom_blank]
  apart tail := by
    rw [shape]
    exact apart_cons (by decide) rfl

theorem separates_and : Separates " AND " [.word "AND"] := separates_word (by decide) rfl

theorem separates_or : Separates " OR " [.word "OR"] := separates_word (by decide) rfl

theorem separates_comma : Separates ", " [.mark ','] where
  cuts complete tail := by
    change listFrom complete .nothing (',' :: ' ' :: tail) = _
    rw [listFrom_mark (by decide), listFrom_blank]
  apart tail := apart_cons (by decide) rfl

theorem Cuts.group {text : String} {tokens : List Token} (cuts : Cuts text tokens) :
    Cuts ("(" ++ text ++ ")") (.mark '(' :: tokens ++ [.mark ')']) := by
  intro complete tail _
  have shape : ("(" ++ text ++ ")").toList ++ tail = '(' :: (text.toList ++ ')' :: tail) := by simp
  rw [shape, listFrom_mark (by decide), cuts _ _ (apart_cons (by decide) rfl),
    listFrom_mark (by decide)]
  simp

theorem cuts_predicate (plain : partition.Plain) :
    Cuts ("(" ++ partition.predicate ++ ")") (Condition.groupTokens partition.pairs) := by
  have filled : partition.pairs.isEmpty = false := List.isEmpty_eq_false_iff.mpr plain.filled
  rw [Partition.predicate, filled, if_neg Bool.false_ne_true]
  exact Cuts.group (separates_and.join fun pair member => cuts_condition (plain.words pair member))

def specTokens (texts : List (String × String)) : List Token :=
  .word "PARTITION" :: .mark '(' :: [.mark ','].intercalate (texts.map textTokens) ++ [.mark ')']

theorem cuts_spec (plain : partition.Plain) :
    Cuts ("PARTITION " ++ partition.spec) (specTokens partition.texts) := by
  have each : ∀ pair ∈ partition.pairs, Cuts (pair.1 ++ "=" ++ literal (Partition.valueText pair.2))
      (textTokens (pair.1, Partition.valueText pair.2)) :=
    fun pair member => cuts_text (plain.words pair member)
  have inside := Cuts.group (separates_comma.join each)
  intro complete tail apart
  have spec : partition.spec = "(" ++ ", ".intercalate (partition.pairs.map fun pair =>
      pair.1 ++ "=" ++ literal (Partition.valueText pair.2)) ++ ")" := rfl
  have shape : ("PARTITION " ++ partition.spec).toList ++ tail =
      "PARTITION".toList ++ ' ' :: (partition.spec.toList ++ tail) := by
    simp
  have tokens : partition.texts.map textTokens =
      partition.pairs.map fun pair => textTokens (pair.1, Partition.valueText pair.2) := by
    rw [Partition.texts, List.map_map]
    rfl
  rw [shape, listFrom_word (by decide) (apart_cons (by decide) rfl), listFrom_blank, spec,
    inside _ _ apart, specTokens, tokens]
  simp

variable {complete : List (List (String × String))} {texts : List (String × String)}
  {rest : List Token}

def readSpecs (complete : List (List (String × String))) :
    Option (List (String × String)) → List Token → Option (List (List (String × String)))
  | none, .word "PARTITION" :: .mark '(' :: rest => readSpecs complete (some []) rest
  | some read, .word column :: .mark '=' :: .text value :: .mark ',' :: rest =>
      readSpecs complete (some (read ++ [(column, value)])) rest
  | some read, .word column :: .mark '=' :: .text value :: .mark ')' :: .mark ',' :: rest =>
      readSpecs (complete ++ [read ++ [(column, value)]]) none rest
  | some read, [.word column, .mark '=', .text value, .mark ')'] =>
      some (complete ++ [read ++ [(column, value)]])
  | _, _ => none

theorem readSpecs_texts {read : List (String × String)} (filled : texts ≠ []) :
    readSpecs complete (some read)
        ([.mark ','].intercalate (texts.map textTokens) ++ .mark ')' :: .mark ',' :: rest) =
      readSpecs (complete ++ [read ++ texts]) none rest ∧
    readSpecs complete (some read) ([.mark ','].intercalate (texts.map textTokens) ++ [.mark ')']) =
      some (complete ++ [read ++ texts]) := by
  induction texts generalizing read with
  | nil => exact absurd rfl filled
  | cons part texts ih =>
      cases texts with
      | nil =>
          rw [List.map_cons, List.map_nil, List.intercalate_singleton]
          constructor
          · rw [textTokens, List.cons_append, List.cons_append, List.cons_append, List.nil_append,
              readSpecs]
          · rw [textTokens, List.cons_append, List.cons_append, List.cons_append, List.nil_append,
              readSpecs]
      | cons next texts =>
          have later := @ih (read ++ [part]) (List.cons_ne_nil next texts)
          rw [List.append_assoc, List.singleton_append] at later
          rw [List.map_cons, List.map_cons, List.intercalate_cons_cons, ← List.map_cons]
          exact later

theorem specTokens_append : specTokens texts ++ rest =
    .word "PARTITION" :: .mark '(' ::
      ([.mark ','].intercalate (texts.map textTokens) ++ .mark ')' :: rest) := by
  simp [specTokens]

theorem readSpecs_list {lists : List (List (String × String))} (nonempty : lists ≠ [])
    (filled : ∀ texts ∈ lists, texts ≠ []) :
    readSpecs complete none ([.mark ','].intercalate (lists.map specTokens)) =
      some (complete ++ lists) := by
  induction lists generalizing complete with
  | nil => exact absurd rfl nonempty
  | cons texts lists ih =>
      have some := filled texts List.mem_cons_self
      cases lists with
      | nil =>
          have last := (@readSpecs_texts complete texts [] [] some).2
          rw [List.map_cons, List.map_nil, List.intercalate_singleton, ← List.append_nil
            (specTokens texts), specTokens_append, readSpecs, last]
          rfl
      | cons next lists =>
          have later := @ih (complete ++ [texts]) (List.cons_ne_nil next lists) fun other member =>
            filled other (List.mem_cons_of_mem texts member)
          rw [List.append_assoc] at later
          rw [List.map_cons, List.map_cons, List.intercalate_cons_cons, ← List.map_cons,
            List.append_assoc, specTokens_append, readSpecs, List.singleton_append,
            (readSpecs_texts some).1]
          exact later

def readFiles? (r : Relation) (statement : String) : Option Condition := do
  let rest ← (filesStem ++ r.display ++ " WHERE ").toList.isPrefixOf? statement.toList
  Condition.ofTokens? (← Token.ofText? rest)

def readDropped? (r : Relation) (statement : String) : Option (List (List (String × String))) := do
  let rest ← ("ALTER TABLE " ++ r.ddlName ++ " DROP IF EXISTS ").toList.isPrefixOf? statement.toList
  readSpecs [] none (← Token.ofText? rest)

theorem readFiles?_filePaths (r : Relation) (nonempty : partitions ≠ [])
    (plain : ∀ partition ∈ partitions, partition.Plain) :
    ∃ condition, readFiles? r (filePaths r partitions) = some condition ∧
      condition.alternatives.map Condition.factors =
        partitions.map fun partition => partition.pairs.map Condition.ofPair := by
  have cuts := separates_or.join fun partition member => cuts_predicate (plain partition member)
  have filled : ∀ pairs ∈ partitions.map Partition.pairs, pairs ≠ [] := by
    intro pairs listed
    obtain ⟨partition, member, rfl⟩ := List.mem_map.mp listed
    exact (plain partition member).filled
  obtain ⟨condition, split, read⟩ := @Condition.readFrom_groups none
    (partitions.map Partition.pairs) (by simpa using nonempty) filled
  have tokens : (partitions.map Partition.pairs).map Condition.groupTokens =
      partitions.map fun partition => Condition.groupTokens partition.pairs := by
    rw [List.map_map]
    rfl
  rw [tokens] at read
  refine ⟨condition, ?_, ?_⟩
  · have shape : (filePaths r partitions).toList = (filesStem ++ r.display ++ " WHERE ").toList ++
        (" OR ".intercalate (partitions.map fun p => "(" ++ p.predicate ++ ")")).toList := by
      have filled : partitions.isEmpty = false := List.isEmpty_eq_false_iff.mpr nonempty
      rw [filePaths_eq, filled, if_neg Bool.false_ne_true, ← String.append_assoc,
        String.toList_append]
    rw [readFiles?, shape, isPrefixOf?_append]
    simp only [Option.bind_eq_bind, Option.bind_some]
    rw [cuts.ofText?]
    exact read
  · rw [split, List.map_map]
    rfl

theorem readDropped?_dropPartitions (r : Relation) (nonempty : partitions ≠ [])
    (plain : ∀ partition ∈ partitions, partition.Plain) :
    readDropped? r (dropPartitions r partitions) = some (partitions.map Partition.texts) := by
  have cuts := separates_comma.join fun partition member => cuts_spec (plain partition member)
  have filled : ∀ texts ∈ partitions.map Partition.texts, texts ≠ [] := by
    intro texts listed
    obtain ⟨partition, member, rfl⟩ := List.mem_map.mp listed
    simpa [Partition.texts] using (plain partition member).filled
  have read := @readSpecs_list [] (partitions.map Partition.texts) (by simpa using nonempty) filled
  rw [List.map_map] at read
  have shape : (dropPartitions r partitions).toList =
      ("ALTER TABLE " ++ r.ddlName ++ " DROP IF EXISTS ").toList ++
        (", ".intercalate (partitions.map fun p => "PARTITION " ++ p.spec)).toList :=
    String.toList_append
  rw [readDropped?, shape, isPrefixOf?_append]
  simp only [Option.bind_eq_bind, Option.bind_some]
  rw [cuts.ofText?]
  exact read

theorem holds_iff_hasRow {condition : Condition}
    (split : condition.alternatives.map Condition.factors =
      partitions.map fun partition => partition.pairs.map Condition.ofPair) :
    condition.Holds row ↔ ∃ partition ∈ partitions, partition.HasRow row := by
  calc condition.Holds row
    _ ↔ ∃ alternative ∈ condition.alternatives,
        ∀ factor ∈ alternative.factors, factor.Holds row := by
      rw [Condition.holds_iff_alternatives]
      exact exists_congr fun alternative => and_congr_right' Condition.holds_iff_factors
    _ ↔ ∃ factors ∈ condition.alternatives.map Condition.factors,
        ∀ factor ∈ factors, factor.Holds row := by
      simp only [List.mem_map, exists_exists_and_eq_and]
    _ ↔ ∃ partition ∈ partitions, partition.HasRow row := by
      simp only [split, List.mem_map, exists_exists_and_eq_and, forall_exists_index, and_imp,
        forall_apply_eq_imp_iff₂, Condition.holds_ofPair, Partition.HasRow]

theorem eq_of_filePaths {r : Relation} (nonempty : partitions ≠ []) (nonempty' : others ≠ [])
    (plain : ∀ partition ∈ partitions, partition.Plain)
    (plain' : ∀ partition ∈ others, partition.Plain)
    (same : filePaths r partitions = filePaths r others) : partitions = others := by
  obtain ⟨condition, read, split⟩ := readFiles?_filePaths r nonempty plain
  obtain ⟨condition', read', split'⟩ := readFiles?_filePaths r nonempty' plain'
  -- One condition is read from one text, and its parts are the pairs of either list.
  rw [same] at read
  cases read.symm.trans read'
  refine (List.map_inj_right ?_).mp (split.symm.trans split')
  intro first second pairs
  exact congrArg Partition.mk ((List.map_inj_right Condition.ofPair_injective).mp pairs)

theorem eq_of_dropPartitions {r : Relation} (nonempty : partitions ≠ []) (nonempty' : others ≠ [])
    (plain : ∀ partition ∈ partitions, partition.Plain)
    (plain' : ∀ partition ∈ others, partition.Plain)
    (unmarked : ∀ partition ∈ partitions, partition.Unmarked)
    (unmarked' : ∀ partition ∈ others, partition.Unmarked)
    (same : dropPartitions r partitions = dropPartitions r others) : partitions = others := by
  have read := readDropped?_dropPartitions r nonempty plain
  rw [same, readDropped?_dropPartitions r nonempty' plain'] at read
  rw [← Partition.map_ofTexts_texts unmarked, ← Option.some.inj read,
    Partition.map_ofTexts_texts unmarked']

/-- Whatever the values hold, the files that are listed are those of the rows of the partitions, the
partitions that are dropped are the same ones, and each statement tells which were meant. -/
theorem lists_and_drops_alike (r : Relation) {partitions : List Partition}
    (nonempty : partitions ≠ []) (plain : ∀ partition ∈ partitions, partition.Plain) :
    (∃ condition dropped,
      readFiles? r (filePaths r partitions) = some condition ∧
      condition.alternatives.map Condition.factors =
        partitions.map (fun partition => partition.pairs.map Condition.ofPair) ∧
      readDropped? r (dropPartitions r partitions) = some dropped ∧
      dropped = partitions.map Partition.texts ∧
      (∀ row, condition.Holds row ↔ ∃ partition ∈ partitions, partition.HasRow row) ∧
      ((∀ partition ∈ partitions, partition.Unmarked) → ∀ row,
        condition.Holds row ↔ ∃ texts ∈ dropped, (Partition.ofTexts texts).HasRow row)) ∧
    ∀ others : List Partition, others ≠ [] → (∀ partition ∈ others, partition.Plain) →
      (filePaths r partitions = filePaths r others → partitions = others) ∧
      ((∀ partition ∈ partitions, partition.Unmarked) →
        (∀ partition ∈ others, partition.Unmarked) →
        dropPartitions r partitions = dropPartitions r others → partitions = others) := by
  constructor
  · obtain ⟨condition, read, split⟩ := readFiles?_filePaths r nonempty plain
    have listed := fun row => (holds_iff_hasRow split : condition.Holds row ↔ _)
    have dropped := readDropped?_dropPartitions r nonempty plain
    refine ⟨condition, _, read, split, dropped, rfl, listed, ?_⟩
    intro unmarked row
    have same : (∃ partition ∈ (partitions.map Partition.texts).map Partition.ofTexts,
        partition.HasRow row) ↔ ∃ texts ∈ partitions.map Partition.texts,
          (Partition.ofTexts texts).HasRow row := by
      simp only [List.mem_map, exists_exists_and_eq_and]
    rw [listed row, ← same, Partition.map_ofTexts_texts unmarked]
  · intro others nonempty' plain'
    exact ⟨eq_of_filePaths nonempty nonempty' plain plain',
      eq_of_dropPartitions nonempty nonempty' plain plain'⟩

def quotedPartitions : List Partition :=
  [⟨[("day", some "') OR ('a'='a"), ("region", none)]⟩,
    ⟨[("day", some "1'), PARTITION (day='2"), ("region", some "NULL")]⟩]

theorem lists_and_drops_quoted :
    (∃ condition,
      readFiles? ⟨"c", "s", "t"⟩ (filePaths ⟨"c", "s", "t"⟩ quotedPartitions) = some condition ∧
      condition.alternatives.map Condition.factors =
        [[.equals "day" "') OR ('a'='a", .isNull "region"],
          [.equals "day" "1'), PARTITION (day='2", .equals "region" "NULL"]] ∧
      ¬ condition.Holds fun _ => some "a") ∧
    readDropped? ⟨"c", "s", "t"⟩ (dropPartitions ⟨"c", "s", "t"⟩ quotedPartitions) =
      some [[("day", "') OR ('a'='a"), ("region", "__HIVE_DEFAULT_PARTITION__")],
        [("day", "1'), PARTITION (day='2"), ("region", "NULL")]] ∧
    filePaths ⟨"c", "s", "t"⟩ quotedPartitions ≠ filePaths ⟨"c", "s", "t"⟩ [⟨[("day", none)]⟩] ∧
    dropPartitions ⟨"c", "s", "t"⟩ quotedPartitions ≠
      dropPartitions ⟨"c", "s", "t"⟩ [⟨[("day", none)]⟩] := by
  obtain ⟨⟨condition, dropped, files, split, drops, rfl, rows, _⟩, unique⟩ :=
    lists_and_drops_alike ⟨"c", "s", "t"⟩ (by decide : quotedPartitions ≠ []) (by decide)
  obtain ⟨listed, told⟩ := unique [⟨[("day", none)]⟩] (by decide) (by decide)
  refine ⟨⟨condition, files, split, ?_⟩, drops, fun same => ?_, fun same => ?_⟩
  · rw [rows]
    decide
  · exact absurd (listed same) (by decide)
  · exact absurd (told (by decide) (by decide) same) (by decide)

end Sql
end AthenaModels
