import AthenaModels.Table.Creation
import AthenaModels.Proofs.Text.Trimming

namespace AthenaModels.TableConfig

variable {t : TableConfig} {relation : Relation} {sql location text : String} {error : ConfigError}

structure Sound (t : TableConfig) : Prop where
  buckets : t.bucketCount = none ↔ t.bucketedBy = []
  positive : t.bucketCount ≠ some 0
  apart : ∀ column ∈ t.bucketedBy, column ∉ t.partitionedBy
  delimited : t.delimiter ≠ none → t.format = .textFile
  inside : ∀ place, t.location = some place → Text.startsWith "s3://" place = true

theorem checkBuckets_iff : t.checkBuckets = .ok () ↔
    (t.bucketCount = none ↔ t.bucketedBy = []) ∧ t.bucketCount ≠ some 0 := by
  rw [checkBuckets]
  cases t.bucketedBy with
  | nil => cases t.bucketCount <;> simp
  | cons column columns =>
      match t.bucketCount with
      | none => simp
      | some 0 => simp
      | some (count + 1) => simp

theorem checkColumns_iff :
    t.checkColumns = .ok () ↔ ∀ column ∈ t.bucketedBy, column ∉ t.partitionedBy := by
  rw [checkColumns]
  split
  · next column found =>
      have both := List.find?_some found
      refine ⟨nofun, fun apart => absurd (List.contains_iff_mem.mp both) ?_⟩
      exact apart column (List.mem_of_find?_eq_some found)
  · next none =>
      rw [List.find?_eq_none] at none
      simpa using none

theorem checkDelimiter_iff :
    t.checkDelimiter = .ok () ↔ (t.delimiter ≠ none → t.format = .textFile) := by
  rw [checkDelimiter]
  cases t.delimiter <;> simp

theorem checkLocation_iff : t.checkLocation = .ok () ↔
    ∀ place, t.location = some place → Text.startsWith "s3://" place = true := by
  rw [checkLocation]
  cases t.location <;> simp

theorem validate_iff : t.validate = .ok () ↔ t.Sound := by
  have all : t.validate = .ok () ↔ t.checkBuckets = .ok () ∧ t.checkColumns = .ok () ∧
      t.checkDelimiter = .ok () ∧ t.checkLocation = .ok () := by
    rw [validate]
    cases t.checkBuckets <;> cases t.checkColumns <;> cases t.checkDelimiter <;>
      cases t.checkLocation <;> simp [bind, Except.bind]
  rw [all, checkBuckets_iff, checkColumns_iff, checkDelimiter_iff, checkLocation_iff]
  constructor
  · rintro ⟨⟨buckets, positive⟩, apart, delimited, inside⟩
    exact ⟨buckets, positive, apart, delimited, inside⟩
  · rintro ⟨buckets, positive, apart, delimited, inside⟩
    exact ⟨⟨buckets, positive⟩, apart, delimited, inside⟩

/-- A query as it was written, and in it the query itself, before semicolons, between blanks. -/
structure Trims (sql front query marks back : List Char) : Prop where
  whole : sql = front ++ (query ++ marks) ++ back
  blank : ∀ c ∈ front ++ back, Text.isBlank c = true
  marked : ∀ c ∈ marks, c = ';'
  first : ∀ c, (query ++ marks).head? = some c → Text.isBlank c = false
  last : ∀ c, (query ++ marks).getLast? = some c → Text.isBlank c = false
  unmarked : query.getLast? ≠ some ';'

theorem toList_body (sql : String) :
    (body sql).toList = (Text.trim sql).toList.rdropWhile (· == ';') :=
  String.toList_ofList

theorem body_trims (sql : String) :
    ∃ front marks back, Trims sql.toList front (body sql).toList marks back := by
  let inner := sql.toList.dropWhile Text.isBlank
  let trimmed := inner.rdropWhile Text.isBlank
  have split : trimmed ++ inner.rtakeWhile Text.isBlank = inner :=
    List.rdropWhile_append_rtakeWhile
  have divided : trimmed.rdropWhile (· == ';') ++ trimmed.rtakeWhile (· == ';') = trimmed :=
    List.rdropWhile_append_rtakeWhile
  refine ⟨sql.toList.takeWhile Text.isBlank, trimmed.rtakeWhile (· == ';'),
    inner.rtakeWhile Text.isBlank, ?_⟩
  rw [toList_body, Text.toList_trim]
  refine ⟨?_, ?_, ?_, ?_, ?_, ?_⟩
  · rw [divided, List.append_assoc, split, List.takeWhile_append_dropWhile]
  · intro c member
    rcases List.mem_append.mp member with before | after
    · exact List.mem_takeWhile_imp before
    · exact List.mem_rtakeWhile_imp after
  · intro c member
    have marked := List.mem_rtakeWhile_imp member
    exact eq_of_beq marked
  · intro c head
    rw [divided] at head
    have start := List.head?_dropWhile_not Text.isBlank sql.toList
    have same : inner.head? = some c := by
      rw [← split, List.head?_append, head]
      rfl
    rw [show (sql.toList.dropWhile Text.isBlank).head? = some c from same] at start
    exact start
  · intro c last
    rw [divided] at last
    exact Text.getLast?_rdropWhile last
  · intro last
    cases Text.getLast?_rdropWhile last

theorem creation_ok_iff : t.creation relation sql location = .ok text ↔
    t.validate = .ok () ∧ "CREATE TABLE " ++ relation.display ++ "\nWITH (\n  " ++
      ",\n  ".intercalate (t.properties location) ++ "\n)\nAS\n" ++ body sql = text := by
  rw [creation]
  cases t.validate <;> simp [bind, Except.bind, pure, Except.pure]

theorem creation_error_iff :
    t.creation relation sql location = .error error ↔ t.validate = .error error := by
  rw [creation]
  cases t.validate <;> simp [bind, Except.bind, pure, Except.pure]

end AthenaModels.TableConfig
