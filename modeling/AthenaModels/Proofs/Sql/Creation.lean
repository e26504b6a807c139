import AthenaModels.Proofs.Sql.Name
import AthenaModels.Proofs.Table.Creation

namespace AthenaModels.Sql

inductive Setting where
  | text (value : String)
  | list (values : List String)
  | number (value : Nat)
deriving DecidableEq, Repr

structure Creation where
  properties : List (String × Setting)
  body : String
deriving DecidableEq, Repr

def readNumber : Reader Nat := fun text =>
  match text.takeWhile Char.isDigit with
  | [] => none
  | digits => some (Nat.ofDigitChars 10 digits 0, text.dropWhile Char.isDigit)

/-- Items, up to one that no separator follows; there are so many at most. -/
def readMany {α : Type} (separator : String) (reader : Reader α) : Nat → Reader (List α)
  | 0, _ => none
  | bound + 1, text => do
      let (item, rest) ← reader text
      match separator.toList.isPrefixOf? rest with
      | none => some ([item], rest)
      | some rest =>
          let (items, rest) ← readMany separator reader bound rest
          some (item :: items, rest)

def readArray : Reader (List String) := fun text => do
  let rest ← "ARRAY[".toList.isPrefixOf? text
  let (values, rest) ← readMany ", " readLiteral rest.length rest
  let rest ← [']'].isPrefixOf? rest
  some (values, rest)

def readSetting : Reader Setting := fun text =>
  if text.head? = some '\x27' then
    (readLiteral text).map fun (value, rest) => (.text value, rest)
  else if text.head? = some 'A' then
    (readArray text).map fun (values, rest) => (.list values, rest)
  else (readNumber text).map fun (value, rest) => (.number value, rest)

def readProperty : Reader (String × Setting) := fun text => do
  let rest ← ['='].isPrefixOf? (text.dropWhile isNameChar)
  let (setting, rest) ← readSetting rest
  some ((String.ofList (text.takeWhile isNameChar), setting), rest)

def readCreation? (r : Relation) (statement : String) : Option Creation := do
  let rest ← ("CREATE TABLE " ++ r.display ++ "\nWITH (\n  ").toList.isPrefixOf? statement.toList
  let (properties, rest) ← readMany ",\n  " readProperty rest.length rest
  let rest ← "\n)\nAS\n".toList.isPrefixOf? rest
  some ⟨properties, String.ofList rest⟩

variable {tail : List Char} {bound : Nat}

def Ended (tail : List Char) : Prop :=
  ∀ c, tail.head? = some c → c ≠ '\x27' ∧ c.isDigit = false

theorem ended_cons {c : Char} (unquoted : c ≠ '\x27') (other : c.isDigit = false) :
    Ended (c :: tail) := by
  intro d same
  cases same
  exact ⟨unquoted, other⟩

theorem Ended.readLiteral (ended : Ended tail) (text : String) :
    readLiteral ((literal text).toList ++ tail) = some (text, tail) := by
  apply readLiteral_literal
  intro same
  exact (ended _ same).1 rfl

theorem toString_digits (n : Nat) :
    (toString n).toList ≠ [] ∧ ∀ c ∈ (toString n).toList, c.isDigit = true := by
  have digits : (toString n).toList = Nat.toDigits 10 n := Nat.toList_repr
  rw [digits]
  exact ⟨Nat.toDigits_ne_nil, fun c => Nat.isDigit_of_mem_toDigits (by decide) (by decide)⟩

theorem Ended.readNumber (ended : Ended tail) (n : Nat) :
    readNumber ((toString n).toList ++ tail) = some (n, tail) := by
  obtain ⟨nonempty, all⟩ := toString_digits n
  have stops : tail.takeWhile Char.isDigit = [] ∧ tail.dropWhile Char.isDigit = tail := by
    cases tail with
    | nil => exact ⟨rfl, rfl⟩
    | cons d tail => simp [(ended d rfl).2]
  rw [Sql.readNumber, List.takeWhile_append_of_pos all, List.dropWhile_append_of_pos all,
    stops.1, stops.2, List.append_nil]
  have value : Nat.ofDigitChars 10 (toString n).toList 0 = n := by
    rw [show (toString n).toList = Nat.toDigits 10 n from Nat.toList_repr]
    exact Nat.ofDigitChars_ten_toDigits
  obtain ⟨c, rest, shape⟩ := List.exists_cons_of_ne_nil nonempty
  rw [shape] at value ⊢
  dsimp only
  rw [value]

theorem readMany_join {α : Type} {separator : String} {reader : Reader α} {render : α → String}
    {items : List α} (nonempty : items ≠ []) (enough : items.length ≤ bound)
    (read : ∀ item ∈ items, ∀ tail, Ended tail →
      reader ((render item).toList ++ tail) = some (item, tail))
    (apart : ∀ tail, Ended (separator.toList ++ tail)) (ended : Ended tail)
    (last : separator.toList.isPrefixOf? tail = none) :
    readMany separator reader bound ((separator.intercalate (items.map render)).toList ++ tail) =
      some (items, tail) := by
  induction items generalizing bound with
  | nil => exact absurd rfl nonempty
  | cons item items ih =>
      obtain ⟨bound, rfl⟩ := Nat.exists_eq_succ_of_ne_zero (Nat.ne_of_gt (Nat.lt_of_lt_of_le
        (Nat.zero_lt_succ _) enough))
      have here := read item List.mem_cons_self
      cases items with
      | nil => simp [readMany, here tail ended, last]
      | cons next items =>
          have later := ih (List.cons_ne_nil _ _) (Nat.le_of_succ_le_succ enough)
            fun other member => read other (List.mem_cons_of_mem _ member)
          rw [List.map_cons] at later
          simp [-String.toList_intercalate, readMany, here _ (apart _), isPrefixOf?_append, later]

theorem length_le_join {α : Type} {separator : String} {render : α → String} {items : List α}
    (filled : ∀ item ∈ items, (render item).toList ≠ []) :
    items.length ≤ (separator.intercalate (items.map render)).toList.length := by
  induction items with
  | nil => exact Nat.zero_le _
  | cons item items ih =>
      have here := List.length_pos_iff.mpr (filled item List.mem_cons_self)
      cases items with
      | nil =>
          rw [List.map_cons, List.map_nil, String.intercalate_singleton]
          exact here
      | cons next items =>
          have later := ih fun other member => filled other (List.mem_cons_of_mem _ member)
          simp only [List.map_cons, String.intercalate_cons_cons, String.toList_append,
            List.length_append, List.length_cons] at later ⊢
          omega

namespace Setting

def render : Setting → String
  | .text value => literal value
  | .list values => "ARRAY[" ++ TableConfig.literals values ++ "]"
  | .number value => toString value

theorem readArray_render {values : List String} (nonempty : values ≠ []) (tail : List Char) :
    readArray ((list values).render.toList ++ tail) = some (values, tail) := by
  have shape : (list values).render.toList ++ tail =
      "ARRAY[".toList ++ ((", ".intercalate (values.map literal)).toList ++ ([']'] ++ tail)) := by
    simp [render, TableConfig.literals]
  have enough := @length_le_join _ ", " literal values fun value _ => by simp [literal]
  rw [shape, readArray, isPrefixOf?_append]
  simp only [Option.bind_eq_bind, Option.bind_some]
  rw [readMany_join nonempty _ (fun value _ tail ended => ended.readLiteral value) _ _ rfl]
  · simp only [Option.bind_some, isPrefixOf?_append]
  · rw [List.length_append]
    omega
  · exact fun tail => ended_cons (by decide) (by decide)
  · exact ended_cons (by decide) (by decide)

theorem read_render {setting : Setting} (nonempty : setting ≠ .list []) (ended : Ended tail) :
    readSetting (setting.render.toList ++ tail) = some (setting, tail) := by
  cases setting with
  | text value =>
      have first : ((literal value).toList ++ tail).head? = some '\x27' := by simp [literal]
      rw [render, readSetting, if_pos first, ended.readLiteral value]
      rfl
  | list values =>
      have filled : values ≠ [] := fun none => nonempty (congrArg list none)
      have first : ((list values).render.toList ++ tail).head? = some 'A' := by simp [render]
      rw [readSetting, first, if_neg (by decide), if_pos rfl, readArray_render filled]
      rfl
  | number value =>
      obtain ⟨filled, all⟩ := toString_digits value
      obtain ⟨c, rest, shape⟩ := List.exists_cons_of_ne_nil filled
      have first : ((toString value).toList ++ tail).head? = some c := by
        rw [shape]
        rfl
      have digit : c.isDigit = true := all c (shape ▸ List.mem_cons_self)
      have unquoted : some c ≠ some '\x27' := by
        rintro ⟨rfl⟩
        cases digit
      have other : some c ≠ some 'A' := by
        rintro ⟨rfl⟩
        cases digit
      rw [render, readSetting, first, if_neg unquoted, if_neg other, ended.readNumber value]
      rfl

end Setting

def Creation.line (property : String × Setting) : String :=
  property.1 ++ "=" ++ property.2.render

theorem readProperty_line {property : String × Setting}
    (name : property.1.toList.all isNameChar = true) (nonempty : property.2 ≠ .list [])
    (ended : Ended tail) :
    readProperty ((Creation.line property).toList ++ tail) = some (property, tail) := by
  obtain ⟨name', setting⟩ := property
  have shape : (Creation.line (name', setting)).toList ++ tail =
      name'.toList ++ ('=' :: (setting.render.toList ++ tail)) := by
    simp [Creation.line]
  rw [shape, readProperty, List.takeWhile_append_of_pos (List.all_eq_true.mp name),
    List.dropWhile_append_of_pos (List.all_eq_true.mp name)]
  have mark : isNameChar '=' = false := by decide
  simp [mark, List.isPrefixOf?, Setting.read_render nonempty ended]

end AthenaModels.Sql

namespace AthenaModels.TableConfig

open Sql

variable {t : TableConfig} {location : String}

def settings (t : TableConfig) (location : String) : List (String × Setting) :=
  [("external_location", .text location), ("format", .text t.format.name)] ++
    (if t.isPartitioned then [("partitioned_by", .list t.partitionedBy)] else []) ++
    (match t.bucketCount with
      | some count => [("bucketed_by", .list t.bucketedBy), ("bucket_count", .number count)]
      | none => []) ++
    (t.compression.map fun name => ("write_compression", Setting.text name)).toList ++
    (t.delimiter.map fun mark => ("field_delimiter", Setting.text mark)).toList

theorem properties_eq (t : TableConfig) (location : String) :
    t.properties location = (t.settings location).map Creation.line := by
  have line (name : String) (values : List String) : Creation.line (name, .list values) =
      name ++ "=" ++ "ARRAY[" ++ literals values ++ "]" := by
    simp only [Creation.line, Setting.render, String.append_assoc]
  rw [properties, settings]
  simp only [List.map_append]
  congr
  · split <;> simp [line]
  · cases t.bucketCount with
    | none => rfl
    | some count =>
        rw [List.map_cons, List.map_singleton, line]
        simp [Creation.line, Setting.render]
  · cases t.compression <;> simp [Creation.line, Setting.render]
  · cases t.delimiter <;> simp [Creation.line, Setting.render]

def names : List String :=
  ["external_location", "format"] ++ ["partitioned_by"] ++ ["bucketed_by", "bucket_count"] ++
    ["write_compression"] ++ ["field_delimiter"]

theorem sublist_names (t : TableConfig) (location : String) :
    ((t.settings location).map Prod.fst).Sublist names := by
  rw [settings, names]
  simp only [List.map_append]
  refine ((((List.Sublist.refl _).append ?_).append ?_).append ?_).append ?_
  · split <;> simp
  · cases t.bucketCount <;> simp
  · cases t.compression <;> simp
  · cases t.delimiter <;> simp

/-- What has been read tells how the table lies and from which query it is filled. -/
structure Tells (t : TableConfig) (location sql : String) (creation : Creation) : Prop where
  once : (creation.properties.map Prod.fst).Nodup
  only : ∀ property ∈ creation.properties, property.1 ∈ names
  placed : ∀ s, ("external_location", s) ∈ creation.properties ↔ s = .text location
  written : ∀ s, ("format", s) ∈ creation.properties ↔ s = .text t.format.name
  partitioned : ∀ s, ("partitioned_by", s) ∈ creation.properties ↔
    t.partitionedBy ≠ [] ∧ s = .list t.partitionedBy
  bucketed : ∀ s, ("bucketed_by", s) ∈ creation.properties ↔
    t.bucketCount ≠ none ∧ s = .list t.bucketedBy
  counted : ∀ s, ("bucket_count", s) ∈ creation.properties ↔
    ∃ count, t.bucketCount = some count ∧ s = .number count
  compressed : ∀ s, ("write_compression", s) ∈ creation.properties ↔
    ∃ codec, t.compression = some codec ∧ s = .text codec
  delimited : ∀ s, ("field_delimiter", s) ∈ creation.properties ↔
    ∃ mark, t.delimiter = some mark ∧ s = .text mark
  filled : creation.body = body sql

theorem mem_settings {property : String × Setting} : property ∈ t.settings location ↔
    property = ("external_location", .text location) ∨ property = ("format", .text t.format.name) ∨
    (t.partitionedBy ≠ [] ∧ property = ("partitioned_by", .list t.partitionedBy)) ∨
    (∃ count, t.bucketCount = some count ∧
      (property = ("bucketed_by", .list t.bucketedBy) ∨
        property = ("bucket_count", .number count))) ∨
    (∃ codec, t.compression = some codec ∧ property = ("write_compression", .text codec)) ∨
    ∃ mark, t.delimiter = some mark ∧ property = ("field_delimiter", .text mark) := by
  rw [settings, isPartitioned]
  cases t.bucketCount <;> simp [or_assoc, @eq_comm _ _ property]

theorem tells_settings (t : TableConfig) (location sql : String) :
    t.Tells location sql ⟨t.settings location, body sql⟩ where
  once := (t.sublist_names location).nodup (by decide)
  only _ member := (t.sublist_names location).subset (List.mem_map_of_mem member)
  placed _ := by simp [mem_settings]
  written _ := by simp [mem_settings]
  partitioned _ := by simp [mem_settings]
  bucketed _ := by simp [mem_settings, Option.ne_none_iff_exists']
  counted _ := by simp [mem_settings]
  compressed _ := by simp [mem_settings]
  delimited _ := by simp [mem_settings]
  filled := rfl

namespace Tells

variable {t' : TableConfig} {sql sql' location' : String} {creation : Creation}

theorem eq_of_written (told : t.Tells location sql creation)
    (told' : t'.Tells location' sql' creation) : t.format = t'.format := by
  have named := Setting.text.inj ((told'.written _).mp ((told.written _).mpr rfl))
  revert named
  cases t.format <;> cases t'.format <;> simp [FileFormat.name]

theorem eq_of_option {α : Type} {first second : Option α} {wrap : α → Setting} {name : String}
    (injective : Function.Injective wrap)
    (told : ∀ s, (name, s) ∈ creation.properties ↔ ∃ a, first = some a ∧ s = wrap a)
    (told' : ∀ s, (name, s) ∈ creation.properties ↔ ∃ a, second = some a ∧ s = wrap a) :
    first = second := by
  have same (a : α) : first = some a ↔ second = some a := by
    have both := (told (wrap a)).symm.trans (told' (wrap a))
    simpa [injective.eq_iff] using both
  exact Option.ext same

/-- A statement tells no more than one thing. -/
theorem unique (told : t.Tells location sql creation) (told' : t'.Tells location' sql' creation)
    (sound : t.Sound) (sound' : t'.Sound) :
    location = location' ∧ body sql = body sql' ∧ { t' with location := t.location } = t := by
  have placed := (told'.placed _).mp ((told.placed _).mpr rfl)
  have counted : t.bucketCount = t'.bucketCount :=
    eq_of_option (fun _ _ => Setting.number.inj) told.counted told'.counted
  have partitioned : t.partitionedBy = t'.partitionedBy := by
    by_cases none : t.partitionedBy = []
    · by_contra other
      have filled : t'.partitionedBy ≠ [] := fun none' => other (none.trans none'.symm)
      exact ((told.partitioned _).mp ((told'.partitioned _).mpr ⟨filled, rfl⟩)).1 none
    · have both := (told'.partitioned _).mp ((told.partitioned _).mpr ⟨none, rfl⟩)
      exact Setting.list.inj both.2
  have bucketed : t.bucketedBy = t'.bucketedBy := by
    by_cases none : t.bucketCount = none
    · rw [sound.buckets.mp none, sound'.buckets.mp (counted ▸ none)]
    · have both := (told'.bucketed _).mp ((told.bucketed _).mpr ⟨none, rfl⟩)
      exact Setting.list.inj both.2
  have format := eq_of_written told told'
  have compression := eq_of_option (fun _ _ => Setting.text.inj) told.compressed told'.compressed
  have delimiter := eq_of_option (fun _ _ => Setting.text.inj) told.delimited told'.delimited
  refine ⟨Setting.text.inj placed, told.filled.symm.trans told'.filled, ?_⟩
  cases t
  cases t'
  simp_all

end Tells

theorem readable_settings (valid : t.Sound) :
    ∀ property ∈ t.settings location, property.2 ≠ .list [] := by
  intro property member
  rcases mem_settings.mp member with rfl | rfl | ⟨filled, rfl⟩ | ⟨count, set, rfl | rfl⟩ |
    ⟨codec, _, rfl⟩ | ⟨mark, _, rfl⟩
  case inr.inr.inl => exact fun none => filled (Setting.list.inj none)
  case inr.inr.inr.inl.inl =>
    intro none
    have unset := valid.buckets.mpr (Setting.list.inj none)
    rw [set] at unset
    cases unset
  all_goals exact nofun

theorem readCreation?_creation {r : Relation} {sql statement : String} (valid : t.Sound)
    (created : t.creation r sql location = .ok statement) :
    readCreation? r statement = some ⟨t.settings location, body sql⟩ := by
  have shape : statement.toList = ("CREATE TABLE " ++ r.display ++ "\nWITH (\n  ").toList ++
      ((",\n  ".intercalate ((t.settings location).map Creation.line)).toList ++
        ("\n)\nAS\n".toList ++ (body sql).toList)) := by
    rw [← (creation_ok_iff.mp created).2, properties_eq]
    simp only [String.toList_append, List.append_assoc]
  have named : ∀ property ∈ t.settings location, property.1.toList.all isNameChar = true := by
    intro property member
    have all : names.all (·.toList.all isNameChar) = true := by decide
    have known := (t.sublist_names location).subset (List.mem_map_of_mem member)
    exact List.all_eq_true.mp all _ known
  have filled : t.settings location ≠ [] := List.ne_nil_of_mem (mem_settings.mpr (.inl rfl))
  have enough := @length_le_join _ ",\n  " Creation.line (t.settings location) fun property _ => by
    simp [Creation.line]
  rw [readCreation?, shape, isPrefixOf?_append]
  simp only [Option.bind_eq_bind, Option.bind_some]
  rw [readMany_join filled]
  · simp only [Option.bind_some, isPrefixOf?_append, String.ofList_toList]
  · rw [List.length_append]
    omega
  · intro property member tail ended
    exact readProperty_line (named property member) (readable_settings valid property member) ended
  · exact fun tail => ended_cons (by decide) (by decide)
  · exact ended_cons (by decide) (by decide)
  · rfl

/-- There is a statement exactly when the settings are valid. It is read back whatever the texts in
it hold, so it stands for one place, one way to lie there and one query. -/
theorem creation_reads_back (t : TableConfig) (r : Relation) (sql location : String) :
    (∀ error, t.creation r sql location = .error error ↔ t.validate = .error error) ∧
    (t.validate = .ok () → t.Sound ∧
      ∃ statement creation, t.creation r sql location = .ok statement ∧
        readCreation? r statement = some creation ∧ t.Tells location sql creation ∧
        ∃ front marks back, Trims sql.toList front creation.body.toList marks back) ∧
    ∀ (t' : TableConfig) (sql' location' statement : String),
      t.creation r sql location = .ok statement → t'.creation r sql' location' = .ok statement →
        location = location' ∧ body sql = body sql' ∧ { t' with location := t.location } = t := by
  refine ⟨fun _ => creation_error_iff, ?_, ?_⟩
  · intro valid
    have sound := validate_iff.mp valid
    obtain ⟨statement, created⟩ : ∃ statement, t.creation r sql location = .ok statement :=
      ⟨_, creation_ok_iff.mpr ⟨valid, rfl⟩⟩
    have read := readCreation?_creation sound created
    exact ⟨sound, statement, _, created, read, tells_settings t location sql, body_trims sql⟩
  · intro t' sql' location' statement first second
    have sound := validate_iff.mp (creation_ok_iff.mp first).1
    have sound' := validate_iff.mp (creation_ok_iff.mp second).1
    have read := readCreation?_creation sound first
    rw [readCreation?_creation sound' second] at read
    have told := tells_settings t location sql
    rw [← Option.some.inj read] at told
    exact told.unique (tells_settings t' location' sql') sound sound'

/-- The place and the delimiter look like the rest of a statement. -/
theorem creation_reads_back_quoted :
    let t : TableConfig :=
      { default with
        partitionedBy := ["day, hour"]
        bucketedBy := ["it\x27s", "id"]
        bucketCount := some 12
        format := .textFile
        delimiter := some "\x27,\n  format=" }
    let moved : TableConfig := { t with location := some "s3://lake/elsewhere" }
    let r : Relation := ⟨"awsdatacatalog", "analytics", "events"⟩
    let location := "s3://lake/\x27\n)\nAS\n"
    ∃ statement creation, t.creation r " SELECT 1;; \n" location = .ok statement ∧
      moved.creation r "SELECT 1" location = .ok statement ∧
      readCreation? r statement = some creation ∧ creation.body = "SELECT 1" ∧
      (∀ s, ("external_location", s) ∈ creation.properties ↔ s = .text location) ∧
      (∀ s, ("bucket_count", s) ∈ creation.properties ↔ s = .number 12) ∧
      (∀ s, ("write_compression", s) ∉ creation.properties) ∧
      { moved with location := t.location } = t := by
  intro t moved r location
  obtain ⟨_, read, unique⟩ := creation_reads_back t r " SELECT 1;; \n" location
  obtain ⟨_, statement, creation, created, read, told, _⟩ := read rfl
  have trimmed : body "SELECT 1" = body " SELECT 1;; \n" := by decide
  have again : moved.creation r "SELECT 1" location = .ok statement := by
    refine creation_ok_iff.mpr ⟨rfl, ?_⟩
    rw [trimmed]
    exact (creation_ok_iff.mp created).2
  refine ⟨statement, creation, created, again, read, told.filled, told.placed, ?_, ?_, ?_⟩
  · intro s
    have counted := told.counted s
    simpa [t] using counted
  · intro s
    have compressed := told.compressed s
    simpa [t, default] using compressed
  · exact (unique moved "SELECT 1" location statement created again).2.2

end AthenaModels.TableConfig
