import AthenaModels.Partition.Path
import AthenaModels.Proofs.Text.Splitting

namespace AthenaModels

namespace PathName

/-- The bytes of a name: an escape is one byte, any other character those that encode it. -/
def bytes? : List Char → Option (List UInt8)
  | [] => some []
  | '%' :: high :: low :: rest => do
      let byte ← Numeral.natural? 16 [high, low]
      some (UInt8.ofNat byte :: (← bytes? rest))
  | c :: rest => if c = '%' then none else (bytes? rest).map (String.utf8EncodeChar c ++ ·)

def unescape? (name : String) : Option String := do
  String.fromUTF8? (← bytes? name.toList).toByteArray

/-- Controls, and the characters with a meaning in paths or in patterns for them. -/
def Reserved (c : Char) : Prop :=
  c.toNat < 32 ∨ (127 ≤ c.toNat ∧ c.toNat < 160) ∨
    c ∈ ['\x22', '#', '%', '\x27', '*', '/', ':', '=', '?', '\x5c', '{', '[', ']', '^']

instance (c : Char) : Decidable (Reserved c) := inferInstanceAs (Decidable (_ ∨ _ ∨ _))

def isUpperHex (c : Char) : Bool := ('0' ≤ c && c ≤ '9') || ('A' ≤ c && c ≤ 'F')

/-- No reserved character stands in the text but the percent sign of an escape. -/
inductive Escaped : List Char → Prop
  | nil : Escaped []
  | plain {c : Char} {rest : List Char} (free : ¬Reserved c) (more : Escaped rest) :
      Escaped (c :: rest)
  | escape {high low : Char} {rest : List Char} (first : isUpperHex high = true)
      (second : isUpperHex low = true) (more : Escaped rest) : Escaped ('%' :: high :: low :: rest)

theorem isEscaped_iff {c : Char} : isEscaped c = true ↔ Reserved c := by
  simp [isEscaped, Reserved, Text.isControl, or_assoc]

theorem not_reserved_of_isUpperHex {c : Char} (digit : isUpperHex c = true) : ¬Reserved c := by
  have others : (['\x22', '#', '%', '\x27', '*', '/', ':', '=', '?', '\x5c', '{', '[', ']', '^'].all
      fun c => !isUpperHex c) = true := by decide
  have bounds : 48 ≤ c.toNat ∧ c.toNat ≤ 70 := by
    simp only [isUpperHex, Bool.or_eq_true, Bool.and_eq_true, decide_eq_true_eq, Char.le_def,
      UInt32.le_iff_toNat_le] at digit
    change (48 ≤ c.toNat ∧ c.toNat ≤ 57) ∨ (65 ≤ c.toNat ∧ c.toNat ≤ 70) at digit
    omega
  rintro (low | high | other)
  · omega
  · omega
  · have free := List.all_eq_true.mp others c other
    simp [digit] at free

/-- A text with nothing reserved but its escapes does not hold a separator. -/
theorem Escaped.not_mem {text : List Char} (escaped : Escaped text) {c : Char} (held : Reserved c)
    (other : c ≠ '%') : c ∉ text := by
  have ne_digit : ∀ {digit}, isUpperHex digit = true → c ≠ digit := by
    rintro digit valid rfl
    exact not_reserved_of_isUpperHex valid held
  induction escaped with
  | nil => exact List.not_mem_nil
  | plain free more ih =>
      rw [List.mem_cons, not_or]
      refine ⟨?_, ih⟩
      rintro rfl
      exact free held
  | escape first second more ih => simp [other, ne_digit first, ne_digit second, ih]

def escapeByte (byte : UInt8) : List Char := '%' :: Numeral.upperHex 2 byte.toNat

def spell (c : Char) : List Char := if isEscaped c then escapeChar c else [c]

theorem toList_escape (name : String) : (escape name).toList = name.toList.flatMap spell := by
  rw [escape, String.toList_ofList]
  rfl

def isSpelled (n : Nat) : List Char → Bool
  | [high, low] => isUpperHex high && isUpperHex low && Numeral.natural? 16 [high, low] == some n
  | _ => false

theorem escapeByte_eq (byte : UInt8) : ∃ high low, escapeByte byte = ['%', high, low] ∧
    isUpperHex high = true ∧ isUpperHex low = true ∧
    Numeral.natural? 16 [high, low] = some byte.toNat := by
  have all : ∀ n : Fin 256, isSpelled n (Numeral.upperHex 2 n) = true := by decide +kernel
  have here := all ⟨byte.toNat, byte.toNat_lt⟩
  generalize digits : Numeral.upperHex 2 byte.toNat = shown at here
  unfold isSpelled at here
  split at here
  · next high low =>
      simp only [Bool.and_eq_true, beq_iff_eq] at here
      exact ⟨high, low, by rw [escapeByte, digits], here.1.1, here.1.2, here.2⟩
  · cases here

theorem escaped_bytes (bytes : List UInt8) {rest : List Char} (more : Escaped rest) :
    Escaped (bytes.flatMap escapeByte ++ rest) := by
  induction bytes with
  | nil => exact more
  | cons byte bytes ih =>
      obtain ⟨high, low, shape, first, second, _⟩ := escapeByte_eq byte
      rw [List.flatMap_cons, shape]
      exact .escape first second ih

theorem escaped_spell (text : List Char) : Escaped (text.flatMap spell) := by
  induction text with
  | nil => exact .nil
  | cons c text ih =>
      rw [List.flatMap_cons, spell]
      split
      · exact escaped_bytes (String.utf8EncodeChar c) ih
      · next free => exact .plain (mt isEscaped_iff.mpr free) ih

theorem escaped_escape (name : String) : Escaped (escape name).toList :=
  toList_escape name ▸ escaped_spell name.toList

theorem bytes?_plain {c : Char} (other : c ≠ '%') (rest : List Char) :
    bytes? (c :: rest) = (bytes? rest).map (String.utf8EncodeChar c ++ ·) := by
  rw [bytes?, if_neg other]
  exact fun _ _ _ same => absurd same other

theorem bytes?_escapes (bytes : List UInt8) (rest : List Char) :
    bytes? (bytes.flatMap escapeByte ++ rest) = (bytes? rest).map (bytes ++ ·) := by
  induction bytes with
  | nil => simp
  | cons byte bytes ih =>
      obtain ⟨high, low, shape, _, _, value⟩ := escapeByte_eq byte
      rw [List.flatMap_cons, shape]
      simp only [List.cons_append, List.nil_append]
      rw [bytes?, value, ih]
      cases bytes? rest with
      | none => rfl
      | some => simp

theorem bytes?_spell (text : List Char) :
    bytes? (text.flatMap spell) = some (text.flatMap String.utf8EncodeChar) := by
  induction text with
  | nil => rfl
  | cons c text ih =>
      rw [List.flatMap_cons, List.flatMap_cons, spell]
      split
      · rw [escapeChar]
        exact (bytes?_escapes (String.utf8EncodeChar c) _).trans (by rw [ih]; rfl)
      · next free =>
          have other : c ≠ '%' := by
            rintro rfl
            exact free (by decide)
          rw [List.singleton_append, bytes?_plain other, ih]
          rfl

theorem unescape_escape (name : String) : unescape? (escape name) = some name := by
  have valid : name.toList.utf8Encode = name.toByteArray := String.utf8Encode_toList
  rw [unescape?, toList_escape, bytes?_spell]
  change String.fromUTF8? name.toList.utf8Encode = some name
  rw [valid, String.fromUTF8?, dif_pos name.isValidUTF8]
  rfl

end PathName

namespace Partition

open PathName

/-- The directories of a path, of which the empty text has none. -/
def directories (path : String) : List String :=
  if path = "" then [] else Text.split '/' path

def readDirectory? (directory : String) : Option (String × String) :=
  match Text.split '=' directory with
  | [column, value] => do some (← unescape? column, ← unescape? value)
  | _ => none

def readPath? (path : String) : Option (List (String × String)) :=
  (directories path).mapM readDirectory?

/-- The columns and the texts of their values, as paths and data definitions have them. -/
def texts (partition : Partition) : List (String × String) :=
  partition.pairs.map fun (column, value) => (column, valueText value)

def directory : String × String → String
  | (column, value) => escape column ++ "=" ++ escape value

theorem path_eq (p : Partition) : p.path = "/".intercalate (p.texts.map directory) := by
  rw [path, texts, List.map_map]
  rfl

theorem split_directory (column value : String) :
    Text.split '=' (directory (column, value)) = [escape column, escape value] := by
  have apart : ∀ name : String, '=' ∉ (escape name).toList := fun name =>
    (escaped_escape name).not_mem (by decide) (by decide)
  have joined : directory (column, value) = "=".intercalate [escape column, escape value] := rfl
  rw [joined]
  exact Text.split_intercalate (by simp [apart]) (List.cons_ne_nil _ _)

theorem slash_not_mem_directory (pair : String × String) : '/' ∉ (directory pair).toList := by
  have apart : ∀ name : String, '/' ∉ (escape name).toList := fun name =>
    (escaped_escape name).not_mem (by decide) (by decide)
  simp [directory, apart]

theorem directories_path (p : Partition) : directories p.path = p.texts.map directory := by
  have apart : ∀ part ∈ p.texts.map directory, '/' ∉ part.toList := by
    intro part member
    obtain ⟨pair, _, rfl⟩ := List.mem_map.mp member
    exact slash_not_mem_directory pair
  rw [path_eq, directories]
  cases pairs : p.texts with
  | nil => rfl
  | cons pair rest =>
      rw [pairs] at apart
      have whole := Text.split_intercalate apart (List.cons_ne_nil _ _)
      rw [if_neg]
      · exact whole
      -- A directory is never empty, for it holds at least the sign between its halves.
      · intro empty
        have alone : [""] = directory pair :: rest.map directory :=
          (congrArg (Text.split '/') empty).symm.trans whole
        have none := congrArg String.toList (List.cons.inj alone).1
        simp [directory] at none

theorem readDirectory_directory (pair : String × String) :
    readDirectory? (directory pair) = some pair := by
  obtain ⟨column, value⟩ := pair
  rw [readDirectory?, split_directory]
  simp [unescape_escape]

theorem readPath_path (p : Partition) : readPath? p.path = some p.texts := by
  have each : readDirectory? ∘ directory = pure := by
    funext pair
    rw [Function.comp_apply, readDirectory_directory]
    rfl
  rw [readPath?, directories_path, List.mapM_map, each, List.mapM_pure]
  simp

theorem escaped_halves {p : Partition} {part half : String} (member : part ∈ directories p.path)
    (inside : half ∈ Text.split '=' part) : Escaped half.toList := by
  rw [directories_path] at member
  obtain ⟨⟨column, value⟩, _, rfl⟩ := List.mem_map.mp member
  rw [split_directory] at inside
  simp only [List.mem_cons, List.not_mem_nil, or_false] at inside
  rcases inside with rfl | rfl
  · exact escaped_escape column
  · exact escaped_escape value

/-- A path says which partition it is of, but for the marker's text, which also stands for a missing
value. -/
theorem path_reads_back :
    (∀ p : Partition, readPath? p.path = some p.texts) ∧
    (∀ p : Partition, ∀ part ∈ directories p.path, ∀ half ∈ Text.split '=' part,
      Escaped half.toList) ∧
    ∀ p q : Partition, p.path = q.path ↔ p.texts = q.texts := by
  refine ⟨readPath_path, fun _ _ member _ => escaped_halves member, fun p q => ⟨?_, ?_⟩⟩
  · intro same
    have read : some p.texts = some q.texts := by rw [← readPath_path p, ← readPath_path q, same]
    exact Option.some.inj read
  · intro same
    rw [path_eq, path_eq, same]

def oddPartition : Partition :=
  ⟨[("at", some "10:00"), ("a/b=c", none), ("é", some "5%\u0085")]⟩

theorem path_reads_back_odd :
    oddPartition.path = "at=10%3A00/a%2Fb%3Dc=__HIVE_DEFAULT_PARTITION__/é=5%25%C2%85" ∧
    readPath? oddPartition.path =
      some [("at", "10:00"), ("a/b=c", "__HIVE_DEFAULT_PARTITION__"), ("é", "5%\u0085")] ∧
    Escaped "5%25%C2%85".toList := by
  have member : "é=5%25%C2%85" ∈ directories oddPartition.path := by decide +kernel
  have inside : "5%25%C2%85" ∈ Text.split '=' "é=5%25%C2%85" := by decide +kernel
  exact ⟨by decide +kernel, path_reads_back.1 oddPartition,
    path_reads_back.2.1 oddPartition _ member _ inside⟩

end Partition
end AthenaModels
