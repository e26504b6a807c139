import AthenaModels.Proofs.Sql.Name

/-! Statements cut into words, texts between quotes, and marks. Whatever a text holds, it is one
token. -/

namespace AthenaModels.Sql

inductive Token where
  | word (name : String)
  | text (value : String)
  | mark (c : Char)
deriving DecidableEq, Repr

namespace Token

/-- What was read of the token that is not complete. -/
inductive Reading where
  | nothing
  | word (read : List Char)
  | text (read : List Char)
  /-- A text after a quote, which ends it or is the first of two. -/
  | quote (read : List Char)

def finish : Reading → Option (List Token)
  | .nothing => some []
  | .word read => some [.word (String.ofList read)]
  | .text _ => none
  | .quote read => some [.text (String.ofList read)]

def start (c : Char) : Option (List Token × Reading) :=
  if c = ' ' then some ([], .nothing)
  else if c = '\x27' then some ([], .text [])
  else if startsName c then some ([], .word [c])
  else if c ∈ ['(', ')', ',', '='] then some ([.mark c], .nothing)
  else none

def startAfter (reading : Reading) (c : Char) : Option (List Token × Reading) := do
  let complete ← finish reading
  let (made, next) ← start c
  some (complete ++ made, next)

def step (c : Char) : Reading → Option (List Token × Reading)
  | .nothing => startAfter .nothing c
  | .word read => if isNameChar c then some ([], .word (read ++ [c])) else startAfter (.word read) c
  | .text read => some ([], if c = '\x27' then .quote read else .text (read ++ [c]))
  | .quote read => if c = '\x27' then some ([], .text (read ++ [c])) else startAfter (.quote read) c

def listFrom (complete : List Token) (reading : Reading) : List Char → Option (List Token)
  | [] => (finish reading).map (complete ++ ·)
  | c :: rest => do
      let (made, next) ← step c reading
      listFrom (complete ++ made) next rest

def ofText? (text : List Char) : Option (List Token) := listFrom [] .nothing text

variable {complete tokens others : List Token} {reading : Reading} {tail name : List Char}

/-- No word and no text goes on with what comes. -/
def Apart (tail : List Char) : Prop :=
  ∀ c, tail.head? = some c → c ≠ '\x27' ∧ isNameChar c = false

theorem apart_nil : Apart [] := nofun

theorem apart_cons {c : Char} (unquoted : c ≠ '\x27') (other : isNameChar c = false) :
    Apart (c :: tail) := by
  intro d same
  cases same
  exact ⟨unquoted, other⟩

theorem Apart.step_eq {c : Char} (apart : Apart (c :: tail)) (text : ∀ read, reading ≠ .text read) :
    step c reading = startAfter reading c := by
  obtain ⟨unquoted, other⟩ := apart c rfl
  cases reading with
  | nothing => rfl
  | word read => rw [step, other, if_neg Bool.false_ne_true]
  | text read => exact absurd rfl (text read)
  | quote read => rw [step, if_neg unquoted]

theorem listFrom_apart (apart : Apart tail) (ended : finish reading = some tokens) :
    listFrom complete reading tail = listFrom (complete ++ tokens) .nothing tail := by
  cases tail with
  | nil =>
      rw [listFrom, listFrom, ended]
      simp [finish]
  | cons c tail =>
      have text : ∀ read, reading ≠ .text read := by
        rintro read rfl
        cases ended
      have begun : step c .nothing = startAfter .nothing c := rfl
      rw [listFrom, listFrom, apart.step_eq text, begun, startAfter, startAfter, ended]
      cases start c with
      | none => rfl
      | some made => simp [finish]

def IsWord (name : List Char) : Prop :=
  name.head?.any startsName = true ∧ name.all isNameChar = true

instance (name : List Char) : Decidable (IsWord name) :=
  inferInstanceAs (Decidable (_ ∧ _))

theorem listFrom_nameChars {read : List Char} (all : name.all isNameChar = true) :
    listFrom complete (.word read) (name ++ tail) =
      listFrom complete (.word (read ++ name)) tail := by
  induction name generalizing read with
  | nil => rw [List.nil_append, List.append_nil]
  | cons c name ih =>
      rw [List.all_cons, Bool.and_eq_true] at all
      rw [List.cons_append, listFrom, step, if_pos all.1]
      simp only [Option.bind_eq_bind, Option.bind_some, List.append_nil]
      rw [ih all.2, List.append_assoc, List.singleton_append]

theorem start_of_startsName {c : Char} (first : startsName c = true) :
    start c = some ([], .word [c]) := by
  have blank : c ≠ ' ' := by
    rintro rfl
    cases first
  have quote : c ≠ '\x27' := by
    rintro rfl
    cases first
  rw [start, if_neg blank, if_neg quote, if_pos first]

theorem listFrom_word {name : String} (word : IsWord name.toList) (apart : Apart tail) :
    listFrom complete .nothing (name.toList ++ tail) =
      listFrom (complete ++ [.word name]) .nothing tail := by
  obtain ⟨first, all⟩ := word
  cases shape : name.toList with
  | nil => rw [shape] at first; cases first
  | cons c letters =>
      rw [shape] at first all
      rw [List.all_cons, Bool.and_eq_true] at all
      have begun : step c .nothing = some ([], .word [c]) := by
        rw [step, startAfter, start_of_startsName first]
        rfl
      have whole : finish (.word ([c] ++ letters)) = some [.word name] := by
        rw [List.singleton_append, ← shape, finish, String.ofList_toList]
      rw [List.cons_append, listFrom, begun]
      simp only [Option.bind_eq_bind, Option.bind_some, List.append_nil]
      rw [listFrom_nameChars all.2, listFrom_apart apart whole]

theorem listFrom_doubled (text read : List Char) :
    listFrom complete (.text read) (text.flatMap doubled ++ '\x27' :: tail) =
      listFrom complete (.quote (read ++ text)) tail := by
  induction text generalizing read with
  | nil =>
      rw [List.flatMap_nil, List.nil_append, listFrom, step, List.append_nil]
      simp
  | cons c text ih =>
      by_cases quote : c = '\x27'
      · simp [doubled, quote, listFrom, step, ih]
      · simp [doubled, quote, listFrom, step, ih]

theorem listFrom_literal (text : String) (apart : Apart tail) :
    listFrom complete .nothing ((literal text).toList ++ tail) =
      listFrom (complete ++ [.text text]) .nothing tail := by
  have shape : (literal text).toList ++ tail =
      '\x27' :: (text.toList.flatMap doubled ++ '\x27' :: tail) := by
    simp [literal]
  have begun : step '\x27' .nothing = some ([], .text []) := rfl
  rw [shape, listFrom, begun]
  simp only [Option.bind_eq_bind, Option.bind_some, List.append_nil]
  rw [listFrom_doubled, listFrom_apart apart rfl, List.nil_append, String.ofList_toList]

theorem listFrom_blank :
    listFrom complete .nothing (' ' :: tail) = listFrom complete .nothing tail := by
  have begun : step ' ' .nothing = some ([], .nothing) := rfl
  rw [listFrom, begun]
  simp

theorem listFrom_mark {c : Char} (mark : c ∈ ['(', ')', ',', '=']) :
    listFrom complete .nothing (c :: tail) = listFrom (complete ++ [.mark c]) .nothing tail := by
  have begun : step c .nothing = some ([.mark c], .nothing) := by
    simp only [List.mem_cons, List.not_mem_nil, or_false] at mark
    rcases mark with rfl | rfl | rfl | rfl <;> rfl
  rw [listFrom, begun]
  simp

/-- Before anything that is apart from it, the text is cut into these tokens. -/
def Cuts (text : String) (tokens : List Token) : Prop :=
  ∀ complete tail, Apart tail →
    listFrom complete .nothing (text.toList ++ tail) = listFrom (complete ++ tokens) .nothing tail

theorem Cuts.ofText? {text : String} (cuts : Cuts text tokens) :
    ofText? text.toList = some tokens := by
  have whole := cuts [] [] apart_nil
  rw [List.append_nil] at whole
  rw [Token.ofText?, whole, listFrom]
  simp [finish]

/-- The separator is apart from what is before it, and what comes after it is apart from it. -/
structure Separates (separator : String) (tokens : List Token) : Prop where
  cuts : ∀ complete tail, listFrom complete .nothing (separator.toList ++ tail) =
    listFrom (complete ++ tokens) .nothing tail
  apart : ∀ tail, Apart (separator.toList ++ tail)

theorem Separates.join {α : Type} {separator : String} {render : α → String}
    {cut : α → List Token} {items : List α} (separates : Separates separator tokens)
    (each : ∀ item ∈ items, Cuts (render item) (cut item)) :
    Cuts (separator.intercalate (items.map render)) (tokens.intercalate (items.map cut)) := by
  intro complete tail apart
  induction items generalizing complete with
  | nil => simp
  | cons item items ih =>
      have first := each item List.mem_cons_self
      cases items with
      | nil =>
          rw [List.map_cons, List.map_nil, String.intercalate_singleton, List.map_cons,
            List.map_nil, List.intercalate_singleton]
          exact first complete tail apart
      | cons next items =>
          have later := ih fun other member => each other (List.mem_cons_of_mem item member)
          rw [List.map_cons, List.map_cons] at later
          rw [List.map_cons, List.map_cons, String.intercalate_cons_cons, List.map_cons,
            List.map_cons, List.intercalate_cons_cons, String.toList_append, String.toList_append,
            List.append_assoc, List.append_assoc, first complete _ (separates.apart _),
            separates.cuts, later]
          simp only [List.append_assoc]

end Token
end AthenaModels.Sql
