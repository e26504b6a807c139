/-! Values of a data format, seen through what a record reader needs of them. Each format decides
for itself which of its values count as a text, a number, a list or a record. -/

namespace AthenaModels

/-- The parts of a record as a format writes them: under their names, or in their order. -/
inductive Members (V : Type) where
  | named (entries : List (String × V))
  | ordered (values : List V)

class Source (V : Type) where
  text? : V → Option String
  natural? : V → Option Nat
  /-- `some none` for a value that says there is none. -/
  optional? : V → Option (Option V)
  items? : V → Option (List V)
  members? : V → Option (Members V)
  choice? : V → Option String
  word? : V → Option String
  words? : V → Option (List String)

namespace Source

variable {V : Type} [Source V] {α : Type}

def below? (limit : Nat) (value : V) : Option Nat :=
  (natural? value).filter (· < limit)

def option? (read : V → Option α) (value : V) : Option (Option α) := do
  match ← optional? value with
  | none => some none
  | some value => (read value).map some

def list? (read : V → Option α) (value : V) : Option (List α) := do
  (← items? value).mapM read

def pair? {β : Type} (first : V → Option α) (second : V → Option β) (value : V) :
    Option (α × β) := do
  match ← items? value with
  | [a, b] => some (← first a, ← second b)
  | _ => none

end Source

namespace Members

variable {V : Type} {α : Type}

/-- The value of a part: `some none` when it is absent, and `none` when it is named twice. -/
def find? (members : Members V) (position : Nat) (names : List String) : Option (Option V) :=
  match members with
  | .named entries =>
      match entries.filter fun entry => names.contains entry.1 with
      | [] => some none
      | [entry] => some (some entry.2)
      | _ => none
  | .ordered values => some values[position]?

/-- A list of parts may be cut short but never runs over. -/
def fits (members : Members V) (arity : Nat) : Option Unit :=
  match members with
  | .named _ => some ()
  | .ordered values => if values.length ≤ arity then some () else none

def required (members : Members V) (position : Nat) (names : List String)
    (read : V → Option α) : Option α := do
  match ← members.find? position names with
  | some value => read value
  | none => none

def defaulted (members : Members V) (position : Nat) (names : List String)
    (read : V → Option α) (value : α) : Option α := do
  match ← members.find? position names with
  | some given => read given
  | none => some value

def nullable [Source V] (members : Members V) (position : Nat) (names : List String)
    (read : V → Option α) : Option (Option α) := do
  match ← members.find? position names with
  | some value => Source.option? read value
  | none =>
      match members with
      | .named _ => some none
      | .ordered _ => none

end Members
end AthenaModels
