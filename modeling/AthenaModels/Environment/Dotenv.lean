import AthenaModels.Environment.Basic
import AthenaModels.Text.Alphanumeric
import AthenaModels.Text.Basic

/-! Files with a variable on each line. What the environment already has as a text is kept. -/

namespace AthenaModels.Dotenv

inductive LineState where
  | complete
  | space
  | escape
  | single
  | singleEscape
  | double
  | doubleEscape
deriving DecidableEq

namespace LineState

def outside (c : Char) : LineState :=
  if c == '\x5c' then .escape
  else if c == '\x22' then .double
  else if c == '\x27' then .single
  else .complete

def next (c : Char) : LineState → LineState
  | .complete =>
      if Text.isBlank c && c != '\n' && c != '\r' then .space else outside c
  | .space => outside c
  | .escape => .complete
  | .single =>
      if c == '\x5c' then .singleEscape else if c == '\x27' then .complete else .single
  | .singleEscape => .single
  | .double =>
      if c == '\x5c' then .doubleEscape else if c == '\x22' then .complete else .double
  | .doubleEscape => .double

end LineState

def beforeComment : LineState → List Char → List Char × Option LineState
  | state, [] => ([], some state)
  | state, c :: rest =>
      if state == .space && c == '#' then ([], none)
      else
        let (text, last) := beforeComment (state.next c) rest
        (c :: text, last)

def linesOf : List Char → List (List Char)
  | [] => []
  | c :: rest =>
      if c = '\n' then [c] :: linesOf rest
      else
        match linesOf rest with
        | [] => [[c]]
        | line :: lines => (c :: line) :: lines

def dropLineEnd (line : List Char) : List Char :=
  match line.reverse with
  | '\n' :: '\r' :: rest => rest.reverse
  | '\n' :: rest => rest.reverse
  | _ => line

/-- Where a value is being read: whether inside double quotes, and in a name after a dollar sign
the characters of the name so far. -/
inductive ValueState where
  | plain (double : Bool)
  | single
  | escape (double : Bool)
  | name (double : Bool) (name : List Char)
  | braced (double : Bool) (name : List Char)
  | ending

def escaped? (c : Char) : Option Char :=
  if "\x5c\x27\x22$ ".toList.contains c then some c
  else if c == 'n' then some '\n'
  else none

def substitute (env : Environment) (name : List Char) : List Char :=
  ((env.text? (String.ofList name)).getD "").toList

/-- The text of a value; the character that ends a bare name belongs to it. -/
def value? (env : Environment) : ValueState → List Char → Option (List Char)
  | .plain double, [] => if double then none else some []
  | .single, [] => none
  | .escape double, [] => if double then none else some []
  | .name double name, [] => if double then none else some (substitute env name)
  | .braced _ _, [] => none
  | .ending, [] => some []
  | .ending, c :: rest =>
      if c == ' ' || c == '\t' then value? env .ending rest
      else if c == '#' then some []
      else none
  | .escape double, c :: rest => do
      let c ← escaped? c
      let text ← value? env (.plain double) rest
      some (c :: text)
  | .single, c :: rest =>
      if c == '\x27' then value? env (.plain false) rest
      else (value? env .single rest).map (c :: ·)
  | .name double name, c :: rest =>
      if Text.isAlphanumeric c then value? env (.name double (name ++ [c])) rest
      else if c == '\x7b' && name.isEmpty then value? env (.braced double []) rest
      else if c == '$' then
        (value? env (.name double []) rest).map (substitute env name ++ ·)
      else (value? env (.plain double) rest).map (substitute env name ++ c :: ·)
  | .braced double name, c :: rest =>
      if c == '\x7d' then (value? env (.plain double) rest).map (substitute env name ++ ·)
      else value? env (.braced double (name ++ [c])) rest
  | .plain double, c :: rest =>
      if c == '$' then value? env (.name double []) rest
      else if c == '\x5c' then value? env (.escape double) rest
      else if c == '\x22' then value? env (.plain !double) rest
      else if double then (value? env (.plain double) rest).map (c :: ·)
      else if c == '\x27' then value? env .single rest
      else if c == ' ' || c == '\t' then value? env .ending rest
      else (value? env (.plain double) rest).map (c :: ·)

def isKeyStart (c : Char) : Bool := c.isAlpha || c == '_'

def isKeyChar (c : Char) : Bool := c.isAlphanum || c == '_' || c == '.'

def key? (line : List Char) : Option (String × List Char) :=
  if line.head?.any isKeyStart then
    some (String.ofList (line.takeWhile isKeyChar),
      (line.dropWhile isKeyChar).dropWhile Text.isBlank)
  else none

def afterEqual? : List Char → Option (List Char)
  | '=' :: rest => some (rest.dropWhile Text.isBlank)
  | _ => none

/-- The word `export` may go before a key; it may also be one. -/
def keyAndValue? (line : List Char) : Option (String × List Char) := do
  let (key, rest) ← key? line
  match afterEqual? rest with
  | some value => some (key, value)
  | none =>
      if key == "export" then
        let (key, rest) ← key? rest
        some (key, ← afterEqual? rest)
      else none

def isVoid (line : List Char) : Bool :=
  line.isEmpty || line.head? == some '#'

/-- The variable of a line, if it has one; none at all for a line that is malformed. -/
def assignment? (env : Environment) (line : List Char) : Option (Option (String × String)) := do
  let line := (line.reverse.dropWhile Text.isBlank).reverse.dropWhile Text.isBlank
  if isVoid line then some none
  else
    let (key, value) ← keyAndValue? line
    let value ← if isVoid value then some [] else value? env (.plain false) value
    some (some (key, String.ofList value))

def load (env : Environment) : Option (String × String) → Environment
  | some (key, value) => if (env.text? key).isSome then env else env.set key value
  | none => env

/-- Loads the lines up to the first that is malformed. A line that ends inside quotes or after a
backslash goes on in the next: `start` is what there is of it, and `state` where that ends. -/
def loadLines (env : Environment) (state : LineState) (start : List Char) :
    List (List Char) → Environment
  | [] => env
  | line :: lines =>
      if (start ++ line).dropWhile Text.isBlank |>.head? |>.any (· == '#') then
        loadLines env .complete [] lines
      else
        let (text, last) := beforeComment state line
        let whole? :=
          match last with
          | none => some (start ++ text)
          | some .complete => some (dropLineEnd (start ++ line))
          | some _ => none
        match whole?, last with
        | none, some state => loadLines env state (start ++ line) lines
        | some whole, _ =>
            match assignment? env whole with
            | none => env
            | some entry => loadLines (load env entry) .complete [] lines
        | none, none => env

def byteOrderMark : Char := '\ufeff'

end Dotenv

def Environment.loadDotenv (env : Environment) (text : String) : Environment :=
  let chars :=
    match text.toList with
    | c :: rest => if c == Dotenv.byteOrderMark then rest else c :: rest
    | [] => []
  Dotenv.loadLines env .complete [] (Dotenv.linesOf chars)

end AthenaModels
