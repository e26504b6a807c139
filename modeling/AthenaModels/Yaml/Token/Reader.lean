import AthenaModels.Yaml.Token.Tag

/-! The tokens of a whole text. Indentation opens and closes blocks, and a colon turns what stands
before it on the line into a key. -/

namespace AthenaModels.Yaml

/-- A place where a key may have started: the token there, and whether the indentation allows
nothing but a key. -/
structure KeyPlace where
  token : Nat
  index : Nat
  line : Nat
  column : Nat
  required : Bool

/-- How far the tokens have been read. `indent` is the column of the innermost block, and `outer`
those around it. `keys` has a place for each open flow, innermost first, and one for the blocks. -/
structure Reading where
  place : Position
  tokens : Array Token
  indent : Int
  outer : List Int
  keyAllowed : Bool
  keys : List (Option KeyPlace)

namespace Reading

def start (text : List Char) : Reading := ⟨.start text, #[], -1, [], true, [none]⟩

def inFlow (s : Reading) : Bool := 1 < s.keys.length

def push (s : Reading) (token : Token) : Reading := { s with tokens := s.tokens.push token }

def skip (s : Reading) (count : Nat) : Reading := { s with place := s.place.skip count }

def allow (s : Reading) (keyAllowed : Bool) : Reading := { s with keyAllowed }

def insert (s : Reading) (index : Nat) (token : Token) : Reading :=
  { s with tokens := (s.tokens.extract 0 index).push token ++ s.tokens.extract index s.tokens.size }

/-- Forgets a key that can no longer come: it would have to stand on this line and be short. -/
def freshKey? (p : Position) : Option KeyPlace → Option (Option KeyPlace)
  | none => some none
  | some key =>
      if key.line < p.line || key.index + 1024 < p.index then
        (if key.required then none else some none)
      else some (some key)

def dropStaleKeys? (s : Reading) : Option Reading := do
  some { s with keys := ← s.keys.mapM (freshKey? s.place) }

def dropKey? (s : Reading) : Option Reading :=
  match s.keys with
  | some key :: keys => if key.required then none else some { s with keys := none :: keys }
  | _ => some s

def saveKey? (s : Reading) : Option Reading := do
  if s.keyAllowed then
    let s ← s.dropKey?
    let p := s.place
    let required := !s.inFlow && s.indent == p.column
    some { s with
      keys := some ⟨s.tokens.size, p.index, p.line, p.column, required⟩ :: s.keys.drop 1 }
  else some s

def indentTo (s : Reading) (column : Nat) (index : Nat) (token : Token) : Reading :=
  if s.inFlow || column ≤ s.indent then s
  else { s.insert index token with indent := column, outer := s.indent :: s.outer }

def closeBlocks (column : Int) (tokens : Array Token) :
    Int → List Int → Array Token × Int × List Int
  | indent, [] => (tokens, indent, [])
  | indent, next :: outer =>
      if column < indent then closeBlocks column (tokens.push .blockEnd) next outer
      else (tokens, indent, next :: outer)

def unindentTo (s : Reading) (column : Int) : Reading :=
  if s.inFlow then s
  else
    let (tokens, indent, outer) := closeBlocks column s.tokens s.indent s.outer
    { s with tokens, indent, outer }

/-- Passes over blanks, comments and line breaks. A tab may not stand where a key may. -/
def skipBlanks (s : Reading) : Nat → Reading
  | 0 => s
  | fuel + 1 =>
      let p := s.place.skipWhile fun c => c == ' ' || ((s.inFlow || !s.keyAllowed) && c == '\t')
      let p := if p.rest.head? == some '#' then p.skipWhile (!isBreak ·) else p
      if p.atBreak then
        skipBlanks { s with place := p.skipBreak, keyAllowed := s.keyAllowed || !s.inFlow } fuel
      else { s with place := p }

def documentLevel? (s : Reading) : Option Reading := do
  let s ← (s.unindentTo (-1)).dropKey?
  some (s.allow false)

def flowStart? (s : Reading) (token : Token) : Option Reading := do
  let s ← s.saveKey?
  some (({ s with keys := none :: s.keys }.allow true).skip 1 |>.push token)

def flowEnd? (s : Reading) (token : Token) : Option Reading := do
  let s ← s.dropKey?
  let s := if s.inFlow then { s with keys := s.keys.drop 1 } else s
  some ((s.allow false).skip 1 |>.push token)

def flowEntry? (s : Reading) : Option Reading := do
  let s ← s.dropKey?
  some ((s.allow true).skip 1 |>.push .flowEntry)

def openBlock? (s : Reading) (token : Token) : Option Reading :=
  if s.inFlow then some s
  else if s.keyAllowed then some (s.indentTo s.place.column s.tokens.size token)
  else none

def blockEntry? (s : Reading) : Option Reading := do
  let s ← (← s.openBlock? .blockSequenceStart).dropKey?
  some ((s.allow true).skip 1 |>.push .blockEntry)

def key? (s : Reading) : Option Reading := do
  let s ← (← s.openBlock? .blockMappingStart).dropKey?
  some ((s.allow (!s.inFlow)).skip 1 |>.push .key)

def value? (s : Reading) : Option Reading := do
  let s ←
    match s.keys with
    | some key :: keys =>
        let s := { s with keys := none :: keys }.insert key.token .key
        some ((s.indentTo key.column key.token .blockMappingStart).allow false)
    | _ => do some ((← s.openBlock? .blockMappingStart).allow (!s.inFlow))
  some (s.skip 1 |>.push .value)

def name? (s : Reading) (make : String → Token) : Option Reading := do
  let s ← s.saveKey?
  let p := s.place.skip 1
  let name := p.rest.takeWhile isNameChar
  let p := p.skip name.length
  if !name.isEmpty && (endsWord p.rest || p.rest.head?.any "?:,]\x7d%@\x60".toList.contains) then
    some ({ s with place := p }.allow false |>.push (make (String.ofList name)))
  else none

def tagged? (s : Reading) : Option Reading := do
  let s ← s.saveKey?
  let (token, place) ← tag? s.inFlow s.place
  some ({ s with place }.allow false |>.push token)

def block? (s : Reading) (style : Style) : Option Reading := do
  let s ← s.dropKey?
  let (text, place) ← blockText? (style == .literal) s.indent (s.place.skip 1)
  some ({ s with place }.allow true |>.push (.scalar style (String.ofList text)))

def quoted? (s : Reading) (quote : Char) (style : Style) : Option Reading := do
  let s ← s.saveKey?
  let p := s.place.skip 1
  let (text, place) ← quotedText? quote (p.rest.length + 1) [] p
  some ({ s with place }.allow false |>.push (.scalar style (String.ofList text)))

def plain? (s : Reading) : Option Reading := do
  let s ← s.saveKey?
  let floor := (s.indent + 1).toNat
  let (text, broken, place) ←
    plainText? s.inFlow floor (s.place.rest.length + 1) [] (.blanks []) s.place
  some ({ s with place }.allow broken |>.push (.scalar .plain (String.ofList text)))

def tokenAt? (s : Reading) (c : Char) (rest : List Char) : Option Reading :=
  let ends := endsWord rest
  if s.place.column = 0 && c == '%' then do
    let s ← s.documentLevel?
    let (token, place) ← directive? (s.place.skip 1)
    some ({ s with place }.push token)
  else
    match s.place.documentMark? with
    | some mark => do
        let s ← s.documentLevel?
        some (s.skip 3 |>.push (if mark == '-' then .documentStart else .documentEnd))
    | none =>
        match c with
        | '[' => s.flowStart? .flowSequenceStart
        | '{' => s.flowStart? .flowMappingStart
        | ']' => s.flowEnd? .flowSequenceEnd
        | '}' => s.flowEnd? .flowMappingEnd
        | ',' => s.flowEntry?
        | '*' => s.name? .alias
        | '&' => s.name? .anchor
        | '!' => s.tagged?
        | '\x27' => s.quoted? c .singleQuoted
        | '\x22' => s.quoted? c .doubleQuoted
        | '|' => if s.inFlow then none else s.block? .literal
        | '>' => if s.inFlow then none else s.block? .folded
        | '-' => if ends then s.blockEntry? else s.plain?
        | '?' => if s.inFlow || ends then s.key? else s.plain?
        | ':' => if s.inFlow || ends then s.value? else s.plain?
        | c => if isGap c || "#%@\x60".toList.contains c then none else s.plain?

def finish? : Nat → Reading → Option Reading
  | 0, _ => none
  | fuel + 1, s => do
      let s ← (s.skipBlanks (s.place.rest.length + 1)).dropStaleKeys?
      match s.place.rest with
      | [] => s.documentLevel?
      | c :: rest => finish? fuel (← (s.unindentTo s.place.column).tokenAt? c rest)

end Reading

def Token.ofText? (text : String) : Option (List Token) := do
  let chars := text.toList
  if chars.all isAllowed then
    let reading ← Reading.finish? (chars.length + 1) (Reading.start chars)
    some reading.tokens.toList
  else none

end AthenaModels.Yaml
