import AthenaModels.Number.Numeral

/-! JSON values as they are written, and reading them under a grammar. Each reader returns what it
read and what follows it. -/

namespace AthenaModels.Json

/-- A value whose strings keep their escapes and whose numbers keep their digits. -/
inductive Written where
  | null
  | bool (value : Bool)
  | number (digits : List Char)
  | string (text : List Char)
  | array (items : List Written)
  | object (members : List (List Char × Written))
deriving Inhabited

structure Grammar where
  isPlain : Char → Bool
  escapeTail? : Char → List Char → Option (List Char × List Char)
  isNumber : List Char → Bool

def isSpace (c : Char) : Bool :=
  c == ' ' || c == '\n' || c == '\t' || c == '\r'

def skipSpace (text : List Char) : List Char :=
  text.dropWhile isSpace

def isDigit (c : Char) : Bool := '0' ≤ c && c ≤ '9'

def isNumberChar (c : Char) : Bool :=
  isDigit c || "+-.eE".toList.contains c

def isEscape (c : Char) : Bool :=
  "\x22\x5c/bfnrtu".toList.contains c

def hex4? : List Char → Option (Nat × List Char)
  | a :: b :: c :: d :: rest => do
      let code ← Numeral.natural? 16 [a, b, c, d]
      some (code, rest)
  | _ => none

/-- The character after an escaped `u`; two units may make one. Half of a pair makes none. -/
def codeUnit? (text : List Char) : Option (Char × List Char) := do
  let (first, rest) ← hex4? text
  if 0xD800 ≤ first ∧ first < 0xDC00 then
    match rest with
    | '\x5c' :: 'u' :: rest =>
        let (second, rest) ← hex4? rest
        if 0xDC00 ≤ second ∧ second < 0xE000 then
          some (Char.ofNat (0x10000 + (first - 0xD800) * 0x400 + (second - 0xDC00)), rest)
        else none
    | _ => none
  else if 0xDC00 ≤ first ∧ first < 0xE000 then none
  else some (Char.ofNat first, rest)

def escape? : List Char → Option (Char × List Char)
  | 'b' :: rest => some ('\x08', rest)
  | 'f' :: rest => some ('\x0c', rest)
  | 'n' :: rest => some ('\n', rest)
  | 'r' :: rest => some ('\r', rest)
  | 't' :: rest => some ('\t', rest)
  | 'u' :: rest => codeUnit? rest
  | c :: rest => if isEscape c then some (c, rest) else none
  | [] => none

def unescapeFrom? : Nat → List Char → Option (List Char)
  | _, [] => some []
  | 0, _ :: _ => none
  | fuel + 1, c :: rest =>
      if c = '\x5c' then do
        let (c, rest) ← escape? rest
        (unescapeFrom? fuel rest).map (c :: ·)
      else (unescapeFrom? fuel rest).map (c :: ·)

def unescape? (text : List Char) : Option String :=
  (unescapeFrom? text.length text).map String.ofList

namespace Written

def stringTail? (g : Grammar) : Nat → List Char → Option (List Char × List Char)
  | 0, _ => none
  | _ + 1, [] => none
  | fuel + 1, c :: rest =>
      if c = '\x22' then some ([], rest)
      else if c = '\x5c' then
        match rest with
        | [] => none
        | first :: rest => do
            let (more, rest) ← g.escapeTail? first rest
            let (tail, rest) ← stringTail? g fuel rest
            some (c :: first :: more ++ tail, rest)
      else if g.isPlain c then do
        let (tail, rest) ← stringTail? g fuel rest
        some (c :: tail, rest)
      else none

def string? (g : Grammar) (text : List Char) : Option (List Char × List Char) :=
  stringTail? g (text.length + 1) text

def number? (g : Grammar) (text : List Char) : Option (Written × List Char) :=
  let digits := text.takeWhile isNumberChar
  if !digits.isEmpty && g.isNumber digits then some (.number digits, text.dropWhile isNumberChar)
  else none

def word? (word : String) (value : Written) (text : List Char) : Option (Written × List Char) :=
  if word.toList.isPrefixOf text then some (value, text.drop word.length) else none

mutual
def valueAt? (g : Grammar) : Nat → List Char → Option (Written × List Char)
  | 0, _ => none
  | fuel + 1, text =>
      match skipSpace text with
      | [] => none
      | '\x22' :: rest => do
          let (text, rest) ← string? g rest
          some (.string text, rest)
      | '[' :: rest =>
          match skipSpace rest with
          | ']' :: rest => some (.array [], rest)
          | rest => do
              let (items, rest) ← itemsAt? g fuel rest
              some (.array items, rest)
      | '{' :: rest =>
          match skipSpace rest with
          | '}' :: rest => some (.object [], rest)
          | rest => do
              let (members, rest) ← membersAt? g fuel rest
              some (.object members, rest)
      | 'n' :: rest => word? "null" .null ('n' :: rest)
      | 't' :: rest => word? "true" (.bool true) ('t' :: rest)
      | 'f' :: rest => word? "false" (.bool false) ('f' :: rest)
      | text => number? g text

def itemsAt? (g : Grammar) : Nat → List Char → Option (List Written × List Char)
  | 0, _ => none
  | fuel + 1, text => do
      let (item, rest) ← valueAt? g fuel text
      match skipSpace rest with
      | ',' :: rest =>
          let (items, rest) ← itemsAt? g fuel rest
          some (item :: items, rest)
      | ']' :: rest => some ([item], rest)
      | _ => none

def membersAt? (g : Grammar) :
    Nat → List Char → Option (List (List Char × Written) × List Char)
  | 0, _ => none
  | fuel + 1, text =>
      match skipSpace text with
      | '\x22' :: rest => do
          let (name, rest) ← string? g rest
          match skipSpace rest with
          | ':' :: rest =>
              let (value, rest) ← valueAt? g fuel rest
              match skipSpace rest with
              | ',' :: rest =>
                  let (members, rest) ← membersAt? g fuel rest
                  some ((name, value) :: members, rest)
              | '}' :: rest => some ([(name, value)], rest)
              | _ => none
          | _ => none
      | _ => none
end

def leading? (g : Grammar) (text : String) : Option (Written × List Char) :=
  let chars := text.toList
  valueAt? g (2 * chars.length + 2) chars

def ofText? (g : Grammar) (text : String) : Option Written := do
  let (value, rest) ← leading? g text
  if (skipSpace rest).isEmpty then some value else none

def isNull : Written → Bool
  | .null => true
  | _ => false

mutual
def depth : Written → Nat
  | .array items => itemsDepth items + 1
  | .object members => membersDepth members + 1
  | _ => 0

def itemsDepth : List Written → Nat
  | [] => 0
  | item :: items => max (depth item) (itemsDepth items)

def membersDepth : List (List Char × Written) → Nat
  | [] => 0
  | (_, value) :: members => max (depth value) (membersDepth members)
end

end Written
end AthenaModels.Json
