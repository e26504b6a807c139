import AthenaModels.Yaml.Token.Basic
import AthenaModels.Yaml.Token.Scalar

namespace AthenaModels.Yaml

def isUriChar (c : Char) : Bool :=
  isNameChar c || ";/?:@&=+$.!~*\x27()%".toList.contains c

def percentByte? : List Char → Option (Nat × List Char)
  | '%' :: a :: b :: rest => do
      let byte ← Numeral.natural? 16 [a, b]
      some (byte, rest)
  | _ => none

/-- The bytes after the first one of a character. -/
def percentTail? : Nat → Nat → List Char → Option (Nat × List Char)
  | 0, code, text => some (code, text)
  | count + 1, code, text => do
      let (byte, rest) ← percentByte? text
      if byte / 64 = 2 then percentTail? count (code * 64 + byte % 64) rest else none

def percentChar? (text : List Char) : Option (Char × List Char) := do
  let (byte, rest) ← percentByte? text
  let (count, code) ←
    if byte < 0x80 then some (0, byte)
    else if byte / 32 = 6 then some (1, byte % 32)
    else if byte / 16 = 14 then some (2, byte % 16)
    else if byte / 8 = 30 then some (3, byte % 8)
    else none
  let (code, rest) ← percentTail? count code rest
  let least := [0, 0x80, 0x800, 0x10000]
  if code.isValidChar && least[count]?.any (· ≤ code) then some (Char.ofNat code, rest) else none

def uri? (isMore : Char → Bool) : Nat → List Char → Option (List Char × List Char)
  | 0, _ => none
  | _ + 1, [] => some ([], [])
  | fuel + 1, c :: rest =>
      if c == '%' then do
        let (c, rest) ← percentChar? (c :: rest)
        let (uri, rest) ← uri? isMore fuel rest
        some (c :: uri, rest)
      else if isUriChar c || isMore c then do
        let (uri, rest) ← uri? isMore fuel rest
        some (c :: uri, rest)
      else some ([], c :: rest)

def isFlowUriChar (c : Char) : Bool := c == ',' || c == '[' || c == ']'

def tagParts? : List Char → Option (List Char × List Char × List Char)
  | '!' :: '<' :: rest => do
      match ← uri? isFlowUriChar (rest.length + 1) rest with
      | ([], _) => none
      | (suffix, '>' :: rest) => some ([], suffix, rest)
      | _ => none
  | '!' :: rest =>
      let name := rest.takeWhile isNameChar
      match rest.drop name.length with
      | '!' :: rest => do
          let (suffix, rest) ← uri? (fun _ => false) (rest.length + 1) rest
          if suffix.isEmpty then none else some ('!' :: name ++ ['!'], suffix, rest)
      | rest => do
          let (suffix, rest) ← uri? (fun _ => false) (rest.length + 1) rest
          if (name ++ suffix).isEmpty then some ([], ['!'], rest)
          else some (['!'], name ++ suffix, rest)
  | _ => none

def tag? (flow : Bool) (p : Position) : Option (Token × Position) := do
  let (handle, suffix, rest) ← tagParts? p.rest
  if endsWord rest || (flow && rest.head? == some ',') then
    some (.tag (String.ofList handle) (String.ofList suffix), p.skip (p.rest.length - rest.length))
  else none

def versionNumber? (text : List Char) : Option (Nat × List Char) := do
  let digits := text.takeWhile Char.isDigit
  if digits.length ≤ 9 then some (← Numeral.natural? 10 digits, text.drop digits.length) else none

def versionDirective? (text : List Char) : Option (Token × List Char) := do
  let (major, rest) ← versionNumber? (text.dropWhile isGap)
  match rest with
  | '.' :: rest =>
      let (minor, rest) ← versionNumber? rest
      some (.versionDirective major minor, rest)
  | _ => none

def tagDirective? (text : List Char) : Option (Token × List Char) := do
  match text.dropWhile isGap with
  | '!' :: rest =>
      let name := rest.takeWhile isNameChar
      let (handle, rest) ←
        match rest.drop name.length with
        | '!' :: rest => some ('!' :: name ++ ['!'], rest)
        | rest => if name.isEmpty then some (['!'], rest) else none
      if rest.head?.any isGap then
        let rest := rest.dropWhile isGap
        let (stem, rest) ← uri? isFlowUriChar (rest.length + 1) rest
        if stem.isEmpty || !endsWord rest then none
        else some (.tagDirective (String.ofList handle) (String.ofList stem), rest)
      else none
  | _ => none

def directive? (p : Position) : Option (Token × Position) := do
  let name := p.rest.takeWhile isNameChar
  let rest := p.rest.drop name.length
  let (token, rest) ←
    if !endsWord rest then none
    else if name == "YAML".toList then versionDirective? rest
    else if name == "TAG".toList then tagDirective? rest
    else none
  let p ← lineEnd? (p.skip (p.rest.length - rest.length))
  some (token, p)

end AthenaModels.Yaml
