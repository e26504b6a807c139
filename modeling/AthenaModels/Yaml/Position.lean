namespace AthenaModels.Yaml

def isGap (c : Char) : Bool := c == ' ' || c == '\t'

/-- Line feed, carriage return, next line, and the line and paragraph separators. -/
def isBreak (c : Char) : Bool :=
  c == '\n' || c == '\r' || c.toNat == 0x85 || c.toNat == 0x2028 || c.toNat == 0x2029

def endsWord : List Char → Bool
  | [] => true
  | c :: _ => isGap c || isBreak c

def isNameChar (c : Char) : Bool :=
  c.isAlphanum || c == '_' || c == '-'

/-- The characters that a document may hold: no controls but the tab and the breaks, and no byte
order mark. -/
def isAllowed (c : Char) : Bool :=
  let n := c.toNat
  n == 9 || n == 10 || n == 13 || (32 ≤ n && n ≤ 126) || n == 0x85 || (0xA0 ≤ n && n ≤ 0xD7FF) ||
    (0xE000 ≤ n && n ≤ 0xFFFD && n != 0xFEFF) || 0x10000 ≤ n

structure Position where
  rest : List Char
  index : Nat
  line : Nat
  column : Nat

namespace Position

def start (text : List Char) : Position := ⟨text, 0, 0, 0⟩

def skip (p : Position) (count : Nat) : Position :=
  { p with rest := p.rest.drop count, index := p.index + count, column := p.column + count }

def skipWhile (p : Position) (test : Char → Bool) : Position :=
  p.skip (p.rest.takeWhile test).length

def skipBreak (p : Position) : Position :=
  match p.rest with
  | '\r' :: '\n' :: rest => ⟨rest, p.index + 2, p.line + 1, 0⟩
  | c :: rest => if isBreak c then ⟨rest, p.index + 1, p.line + 1, 0⟩ else p
  | [] => p

/-- The text that the line break here stands for: a line feed, or one of the separators. -/
def breakText (p : Position) : List Char :=
  match p.rest with
  | c :: _ =>
      if c.toNat == 0x2028 || c.toNat == 0x2029 then [c] else if isBreak c then ['\n'] else []
  | [] => []

def atBreak (p : Position) : Bool := p.rest.head?.any isBreak

def atGap (p : Position) : Bool := p.rest.head?.any isGap

/-- Three dashes or three dots that stand alone at the start of a line. -/
def documentMark? (p : Position) : Option Char :=
  if p.column = 0 then
    match p.rest with
    | '-' :: '-' :: '-' :: rest => if endsWord rest then some '-' else none
    | '.' :: '.' :: '.' :: rest => if endsWord rest then some '.' else none
    | _ => none
  else none

end Position
end AthenaModels.Yaml
