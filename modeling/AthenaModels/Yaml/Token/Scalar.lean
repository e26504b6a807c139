import AthenaModels.Number.Numeral
import AthenaModels.Yaml.Position

namespace AthenaModels.Yaml

/-- Blanks on one line; or line breaks, the first one and the others. -/
inductive Gap where
  | blanks (text : List Char)
  | breaks (first more : List Char)

namespace Gap

def isBreaks : Gap → Bool
  | .blanks _ => false
  | .breaks _ _ => true

/-- One line feed becomes a space, and the first of several vanishes. -/
def folded : Gap → List Char
  | .blanks text => text
  | .breaks first more =>
      if first == ['\n'] then (if more.isEmpty then [' '] else more) else first ++ more

def read? (floor : Nat) : Nat → Gap → Position → Option (Gap × Position)
  | 0, gap, p => some (gap, p)
  | fuel + 1, gap, p =>
      match p.rest with
      | [] => some (gap, p)
      | c :: _ =>
          if isGap c then
            match gap with
            | .blanks text => read? floor fuel (.blanks (text ++ [c])) (p.skip 1)
            | .breaks _ _ =>
                if c == '\t' && p.column < floor then none else read? floor fuel gap (p.skip 1)
          else if isBreak c then
            match gap with
            | .blanks _ => read? floor fuel (.breaks p.breakText []) p.skipBreak
            | .breaks first more =>
                read? floor fuel (.breaks first (more ++ p.breakText)) p.skipBreak
          else some (gap, p)

end Gap

def isFlowIndicator (c : Char) : Bool :=
  c == ',' || c == '[' || c == ']' || c == '\x7b' || c == '\x7d'

/-- The characters up to a gap, a colon that ends a key or, in a flow, an indicator. -/
def plainWord? (flow : Bool) : List Char → Option (List Char)
  | [] => some []
  | c :: rest =>
      if isGap c || isBreak c then some []
      else if flow && c == ':' && rest.head?.any (fun d => isFlowIndicator d || d == '?') then none
      else if (c == ':' && endsWord rest) || (flow && isFlowIndicator c) then some []
      else (plainWord? flow rest).map (c :: ·)

/-- The text, whether line breaks follow it, and where it is over. -/
def plainText? (flow : Bool) (floor : Nat) :
    Nat → List Char → Gap → Position → Option (List Char × Bool × Position)
  | 0, _, _, _ => none
  | fuel + 1, text, gap, p =>
      if p.documentMark?.isSome || p.rest.head? == some '#' then some (text, gap.isBreaks, p)
      else do
        let word ← plainWord? flow p.rest
        let (text, gap) :=
          if word.isEmpty then (text, gap) else (text ++ gap.folded ++ word, .blanks [])
        let p := p.skip word.length
        if p.atGap || p.atBreak then
          let (gap, p) ← Gap.read? floor p.rest.length gap p
          if !flow && p.column < floor then some (text, gap.isBreaks, p)
          else plainText? flow floor fuel text gap p
        else some (text, gap.isBreaks, p)

def escapedChar? : Char → Option Char
  | '0' => some '\x00'
  | 'a' => some '\x07'
  | 'b' => some '\x08'
  | 't' => some '\t'
  | '\t' => some '\t'
  | 'n' => some '\n'
  | 'v' => some '\x0b'
  | 'f' => some '\x0c'
  | 'r' => some '\r'
  | 'e' => some '\x1b'
  | ' ' => some ' '
  | '\x22' => some '\x22'
  | '/' => some '/'
  | '\x5c' => some '\x5c'
  | 'N' => some '\u0085'
  | '_' => some '\u00a0'
  | 'L' => some '\u2028'
  | 'P' => some '\u2029'
  | _ => none

def escapedLength? : Char → Option Nat
  | 'x' => some 2
  | 'u' => some 4
  | 'U' => some 8
  | _ => none

def escapedCode? (digits : List Char) : Option Char := do
  let code ← Numeral.natural? 16 digits
  if code.isValidChar then some (Char.ofNat code) else none

def singleQuotedWord? : Nat → Position → Option (List Char × Bool × Position)
  | 0, _ => none
  | fuel + 1, p =>
      match p.rest with
      | '\x27' :: '\x27' :: _ => do
          let (word, broken, p) ← singleQuotedWord? fuel (p.skip 2)
          some ('\x27' :: word, broken, p)
      | c :: _ =>
          if c == '\x27' || isGap c || isBreak c then some ([], false, p)
          else do
            let (word, broken, p) ← singleQuotedWord? fuel (p.skip 1)
            some (c :: word, broken, p)
      | [] => some ([], false, p)

def doubleQuotedWord? : Nat → Position → Option (List Char × Bool × Position)
  | 0, _ => none
  | fuel + 1, p =>
      match p.rest with
      | '\x5c' :: d :: rest =>
          if isBreak d then some ([], true, (p.skip 1).skipBreak)
          else do
            let (c, length) ←
              match escapedChar? d with
              | some c => some (c, 2)
              | none => do
                  let count ← escapedLength? d
                  let digits := rest.take count
                  if digits.length = count then some (← escapedCode? digits, 2 + count) else none
            let (word, broken, p) ← doubleQuotedWord? fuel (p.skip length)
            some (c :: word, broken, p)
      | c :: _ =>
          if c == '\x5c' then none
          else if c == '\x22' || isGap c || isBreak c then some ([], false, p)
          else do
            let (word, broken, p) ← doubleQuotedWord? fuel (p.skip 1)
            some (c :: word, broken, p)
      | [] => some ([], false, p)

def quotedText? (quote : Char) : Nat → List Char → Position → Option (List Char × Position)
  | 0, _, _ => none
  | fuel + 1, text, p =>
      if p.documentMark?.isSome || p.rest.isEmpty then none
      else do
        let (word, broken, p) ←
          if quote == '\x27' then singleQuotedWord? (p.rest.length + 1) p
          else doubleQuotedWord? (p.rest.length + 1) p
        if p.rest.head? == some quote then some (text ++ word, p.skip 1)
        else do
          let gap := if broken then Gap.breaks [] [] else .blanks []
          let (gap, p) ← Gap.read? 0 p.rest.length gap p
          quotedText? quote fuel (text ++ word ++ gap.folded) p

inductive Chomping where
  | strip
  | clip
  | keep
deriving DecidableEq

def chomping? : Char → Option Chomping
  | '-' => some .strip
  | '+' => some .keep
  | _ => none

/-- The increment of the indentation: a digit from one to nine, or zero when none is given. A
digit zero is refused. -/
def increment? (p : Position) : Option (Nat × Position) :=
  match p.rest with
  | c :: _ =>
      if c.isDigit then (if c == '0' then none else some (c.toNat - 48, p.skip 1)) else some (0, p)
  | [] => some (0, p)

def blockHeader? (p : Position) : Option (Chomping × Nat × Position) :=
  match p.rest.head?.bind chomping? with
  | some chomping => do
      let (increment, p) ← increment? (p.skip 1)
      some (chomping, increment, p)
  | none => do
      let (increment, p) ← increment? p
      match if increment = 0 then none else p.rest.head?.bind chomping? with
      | some chomping => some (chomping, increment, p.skip 1)
      | none => some (.clip, increment, p)

def lineEnd? (p : Position) : Option Position :=
  let p := p.skipWhile isGap
  let p := if p.rest.head? == some '#' then p.skipWhile (!isBreak ·) else p
  if p.rest.isEmpty || p.atBreak then some p.skipBreak else none

/-- Passes over indentation and empty lines. The indentation may still be open (zero). Gives the
widest column that was reached, the line breaks and the new place. -/
def blockBreaks? (indent : Nat) :
    Nat → Nat → List Char → Position → Option (Nat × List Char × Position)
  | 0, _, _, _ => none
  | fuel + 1, widest, breaks, p =>
      let spaces := (p.rest.takeWhile (· == ' ')).length
      let p := p.skip (if indent = 0 then spaces else min spaces (indent - p.column))
      let widest := max widest p.column
      if (indent = 0 || p.column < indent) && p.rest.head? == some '\t' then none
      else if p.atBreak then blockBreaks? indent fuel widest (breaks ++ p.breakText) p.skipBreak
      else some (widest, breaks, p)

/-- What is known of a block scalar before one of its lines: the text so far, the break that ended
the line before, whether that line started with a gap, and the breaks of empty lines. -/
structure BlockText where
  text : List Char
  lead : List Char
  leadGap : Bool
  breaks : List Char

def blockLines? (literal : Bool) (indent : Nat) :
    Nat → BlockText → Position → Option (BlockText × Position)
  | 0, _, _ => none
  | fuel + 1, block, p =>
      if p.column = indent && !p.rest.isEmpty then do
        let gap := p.atGap
        let lead :=
          if !literal && block.lead == ['\n'] && !block.leadGap && !gap then
            (if block.breaks.isEmpty then [' '] else [])
          else block.lead
        let line := p.rest.takeWhile (!isBreak ·)
        let text := block.text ++ lead ++ block.breaks ++ line
        let p := p.skip line.length
        let ending := p.breakText
        let p := p.skipBreak
        let (_, breaks, p) ← blockBreaks? indent (p.rest.length + 1) 0 [] p
        blockLines? literal indent fuel ⟨text, ending, gap, breaks⟩ p
      else some (block, p)

def blockText? (literal : Bool) (parent : Int) (p : Position) : Option (List Char × Position) := do
  let (chomping, increment, p) ← blockHeader? p
  let p ← lineEnd? p
  let indent := if increment = 0 then 0 else (max parent 0).toNat + increment
  let (widest, breaks, p) ← blockBreaks? indent (p.rest.length + 1) 0 [] p
  let indent := if indent = 0 then max (max widest (parent + 1).toNat) 1 else indent
  let (block, p) ← blockLines? literal indent (p.rest.length + 1) ⟨[], [], false, breaks⟩ p
  let text :=
    match chomping with
    | .strip => block.text
    | .clip => block.text ++ block.lead
    | .keep => block.text ++ block.lead ++ block.breaks
  some (text, p)

end AthenaModels.Yaml
