import AthenaModels.Yaml.Node.Basic
import AthenaModels.Yaml.Token.Reader

namespace AthenaModels.Yaml

structure Building where
  tokens : List Token
  names : List (String × Nat)

namespace Building

def drop (s : Building) : Building := { s with tokens := s.tokens.drop 1 }

def next? (s : Building) : Option Token := s.tokens.head?

/-- The slot of a new anchor: there are as many slots as names. A name may be used again. -/
def newSlot (s : Building) (name : String) : Nat × Building :=
  let slot := s.names.length
  (slot, { s with names := (name, slot) :: s.names.filter (·.1 != name) })

def tagText? (handles : List (String × String)) (handle suffix : String) : Option String :=
  if handle.isEmpty then some suffix else (handles.lookup handle).map (· ++ suffix)

def properties? (handles : List (String × String)) (s : Building) :
    Option (Option Nat × Option String × Building) := do
  match s.tokens with
  | .anchor name :: .tag handle suffix :: _ =>
      let (slot, s) := s.newSlot name
      some (some slot, some (← tagText? handles handle suffix), s.drop.drop)
  | .anchor name :: _ =>
      let (slot, s) := s.newSlot name
      some (some slot, none, s.drop)
  | .tag handle suffix :: .anchor name :: _ =>
      let (slot, s) := s.newSlot name
      some (some slot, some (← tagText? handles handle suffix), s.drop.drop)
  | .tag handle suffix :: _ => some (none, some (← tagText? handles handle suffix), s.drop)
  | _ => some (none, none, s)

def endsItem : Token → Bool
  | .blockEntry | .blockEnd => true
  | _ => false

def endsEntry : Token → Bool
  | .key | .value | .blockEnd => true
  | _ => false

def endsFlowItem : Token → Bool
  | .flowEntry | .flowSequenceEnd => true
  | _ => false

def endsFlowEntry : Token → Bool
  | .flowEntry | .flowMappingEnd => true
  | _ => false

def flowComma? (s : Building) (isFirst : Bool) : Option Building :=
  if isFirst then some s else if s.next? == some .flowEntry then some s.drop else none

mutual
/-- A node, in a block or in a flow; `bare` if a sequence may go without indentation. -/
def node? (handles : List (String × String)) (block bare : Bool) :
    Nat → Building → Option (Node × Building)
  | 0, _ => none
  | fuel + 1, s => do
      if let some (.alias name) := s.next? then
        return (.alias (← s.names.lookup name), s.drop)
      let (anchor, tag, s) ← properties? handles s
      match s.next? with
      | some .blockEntry =>
          if bare then
            let (items, s) ← bareItems? handles fuel s
            some (.sequence anchor tag items, s)
          else absent? anchor tag s
      | some (.scalar style text) =>
          some (.scalar anchor (tag.filter (· != "!")) style text, s.drop)
      | some .flowSequenceStart =>
          let (items, s) ← flowItems? handles true fuel s.drop
          some (.sequence anchor tag items, s)
      | some .flowMappingStart =>
          let (entries, s) ← flowEntries? handles true fuel s.drop
          some (.mapping anchor tag entries, s)
      | some .blockSequenceStart =>
          if block then
            let (items, s) ← items? handles fuel s.drop
            some (.sequence anchor tag items, s)
          else absent? anchor tag s
      | some .blockMappingStart =>
          if block then
            let (entries, s) ← entries? handles fuel s.drop
            some (.mapping anchor tag entries, s)
          else absent? anchor tag s
      | _ => absent? anchor tag s

/-- A node may be left out after its anchor or tag. -/
def absent? (anchor : Option Nat) (tag : Option String) (s : Building) :
    Option (Node × Building) :=
  if anchor.isSome || tag.isSome then some (.scalar anchor tag .plain "", s) else none

def nodeUnless? (handles : List (String × String)) (block bare : Bool) (ends : Token → Bool) :
    Nat → Building → Option (Node × Building)
  | 0, _ => none
  | fuel + 1, s =>
      if s.next?.any ends then some (Node.empty, s) else node? handles block bare fuel s

def items? (handles : List (String × String)) : Nat → Building → Option (List Node × Building)
  | 0, _ => none
  | fuel + 1, s => do
      match s.next? with
      | some .blockEntry =>
          let (item, s) ← nodeUnless? handles true false endsItem fuel s.drop
          let (items, s) ← items? handles fuel s
          some (item :: items, s)
      | some .blockEnd => some ([], s.drop)
      | _ => none

def bareItems? (handles : List (String × String)) :
    Nat → Building → Option (List Node × Building)
  | 0, _ => none
  | fuel + 1, s => do
      if s.next? == some .blockEntry then
        let ends := fun token => endsItem token || endsEntry token
        let (item, s) ← nodeUnless? handles true false ends fuel s.drop
        let (items, s) ← bareItems? handles fuel s
        some (item :: items, s)
      else some ([], s)

def entries? (handles : List (String × String)) :
    Nat → Building → Option (List (Node × Node) × Building)
  | 0, _ => none
  | fuel + 1, s => do
      match s.next? with
      | some .key =>
          let (key, s) ← nodeUnless? handles true true endsEntry fuel s.drop
          let (value, s) ←
            if s.next? == some .value then
              nodeUnless? handles true true endsEntry fuel s.drop
            else some (Node.empty, s)
          let (entries, s) ← entries? handles fuel s
          some ((key, value) :: entries, s)
      | some .blockEnd => some ([], s.drop)
      | _ => none

/-- The items of a flow sequence; an item with a key is a mapping of its own. -/
def flowItems? (handles : List (String × String)) (isFirst : Bool) :
    Nat → Building → Option (List Node × Building)
  | 0, _ => none
  | fuel + 1, s => do
      if s.next? == some .flowSequenceEnd then return ([], s.drop)
      let s ← flowComma? s isFirst
      match s.next? with
      | some .flowSequenceEnd => some ([], s.drop)
      | some .key =>
          let s := s.drop
          let (key, s) ←
            if s.next?.any fun token => token == .value || endsFlowItem token then
              some (Node.empty, s.drop)
            else node? handles false false fuel s
          let (value, s) ←
            if s.next? == some .value then
              nodeUnless? handles false false endsFlowItem fuel s.drop
            else some (Node.empty, s)
          let (items, s) ← flowItems? handles false fuel s
          some (.mapping none none [(key, value)] :: items, s)
      | _ =>
          let (item, s) ← node? handles false false fuel s
          let (items, s) ← flowItems? handles false fuel s
          some (item :: items, s)

def flowEntries? (handles : List (String × String)) (isFirst : Bool) :
    Nat → Building → Option (List (Node × Node) × Building)
  | 0, _ => none
  | fuel + 1, s => do
      if s.next? == some .flowMappingEnd then return ([], s.drop)
      let s ← flowComma? s isFirst
      match s.next? with
      | some .flowMappingEnd => some ([], s.drop)
      | some .key =>
          let ends := fun token => token == .value || endsFlowEntry token
          let (key, s) ← nodeUnless? handles false false ends fuel s.drop
          let (value, s) ←
            if s.next? == some .value then
              nodeUnless? handles false false endsFlowEntry fuel s.drop
            else some (Node.empty, s)
          let (entries, s) ← flowEntries? handles false fuel s
          some ((key, value) :: entries, s)
      | _ =>
          let (key, s) ← node? handles false false fuel s
          let (entries, s) ← flowEntries? handles false fuel s
          some ((key, .empty) :: entries, s)
end

end Building

def directives? : Bool → List (String × String) → List Token →
    Option (List (String × String) × List Token)
  | versioned, handles, .versionDirective major minor :: rest =>
      if versioned || major != 1 || (minor != 1 && minor != 2) then none
      else directives? true handles rest
  | versioned, handles, .tagDirective handle stem :: rest =>
      if (handles.lookup handle).isSome then none
      else directives? versioned ((handle, stem) :: handles) rest
  | _, handles, rest => some (handles, rest)

def defaultHandles : List (String × String) := [("!", "!"), ("!!", "tag:yaml.org,2002:")]

/-- The only document of a text; it may be empty. -/
def Document.ofTokens? (tokens : List Token) : Option Document := do
  let (handles, rest) ← directives? false [] tokens
  let root? (content : List Token) : Option (Node × Building) :=
    Building.node? (handles ++ defaultHandles) true false (4 * tokens.length + 8) ⟨content, []⟩
  let (root, s) ←
    match rest with
    | [] => if tokens.isEmpty then some (Node.empty, ⟨[], []⟩) else none
    | .documentStart :: content =>
        if content.all (· == .documentEnd) then some (Node.empty, ⟨[], []⟩) else root? content
    | content => if content.length = tokens.length then root? content else none
  if s.tokens.all (· == .documentEnd) then some (Document.ofRoot root) else none

def Document.ofText? (text : String) : Option Document := do
  Document.ofTokens? (← Token.ofText? text)

end AthenaModels.Yaml
