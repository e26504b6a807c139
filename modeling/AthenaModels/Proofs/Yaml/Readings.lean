import AthenaModels.Proofs.Yaml.Trees
import AthenaModels.Yaml.Cursor

namespace AthenaModels.Yaml

/-- The node is a text in itself, and not only a scalar with that text. -/
def IsText (d : Document) (node : Node) (text : String) : Prop :=
  ∃ anchor tag style, d.target? node = some (.scalar anchor tag style text) ∧
    Atom.ofScalar? tag style text = some (.text text)

/-- The node is there to say that there is none. -/
inductive IsNull (d : Document) (node : Node) : Prop
  | absent {anchor : Option Nat} {text : String}
      (shown : d.target? node = some (.scalar anchor none .plain text))
      (absent : Cursor.isAbsent .plain text = true)
  | word {anchor : Option Nat} {text : String}
      (shown : d.target? node = some (.scalar anchor (some (Atom.coreTag "null")) .plain text))
      (word : Atom.isNullWord text = true)

def IsNumber (d : Document) (limit : Nat) (node : Node) : Prop :=
  ∃ anchor tag style text n, d.target? node = some (.scalar anchor tag style text) ∧
    Atom.Counts tag style text n ∧ n < limit

variable {d : Document} {node : Node} {tree : Tree} {α : Type} {limit : Nat}
variable {anchor : Option Nat} {tag : Option String} {style : Style} {text : String} {atom : Atom}

/-- Two readers give the same, one of a node in place and one of its tree. -/
def Agree (read : Cursor → Option α) (read' : Tree → Option α) (d : Document) (node : Node)
    (tree : Tree) : Prop :=
  ∃ value, read ⟨d, node⟩ = some value ∧ read' tree = some value

theorem Stands.of_scalar (stands : Stands d node tree)
    (shown : d.target? node = some (.scalar anchor tag style text)) :
    ∃ atom, Atom.ofScalar? tag style text = some atom ∧ tree = Tree.withTag tag (.atom atom) := by
  cases stands.shows with
  | scalar shown' resolved =>
      obtain ⟨rfl, rfl, rfl, rfl⟩ := by simpa [shown] using shown'
      exact ⟨_, resolved, rfl⟩
  | sequence shown' _ => simp [shown] at shown'
  | mapping shown' _ => simp [shown] at shown'

theorem Stands.of_mapping {entries : List (Node × Node)} (stands : Stands d node tree)
    (shown : d.target? node = some (.mapping anchor tag entries)) :
    ∃ values, List.Forall₂ (Entrywise (Stands d)) entries values ∧
      tree = Tree.withTag tag (.mapping values) := by
  cases stands.shows with
  | scalar shown' _ => simp [shown] at shown'
  | sequence shown' _ => simp [shown] at shown'
  | mapping shown' parts =>
      obtain ⟨rfl, rfl, rfl⟩ := by simpa [shown] using shown'
      exact ⟨_, parts, rfl⟩

theorem Stands.of_atom (stands : Stands d node tree) (content : tree.untagged = .atom atom) :
    ∃ anchor tag style text, d.target? node = some (.scalar anchor tag style text) ∧
      Atom.ofScalar? tag style text = some atom := by
  cases stands.shows with
  | scalar shown resolved =>
      rw [Tree.untagged_withTag] at content
      obtain rfl := Tree.atom.inj content
      exact ⟨_, _, _, _, shown, resolved⟩
  | sequence _ _ =>
      rw [Tree.untagged_withTag] at content
      nomatch content
  | mapping _ _ =>
      rw [Tree.untagged_withTag] at content
      nomatch content

theorem tree_text?_iff : tree.text? = some text ↔ tree.untagged = .atom (.text text) := by
  rw [Tree.text?]
  split <;> simp_all

theorem Stands.isText (stands : Stands d node tree) (read : tree.text? = some text) :
    IsText d node text := by
  obtain ⟨anchor, tag, style, text', shown, resolved⟩ := stands.of_atom (tree_text?_iff.mp read)
  obtain rfl := Atom.eq_of_ofScalar? resolved
  exact ⟨anchor, tag, style, shown, resolved⟩

theorem IsText.cursor_text? (isText : IsText d node text) : Cursor.text? ⟨d, node⟩ = some text := by
  obtain ⟨anchor, tag, style, shown, -⟩ := isText
  rw [Cursor.text?, Cursor.target?, shown]
  rfl

theorem IsText.tree_text? (isText : IsText d node text) (stands : Stands d node tree) :
    tree.text? = some text := by
  obtain ⟨anchor, tag, style, shown, resolved⟩ := isText
  obtain ⟨atom, resolved', rfl⟩ := stands.of_scalar shown
  obtain rfl : atom = .text text := by simpa [resolved] using resolved'.symm
  exact tree_text?_iff.mpr (Tree.untagged_withTag _ _)

theorem agree_text_iff (stands : Stands d node tree) :
    Agree Source.text? Source.text? d node tree ↔ ∃ text, IsText d node text :=
  ⟨fun ⟨text, _, inTree⟩ => ⟨text, stands.isText inTree⟩,
    fun ⟨text, isText⟩ => ⟨text, isText.cursor_text?, isText.tree_text? stands⟩⟩

theorem tree_below?_iff {n : Nat} :
    Source.below? limit tree = some n ↔ tree.untagged = .atom (.natural n) ∧ n < limit := by
  rw [Source.below?, Option.filter_eq_some_iff, decide_eq_true_eq]
  refine and_congr_left fun _ => ?_
  dsimp only [Source.natural?]
  split <;> simp_all

theorem cursor_below?_iff {n : Nat}
    (shown : d.target? node = some (.scalar anchor tag style text)) :
    Source.below? limit (⟨d, node⟩ : Cursor) = some n ↔
      (style = .plain ∨ style = .literal ∧ tag = some (Atom.coreTag "int")) ∧
        Atom.natural? (Nat.pow 2 64) text = some n ∧ n < limit := by
  have read : Source.natural? (⟨d, node⟩ : Cursor) =
      if style == .plain || (style == .literal && tag == some (Atom.coreTag "int")) then
        Atom.natural? (Nat.pow 2 64) text
      else none := by
    change Cursor.natural? ⟨d, node⟩ = _
    rw [Cursor.natural?, Cursor.target?, shown]
    rfl
  rw [Source.below?, read, Option.filter_eq_some_iff, decide_eq_true_eq, ← and_assoc]
  refine and_congr_left fun _ => ?_
  split
  · rename_i place
    simp only [Bool.or_eq_true, Bool.and_eq_true, beq_iff_eq] at place
    exact (and_iff_right place).symm
  · rename_i misplaced
    simp only [Bool.or_eq_true, Bool.and_eq_true, beq_iff_eq] at misplaced
    exact ⟨nofun, fun read => absurd read.1 misplaced⟩

theorem agree_number_iff (stands : Stands d node tree) :
    Agree (Source.below? limit) (Source.below? limit) d node tree ↔ IsNumber d limit node := by
  constructor
  · rintro ⟨n, read, read'⟩
    obtain ⟨anchor, tag, style, text, shown, resolved⟩ :=
      stands.of_atom (tree_below?_iff.mp read').1
    obtain ⟨place, digits, small⟩ := (cursor_below?_iff shown).mp read
    exact ⟨anchor, tag, style, text, n, shown,
      Atom.counts_of_ofScalar? place digits resolved, small⟩
  · rintro ⟨anchor, tag, style, text, n, shown, counts, small⟩
    obtain ⟨atom, resolved, rfl⟩ := stands.of_scalar shown
    obtain rfl : atom = .natural n := by simpa [counts.ofScalar?] using resolved.symm
    have place : style = .plain ∨ style = .literal ∧ tag = some (Atom.coreTag "int") := by
      obtain ⟨plain, -⟩ | ⟨named, plain | literal⟩ := counts.kind
      · exact .inl plain
      · exact .inl plain
      · exact .inr ⟨literal, named⟩
    exact ⟨n, (cursor_below?_iff shown).mpr ⟨place, counts.digits, small⟩,
      tree_below?_iff.mpr ⟨Tree.untagged_withTag _ _, small⟩⟩

theorem IsNull.optional? (none : IsNull d node) :
    Cursor.optional? ⟨d, node⟩ = some .none := by
  rw [Cursor.optional?, Cursor.target?]
  cases none with
  | absent shown absent =>
      rw [shown]
      simp [absent]
  | word shown word =>
      rw [shown]
      simp [word]

theorem IsNull.eq_null (none : IsNull d node) (stands : Stands d node tree) :
    tree = .atom .null := by
  cases none with
  | @absent _ text shown absent =>
      obtain ⟨atom, resolved, rfl⟩ := stands.of_scalar shown
      have null : Atom.ofPlain? text = some .null := if_pos absent
      obtain rfl : atom = .null := by simpa [Atom.ofScalar?, null] using resolved.symm
      rfl
  | word shown word =>
      obtain ⟨atom, resolved, rfl⟩ := stands.of_scalar shown
      obtain rfl : atom = .null := by simpa [Atom.ofScalar?_null, word] using resolved.symm
      rfl

theorem optional?_cases (stands : Stands d node tree) :
    IsNull d node ∨ Cursor.optional? ⟨d, node⟩ = some (some ⟨d, node⟩) := by
  rw [Cursor.optional?, Cursor.target?]
  cases stands.shows with
  | @scalar anchor tag style text atom shown resolved =>
      rw [shown]
      cases style with
      | plain =>
          simp only [Option.bind_eq_bind, Option.bind_some]
          split
          · rename_i named
            obtain rfl := eq_of_beq named
            rw [Atom.ofScalar?_null] at resolved
            split at resolved
            · rename_i word
              exact .inl (.word shown word)
            · nomatch resolved
          · split
            · rename_i absent
              obtain ⟨untagged, absent⟩ := Bool.and_eq_true_iff.mp absent
              obtain rfl := Option.isNone_iff_eq_none.mp untagged
              exact .inl (.absent shown absent)
            · exact .inr rfl
      | _ => exact .inr rfl
  | sequence shown _ =>
      rw [shown]
      exact .inr rfl
  | mapping shown _ =>
      rw [shown]
      exact .inr rfl

theorem tree_optional? (given : tree ≠ .atom .null) : Source.optional? tree = some (some tree) := by
  dsimp only [Source.optional?]
  split
  · exact absurd rfl given
  · rfl

theorem agree_option_iff {read : Cursor → Option α} {read' : Tree → Option α}
    (strict : read' (.atom .null) = none) (stands : Stands d node tree) :
    Agree (Source.option? read) (Source.option? read') d node tree ↔
      IsNull d node ∨ Agree read read' d node tree := by
  constructor
  · rintro ⟨value?, inPlace, inTree⟩
    refine (optional?_cases stands).imp_right fun present => ?_
    -- What is there in place is there in the tree, or the two would differ.
    obtain ⟨value, given, rfl⟩ : ∃ value, read ⟨d, node⟩ = some value ∧ some value = value? := by
      simpa [Source.option?, Source.optional?, present] using inPlace
    have nonnull : tree ≠ .atom .null := by
      rintro rfl
      simp [Source.option?, Source.optional?] at inTree
    exact ⟨value, given, by simpa [Source.option?, tree_optional? nonnull] using inTree⟩
  · rintro (none | ⟨value, inPlace, inTree⟩)
    · obtain rfl := none.eq_null stands
      refine ⟨.none, ?_, rfl⟩
      rw [Source.option?]
      change (Cursor.optional? ⟨d, node⟩).bind _ = _
      rw [none.optional?]
      rfl
    · have nonnull : tree ≠ .atom .null := by
        rintro rfl
        simp [strict] at inTree
      have present := (optional?_cases stands).resolve_left fun none =>
        nonnull (none.eq_null stands)
      refine ⟨some value, ?_, ?_⟩
      · simp [Source.option?, Source.optional?, present, inPlace]
      · simp [Source.option?, tree_optional? nonnull, inTree]

structure Named (d : Document) (entries : List (Node × Node))
    (parts : List (String × Node × Tree)) : Prop where
  listed : ∀ entry ∈ entries, ∃ part ∈ parts, IsText d entry.1 part.1 ∧ part.2.1 = entry.2
  given : ∀ part ∈ parts, ∃ entry ∈ entries, IsText d entry.1 part.1 ∧ part.2.1 = entry.2
  stand : ∀ part ∈ parts, Stands d part.2.1 part.2.2

def cursors (d : Document) (parts : List (String × Node × Tree)) : List (String × Cursor) :=
  parts.map fun part => (part.1, ⟨d, part.2.1⟩)

def trees (parts : List (String × Node × Tree)) : List (String × Tree) :=
  parts.map fun part => (part.1, part.2.2)

section Mapping

variable {entries : List (Node × Node)} {values : List (Tree × Tree)}

theorem named_of_isText (parts : List.Forall₂ (Entrywise (Stands d)) entries values)
    (keys : ∀ entry ∈ entries, ∃ name, IsText d entry.1 name) :
    ∃ named, Named d entries named ∧
      (entries.mapM fun entry => (Cursor.text? ⟨d, entry.1⟩).map fun name =>
        (name, (⟨d, entry.2⟩ : Cursor))) = some (cursors d named) ∧
      (values.mapM fun entry => entry.1.text?.map fun name => (name, entry.2)) =
        some (trees named) := by
  induction parts with
  | nil => exact ⟨[], ⟨by simp, by simp, by simp⟩, rfl, rfl⟩
  | @cons entry value entries values first _ ih =>
      obtain ⟨⟨name, isText⟩, keys⟩ := List.forall_mem_cons.mp keys
      obtain ⟨named, ⟨listed, given, stand⟩, inPlace, inTree⟩ := ih keys
      obtain ⟨keyStands, valueStands⟩ := first
      refine ⟨(name, _, _) :: named, ⟨?_, ?_, List.forall_mem_cons.mpr ⟨valueStands, stand⟩⟩,
        ?_, ?_⟩
      · refine List.forall_mem_cons.mpr ⟨⟨_, List.mem_cons_self, isText, rfl⟩, fun entry mem => ?_⟩
        obtain ⟨part, mem, told⟩ := listed entry mem
        exact ⟨part, List.mem_cons_of_mem _ mem, told⟩
      · refine List.forall_mem_cons.mpr ⟨⟨_, List.mem_cons_self, isText, rfl⟩, fun part mem => ?_⟩
        obtain ⟨entry, mem, told⟩ := given part mem
        exact ⟨entry, List.mem_cons_of_mem _ mem, told⟩
      · simp [List.mapM_cons, cursors, inPlace, isText.cursor_text?]
      · simp [List.mapM_cons, trees, inTree, isText.tree_text? keyStands]

theorem isText_of_mapM {members : List (String × Tree)}
    (parts : List.Forall₂ (Entrywise (Stands d)) entries values)
    (read : (values.mapM fun entry => entry.1.text?.map fun name => (name, entry.2)) =
      some members) : ∀ entry ∈ entries, ∃ name, IsText d entry.1 name := by
  induction parts generalizing members with
  | nil => simp
  | @cons entry value entries values first _ ih =>
      obtain ⟨keyStands, -⟩ := first
      rw [List.mapM_cons] at read
      obtain ⟨member, firstRead, read⟩ := Option.bind_eq_some_iff.mp read
      obtain ⟨rest, restRead, -⟩ := Option.bind_eq_some_iff.mp read
      obtain ⟨name, isText, -⟩ := Option.map_eq_some_iff.mp firstRead
      exact List.forall_mem_cons.mpr ⟨⟨name, keyStands.isText isText⟩, ih restRead⟩

theorem cursor_members? (shown : d.target? node = some (.mapping anchor tag entries)) :
    Cursor.members? ⟨d, node⟩ = (entries.mapM fun entry =>
      (Cursor.text? ⟨d, entry.1⟩).map fun name => (name, (⟨d, entry.2⟩ : Cursor))).map .named := by
  rw [Cursor.members?, Cursor.target?, shown, Option.map_eq_bind]
  simp only [Option.bind_eq_bind, Option.bind_some, Option.map_eq_bind]
  rfl

theorem tree_members? : (Tree.withTag tag (.mapping values)).members? =
    (values.mapM fun entry : Tree × Tree => entry.1.text?.map fun name => (name, entry.2)).map
      .named := by
  rw [Tree.members?, Tree.untagged_withTag, Option.map_eq_bind]
  rfl

theorem members?_of_isText (shown : d.target? node = some (.mapping anchor tag entries))
    (parts : List.Forall₂ (Entrywise (Stands d)) entries values)
    (keys : ∀ entry ∈ entries, ∃ name, IsText d entry.1 name) :
    ∃ named, Named d entries named ∧
      Source.members? (⟨d, node⟩ : Cursor) = some (.named (cursors d named)) ∧
      Source.members? (Tree.withTag tag (.mapping values)) = some (.named (trees named)) := by
  obtain ⟨named, given, inPlace, inTree⟩ := named_of_isText parts keys
  exact ⟨named, given, (cursor_members? shown).trans (congrArg (Option.map Members.named) inPlace),
    tree_members?.trans (congrArg (Option.map Members.named) inTree)⟩

theorem isText_of_members? {members : Members Tree}
    (parts : List.Forall₂ (Entrywise (Stands d)) entries values)
    (read : Source.members? (Tree.withTag tag (.mapping values)) = some members) :
    ∀ entry ∈ entries, ∃ name, IsText d entry.1 name := by
  obtain ⟨names, read, -⟩ := Option.map_eq_some_iff.mp (tree_members?.symm.trans read)
  exact isText_of_mapM parts read

end Mapping

end AthenaModels.Yaml
