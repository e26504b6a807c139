import AthenaModels.Profile.Document
import AthenaModels.Proofs.Source.Members
import AthenaModels.Proofs.Yaml.Readings

namespace AthenaModels.Profile

open Yaml

/-- The parts of a record that make a profile. -/
@[mk_iff]
structure Made {V : Type} [Source V] (members : Members V) (p : Profile) : Prop where
  stagingDir : members.required 0 ["s3_staging_dir"] Source.text? = some p.stagingDir
  region : members.required 1 ["region_name"] Source.text? = some p.region
  schema : members.required 2 ["schema"] Source.text? = some p.schema
  database : members.required 3 ["database", "catalog"] Source.text? = some p.database
  pollInterval : members.defaulted 4 ["poll_interval"] (Source.below? (Nat.pow 2 64))
    defaultPollInterval = some p.pollInterval
  credentials : members.defaulted 5 ["aws_profile_name"] (Source.option? Source.text?) none =
    some p.credentials
  workGroup : members.defaulted 6 ["work_group"] (Source.option? Source.text?) none =
    some p.workGroup
  retries : members.defaulted 7 ["num_retries"] (Source.below? (Nat.pow 2 32)) defaultRetries =
    some p.retries
  timeout : members.defaulted 8 ["query_timeout"]
    (Source.option? (Source.below? (Nat.pow 2 64))) none = some p.timeout
  dataDir : members.defaulted 9 ["s3_data_dir"] (Source.option? Source.text?) none =
    some p.dataDir?

theorem read?_named_iff {V : Type} [Source V] {value : V} {parts : List (String × V)} {p : Profile}
    (named : Source.members? value = some (.named parts)) :
    read? value = some p ↔ Made (.named parts) p := by
  rw [read?, named]
  constructor
  · intro read
    simp only [Members.fits, Option.bind_eq_bind, Option.bind_some, Option.bind_eq_some_iff] at read
    obtain ⟨_, stagingDir, _, region, _, schema, _, database, _, pollInterval, _, credentials, _,
      workGroup, _, retries, _, timeout, _, dataDir, made⟩ := read
    obtain rfl := Option.some_inj.mp made
    exact ⟨stagingDir, region, schema, database, pollInterval, credentials, workGroup, retries,
      timeout, dataDir⟩
  · rintro ⟨stagingDir, region, schema, database, pollInterval, credentials, workGroup, retries,
      timeout, dataDir⟩
    simp only [stagingDir, region, schema, database, pollInterval, credentials, workGroup, retries,
      timeout, dataDir, Members.fits, Option.bind_eq_bind, Option.bind_some]

def textKeys : List String := ["s3_staging_dir", "region_name", "schema", "database", "catalog"]

def choiceKeys : List String := ["aws_profile_name", "work_group", "s3_data_dir"]

/-- A value that is of the kind its key asks for, whichever way it is read. -/
structure Fits (d : Document) (key : String) (node : Node) : Prop where
  text : key ∈ textKeys → ∃ text, IsText d node text
  choice : key ∈ choiceKeys → IsNull d node ∨ ∃ text, IsText d node text
  pollInterval : key ∈ ["poll_interval"] → IsNumber d (Nat.pow 2 64) node
  retries : key ∈ ["num_retries"] → IsNumber d (Nat.pow 2 32) node
  timeout : key ∈ ["query_timeout"] → IsNull d node ∨ IsNumber d (Nat.pow 2 64) node

structure Plain (d : Document) (entries : List (Node × Node)) : Prop where
  keys : ∀ entry ∈ entries, ∃ key, IsText d entry.1 key
  values : ∀ entry ∈ entries, ∀ key, IsText d entry.1 key → Fits d key entry.2

variable {d e : Document} {anchor : Option Nat} {tag : Option String} {node : Node}
variable {entries : List (Node × Node)} {values : List (Tree × Tree)} {p : Profile}

theorem agree_choice_iff {tree : Tree} (stands : Stands d node tree) :
    Agree (Source.option? Source.text?) (Source.option? Source.text?) d node tree ↔
      IsNull d node ∨ ∃ text, IsText d node text := by
  rw [agree_option_iff rfl stands, agree_text_iff stands]

theorem agree_timeout_iff {tree : Tree} {limit : Nat} (stands : Stands d node tree) :
    Agree (Source.option? (Source.below? limit)) (Source.option? (Source.below? limit)) d node
      tree ↔ IsNull d node ∨ IsNumber d limit node := by
  rw [agree_option_iff rfl stands, agree_number_iff stands]

section Parts

variable {α : Type} {named : List (String × Node × Tree)} {names : List String}
variable {read : Cursor → Option α} {read' : Tree → Option α}

theorem related_of_agree
    (agree : ∀ part ∈ named, part.1 ∈ names → Agree read read' d part.2.1 part.2.2) :
    List.Forall₂ (Members.Related (fun cursor tree => read cursor = read' tree) names)
      (cursors d named) (trees named) := by
  rw [cursors, trees, List.forall₂_map_left_iff, List.forall₂_map_right_iff, List.forall₂_same]
  intro part mem
  refine ⟨rfl, fun name => ?_⟩
  obtain ⟨value, inPlace, inTree⟩ := agree part mem name
  exact inPlace.trans inTree.symm

variable {part : String × Node × Tree} {position : Nat} {value otherwise : α}

theorem agree_of_required (mem : part ∈ named) (name : part.1 ∈ names)
    (inPlace : (Members.named (cursors d named)).required position names read = some value)
    (inTree : (Members.named (trees named)).required position names read' = some value) :
    Agree read read' d part.2.1 part.2.2 :=
  ⟨value, Members.read_of_required (List.mem_map_of_mem mem) name inPlace,
    Members.read_of_required (List.mem_map_of_mem mem) name inTree⟩

theorem agree_of_defaulted (mem : part ∈ named) (name : part.1 ∈ names)
    (inPlace : (Members.named (cursors d named)).defaulted position names read otherwise =
      some value)
    (inTree : (Members.named (trees named)).defaulted position names read' otherwise =
      some value) :
    Agree read read' d part.2.1 part.2.2 :=
  ⟨value, Members.read_of_defaulted (List.mem_map_of_mem mem) name inPlace,
    Members.read_of_defaulted (List.mem_map_of_mem mem) name inTree⟩

end Parts

theorem read?_eq_of_plain (shown : d.target? node = some (.mapping anchor tag entries))
    (parts : List.Forall₂ (Entrywise (Stands d)) entries values) (plain : Plain d entries) :
    read? (⟨d, node⟩ : Cursor) = read? (Tree.withTag tag (.mapping values)) := by
  obtain ⟨named, ⟨-, given, stand⟩, inPlace, inTree⟩ := members?_of_isText shown parts plain.keys
  have fits : ∀ part ∈ named, Fits d part.1 part.2.1 := by
    intro part mem
    obtain ⟨entry, mem, isText, same⟩ := given part mem
    rw [same]
    exact plain.values entry mem part.1 isText
  have texts {names : List String} (known : names ⊆ textKeys) :=
    related_of_agree fun part mem name =>
      (agree_text_iff (stand part mem)).mpr ((fits part mem).text (known name))
  have choices {names : List String} (known : names ⊆ choiceKeys) :=
    related_of_agree fun part mem name =>
      (agree_choice_iff (stand part mem)).mpr ((fits part mem).choice (known name))
  have pollIntervals := related_of_agree fun part mem name =>
    (agree_number_iff (stand part mem)).mpr ((fits part mem).pollInterval name)
  have retries := related_of_agree fun part mem name =>
    (agree_number_iff (stand part mem)).mpr ((fits part mem).retries name)
  have timeouts := related_of_agree fun part mem name =>
    (agree_timeout_iff (stand part mem)).mpr ((fits part mem).timeout name)
  refine Option.ext fun p => ?_
  rw [read?_named_iff inPlace, read?_named_iff inTree, made_iff, made_iff,
    Members.required_congr (texts (by decide)), Members.required_congr (texts (by decide)),
    Members.required_congr (texts (by decide)), Members.required_congr (texts (by decide)),
    Members.defaulted_congr pollIntervals, Members.defaulted_congr (choices (by decide)),
    Members.defaulted_congr (choices (by decide)), Members.defaulted_congr retries,
    Members.defaulted_congr timeouts, Members.defaulted_congr (choices (by decide))]

theorem plain_of_read? (shown : d.target? node = some (.mapping anchor tag entries))
    (parts : List.Forall₂ (Entrywise (Stands d)) entries values)
    (inPlace : read? (⟨d, node⟩ : Cursor) = some p)
    (inTree : read? (Tree.withTag tag (.mapping values)) = some p) : Plain d entries := by
  have keys : ∀ entry ∈ entries, ∃ key, IsText d entry.1 key := by
    obtain ⟨members, read, -⟩ := Option.bind_eq_some_iff.mp inTree
    exact isText_of_members? parts read
  refine ⟨keys, fun entry mem key isText => ?_⟩
  obtain ⟨named, ⟨listed, -, stand⟩, members, members'⟩ := members?_of_isText shown parts keys
  have made := (read?_named_iff members).mp inPlace
  have made' := (read?_named_iff members').mp inTree
  obtain ⟨part, mem, isText', same⟩ := listed entry mem
  obtain rfl : part.1 = key :=
    Option.some_inj.mp (isText'.cursor_text?.symm.trans isText.cursor_text?)
  rw [← same]
  have stands := stand part mem
  constructor
  · intro name
    refine (agree_text_iff stands).mp ?_
    simp only [textKeys, List.mem_cons, List.not_mem_nil, or_false] at name
    obtain name | name | name | name | name := name
    · exact agree_of_required mem (by simp [name]) made.stagingDir made'.stagingDir
    · exact agree_of_required mem (by simp [name]) made.region made'.region
    · exact agree_of_required mem (by simp [name]) made.schema made'.schema
    · exact agree_of_required mem (by simp [name]) made.database made'.database
    · exact agree_of_required mem (by simp [name]) made.database made'.database
  · intro name
    refine (agree_choice_iff stands).mp ?_
    simp only [choiceKeys, List.mem_cons, List.not_mem_nil, or_false] at name
    obtain name | name | name := name
    · exact agree_of_defaulted mem (by simp [name]) made.credentials made'.credentials
    · exact agree_of_defaulted mem (by simp [name]) made.workGroup made'.workGroup
    · exact agree_of_defaulted mem (by simp [name]) made.dataDir made'.dataDir
  · intro name
    exact (agree_number_iff stands).mp
      (agree_of_defaulted mem name made.pollInterval made'.pollInterval)
  · intro name
    exact (agree_number_iff stands).mp (agree_of_defaulted mem name made.retries made'.retries)
  · intro name
    exact (agree_timeout_iff stands).mp (agree_of_defaulted mem name made.timeout made'.timeout)

end AthenaModels.Profile
