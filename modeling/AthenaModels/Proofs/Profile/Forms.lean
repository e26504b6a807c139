import AthenaModels.Proofs.Profile.Document

namespace AthenaModels

def Yaml.Document.output? (e : Yaml.Document) (name target : String) : Option Yaml.Node := do
  let entry ← e.child? e.root name
  let outputs ← e.child? entry "outputs"
  e.child? outputs target

namespace Profile

open Yaml

/-- A mapping is a document of its own, and the same one is an output in another document. -/
structure Copied (alone name target : String) (d e : Document) (entries : List (Node × Node)) :
    Prop where
  alone : Document.ofText? alone = some d
  shown : ∃ anchor tag, d.target? d.root = some (.mapping anchor tag entries)
  output : ∃ block, e.output? name target = some block ∧ Same d e d.root block
  kind : ∀ node kind, d.child? d.root "type" = some node → IsText d node kind → kind = "athena"

variable {alone whole name target : String} {d e : Document} {entries : List (Node × Node)}
variable {tree : Tree} {p : Profile}

theorem validated_iff {q : Profile} : q.validated = .ok p ↔ q = p ∧ p.validate = .ok () := by
  rw [validated]
  cases valid : q.validate with
  | error error =>
      refine ⟨nofun, ?_⟩
      rintro ⟨rfl, accepted⟩
      rw [valid] at accepted
      nomatch accepted
  | ok =>
      constructor
      · intro made
        obtain rfl := Except.ok.inj made
        exact ⟨rfl, valid⟩
      · rintro ⟨rfl, -⟩
        rfl

theorem readable_validated_iff {what : String} {read : Option Profile} :
    (do (← readable what read).validated) = .ok p ↔ read = some p ∧ p.validate = .ok () := by
  cases read with
  | none => exact ⟨nofun, nofun⟩
  | some q => exact validated_iff.trans (and_congr_left fun _ => Option.some_inj.symm)

theorem ofYaml_iff (read : Document.ofText? alone = some d) :
    ofYaml alone = .ok p ↔ read? (⟨d, d.root⟩ : Cursor) = some p ∧ p.validate = .ok () := by
  rw [ofYaml, Cursor.ofText?, read]
  exact readable_validated_iff

theorem ofOutputs_iff (stands : Stands e e.root tree) {block : Node}
    (output : e.output? name target = some block) : ∃ given, Stands e block given ∧
      ((∀ kind, (given.get? "type").bind Tree.text? = some kind → kind = "athena") →
        ∀ p, ofOutputs tree name (some target) = .ok p ↔
          read? given = some p ∧ p.validate = .ok ()) := by
  obtain ⟨entry, entryChild, output⟩ := Option.bind_eq_some_iff.mp output
  obtain ⟨outputs, outputsChild, output⟩ := Option.bind_eq_some_iff.mp output
  obtain ⟨entryTree, entryGot, entryStands⟩ := stands.get?_of_child? entryChild
  obtain ⟨outputsTree, outputsGot, outputsStands⟩ := entryStands.get?_of_child? outputsChild
  obtain ⟨given, got, givenStands⟩ := outputsStands.get?_of_child? output
  refine ⟨given, givenStands, fun kind p => ?_⟩
  have checked : ofOutputs.checkKind ((given.get? "type").bind Tree.text?) = .ok () := by
    cases found : (given.get? "type").bind Tree.text? with
    | none => rfl
    | some name => exact if_pos (kind name found)
  have found : (entryTree.get? "outputs").bind (·.get? target) = some given := by
    rw [outputsGot]
    exact got
  rw [ofOutputs, entryGot]
  simp only [bind, Except.bind, found, checked]
  exact readable_validated_iff

theorem ofProfilesYaml_iff (parsed : Document.ofText? whole = some e)
    (read : Tree.ofDocument? e = some tree) (copied : Copied alone name target d e entries) :
    ∃ given, Stands d d.root given ∧
      ∀ p, ofProfilesYaml whole name (some target) = .ok p ↔
        read? given = some p ∧ p.validate = .ok () := by
  obtain ⟨block, output, same⟩ := copied.output
  obtain ⟨given, stands, accepts⟩ := ofOutputs_iff (Tree.stands_of_ofDocument? read) output
  have stands := stands.of_same same
  refine ⟨given, stands, fun p => ?_⟩
  have text : Tree.ofText? whole = some tree := by
    rw [Tree.ofText?, parsed]
    exact read
  rw [ofProfilesYaml, text]
  refine accepts (fun kind found => ?_) p
  obtain ⟨typeTree, got, told⟩ := Option.bind_eq_some_iff.mp found
  obtain ⟨node, child, typeStands⟩ := stands.child?_of_get? got
  exact copied.kind node kind child (typeStands.isText told)

theorem ofProfilesYaml_unreadable (parsed : Document.ofText? whole = some e)
    (unread : Tree.ofDocument? e = none) (target? : Option String) :
    ofProfilesYaml whole name target? = .error (.parse "not a YAML document") := by
  have text : Tree.ofText? whole = none := by
    rw [Tree.ofText?, parsed]
    exact unread
  rw [ofProfilesYaml, text]
  rfl

theorem agree_iff_of_copied (parsed : Document.ofText? whole = some e)
    (copied : Copied alone name target d e entries) :
    (∀ p, ofYaml alone = .ok p ↔ ofProfilesYaml whole name (some target) = .ok p) ↔
      ((∃ p, ofYaml alone = .ok p ∨ ofProfilesYaml whole name (some target) = .ok p) →
        (Tree.ofDocument? e).isSome = true ∧ Plain d entries) := by
  obtain ⟨anchor, tag, shown⟩ := copied.shown
  cases read : Tree.ofDocument? e with
  | none =>
      have refused : ofProfilesYaml whole name (some target) = _ :=
        ofProfilesYaml_unreadable parsed read (some target)
      simp [refused]
  | some tree =>
      obtain ⟨given, stands, accepts⟩ := ofProfilesYaml_iff parsed read copied
      obtain ⟨values, parts, rfl⟩ := stands.of_mapping shown
      simp only [ofYaml_iff copied.alone, accepts, Option.isSome_some, true_and]
      constructor
      · rintro same ⟨p, accepted⟩
        have both := or_iff_left_of_imp (same p).mpr |>.mp accepted
        exact plain_of_read? shown parts both.1 ((same p).mp both).1
      · intro plain p
        by_cases accepted : ∃ p, (read? (⟨d, d.root⟩ : Cursor) = some p ∧ p.validate = .ok ()) ∨
          read? (Tree.withTag tag (.mapping values)) = some p ∧ p.validate = .ok ()
        · rw [read?_eq_of_plain shown parts (plain accepted)]
        · exact ⟨fun made => absurd ⟨p, .inl made⟩ accepted,
            fun made => absurd ⟨p, .inr made⟩ accepted⟩

theorem ofProfilesYaml_default {entry node : Node} (parsed : Document.ofText? whole = some e)
    (entryChild : e.child? e.root name = some entry)
    (targetChild : e.child? entry "target" = some node) (isText : IsText e node target) :
    ofProfilesYaml whole name none = ofProfilesYaml whole name (some target) := by
  cases made : Tree.ofDocument? e with
  | none => rw [ofProfilesYaml_unreadable parsed made, ofProfilesYaml_unreadable parsed made]
  | some tree =>
      obtain ⟨entryTree, entryGot, entryStands⟩ :=
        (Tree.stands_of_ofDocument? made).get?_of_child? entryChild
      obtain ⟨targetTree, targetGot, targetStands⟩ := entryStands.get?_of_child? targetChild
      have told : (entryTree.get? "target").bind Tree.text? = some target := by
        rw [targetGot]
        exact isText.tree_text? targetStands
      have text : Tree.ofText? whole = some tree := by
        rw [Tree.ofText?, parsed]
        exact made
      rw [ofProfilesYaml, ofProfilesYaml, text]
      change ofOutputs tree name none = ofOutputs tree name (some target)
      rw [ofOutputs, ofOutputs, entryGot]
      simp only [told, ofOutputs.needed]

/-- The two forms of a block agree if it is plain, and otherwise only where both refuse it. -/
theorem forms_agree_iff_plain (parsed : Document.ofText? whole = some e) :
    (∀ alone target d entries, Copied alone name target d e entries →
      ((∀ p, ofYaml alone = .ok p ↔ ofProfilesYaml whole name (some target) = .ok p) ↔
        ((∃ p, ofYaml alone = .ok p ∨ ofProfilesYaml whole name (some target) = .ok p) →
          (Tree.ofDocument? e).isSome = true ∧ Plain d entries))) ∧
    ∀ target entry node, e.child? e.root name = some entry →
      e.child? entry "target" = some node → IsText e node target →
        ofProfilesYaml whole name none = ofProfilesYaml whole name (some target) :=
  ⟨fun _ _ _ _ => agree_iff_of_copied parsed, fun _ _ _ => ofProfilesYaml_default parsed⟩

def plainScalar (text : String) : Node := .scalar none none .plain text

def catalogEntries (catalog : String) : List (Node × Node) :=
  [(plainScalar "s3_staging_dir", plainScalar "s3://lake/"),
    (plainScalar "region_name", plainScalar "eu-west-1"),
    (plainScalar "schema", plainScalar "core"), (plainScalar "database", plainScalar catalog),
    (plainScalar "type", plainScalar "athena")]

def catalogBlock (catalog : String) : Document :=
  .ofRoot (.mapping none none (catalogEntries catalog))

def catalogEntry (catalog : String) : Node :=
  .mapping none none [(plainScalar "target", plainScalar "prod"),
    (plainScalar "outputs", .mapping none none
      [(plainScalar "prod", .mapping none none (catalogEntries catalog))])]

def catalogOutputs (catalog : String) : Document :=
  .ofRoot (.mapping none none [(plainScalar "shop", catalogEntry catalog)])

def catalogText (catalog : String) : String :=
  "\x7bs3_staging_dir: s3://lake/, region_name: eu-west-1, schema: core, database: " ++ catalog ++
    ", type: athena\x7d"

def catalogOutputsText (catalog : String) : String :=
  "\x7bshop: \x7btarget: prod, outputs: \x7bprod: " ++ catalogText catalog ++ "\x7d\x7d\x7d"

theorem copied_catalog {catalog : String}
    (alone : Document.ofText? (catalogText catalog) = some (catalogBlock catalog)) :
    Copied (catalogText catalog) "shop" "prod" (catalogBlock catalog) (catalogOutputs catalog)
      (catalogEntries catalog) where
  alone := alone
  shown := ⟨none, none, rfl⟩
  output := ⟨_, rfl, same_of_slots (fun _ => rfl) _⟩
  kind node kind child isText := by
    obtain rfl : plainScalar "athena" = node := Option.some_inj.mp child
    exact (Option.some_inj.mp isText.cursor_text?).symm

theorem forms_agree_iff_plain_text :
    Document.ofText? (catalogOutputsText "sales") = some (catalogOutputs "sales") ∧
    Plain (catalogBlock "sales") (catalogEntries "sales") ∧
    ofProfilesYaml (catalogOutputsText "sales") "shop" none =
      ofProfilesYaml (catalogOutputsText "sales") "shop" (some "prod") := by
  have alone : Document.ofText? (catalogText "sales") = some (catalogBlock "sales") := by
    decide +kernel
  have parsed : Document.ofText? (catalogOutputsText "sales") = some (catalogOutputs "sales") := by
    decide +kernel
  have taken : ofYaml (catalogText "sales") =
      .ok (ofRequired "s3://lake/" "eu-west-1" "core" "sales") := by
    rw [ofYaml, Cursor.ofText?, alone]
    decide +kernel
  have taken' : ofProfilesYaml (catalogOutputsText "sales") "shop" (some "prod") =
      .ok (ofRequired "s3://lake/" "eu-west-1" "core" "sales") := by
    rw [ofProfilesYaml, Tree.ofText?, parsed]
    decide +kernel
  have agreed := ((forms_agree_iff_plain parsed).1 _ _ _ _ (copied_catalog alone)).mp fun p => by
    rw [taken, taken']
  refine ⟨parsed, (agreed ⟨_, .inl taken⟩).2, ?_⟩
  exact (forms_agree_iff_plain parsed).2 "prod" (catalogEntry "sales") (plainScalar "prod") rfl rfl
    ⟨none, none, .plain, rfl, rfl⟩

/-- A catalog of digits is a text in place and a number in a tree. -/
theorem forms_differ_on_number :
    Document.ofText? (catalogOutputsText "123") = some (catalogOutputs "123") ∧
    Copied (catalogText "123") "shop" "prod" (catalogBlock "123") (catalogOutputs "123")
      (catalogEntries "123") ∧
    ofYaml (catalogText "123") = .ok (ofRequired "s3://lake/" "eu-west-1" "core" "123") ∧
    ofProfilesYaml (catalogOutputsText "123") "shop" (some "prod") =
      .error (.parse "not a connection profile") := by
  have alone : Document.ofText? (catalogText "123") = some (catalogBlock "123") := by
    decide +kernel
  have parsed : Document.ofText? (catalogOutputsText "123") = some (catalogOutputs "123") := by
    decide +kernel
  refine ⟨parsed, copied_catalog alone, ?_, ?_⟩
  · rw [ofYaml, Cursor.ofText?, alone]
    decide +kernel
  · rw [ofProfilesYaml, Tree.ofText?, parsed]
    decide +kernel

end Profile
end AthenaModels
