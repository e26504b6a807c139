import AthenaModels.Proofs.Client.Fetching

namespace AthenaModels

open Program

namespace Page

variable {first : Page} {others : List Page} {metadata : Metadata} {result : Result}

def rowsOf (first : Page) (others : List Page) : List Row :=
  first.rows ++ others.flatMap (·.rows)

/-- Nothing was updated, and the first row has the labels for values, whatever it is meant to be. -/
def Echoes (page : Page) : Prop :=
  page.updateCount = none ∧ ∃ row rows, page.rows = row :: rows ∧ Labels page.columns row

structure HandsOn (first : Page) (others : List Page) (result : Result) : Prop where
  columns : result.columns = first.columns
  all_iff : result.rows = rowsOf first others ↔ ¬ first.Echoes
  echo : first.Echoes → result.rows = (rowsOf first others).tail

theorem handsOn_of_merge (merged : merge (first :: others) metadata = .ok result) :
    HandsOn first others result := by
  have combines := combines_merge first others metadata
  rw [merged] at combines
  cases combines with
  | @complete kept remaining =>
      cases remaining with
      | @skipped row _ all uncounted labels =>
          have split : rowsOf first others = row :: (kept ++ others.flatMap (·.rows)) := by
            rw [rowsOf, all, List.cons_append]
          refine ⟨rfl, ?_, fun _ => by rw [split, List.tail_cons]⟩
          constructor
          · intro same
            have lengths := congrArg List.length (same.trans split)
            rw [List.length_cons] at lengths
            exact absurd lengths (Nat.ne_of_lt (Nat.lt_succ_self _))
          · intro unlike
            exact absurd ⟨uncounted, row, kept, all, labels⟩ unlike
      | kept unlike =>
          have silent : ¬ first.Echoes := by
            rintro ⟨uncounted, row, rows, all, labels⟩
            exact unlike row rows all uncounted labels
          exact ⟨rfl, ⟨fun _ => silent, fun _ => rfl⟩, fun echoes => absurd echoes silent⟩

theorem merge_of_regular
    (regular : ∀ row ∈ rowsOf first others, row.length = first.columns.length) :
    ∃ result, merge (first :: others) metadata = .ok result := by
  have combines := combines_merge first others metadata
  generalize merge (first :: others) metadata = outcome at combines
  cases combines with
  | complete => exact ⟨_, rfl⟩
  | @ragged rows index row remaining found irregular least =>
      have member := List.mem_of_getElem? found
      have listed : row ∈ rowsOf first others := by
        cases remaining with
        | skipped all =>
            rw [rowsOf, all, List.cons_append]
            exact List.mem_cons_of_mem _ member
        | kept => exact member
      exact absurd (regular row listed) irregular

end Page

namespace Client

open Fallible Page Warehouse

variable {c : Client} {sql : String}

/-- Once a query has succeeded, linked pages with a value for each column make a result, and each
result is made of linked pages. It has all their rows, unless the first is taken for the labels. -/
structure KeepsRows (c : Client) (sql : String) : Prop where
  returned : ∀ before id status rest,
    Runs (c.execute sql).run (before ++ [checked id (.ok status)]) rest →
      status.state = .succeeded →
        ∀ first others, Linked first others → others.length < c.patience →
          (∀ row ∈ rowsOf first others, row.length = first.columns.length) →
            ∃ result, Runs rest (pageEvents id none (first :: others)) (.done (.ok result)) ∧
              HandsOn first others result
  fetched : ∀ trace result, Runs (c.execute sql).run trace (.done (.ok result)) →
    ∃ before id status first others,
      trace = before ++ checked id (.ok status) :: pageEvents id none (first :: others) ∧
        Linked first others ∧ HandsOn first others result

/-- A result has every row but a first one that reads like the labels. -/
theorem keeps_rows_iff (c : Client) (sql : String) : c.KeepsRows sql where
  returned := by
    intro before id status rest ran state first others linked enough regular
    obtain ⟨metadata, rfl, leads⟩ := (c.leaves_succeeded sql state).of_runs ran
    obtain ⟨result, merged⟩ := @merge_of_regular first others metadata regular
    have fetched : Runs (c.fetch metadata).run _ (.done (merge (first :: others) metadata)) :=
      runs_fetch linked enough
    rw [merged] at fetched
    exact ⟨result, leads.ends _ _ fetched nofun, handsOn_of_merge merged⟩
  fetched := by
    intro trace result ran
    obtain ⟨before, id, status, first, others, split, _, linked, _, merged⟩ := fetched_of_runs ran
    exact ⟨before, id, status, first, others, split, linked, handsOn_of_merge merged⟩

def tablesPage (names : List String) : Page :=
  ⟨[⟨"tab_name", "string"⟩], names.map fun name => [some name], none, none⟩

def tablesAnswers (names : List String) : (r : Request) → Unit → Reply r × Unit
  | .start _, _ => (.ok "list", ())
  | .status _, _ => (.ok ⟨.succeeded, none, 0, 0, none⟩, ())
  | .page _ _, _ => (.ok (tablesPage names), ())
  | request, _ => ((failingAnswers request 0).1, ())

theorem keeps_rows_iff_tables :
    let c : Client := ⟨Profile.ofRequired "s3://b/" "r" "s" "d", 1⟩
    let ran (names : List String) := (c.execute "SHOW TABLES").run.play (tablesAnswers names) ()
    (∃ result, (ran ["events", "users"]).2 = .done (.ok result) ∧
      result.rows = [[some "events"], [some "users"]]) ∧
    ∃ result, (ran ["tab_name", "users"]).2 = .done (.ok result) ∧
      result.rows = [[some "users"]] := by
  intro c ran
  let events (names : List String) := (ran names).1.take 2 ++
    [checked "list" (.ok ⟨.succeeded, none, 0, 0, none⟩)] ++
      pageEvents "list" none [tablesPage names]
  have listed : ∀ names, (ran names).1 = events names →
      ∃ result, (ran names).2 = .done (.ok result) ∧ HandsOn (tablesPage names) [] result := by
    intro names split
    have played : Runs (c.execute "SHOW TABLES").run (ran names).1 (ran names).2 :=
      runs_play _ _ _
    rw [split] at played
    obtain ⟨rest, reached, later⟩ := played.split
    have regular : ∀ row ∈ rowsOf (tablesPage names) [],
        row.length = (tablesPage names).columns.length := by
      simp [rowsOf, tablesPage]
    obtain ⟨result, ended, handsOn⟩ := (c.keeps_rows_iff "SHOW TABLES").returned _ _ _ _ reached rfl
      (tablesPage names) [] (.last rfl) (by decide) regular
    exact ⟨result, later.unique ended, handsOn⟩
  obtain ⟨result, ended, handsOn⟩ := listed ["events", "users"] rfl
  obtain ⟨result', ended', handsOn'⟩ := listed ["tab_name", "users"] rfl
  refine ⟨⟨result, ended, handsOn.all_iff.mpr ?_⟩, result', ended', handsOn'.echo ?_⟩
  · rintro ⟨_, row, rows, all, unlike⟩
    cases all
    exact absurd (isHeader_iff.mpr unlike) (by decide)
  · exact ⟨rfl, _, _, rfl, isHeader_iff.mp rfl⟩

/-- A list of tables lacks the first one when that is called like the label of the list. -/
theorem loses_table_named_like_label :
    let c : Client := ⟨Profile.ofRequired "s3://b/" "r" "s" "d", 1⟩
    let page := tablesPage ["tab_name", "users"]
    let ran := (c.execute "SHOW TABLES").run.play (tablesAnswers ["tab_name", "users"]) ()
    page.updateCount = none ∧ (∀ row ∈ page.rows, row.length = page.columns.length) ∧
      ran.1.getLast? = some ⟨.page "list" none, .ok page⟩ ∧ page.nextToken = none ∧
      ∃ result, ran.2 = .done (.ok result) ∧ result.rows = [[some "users"]] ∧
        result.rows ≠ page.rows :=
  ⟨rfl, by decide, rfl, rfl, _, rfl, rfl, by decide⟩

end Client
end AthenaModels
