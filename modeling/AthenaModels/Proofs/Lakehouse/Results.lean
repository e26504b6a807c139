import AthenaModels.Proofs.Lakehouse.Basic
import AthenaModels.Proofs.Partition.Listing
import AthenaModels.Query.Pages

namespace AthenaModels.Lakehouse

open Materialization

def ReadFrom (pages : Option String → Page) (result : Result) : Prop :=
  ∃ list metadata, Chain pages none list ∧ Page.merge list metadata = .ok result

theorem Chain.unique {pages : Option String → Page} {token : Option String} {list other : List Page}
    (first : Chain pages token list) (second : Chain pages token other) : list = other := by
  induction first generalizing other with
  | last complete =>
      cases second with
      | last => rfl
      | more link => cases complete.symm.trans link
  | more link _ ih =>
      cases second with
      | last complete => cases complete.symm.trans link
      | more link' later =>
          cases link.symm.trans link'
          rw [ih later]

theorem Answer.ShownBy.read {answer : Answer} {pages : Option String → Page} {result : Result}
    {first : Page} {others : List Page} (shown : answer.ShownBy pages first others)
    (read : ReadFrom pages result) :
    result.columns.map Column.name = answer.names ∧ result.rows = answer.rows := by
  obtain ⟨list, metadata, chain, merged⟩ := read
  obtain rfl := chain.unique shown.chain
  have rows := shown.rows
  cases listed : first.rows with
  | nil => exact absurd listed shown.header
  | cons row later =>
      rw [listed, List.cons_append] at rows
      obtain ⟨header, rest⟩ := List.cons.inj rows
      have labels : Page.isHeader first.columns row = true := by
        rw [Page.isHeader, header, ← shown.names, List.map_map, beq_iff_eq]
        rfl
      have all : Page.allRows (first :: others) = answer.rows := by
        rw [Page.allRows, Page.firstRows, listed]
        simp only [shown.uncounted, Option.isNone_none, labels, Bool.and_self, if_true]
        exact rest
      rw [Page.merge, all] at merged
      split at merged
      · cases merged
      · cases merged
        exact ⟨shown.names, rfl⟩

theorem columnIndex?_eq (result : Result) (name : String) :
    result.columnIndex? name = (result.columns.map Column.name).findIdx? (· = name) := by
  rw [List.findIdx?_map]
  rfl

theorem texts?_of_names {name : String} {result : Result}
    (names : result.columns.map Column.name = [name]) :
    texts? name result = some (result.rows.filterMap (Result.cell · 0)) := by
  have index : result.columnIndex? name = some 0 := by
    rw [columnIndex?_eq, names]
    simp
  rw [texts?, Result.columnValues?, index]
  simp [List.filterMap_map]

theorem texts_of_column {answer : Answer} {name : String} {texts : String → Prop}
    {result : Result} {found : List String} (column : answer.Column name texts)
    (names : result.columns.map Column.name = answer.names) (rows : result.rows = answer.rows)
    (read : texts? name result = some found) (text : String) : text ∈ found ↔ texts text := by
  rw [texts?_of_names (names.trans column.names)] at read
  cases read
  rw [rows, List.mem_filterMap]
  constructor
  · intro given
    obtain ⟨row, member, cell⟩ := given
    obtain ⟨other, holds, rfl⟩ := (column.rows row).mp member
    cases cell
    exact holds
  · intro holds
    exact ⟨[some text], (column.rows _).mpr ⟨text, holds, rfl⟩, rfl⟩

theorem columns_of_rows {name : String} {columns : List String} {result : Result}
    {found : List String} (names : result.columns.map Column.name = [name])
    (rows : result.rows = columns.map fun column => [some column])
    (read : texts? name result = some found) : found = columns := by
  rw [texts?_of_names names, rows] at read
  cases read
  rw [List.filterMap_map]
  exact List.filterMap_some

theorem lookup_of_mem {pairs : List (String × Option String)} (nodup : (pairs.map Prod.fst).Nodup)
    {pair : String × Option String} (member : pair ∈ pairs) :
    pairs.lookup pair.1 = some pair.2 := by
  induction pairs with
  | nil => cases member
  | cons first pairs ih =>
      rw [List.map_cons, List.nodup_cons] at nodup
      rcases List.mem_cons.mp member with rfl | later
      · exact List.lookup_cons_self
      · have other : (pair.1 == first.1) = false := by
          rw [beq_eq_false_iff_ne]
          intro same
          exact nodup.1 (same ▸ List.mem_map_of_mem later)
        rw [List.lookup_cons, other]
        exact ih nodup.2 later

theorem zip_lookup {pairs : List (String × Option String)}
    (nodup : (pairs.map Prod.fst).Nodup) :
    (pairs.map Prod.fst).zip ((pairs.map Prod.fst).map fun key => (pairs.lookup key).join) =
      pairs := by
  have values : (pairs.map Prod.fst).map (fun key => (pairs.lookup key).join) =
      pairs.map Prod.snd := by
    rw [List.map_map]
    apply List.map_congr_left
    intro pair member
    exact congrArg Option.join (lookup_of_mem nodup member)
  rw [values, ← List.unzip_fst, ← List.unzip_snd, List.zip_unzip]

theorem ofRow_values {keys : List String} (nodup : keys.Nodup) (place : Place keys) :
    Partition.ofRow keys (keys.map place.value) = place.1 := by
  obtain ⟨⟨pairs⟩, rfl, _⟩ := place
  exact congrArg Partition.mk (zip_lookup nodup)

theorem map_cell {result : Result} {keys : List String} {indices : List Nat}
    {names : List String} (value : String → Option String)
    (same : result.columns.map Column.name = names)
    (found : keys.mapM result.columnIndex? = some indices) :
    indices.map (Result.cell (names.map value)) = keys.map value := by
  induction keys generalizing indices with
  | nil =>
      rw [List.mapM_nil] at found
      cases found
      rfl
  | cons key keys ih =>
      rw [List.mapM_cons] at found
      obtain ⟨index, first, found⟩ := Option.bind_eq_some_iff.mp found
      obtain ⟨others, later, found⟩ := Option.bind_eq_some_iff.mp found
      cases found
      rw [columnIndex?_eq, same, List.findIdx?_eq_some_iff_getElem] at first
      obtain ⟨inside, named, _⟩ := first
      rw [List.map_cons, List.map_cons, ih later]
      simp_all [Result.cell]

theorem partitions_of_has {lake : Lakehouse} {answer : Answer} {listed : Place lake.keys → Prop}
    {result : Result} {found : List Partition} (has : answer.Has listed)
    (names : result.columns.map Column.name = answer.names) (rows : result.rows = answer.rows)
    (read : partitions? lake.keys result = some found) (partition : Partition) :
    partition ∈ found ↔ ∃ place, listed place ∧ place.1 = partition := by
  obtain ⟨tuples, tupled, rfl⟩ := Option.map_eq_some_iff.mp read
  obtain ⟨indices, located, tupled⟩ := Option.bind_eq_some_iff.mp tupled
  cases tupled
  have cells : ∀ place : Place lake.keys, Partition.ofRow lake.keys
      (indices.map (Result.cell (answer.names.map place.value))) = place.1 := by
    intro place
    rw [map_cell place.value names located, ofRow_values lake.nodup]
  simp only [Ascending.mem_ofList, List.mem_map, rows, has.rows]
  constructor
  · intro given
    obtain ⟨_, ⟨_, ⟨place, holds, rfl⟩, rfl⟩, rfl⟩ := given
    exact ⟨place, holds, (cells place).symm⟩
  · intro given
    obtain ⟨place, holds, rfl⟩ := given
    exact ⟨_, ⟨_, ⟨place, holds, rfl⟩, rfl⟩, cells place⟩

end AthenaModels.Lakehouse
