import AthenaModels.Materialization
import AthenaModels.Proofs.Ascending

namespace AthenaModels

instance : Std.LawfulEqCmp Partition.comparePairs where
  eq_of_compare := by
    intro a b same
    obtain ⟨columns, values⟩ := compareLex_eq_eq.mp same
    exact Prod.ext (Std.LawfulEqOrd.eq_of_compare columns) (Std.LawfulEqOrd.eq_of_compare values)
  compare_self := compareLex_eq_eq.mpr ⟨Std.ReflOrd.compare_self, Std.ReflOrd.compare_self⟩

instance : Std.LawfulEqOrd Partition where
  eq_of_compare := by
    intro given given' same
    obtain ⟨a⟩ := given
    obtain ⟨b⟩ := given'
    have equal : List.compareLex Partition.comparePairs a b = .eq := same
    rw [Std.LawfulEqCmp.eq_of_compare equal]
  compare_self := by
    intro given
    obtain ⟨pairs⟩ := given
    have equal : List.compareLex Partition.comparePairs pairs pairs = .eq :=
      Std.ReflCmp.compare_self
    exact equal

namespace Materialization

theorem length_of_mapM {α β : Type} {f : α → Option β} {items : List α} {values : List β}
    (mapped : items.mapM f = some values) : values.length = items.length := by
  induction items generalizing values with
  | nil =>
      rw [List.mapM_nil] at mapped
      cases mapped
      rfl
  | cons item items ih =>
      rw [List.mapM_cons] at mapped
      obtain ⟨value, _, mapped⟩ := Option.bind_eq_some_iff.mp mapped
      obtain ⟨others, later, mapped⟩ := Option.bind_eq_some_iff.mp mapped
      cases mapped
      rw [List.length_cons, List.length_cons, ih later]

theorem keys_of_mem_partitions {keys : List String} {result : Result} {partitions : List Partition}
    (read : partitions? keys result = some partitions) {partition : Partition}
    (member : partition ∈ partitions) : partition.pairs.map Prod.fst = keys := by
  obtain ⟨tuples, found, rfl⟩ := Option.map_eq_some_iff.mp read
  obtain ⟨indices, mapped, found⟩ := Option.bind_eq_some_iff.mp found
  cases found
  obtain ⟨tuple, listed, rfl⟩ := List.mem_map.mp (Ascending.mem_of_mem_ofList member)
  obtain ⟨row, _, rfl⟩ := List.mem_map.mp (Ascending.mem_of_mem_ofList listed)
  have width : keys.length = (indices.map (Result.cell row)).length := by
    rw [List.length_map, length_of_mapM mapped]
  exact List.map_fst_zip (Nat.le_of_eq width)

end Materialization
end AthenaModels
