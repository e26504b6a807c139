import AthenaModels.Proofs.Partition.Order
import AthenaModels.Proofs.Query.Tuples
import Mathlib.Data.Set.Card

namespace AthenaModels

open Materialization

variable {keys : List String} {result other existing incoming : Result} {strategy : Strategy}
  {there coming : List Partition} {known arriving : Set Row}

namespace Partition

theorem ofRow_injOn : Set.InjOn (ofRow keys) {tuple | tuple.length = keys.length} := by
  intro tuple width other width' same
  have zipped := congrArg (fun partition : Partition => partition.pairs.map Prod.snd) same
  dsimp only [ofRow] at zipped
  rwa [List.map_snd_zip (Nat.le_of_eq width), List.map_snd_zip (Nat.le_of_eq width')] at zipped

theorem tuples_injOn : Set.InjOn (ofRow keys) (existing.tuples keys ∪ incoming.tuples keys) := by
  apply ofRow_injOn.mono
  rintro tuple (⟨row, _, reads⟩ | ⟨row, _, reads⟩)
  · exact reads.length_eq.symm
  · exact reads.length_eq.symm

theorem partitions?_eq (columns : result.HasColumns keys) :
    ∃ partitions, partitions? keys result = some partitions ∧ Ascending.Strict partitions ∧
      {partition | partition ∈ partitions} = ofRow keys '' result.tuples keys := by
  obtain ⟨tuples, found, listed⟩ := Result.mem_distinctTuples? columns
  refine ⟨_, by rw [partitions?, found]; rfl, Ascending.strict_ofList _, ?_⟩
  ext partition
  simp [listed]

theorem partitions?_reordered (columns : result.HasColumns keys)
    (reordered : result.Reordered other) : partitions? keys other = partitions? keys result := by
  obtain ⟨partitions, found, strict, listed⟩ := partitions?_eq columns
  obtain ⟨partitions', found', strict', listed'⟩ := partitions?_eq (reordered.hasColumns columns)
  rw [reordered.tuples_eq, ← listed] at listed'
  rw [found, found', strict'.eq_of_mem_iff strict (Set.ext_iff.mp listed')]

end Partition

namespace Plan

def lists (plan : Plan) : List (List Partition) :=
  [plan.replaced, plan.appended, plan.added, plan.untouched]

theorem strict_lists (strict : Ascending.Strict there) (strict' : Ascending.Strict coming) :
    ∀ list ∈ (make strategy there coming).lists, Ascending.Strict list := by
  have overlap : ∀ chosen : Prop, [Decidable chosen] →
      Ascending.Strict (if chosen then there.filter (coming.contains ·) else []) := by
    intro chosen _
    split
    · exact strict.filter _
    · exact List.Pairwise.nil
  simp only [lists, make, List.forall_mem_cons]
  exact ⟨overlap _, overlap _, strict'.filter _, strict.filter _, nofun⟩

theorem disjoint_lists : (make strategy there coming).lists.Pairwise List.Disjoint := by
  cases strategy <;> simp +contextual [lists, make, List.disjoint_left]

theorem written_make (strict : Ascending.Strict there) (strict' : Ascending.Strict coming) :
    (make strategy there coming).written = coming.length := by
  have common : there.filter (coming.contains ·) = coming.filter (there.contains ·) := by
    apply Ascending.Strict.eq_of_mem_iff (strict.filter _) (strict'.filter _)
    simp [and_comm]
  have split := coming.length_eq_length_filter_add (there.contains ·)
  cases strategy with
  | append => simp only [written, make, common, split, reduceCtorEq, if_true, if_false,
      List.length_nil, Nat.zero_add]
  | insertOverwrite => simp only [written, make, common, split, reduceCtorEq, if_true, if_false,
      List.length_nil, Nat.add_zero]

def ofResults? (strategy : Strategy) (keys : List String) (existing incoming : Result) :
    Option Plan := do
  return make strategy (← partitions? keys existing) (← partitions? keys incoming)

/-- Of the tuples that there are and those that come, the plan has both by either strategy, only
those that come, and only those that there are. -/
structure Splits (strategy : Strategy) (keys : List String) (known arriving : Set Row)
    (plan : Plan) : Prop where
  ascending : ∀ list ∈ plan.lists, list.Pairwise Partition.Before
  disjoint : plan.lists.Pairwise List.Disjoint
  distinct : Set.InjOn (Partition.ofRow keys) (known ∪ arriving)
  added : {p | p ∈ plan.added} = Partition.ofRow keys '' (arriving \ known)
  untouched : {p | p ∈ plan.untouched} = Partition.ofRow keys '' (known \ arriving)
  overwrites : strategy = .insertOverwrite →
    {p | p ∈ plan.replaced} = Partition.ofRow keys '' (known ∩ arriving) ∧ plan.appended = []
  appends : strategy = .append →
    {p | p ∈ plan.appended} = Partition.ofRow keys '' (known ∩ arriving) ∧ plan.replaced = []
  written : plan.written = arriving.encard

theorem splits_make (strict : Ascending.Strict there) (strict' : Ascending.Strict coming)
    (distinct : Set.InjOn (Partition.ofRow keys) (known ∪ arriving))
    (listed : {p | p ∈ there} = Partition.ofRow keys '' known)
    (listed' : {p | p ∈ coming} = Partition.ofRow keys '' arriving) :
    (make strategy there coming).Splits strategy keys known arriving := by
  have both : {p | p ∈ there.filter (coming.contains ·)} =
      Partition.ofRow keys '' (known ∩ arriving) := by
    rw [distinct.image_inter Set.subset_union_left Set.subset_union_right, ← listed, ← listed']
    ext p
    simp
  refine ⟨?_, disjoint_lists, distinct, ?_, ?_, ?_, ?_, ?_⟩
  · intro list member
    exact (strict_lists strict strict' list member).imp Partition.before_iff.mpr
  · rw [(distinct.mono Set.subset_union_right).image_sdiff, Set.inter_comm,
      distinct.image_inter Set.subset_union_left Set.subset_union_right, ← listed, ← listed']
    ext p
    simp [make]
  · rw [(distinct.mono Set.subset_union_left).image_sdiff,
      distinct.image_inter Set.subset_union_left Set.subset_union_right, ← listed, ← listed']
    ext p
    simp [make]
  · rintro rfl
    exact ⟨both, rfl⟩
  · rintro rfl
    exact ⟨both, rfl⟩
  · rw [written_make strict strict',
      ← (distinct.mono Set.subset_union_right).encard_image, ← listed', ← List.coe_toFinset,
      Set.encard_coe_eq_coe_finsetCard, List.toFinset_card_of_nodup strict'.nodup]

/-- The plan for two results does not depend on the order of their rows or on repeated ones. -/
theorem splits_in_four (strategy : Strategy) (columns : existing.HasColumns keys)
    (columns' : incoming.HasColumns keys) :
    ∃ plan, ofResults? strategy keys existing incoming = some plan ∧
      plan.Splits strategy keys (existing.tuples keys) (incoming.tuples keys) ∧
      ∀ existing' incoming', existing.Reordered existing' → incoming.Reordered incoming' →
        ofResults? strategy keys existing' incoming' = some plan := by
  obtain ⟨there, found, strict, listed⟩ := Partition.partitions?_eq columns
  obtain ⟨coming, found', strict', listed'⟩ := Partition.partitions?_eq columns'
  have made : ofResults? strategy keys existing incoming = some (make strategy there coming) := by
    rw [ofResults?, found, found']
    rfl
  refine ⟨_, made, splits_make strict strict' Partition.tuples_injOn listed listed', ?_⟩
  intro existing' incoming' reordered reordered'
  rw [← made, ofResults?, ofResults?, Partition.partitions?_reordered columns reordered,
    Partition.partitions?_reordered columns' reordered']

def varchars (names : List String) (rows : List Row) : Result :=
  ⟨names.map (⟨·, "varchar"⟩), rows, ⟨"", 0, 0, .succeeded, none, 1, ⟨0, 0⟩⟩⟩

theorem splits_in_four_regions :
    let existing := varchars ["day", "files", "region", "day"]
      [[some "2", some "7", some "us"], [some "2", some "9"], [some "1", some "3", some "eu"]]
    let incoming := varchars ["region", "day"]
      [[some "us", some "2"], [none, some "3"], [none, some "2"], [some "us", some "2"]]
    let again := varchars ["region", "day"]
      [[none, some "3"], [none, some "2"], [none, some "3"], [some "us", some "2"]]
    ∃ plan, plan.replaced =
        [⟨[("region", none), ("day", some "2")]⟩, ⟨[("region", some "us"), ("day", some "2")]⟩] ∧
      plan.appended = [] ∧ plan.added = [⟨[("region", none), ("day", some "3")]⟩] ∧
      plan.untouched = [⟨[("region", some "eu"), ("day", some "1")]⟩] ∧
      plan.Splits .insertOverwrite ["region", "day"] (existing.tuples ["region", "day"])
        (incoming.tuples ["region", "day"]) ∧
      ofResults? .insertOverwrite ["region", "day"] existing again = some plan := by
  intro existing incoming again
  have columns : existing.HasColumns ["region", "day"] := by
    simp [existing, varchars, Result.HasColumns]
  have columns' : incoming.HasColumns ["region", "day"] := by
    simp [incoming, varchars, Result.HasColumns]
  obtain ⟨plan, made, splits, unchanged⟩ := splits_in_four .insertOverwrite columns columns'
  have reordered : incoming.Reordered again := by
    refine ⟨rfl, ?_⟩
    intro row
    simp only [incoming, again, varchars, List.mem_cons]
    tauto
  have computed : ofResults? .insertOverwrite ["region", "day"] existing incoming = some _ := rfl
  cases computed.symm.trans made
  exact ⟨_, rfl, rfl, rfl, rfl, splits, unchanged _ _ ⟨rfl, fun _ => Iff.rfl⟩ reordered⟩

end Plan
end AthenaModels
