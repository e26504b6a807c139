import AthenaModels.Proofs.Ascending
import AthenaModels.Proofs.Chunk
import AthenaModels.Proofs.Partition.Order
import AthenaModels.Store.Deletion
import Mathlib.Data.Set.Card

namespace AthenaModels

/-- The one is first mentioned before the other. -/
def Precedes {α : Type} (items : List α) (a b : α) : Prop :=
  ∃ before after, items = before ++ after ∧ a ∈ before ∧ b ∉ before

namespace Precedes

variable {α : Type} {items : List α} {a b : α}

theorem append (precedes : Precedes items a b) (more : List α) : Precedes (items ++ more) a b := by
  obtain ⟨before, after, rfl, first, second⟩ := precedes
  exact ⟨before, after ++ more, List.append_assoc _ _ _, first, second⟩

theorem of_eraseDups [BEq α] [LawfulBEq α] (items : List α) :
    items.eraseDups.Pairwise (Precedes items) := by
  induction items using List.reverseRecOn with
  | nil => exact .nil
  | append_singleton items a ih =>
      have early := ih.imp fun precedes => precedes.append [a]
      rw [List.eraseDups_append]
      by_cases known : a ∈ items
      · have none : [a].removeAll items = [] := by simp [List.removeAll, known]
        rwa [none, List.eraseDups_nil, List.append_nil]
      · have left : [a].removeAll items = [a] := by simp [List.removeAll, known]
        rw [left, List.pairwise_append]
        refine ⟨early, by simp [List.eraseDups_cons], ?_⟩
        intro b member c added
        obtain rfl : c = a := by simpa using added
        exact ⟨items, [c], rfl, List.mem_eraseDups.mp member, known⟩

theorem of_keys {locations : List Location} {bucket key other : String}
    (precedes : Precedes ((locations.filter (·.bucket = bucket)).map (·.key)) key other) :
    Precedes locations ⟨bucket, key⟩ ⟨bucket, other⟩ := by
  obtain ⟨before, after, split, first, second⟩ := precedes
  obtain ⟨front, back, divided, rfl, rfl⟩ := List.map_eq_append_iff.mp split
  obtain ⟨early, late, rfl, rfl, rfl⟩ := List.filter_eq_append_iff.mp divided
  obtain ⟨location, member, rfl⟩ := List.mem_map.mp first
  obtain ⟨named, here⟩ := List.mem_filter.mp member
  obtain rfl : location.bucket = bucket := of_decide_eq_true here
  refine ⟨early, late, rfl, named, fun member => second ?_⟩
  exact List.mem_map.mpr ⟨_, List.mem_filter.mpr ⟨member, decide_eq_true rfl⟩, rfl⟩

end Precedes

namespace BucketKeys

def locations (group : BucketKeys) : List Location := group.keys.map fun key => ⟨group.bucket, key⟩

@[simp] theorem mem_locations {group : BucketKeys} {location : Location} :
    location ∈ group.locations ↔ location.bucket = group.bucket ∧ location.key ∈ group.keys := by
  obtain ⟨bucket, key⟩ := location
  rw [locations, List.mem_map]
  constructor
  · rintro ⟨_, member, ⟨rfl⟩⟩
    exact ⟨rfl, member⟩
  · rintro ⟨rfl, member⟩
    exact ⟨key, member, rfl⟩

theorem length_flatMap_locations (groups : List BucketKeys) :
    (groups.flatMap locations).length = (groups.map (·.keys.length)).sum := by
  simp [List.length_flatMap, locations]

/-- The keys of one bucket, as many at a time as the store deletes at once. -/
def batches (group : BucketKeys) : List BucketKeys :=
  (Chunk.ofList ObjectStore.maxBatch group.keys).map fun keys => ⟨group.bucket, keys⟩

theorem bucket_of_mem_batches {group : BucketKeys} {bucket : String}
    (member : bucket ∈ group.batches.map (·.bucket)) : bucket = group.bucket := by
  obtain ⟨batch, cut, rfl⟩ := List.mem_map.mp member
  obtain ⟨_, _, rfl⟩ := List.mem_map.mp cut
  rfl

theorem batches_locations (group : BucketKeys) :
    group.batches.flatMap locations = group.locations := by
  have joined := Chunk.ofList_flatten (by decide : 0 < ObjectStore.maxBatch) group.keys
  rw [locations, ← joined, List.map_flatten, batches, List.flatMap_map]
  rfl

/-- What is deleted, and in which order, when these objects are named. -/
structure Cuts (named : List Location) (batches : List BucketKeys) : Prop where
  sized : ∀ batch ∈ batches, batch.keys ≠ [] ∧ batch.keys.length ≤ 1000
  ascending : (batches.map (·.bucket)).Pairwise fun a b => a = b ∨ Text.Before a b
  listed : ∀ location, location ∈ batches.flatMap locations ↔ location ∈ named
  once : (batches.flatMap locations).Nodup
  ordered : (batches.flatMap locations).Pairwise fun a b => a.bucket = b.bucket → Precedes named a b

section
variable {named : List Location} {group : BucketKeys}

theorem eq_of_mem_ofLocations (member : group ∈ ofLocations named) :
    group.keys = ((named.filter (·.bucket = group.bucket)).map (·.key)).eraseDups := by
  obtain ⟨bucket, _, rfl⟩ := List.mem_map.mp member
  rfl

theorem mem_keys_of_mem_ofLocations (member : group ∈ ofLocations named) {key : String} :
    key ∈ group.keys ↔ ⟨group.bucket, key⟩ ∈ named := by
  rw [eq_of_mem_ofLocations member, List.mem_eraseDups, List.mem_map]
  constructor
  · rintro ⟨location, inBucket, rfl⟩
    obtain ⟨listed, same⟩ := List.mem_filter.mp inBucket
    rwa [← of_decide_eq_true same]
  · intro listed
    exact ⟨_, List.mem_filter.mpr ⟨listed, decide_eq_true rfl⟩, rfl⟩

theorem ofLocations_ascending (named : List Location) :
    (ofLocations named).Pairwise fun a b => Text.Before a.bucket b.bucket := by
  rw [ofLocations, List.pairwise_map]
  exact (Ascending.strict_ofList _).imp Text.before_iff.mpr

theorem mem_flatMap_locations {location : Location} :
    location ∈ (ofLocations named).flatMap locations ↔ location ∈ named := by
  rw [List.mem_flatMap]
  constructor
  · rintro ⟨group, member, here⟩
    obtain ⟨same, inKeys⟩ := mem_locations.mp here
    rw [mem_keys_of_mem_ofLocations member, ← same] at inKeys
    exact inKeys
  · intro listed
    have inBuckets : location.bucket ∈ Ascending.ofList (named.map (·.bucket)) :=
      Ascending.mem_ofList.mpr (List.mem_map_of_mem listed)
    have member : _ ∈ ofLocations named := List.mem_map_of_mem inBuckets
    exact ⟨_, member, mem_locations.mpr ⟨rfl, (mem_keys_of_mem_ofLocations member).mpr listed⟩⟩

theorem ordered_locations (named : List Location) : ((ofLocations named).flatMap locations).Pairwise
    fun a b => a.bucket = b.bucket → Precedes named a b := by
  rw [List.pairwise_flatMap]
  constructor
  · intro group member
    rw [locations, List.pairwise_map, eq_of_mem_ofLocations member]
    exact (Precedes.of_eraseDups _).imp fun precedes _ => precedes.of_keys
  · apply (ofLocations_ascending named).imp
    intro group other before a inGroup b inOther same
    rw [(mem_locations.mp inGroup).1, (mem_locations.mp inOther).1] at same
    exact absurd same before.ne

theorem cuts_ofLocations (named : List Location) :
    Cuts named ((ofLocations named).flatMap batches) := by
  have joined : ((ofLocations named).flatMap batches).flatMap locations =
      (ofLocations named).flatMap locations := by
    simp only [List.flatMap_assoc, batches_locations]
  have ordered := ordered_locations named
  refine ⟨?_, ?_, ?_, ?_, ?_⟩
  · intro batch member
    obtain ⟨group, _, cut⟩ := List.mem_flatMap.mp member
    obtain ⟨keys, chunk, rfl⟩ := List.mem_map.mp cut
    exact Chunk.mem_ofList (by decide) chunk
  · rw [List.map_flatMap, List.pairwise_flatMap]
    constructor
    · intro group _
      rw [batches, List.map_map, List.pairwise_map]
      exact List.pairwise_of_forall fun _ _ => .inl rfl
    · apply (ofLocations_ascending named).imp
      intro group other before a inGroup b inOther
      rw [bucket_of_mem_batches inGroup, bucket_of_mem_batches inOther]
      exact .inr before
  · intro location
    rw [joined, mem_flatMap_locations]
  · rw [joined]
    apply ordered.imp
    rintro a _ precedes rfl
    obtain ⟨_, _, _, inside, outside⟩ := precedes rfl
    exact outside inside
  · rwa [joined]

end

end BucketKeys
end AthenaModels
