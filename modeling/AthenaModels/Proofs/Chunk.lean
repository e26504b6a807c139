import AthenaModels.Chunk

namespace AthenaModels.Chunk

variable {α : Type} {size : Nat}

theorem cut_flatten (positive : 0 < size) {fuel : Nat} {items : List α}
    (enough : items.length ≤ fuel) : (cut size fuel items).flatten = items := by
  induction fuel generalizing items with
  | zero =>
      cases List.length_eq_zero_iff.mp (Nat.le_zero.mp enough)
      rfl
  | succ fuel ih =>
      cases items with
      | nil => rfl
      | cons item items =>
          have shorter : ((item :: items).drop size).length ≤ fuel := by
            rw [List.length_drop]
            omega
          rw [cut, List.flatten_cons, ih shorter, List.take_append_drop]
          exact nofun

theorem mem_cut (positive : 0 < size) {fuel : Nat} {items chunk : List α}
    (member : chunk ∈ cut size fuel items) : chunk ≠ [] ∧ chunk.length ≤ size := by
  induction fuel generalizing items with
  | zero => cases member
  | succ fuel ih =>
      cases items with
      | nil => cases member
      | cons item items =>
          cases member with
          | head =>
              refine ⟨?_, List.length_take_le _ _⟩
              rw [Ne, List.take_eq_nil_iff]
              intro given
              rcases given with zero | empty
              · omega
              · cases empty
          | tail _ later => exact ih later

@[simp] theorem ofList_flatten (positive : 0 < size) (items : List α) :
    (ofList size items).flatten = items :=
  cut_flatten positive (Nat.le_refl _)

theorem mem_ofList (positive : 0 < size) {items chunk : List α}
    (member : chunk ∈ ofList size items) : chunk ≠ [] ∧ chunk.length ≤ size :=
  mem_cut positive member

end AthenaModels.Chunk
