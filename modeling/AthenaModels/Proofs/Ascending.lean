import AthenaModels.Ascending

namespace AthenaModels.Ascending

variable {α : Type} [Ord α]

theorem mem_of_mem_insert {a b : α} {items : List α} (member : b ∈ insert a items) :
    b = a ∨ b ∈ items := by
  induction items with
  | nil => exact .inl (List.mem_singleton.mp member)
  | cons c items ih =>
      rw [insert] at member
      split at member
      · exact List.mem_cons.mp member
      · exact .inr member
      · rcases List.mem_cons.mp member with rfl | later
        · exact .inr List.mem_cons_self
        · rcases ih later with same | old
          · exact .inl same
          · exact .inr (List.mem_cons_of_mem _ old)

theorem mem_of_mem_ofList {b : α} {items : List α} (member : b ∈ ofList items) : b ∈ items := by
  induction items with
  | nil => cases member
  | cons a items ih =>
      rcases mem_of_mem_insert member with rfl | old
      · exact List.mem_cons_self
      · exact List.mem_cons_of_mem _ (ih old)

theorem mem_insert [Std.LawfulEqOrd α] {a b : α} {items : List α} :
    b ∈ insert a items ↔ b = a ∨ b ∈ items := by
  refine ⟨mem_of_mem_insert, ?_⟩
  induction items with
  | nil =>
      intro given
      rcases given with rfl | none
      · exact List.mem_singleton_self b
      · cases none
  | cons c items ih =>
      rw [insert]
      split
      · exact List.mem_cons.mpr
      · rename_i same
        obtain rfl := Std.LawfulEqOrd.eq_of_compare same
        intro given
        rcases given with rfl | old
        · exact List.mem_cons_self
        · exact old
      · intro given
        rcases given with rfl | old
        · exact List.mem_cons_of_mem _ (ih (.inl rfl))
        · rcases List.mem_cons.mp old with rfl | old
          · exact List.mem_cons_self
          · exact List.mem_cons_of_mem _ (ih (.inr old))

@[simp] theorem mem_ofList [Std.LawfulEqOrd α] {b : α} {items : List α} :
    b ∈ ofList items ↔ b ∈ items := by
  induction items with
  | nil => rfl
  | cons a items ih => rw [ofList, List.foldr_cons, mem_insert, ← ofList, ih, List.mem_cons]

theorem lex_iff {β : Type} {before : β → β → Prop} {cmp : β → β → Ordering} [Std.LawfulEqCmp cmp]
    (decides : ∀ a b, before a b ↔ cmp a b = .lt) {items others : List β} :
    List.Lex before items others ↔ List.compareLex cmp items others = .lt := by
  induction items generalizing others with
  | nil =>
      cases others with
      | nil => exact ⟨nofun, nofun⟩
      | cons b others => exact ⟨fun _ => rfl, fun _ => .nil⟩
  | cons a items ih =>
      cases others with
      | nil => exact ⟨nofun, nofun⟩
      | cons b others =>
          rw [List.cons_lex_cons_iff, List.compareLex_cons_cons, Ordering.then_eq_lt,
            Std.LawfulEqCmp.compare_eq_iff_eq, decides, ih]

/-- Each item is before those that follow it, so that a set is one list only. -/
def Strict (items : List α) : Prop := items.Pairwise fun a b => compare a b = .lt

theorem Strict.nodup [Std.ReflOrd α] {items : List α} (strict : Strict items) : items.Nodup := by
  apply strict.imp
  rintro a _ before rfl
  rw [Std.ReflOrd.compare_self] at before
  cases before

section
variable [Std.TransOrd α] {items others : List α}

theorem Strict.insert {a : α} (strict : Strict items) : Strict (insert a items) := by
  induction items with
  | nil => exact List.pairwise_singleton _ _
  | cons b items ih =>
      obtain ⟨first, later⟩ := List.pairwise_cons.mp strict
      rw [Ascending.insert]
      split
      · next before =>
          refine List.pairwise_cons.mpr ⟨?_, strict⟩
          intro c member
          rcases List.mem_cons.mp member with rfl | member
          · exact before
          · exact Std.TransCmp.lt_trans before (first c member)
      · exact strict
      · next after =>
          refine List.pairwise_cons.mpr ⟨?_, ih later⟩
          intro c member
          rcases mem_of_mem_insert member with rfl | member
          · exact Std.OrientedCmp.gt_iff_lt.mp after
          · exact first c member

theorem strict_ofList (items : List α) : Strict (ofList items) := by
  induction items with
  | nil => exact List.Pairwise.nil
  | cons a items ih => exact ih.insert

theorem Strict.eq_of_mem_iff (strict : Strict items) (strict' : Strict others)
    (same : ∀ a, a ∈ items ↔ a ∈ others) : items = others := by
  have perm := (List.perm_ext_iff_of_nodup strict.nodup strict'.nodup).mpr same
  apply perm.eq_of_pairwise _ strict strict'
  intro a b _ _ before after
  rw [Std.OrientedCmp.gt_iff_lt.mpr after] at before
  cases before

end

end AthenaModels.Ascending
