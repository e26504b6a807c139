import AthenaModels.Source.Basic
import Mathlib.Data.List.Forall2
import Mathlib.Data.Option.Basic
import Mathlib.Tactic.Common

namespace AthenaModels.Members

variable {V W α : Type} {xs : List (String × V)} {ys : List (String × W)} {names : List String}
variable {position : Nat} {read : V → Option α} {read' : W → Option α} {value : α}

def Related (R : V → W → Prop) (names : List String) (x : String × V) (y : String × W) : Prop :=
  x.1 = y.1 ∧ (x.1 ∈ names → R x.2 y.2)

theorem filter_related {R : V → W → Prop} (related : List.Forall₂ (Related R names) xs ys) :
    List.Forall₂ (fun x y => R x.2 y.2) (xs.filter fun x => names.contains x.1)
      (ys.filter fun y => names.contains y.1) := by
  induction related with
  | nil => exact .nil
  | @cons x y xs ys first _ ih =>
      rw [List.filter_cons, List.filter_cons, ← first.1]
      split
      · rename_i named
        exact .cons (first.2 (by simpa using named)) ih
      · exact ih

theorem find?_related {R : V → W → Prop} (related : List.Forall₂ (Related R names) xs ys) :
    Option.Rel (Option.Rel R) ((named xs).find? position names)
      ((named ys).find? position names) := by
  have parts := filter_related related
  rw [find?, find?]
  generalize xs.filter _ = xs, ys.filter _ = ys at parts
  cases parts with
  | nil => exact .some .none
  | cons first rest =>
      cases rest with
      | nil => exact .some (.some first)
      | cons => exact .none

theorem required_congr
    (related : List.Forall₂ (Related (fun v w => read v = read' w) names) xs ys) :
    (named xs).required position names read = (named ys).required position names read' := by
  have both : Option.Rel (Option.Rel fun v w => read v = read' w)
      ((named xs).find? position names) ((named ys).find? position names) := find?_related related
  rw [required, required]
  generalize (named xs).find? position names = found?,
    (named ys).find? position names = found'? at both
  obtain ⟨same | _⟩ | _ := both
  · exact same
  · rfl
  · rfl

theorem defaulted_congr
    (related : List.Forall₂ (Related (fun v w => read v = read' w) names) xs ys) :
    (named xs).defaulted position names read value =
      (named ys).defaulted position names read' value := by
  have both : Option.Rel (Option.Rel fun v w => read v = read' w)
      ((named xs).find? position names) ((named ys).find? position names) := find?_related related
  rw [defaulted, defaulted]
  generalize (named xs).find? position names = found?,
    (named ys).find? position names = found'? at both
  obtain ⟨same | _⟩ | _ := both
  · exact same
  · rfl
  · rfl

theorem find?_named {found? : Option V} {x : String × V} (mem : x ∈ xs) (name : x.1 ∈ names)
    (found : (named xs).find? position names = some found?) : found? = some x.2 := by
  have among : x ∈ xs.filter fun x => names.contains x.1 :=
    List.mem_filter.mpr ⟨mem, by simpa using name⟩
  rw [find?] at found
  generalize xs.filter _ = parts at among found
  split at found
  · nomatch among
  · obtain rfl := List.mem_singleton.mp among
    exact (Option.some_inj.mp found).symm
  · nomatch found

theorem read_of_required {x : String × V} (mem : x ∈ xs) (name : x.1 ∈ names)
    (given : (named xs).required position names read = some value) : read x.2 = some value := by
  obtain ⟨found?, found, given⟩ := Option.bind_eq_some_iff.mp given
  obtain rfl := find?_named mem name found
  exact given

theorem read_of_defaulted {otherwise : α} {x : String × V} (mem : x ∈ xs) (name : x.1 ∈ names)
    (given : (named xs).defaulted position names read otherwise = some value) :
    read x.2 = some value := by
  obtain ⟨found?, found, given⟩ := Option.bind_eq_some_iff.mp given
  obtain rfl := find?_named mem name found
  exact given

end AthenaModels.Members
