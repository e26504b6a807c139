import AthenaModels.Proofs.Yaml.Nodes
import AthenaModels.Proofs.Yaml.Scalars

namespace AthenaModels.Yaml

/-- The tree has the kind and the tag of what the node stands for, after any alias; its scalar is
resolved, and its parts are related to the parts there. -/
inductive Shows (e : Document) (R : Node → Tree → Prop) (node : Node) : Tree → Prop
  | scalar {anchor : Option Nat} {tag : Option String} {style : Style} {text : String} {atom : Atom}
      (shown : e.target? node = some (.scalar anchor tag style text))
      (resolved : Atom.ofScalar? tag style text = some atom) :
      Shows e R node (Tree.withTag tag (.atom atom))
  | sequence {anchor : Option Nat} {tag : Option String} {items : List Node} {trees : List Tree}
      (shown : e.target? node = some (.sequence anchor tag items))
      (parts : List.Forall₂ R items trees) : Shows e R node (Tree.withTag tag (.sequence trees))
  | mapping {anchor : Option Nat} {tag : Option String} {entries : List (Node × Node)}
      {trees : List (Tree × Tree)} (shown : e.target? node = some (.mapping anchor tag entries))
      (parts : List.Forall₂ (Entrywise R) entries trees) :
      Shows e R node (Tree.withTag tag (.mapping trees))

theorem Shows.imp {e : Document} {R S : Node → Tree → Prop} (imp : ∀ n t, R n t → S n t)
    {node : Node} {tree : Tree} : Shows e R node tree → Shows e S node tree
  | .scalar shown resolved => .scalar shown resolved
  | .sequence shown parts => .sequence shown (parts.imp imp)
  | .mapping shown parts => .mapping shown (parts.imp fun _ _ => Entrywise.imp imp)

/-- The tree shows the node and, in its parts, all that is below it. -/
def Stands (e : Document) (node : Node) (tree : Tree) : Prop :=
  ∃ R : Node → Tree → Prop, R node tree ∧ ∀ node tree, R node tree → Shows e R node tree

theorem Stands.shows {e : Document} {node : Node} {tree : Tree} (stands : Stands e node tree) :
    Shows e (Stands e) node tree := by
  obtain ⟨R, related, shows⟩ := stands
  exact (shows node tree related).imp fun _ _ deeper => ⟨R, deeper, shows⟩

theorem forall₂_comp {α β γ : Type} {R : α → β → Prop} {S : β → γ → Prop} {T : α → γ → Prop}
    (comp : ∀ a b c, R a b → S b c → T a c) {as : List α} {bs : List β} {cs : List γ}
    (first : List.Forall₂ R as bs) (second : List.Forall₂ S bs cs) : List.Forall₂ T as cs := by
  induction first generalizing cs with
  | nil =>
      cases second
      exact .nil
  | cons related _ ih =>
      obtain _ | ⟨related', second⟩ := second
      exact .cons (comp _ _ _ related related') (ih second)

theorem Stands.of_same {d e : Document} {n m : Node} {tree : Tree} (same : Same d e n m)
    (stands : Stands e m tree) : Stands d n tree := by
  refine ⟨fun n tree => ∃ m, Same d e n m ∧ Stands e m tree, ⟨m, same, stands⟩, ?_⟩
  rintro n tree ⟨m, same, stands⟩
  have matching := same.target?
  cases stands.shows with
  | scalar shown resolved =>
      rw [shown] at matching
      generalize target : d.target? n = shown' at matching
      obtain ⟨⟨⟩⟩ := matching
      exact .scalar target resolved
  | sequence shown parts =>
      rw [shown] at matching
      generalize target : d.target? n = shown' at matching
      obtain ⟨_ | _ | parts'⟩ := matching
      refine .sequence target (forall₂_comp ?_ parts' parts)
      exact fun _ m _ same stands => ⟨m, same, stands⟩
  | mapping shown parts =>
      rw [shown] at matching
      generalize target : d.target? n = shown' at matching
      obtain ⟨_ | _ | _ | parts'⟩ := matching
      refine .mapping target (forall₂_comp ?_ parts' parts)
      rintro _ _ _ ⟨keys, values⟩ ⟨keys', values'⟩
      exact .intro ⟨_, keys, keys'⟩ ⟨_, values, values'⟩

section Bind

variable {α β σ : Type} {s s' : σ}

theorem bind_eq_some_iff {x : StateT σ Option α} {f : α → StateT σ Option β} {b : β} :
    (x >>= f) s = some (b, s') ↔ ∃ a t, x s = some (a, t) ∧ f a t = some (b, s') := by
  change (x s).bind (fun r => f r.1 r.2) = some (b, s') ↔ _
  rw [Option.bind_eq_some_iff]
  exact ⟨fun ⟨⟨a, t⟩, first, second⟩ => ⟨a, t, first, second⟩,
    fun ⟨a, t, first, second⟩ => ⟨(a, t), first, second⟩⟩

theorem pure_eq_some_iff {a b : α} :
    (pure a : StateT σ Option α) s = some (b, s') ↔ a = b ∧ s = s' := by
  change some (a, s) = some (b, s') ↔ _
  rw [Option.some_inj, Prod.mk.injEq]

theorem lift_eq_some_iff {x : Option α} {a : α} :
    (liftM x : StateT σ Option α) s = some (a, s') ↔ x = some a ∧ s = s' := by
  change x.bind (fun a => some (a, s)) = some (a, s') ↔ _
  cases x <;> simp

theorem forall₂_of_mapM {f : α → StateT σ Option β} {items : List α} {values : List β}
    (made : items.mapM f s = some (values, s')) :
    List.Forall₂ (fun item value => ∃ t t', f item t = some (value, t')) items values := by
  induction items generalizing s values with
  | nil =>
      obtain ⟨rfl, -⟩ := pure_eq_some_iff.mp made
      exact .nil
  | cons item items ih =>
      rw [List.mapM_cons] at made
      obtain ⟨value, t, first, made⟩ := bind_eq_some_iff.mp made
      obtain ⟨rest, t', others, made⟩ := bind_eq_some_iff.mp made
      obtain ⟨rfl, rfl⟩ := pure_eq_some_iff.mp made
      exact .cons ⟨s, t, first⟩ (ih others)

end Bind

namespace Tree

variable {e : Document} {node shown : Node} {jumps left : Nat} {tree : Tree}

theorem target?_eq_some (reached : target? e node jumps = some (shown, left)) :
    e.target? node = some shown := by
  cases node with
  | scalar => exact (lift_eq_some_iff.mp reached).1
  | sequence => exact (lift_eq_some_iff.mp reached).1
  | mapping => exact (lift_eq_some_iff.mp reached).1
  | _ slot =>
      cases jumps with
      | zero => nomatch reached
      | succ jumps =>
          have jumped : (liftM (e.target? (.alias slot)) : StateT Nat Option Node) jumps =
            some (shown, left) := reached
          exact (lift_eq_some_iff.mp jumped).1

theorem shows_of_ofScalar? {R : Node → Tree → Prop} {anchor : Option Nat} {tag : Option String}
    {style : Style} {text : String} (shows : e.target? node = some (.scalar anchor tag style text))
    (made : ofScalar? tag style text = some tree) : Shows e R node tree := by
  rw [ofScalar?, Option.map_eq_some_iff] at made
  obtain ⟨atom, resolved, rfl⟩ := made
  exact .scalar shows resolved

def Made (e : Document) (node : Node) (tree : Tree) : Prop :=
  ∃ depth jumps left, ofNode? e depth node jumps = some (tree, left)

theorem Made.shows (made : Made e node tree) : Shows e (Made e) node tree := by
  obtain ⟨depth, jumps, left, made⟩ := made
  cases depth with
  | zero =>
      rw [ofNode?] at made
      obtain ⟨shown, rest, reached, made⟩ := bind_eq_some_iff.mp made
      have shows := target?_eq_some reached
      cases shown with
      | scalar anchor tag style text =>
          exact shows_of_ofScalar? shows (lift_eq_some_iff.mp made).1
      | _ => nomatch made
  | succ depth =>
      rw [ofNode?] at made
      obtain ⟨shown, rest, reached, made⟩ := bind_eq_some_iff.mp made
      have shows := target?_eq_some reached
      cases shown with
      | scalar anchor tag style text =>
          exact shows_of_ofScalar? shows (lift_eq_some_iff.mp made).1
      | sequence anchor tag items =>
          obtain ⟨trees, rest', read, made⟩ := bind_eq_some_iff.mp made
          obtain ⟨rfl, -⟩ := pure_eq_some_iff.mp made
          exact .sequence shows ((forall₂_of_mapM read).imp fun _ _ made => ⟨depth, made⟩)
      | mapping anchor tag entries =>
          obtain ⟨trees, rest', read, made⟩ := bind_eq_some_iff.mp made
          have parts : List.Forall₂ (Entrywise (Made e)) entries trees := by
            refine (forall₂_of_mapM read).imp fun (key, value) tree ⟨_, _, made⟩ => ?_
            obtain ⟨keyTree, _, ofKey, made⟩ := bind_eq_some_iff.mp made
            obtain ⟨valueTree, _, ofValue, made⟩ := bind_eq_some_iff.mp made
            obtain ⟨rfl, -⟩ := pure_eq_some_iff.mp made
            exact .intro ⟨_, _, _, ofKey⟩ ⟨_, _, _, ofValue⟩
          split at made
          · obtain ⟨_, t, failed, -⟩ := bind_eq_some_iff.mp made
            nomatch failed
          · obtain ⟨rfl, -⟩ := pure_eq_some_iff.mp made
            exact .mapping shows parts
      | _ => nomatch made

theorem stands_of_ofDocument? (made : ofDocument? e = some tree) : Stands e e.root tree := by
  rw [ofDocument?, StateT.run', Option.map_eq_map, Option.map_eq_some_iff] at made
  obtain ⟨⟨made, left⟩, read, rfl⟩ := made
  exact ⟨Made e, ⟨_, _, _, read⟩, fun _ _ => Made.shows⟩

theorem untagged_withTag (tag : Option String) (tree : Tree) :
    (withTag tag tree).untagged = tree.untagged := by
  rw [withTag]
  split <;> rfl

end Tree

variable {e : Document} {node : Node} {tree : Tree} {name : String}

theorem Stands.same_text (stands : Stands e node tree) :
    Tree.same tree (.atom (.text name)) = (e.name? node == some name) := by
  cases stands.shows with
  | @scalar anchor tag style text atom shown resolved =>
      rw [Document.name?, shown, Tree.withTag]
      dsimp only
      cases own : Tree.ownTag? tag with
      | some given => simp [Tree.same]
      | none =>
          simp only [Tree.same, resolved, true_and, Option.some_inj]
          split
          · rename_i said
            rw [said]
            simp
          · rename_i unsaid
            rw [beq_false_of_ne]
            · rfl
            · rintro rfl
              exact unsaid (congrArg Atom.text (Atom.eq_of_ofScalar? resolved))
  | @sequence anchor tag _ _ shown _ =>
      rw [Document.name?, shown, Tree.withTag]
      cases Tree.ownTag? tag <;> simp [Tree.same]
  | @mapping anchor tag _ _ shown _ =>
      rw [Document.name?, shown, Tree.withTag]
      cases Tree.ownTag? tag <;> simp [Tree.same]

theorem Stands.get? (stands : Stands e node tree) :
    Option.Rel (Stands e) (e.child? node name) (tree.get? name) := by
  cases stands.shows with
  | scalar shown _ =>
      rw [Document.child?, shown, Tree.get?, Tree.untagged_withTag]
      exact .none
  | sequence shown _ =>
      rw [Document.child?, shown, Tree.get?, Tree.untagged_withTag]
      exact .none
  | mapping shown parts =>
      rw [Document.child?, shown, Tree.get?, Tree.untagged_withTag]
      refine rel_snd (rel_find? parts ?_)
      rintro _ _ ⟨keys, -⟩
      exact keys.same_text.symm

theorem Stands.get?_of_child? {part : Node} (stands : Stands e node tree)
    (child : e.child? node name = some part) : ∃ given, tree.get? name = some given ∧
      Stands e part given := by
  have related : Option.Rel (Stands e) (e.child? node name) (tree.get? name) := stands.get?
  rw [child] at related
  generalize tree.get? name = given at related
  obtain ⟨partStands⟩ := related
  exact ⟨_, rfl, partStands⟩

theorem Stands.child?_of_get? {given : Tree} (stands : Stands e node tree)
    (got : tree.get? name = some given) : ∃ part, e.child? node name = some part ∧
      Stands e part given := by
  have related : Option.Rel (Stands e) (e.child? node name) (tree.get? name) := stands.get?
  rw [got] at related
  generalize e.child? node name = part at related
  obtain ⟨partStands⟩ := related
  exact ⟨_, rfl, partStands⟩

end AthenaModels.Yaml
