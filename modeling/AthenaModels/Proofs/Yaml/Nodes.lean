import AthenaModels.Yaml.Tree
import Mathlib.Data.List.Forall2
import Mathlib.Data.Option.Basic
import Mathlib.Tactic.Common

namespace AthenaModels.Yaml

namespace Node

mutual
def agrees : Node → Node → Bool
  | .alias slot, .alias slot' => slot == slot'
  | .scalar anchor tag style text, .scalar anchor' tag' style' text' =>
      anchor == anchor' && tag == tag' && style == style' && text == text'
  | .sequence anchor tag items, .sequence anchor' tag' items' =>
      anchor == anchor' && tag == tag' && itemsAgree items items'
  | .mapping anchor tag entries, .mapping anchor' tag' entries' =>
      anchor == anchor' && tag == tag' && entriesAgree entries entries'
  | _, _ => false

def itemsAgree : List Node → List Node → Bool
  | [], [] => true
  | item :: items, item' :: items' => agrees item item' && itemsAgree items items'
  | _, _ => false

def entriesAgree : List (Node × Node) → List (Node × Node) → Bool
  | [], [] => true
  | (key, value) :: entries, (key', value') :: entries' =>
      agrees key key' && agrees value value' && entriesAgree entries entries'
  | _, _ => false
end

mutual
theorem agrees_iff (n m : Node) : agrees n m = true ↔ n = m := by
  cases n <;> cases m <;> simp [agrees, itemsAgree_iff, entriesAgree_iff, and_assoc]

theorem itemsAgree_iff (ns ms : List Node) : itemsAgree ns ms = true ↔ ns = ms := by
  cases ns <;> cases ms <;> simp [itemsAgree, agrees_iff, itemsAgree_iff]

theorem entriesAgree_iff (ns ms : List (Node × Node)) : entriesAgree ns ms = true ↔ ns = ms := by
  rcases ns with _ | ⟨⟨key, value⟩, ns⟩ <;> rcases ms with _ | ⟨⟨key', value'⟩, ms⟩ <;>
    simp [entriesAgree, agrees_iff, entriesAgree_iff]
end

instance : DecidableEq Node := fun n m => decidable_of_iff _ (agrees_iff n m)

end Node

deriving instance DecidableEq for Document

/-- Keys that are related, with values that are. -/
inductive Entrywise {α β : Type} (R : α → β → Prop) : α × α → β × β → Prop
  | intro {key value : α} {key' value' : β} (keys : R key key') (values : R value value') :
      Entrywise R (key, value) (key', value')

theorem Entrywise.imp {α β : Type} {R S : α → β → Prop} (imp : ∀ a b, R a b → S a b) :
    ∀ {a b}, Entrywise R a b → Entrywise S a b
  | _, _, .intro keys values => .intro (imp _ _ keys) (imp _ _ values)

/-- Nodes that are alike but for their anchors, as far as related parts are. -/
inductive Matches (R : Node → Node → Prop) : Node → Node → Prop
  | dangling {slot slot' : Nat} : Matches R (.alias slot) (.alias slot')
  | scalar {anchor anchor' : Option Nat} {tag : Option String} {style : Style} {text : String} :
      Matches R (.scalar anchor tag style text) (.scalar anchor' tag style text)
  | sequence {anchor anchor' : Option Nat} {tag : Option String} {items items' : List Node}
      (parts : List.Forall₂ R items items') :
      Matches R (.sequence anchor tag items) (.sequence anchor' tag items')
  | mapping {anchor anchor' : Option Nat} {tag : Option String}
      {entries entries' : List (Node × Node)}
      (parts : List.Forall₂ (Entrywise R) entries entries') :
      Matches R (.mapping anchor tag entries) (.mapping anchor' tag entries')

theorem Matches.imp {R S : Node → Node → Prop} (imp : ∀ n m, R n m → S n m) {n m : Node} :
    Matches R n m → Matches S n m
  | .dangling => .dangling
  | .scalar => .scalar
  | .sequence parts => .sequence (parts.imp imp)
  | .mapping parts => .mapping (parts.imp fun _ _ => Entrywise.imp imp)

/-- A node of one document says the same as a node of another, whatever is written out in one and
an alias in the other. The largest such relation, since aliases can run in circles. -/
def Same (d e : Document) (n m : Node) : Prop :=
  ∃ R : Node → Node → Prop, R n m ∧
    ∀ n m, R n m → Option.Rel (Matches R) (d.target? n) (e.target? m)

variable {d e : Document} {n m node key : Node} {name : String}

theorem rel_imp {α β : Type} {R S : α → β → Prop} (imp : ∀ a b, R a b → S a b) {a? : Option α}
    {b? : Option β} : Option.Rel R a? b? → Option.Rel S a? b?
  | .some related => .some (imp _ _ related)
  | .none => .none

theorem Same.target? (same : Same d e n m) :
    Option.Rel (Matches (Same d e)) (d.target? n) (e.target? m) := by
  obtain ⟨R, related, shows⟩ := same
  exact rel_imp (fun _ _ => Matches.imp fun _ _ deeper => ⟨R, deeper, shows⟩) (shows n m related)

theorem same_of_slots (slots : ∀ slot, d.slots.lookup slot = e.slots.lookup slot) (node : Node) :
    Same d e node node := by
  have matching (node : Node) : Matches (· = ·) node node := by
    cases node with
    | scalar => exact .scalar
    | sequence => exact .sequence (List.forall₂_same.mpr fun _ _ => rfl)
    | mapping => exact .mapping (List.forall₂_same.mpr fun (key, value) _ => .intro rfl rfl)
    | _ slot => exact .dangling
  refine ⟨(· = ·), rfl, ?_⟩
  rintro node _ rfl
  have target : d.target? node = e.target? node := by
    cases node with
    | _ slot => first | rfl | exact slots slot
  rw [target]
  cases e.target? node with
  | none => exact .none
  | some shown => exact .some (matching shown)

namespace Document

/-- The text of a key that can be looked up: no other kind of scalar, and no tag of the
document's own. -/
def name? (e : Document) (key : Node) : Option String :=
  match e.target? key with
  | some (.scalar _ tag style text) =>
      if Tree.ownTag? tag = none ∧ Atom.ofScalar? tag style text = some (.text text) then some text
      else none
  | _ => none

def child? (e : Document) (node : Node) (name : String) : Option Node :=
  match e.target? node with
  | some (.mapping _ _ entries) =>
      (entries.find? fun entry => e.name? entry.1 == some name).map Prod.snd
  | _ => none

end Document

theorem rel_find? {α β : Type} {R : α → β → Prop} {as : List α} {bs : List β} {p : α → Bool}
    {q : β → Bool} (related : List.Forall₂ R as bs) (agree : ∀ a b, R a b → p a = q b) :
    Option.Rel R (as.find? p) (bs.find? q) := by
  induction related with
  | nil => exact .none
  | @cons a b as bs first _ ih =>
      rw [List.find?_cons, List.find?_cons, agree a b first]
      cases q b with
      | true => exact .some first
      | false => exact ih

theorem rel_snd {α β : Type} {R : α → β → Prop} {a? : Option (α × α)} {b? : Option (β × β)}
    (related : Option.Rel (Entrywise R) a? b?) :
    Option.Rel R (a?.map Prod.snd) (b?.map Prod.snd) := by
  obtain ⟨⟨-, values⟩⟩ | _ := related
  · exact .some values
  · exact .none

theorem Same.name?_eq (same : Same d e n m) : d.name? n = e.name? m := by
  have shows := same.target?
  rw [Document.name?, Document.name?]
  generalize d.target? n = shown, e.target? m = shown' at shows
  obtain matching | _ := shows
  · cases matching <;> rfl
  · rfl

theorem Same.child? (same : Same d e n m) :
    Option.Rel (Same d e) (d.child? n name) (e.child? m name) := by
  have shows := same.target?
  rw [Document.child?, Document.child?]
  generalize d.target? n = shown, e.target? m = shown' at shows
  obtain matching | _ := shows
  · cases matching with
    | dangling => exact .none
    | scalar => exact .none
    | sequence => exact .none
    | mapping parts =>
        refine rel_snd (rel_find? parts ?_)
        rintro _ _ ⟨keys, -⟩
        rw [keys.name?_eq]
  · exact .none

end AthenaModels.Yaml
