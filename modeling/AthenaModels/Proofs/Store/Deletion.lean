import AthenaModels.Proofs.Program.Completion
import AthenaModels.Proofs.Store.Batches
import AthenaModels.Proofs.Store.Location
import Mathlib.Data.Set.Card

namespace AthenaModels.ObjectStore

open Program

variable {trace : List service.Event} {rest : Program service (Except Error Nat)}

/-- Batches are deleted one after the other, up to the first that is refused or has a key that
fails. When all are, the total is told. -/
inductive Course (total : Nat) :
    List BucketKeys → List service.Event → Program service (Except Error Nat) → Prop where
  | complete : Course total [] [] (.done (.ok total))
  | waiting {batch : BucketKeys} {later : List BucketKeys}
      (next : Reply (.delete batch.bucket batch.keys) → Program service (Except Error Nat)) :
      Course total (batch :: later) [] (.ask (.delete batch.bucket batch.keys) next)
  | deleted {batch : BucketKeys} {later : List BucketKeys} {trace : List service.Event}
      {rest : Program service (Except Error Nat)} (goes : Course total later trace rest) :
      Course total (batch :: later) (⟨.delete batch.bucket batch.keys, .ok []⟩ :: trace) rest
  | failed {batch : BucketKeys} {later : List BucketKeys}
      {reply : Reply (.delete batch.bucket batch.keys)} (text : String) (fault : reply ≠ .ok []) :
      Course total (batch :: later) [⟨.delete batch.bucket batch.keys, reply⟩]
        (.done (.error (.storage text)))

def deleteBatches (batches : List BucketKeys) : Deletion (List Nat) :=
  batches.mapM fun batch => deleteBatch batch.bucket batch.keys

theorem course_of_runs {batches : List BucketKeys} {sum : List Nat → Nat}
    (ran : Runs (sum <$> deleteBatches batches).run trace rest) :
    Course (sum (batches.map (·.keys.length))) batches trace rest := by
  induction batches generalizing sum trace with
  | nil =>
      obtain ⟨rfl, rfl⟩ := runs_done.mp ran
      exact .complete
  | cons batch batches ih =>
      have shape : sum <$> deleteBatches (batch :: batches) =
          deleteBatch batch.bucket batch.keys >>= fun count =>
            (fun counts => sum (count :: counts)) <$> deleteBatches batches := by
        simp [deleteBatches, List.mapM_cons]
      rw [shape] at ran
      rcases runs_ask.mp ran with ⟨rfl, rfl⟩ | ⟨reply, later, rfl, answered⟩
      · exact .waiting _
      · match reply with
        | .ok [] => exact .deleted (ih answered)
        | .ok (error :: errors) =>
            obtain ⟨rfl, rfl⟩ := runs_done.mp answered
            exact .failed _ nofun
        | .error refusal =>
            obtain ⟨rfl, rfl⟩ := runs_done.mp answered
            exact .failed _ nofun

theorem foldl_eq_sum : List.foldl (· + ·) 0 = (List.sum : List Nat → Nat) :=
  funext fun _ => List.sum_eq_foldl_nat.symm

theorem deleteKeys_eq (bucket : String) (keys : List String) :
    deleteKeys bucket keys = List.sum <$> deleteBatches (BucketKeys.mk bucket keys).batches := by
  have same : deleteBatches (BucketKeys.mk bucket keys).batches =
      (Chunk.ofList maxBatch keys).mapM (deleteBatch bucket) :=
    List.mapM_map
  rw [same, deleteKeys, bind_pure_comp, foldl_eq_sum]

theorem deleteGroups_eq (groups : List BucketKeys) :
    List.sum <$> groups.mapM (fun group => deleteKeys group.bucket group.keys) =
      List.sum <$> deleteBatches (groups.flatMap BucketKeys.batches) := by
  induction groups with
  | nil => rfl
  | cons group groups ih =>
      have split : List.sum <$> deleteBatches ((group :: groups).flatMap BucketKeys.batches) = (do
          let count ← List.sum <$> deleteBatches group.batches
          let counts ← List.sum <$> deleteBatches (groups.flatMap BucketKeys.batches)
          return count + counts) := by
        simp [deleteBatches]
      rw [split, ← ih, ← deleteKeys_eq]
      simp

theorem deleteObjects_of_ok {uris : List String} {named : List Location}
    (read : uris.mapM Location.ofObject = .ok named) : deleteObjects uris =
      List.sum <$> deleteBatches ((BucketKeys.ofLocations named).flatMap BucketKeys.batches) := by
  rw [← deleteGroups_eq, deleteObjects, BucketKeys.ofUris, read, ← foldl_eq_sum]
  exact bind_pure_comp _ _

theorem deleteObjects_of_error {uris : List String} {error : Error}
    (failed : uris.mapM Location.ofObject = .error error) :
    (deleteObjects uris).run = .done (.error error) := by
  rw [deleteObjects, BucketKeys.ofUris, failed]
  rfl

theorem mapM_ofObject (uris : List String) :
    (∃ named, uris.mapM Location.ofObject = .ok named ∧
      List.Forall₂ Location.Addresses uris named) ∨
    ∃ uri ∈ uris, ∃ error, Location.ofObject uri = .error error ∧
      uris.mapM Location.ofObject = .error error := by
  induction uris with
  | nil => exact .inl ⟨[], rfl, .nil⟩
  | cons uri uris ih =>
      rw [List.mapM_cons]
      cases here : Location.ofObject uri with
      | error error => exact .inr ⟨uri, List.mem_cons_self, error, here, rfl⟩
      | ok object =>
          rcases ih with ⟨named, read, addressed⟩ | ⟨other, member, error, wrong, failed⟩
          · rw [read]
            exact .inl ⟨object :: named, rfl, .cons (Location.ofObject_iff.mp here) addressed⟩
          · rw [failed]
            exact .inr ⟨other, List.mem_cons_of_mem _ member, error, wrong, rfl⟩

theorem forall_addressed {uris : List String} {named : List Location}
    (addressed : List.Forall₂ Location.Addresses uris named) :
    ∀ uri ∈ uris, ∃ object, Location.Addresses uri object := by
  induction addressed with
  | nil => exact nofun
  | cons here _ ih => exact List.forall_mem_cons.mpr ⟨⟨_, here⟩, ih⟩

theorem mem_named_iff {uris : List String} {named : List Location}
    (addressed : List.Forall₂ Location.Addresses uris named) {object : Location} :
    object ∈ named ↔ ∃ uri ∈ uris, Location.Addresses uri object := by
  induction addressed with
  | nil => simp
  | @cons uri other uris named here _ ih =>
      have only : Location.Addresses uri object ↔ object = other := by
        rw [← Location.ofObject_iff, Location.ofObject_iff.mpr here, Except.ok.injEq, eq_comm]
      rw [List.mem_cons, ih, List.exists_mem_cons_iff, only]

theorem encard_of_listed {listed : List Location} {objects : Set Location} (once : listed.Nodup)
    (all : ∀ object, object ∈ listed ↔ object ∈ objects) : objects.encard = listed.length := by
  have same : objects = (listed.toFinset : Set Location) := by
    ext object
    rw [List.coe_toFinset]
    exact (all object).symm
  rw [same, Set.encard_coe_eq_coe_finsetCard, List.toFinset_card_of_nodup once]

/-- Either nothing is asked for, or each object that is named is named in one request, in the order
of the batches. -/
theorem deletes_each_once (uris : List String) :
    ((∃ uri ∈ uris, ∀ object, ¬ Location.Addresses uri object) →
      ∃ text, (deleteObjects uris).run = .done (.error (.storage text))) ∧
    ((∀ uri ∈ uris, ∃ object, Location.Addresses uri object) →
      ∃ (named : List Location) (batches : List BucketKeys) (total : Nat),
        List.Forall₂ Location.Addresses uris named ∧ BucketKeys.Cuts named batches ∧
        {object | ∃ uri ∈ uris, Location.Addresses uri object}.encard = total ∧
        ∀ trace rest, Runs (deleteObjects uris).run trace rest →
          Course total batches trace rest) := by
  rcases mapM_ofObject uris with ⟨named, read, addressed⟩ | ⟨uri, member, error, wrong, failed⟩
  · constructor
    · rintro ⟨uri, member, none⟩
      obtain ⟨object, here⟩ := forall_addressed addressed uri member
      exact absurd here (none object)
    · intro _
      have cuts := BucketKeys.cuts_ofLocations named
      refine ⟨named, _, _, addressed, cuts, encard_of_listed cuts.once ?_, ?_⟩
      · intro object
        rw [cuts.listed, mem_named_iff addressed]
        rfl
      · intro trace rest ran
        rw [deleteObjects_of_ok read] at ran
        rw [BucketKeys.length_flatMap_locations]
        exact course_of_runs ran
  · constructor
    · intro _
      obtain ⟨text, rfl⟩ := Location.storage_of_ofObject wrong
      exact ⟨text, deleteObjects_of_error failed⟩
    · intro all
      obtain ⟨object, addressed⟩ := all uri member
      rw [Location.ofObject_iff.mpr addressed] at wrong
      cases wrong

/-- A key is refused in the second bucket, and an address names a whole bucket. -/
theorem deletes_each_once_of_two :
    (∃ text, (deleteObjects ["s3://a/1", "s3://b"]).run = .done (.error (.storage text))) ∧
    ∃ (named : List Location) (batches : List BucketKeys) (total : Nat),
      List.Forall₂ Location.Addresses ["s3://b/x/2", "s3://a/1", "s3://b/x/1", "s3://b/x/2"] named ∧
      BucketKeys.Cuts named batches ∧
      Course total batches
        [⟨.delete "a" ["1"], .ok []⟩, ⟨.delete "b" ["x/2", "x/1"], .ok [⟨some "x/1", none⟩]⟩]
        (.done (.error (.storage "failed to delete s3://b/x/1: unknown error"))) := by
  constructor
  · apply (deletes_each_once ["s3://a/1", "s3://b"]).1
    refine ⟨"s3://b", by simp, fun object addressed => ?_⟩
    cases Location.ofObject_iff.mpr addressed
  · have addressed : ∀ uri ∈ ["s3://b/x/2", "s3://a/1", "s3://b/x/1", "s3://b/x/2"],
        ∃ object, Location.Addresses uri object := by
      simp only [List.forall_mem_cons, ← Location.ofObject_iff]
      exact ⟨⟨_, rfl⟩, ⟨_, rfl⟩, ⟨_, rfl⟩, ⟨_, rfl⟩, nofun⟩
    obtain ⟨named, batches, total, all, cuts, _, course⟩ := (deletes_each_once _).2 addressed
    exact ⟨named, batches, total, all, cuts, course _ _ (.answer (.answer (.stop _)))⟩

end AthenaModels.ObjectStore
