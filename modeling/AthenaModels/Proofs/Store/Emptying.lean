import AthenaModels.Proofs.Program.Protocol
import AthenaModels.Proofs.Store.Deletion

namespace AthenaModels

def Location.Contains (directory object : Location) : Prop :=
  object.bucket = directory.bucket ∧ directory.key.toList <+: object.key.toList

namespace ObjectStore

open Program

variable {directory : Location} {patience : Nat} {token : Option String} {found : List String}
  {trace : List service.Event} {rest : Program service (Except Error Nat)}

/-- Pages are asked for, each with the token of the one before, and all the keys on them are deleted
after the last page. -/
inductive Empties (directory : Location) : Nat → Option String → List String →
    List service.Event → Program service (Except Error Nat) → Prop where
  | tired {token : Option String} {found : List String} :
      Empties directory 0 token found [] .exhausted
  | waiting {patience : Nat} {token : Option String} {found : List String}
      (next : Reply (.list directory.bucket directory.key token) →
        Program service (Except Error Nat)) :
      Empties directory (patience + 1) token found []
        (.ask (.list directory.bucket directory.key token) next)
  | refused {patience : Nat} {token : Option String} {found : List String} (refusal : Refusal)
      (text : String) :
      Empties directory (patience + 1) token found
        [⟨.list directory.bucket directory.key token, .error refusal⟩]
        (.done (.error (.storage text)))
  | more {patience : Nat} {token : Option String} {found page : List String} {next : String}
      {trace : List service.Event} {rest : Program service (Except Error Nat)}
      (goes : Empties directory patience (some next) (found ++ page) trace rest) :
      Empties directory (patience + 1) token found
        (⟨.list directory.bucket directory.key token, .ok ⟨page, true, some next⟩⟩ :: trace) rest
  | last {patience : Nat} {token : Option String} {found : List String} {page : Listing}
      {trace : List service.Event} {rest : Program service (Except Error Nat)}
      (final : page.isTruncated = false ∨ page.nextToken = none)
      (goes : Course (found ++ page.keys).length
        (BucketKeys.mk directory.bucket (found ++ page.keys)).batches trace rest) :
      Empties directory (patience + 1) token found
        (⟨.list directory.bucket directory.key token, .ok page⟩ :: trace) rest

theorem course_deleteKeys {bucket : String} {keys : List String}
    (ran : Runs (deleteKeys bucket keys).run trace rest) :
    Course keys.length (BucketKeys.mk bucket keys).batches trace rest := by
  rw [deleteKeys_eq] at ran
  have course := course_of_runs ran
  rw [← BucketKeys.length_flatMap_locations, BucketKeys.batches_locations, BucketKeys.locations,
    List.length_map] at course
  exact course

theorem empties_of_runs
    (ran : Runs (keysFrom directory.bucket directory.key patience token >>= fun keys =>
      deleteKeys directory.bucket (found ++ keys)).run trace rest) :
    Empties directory patience token found trace rest := by
  induction patience generalizing token found trace with
  | zero =>
      obtain ⟨rfl, rfl⟩ := runs_exhausted.mp ran
      exact .tired
  | succ patience ih =>
      rcases runs_ask.mp ran with ⟨rfl, rfl⟩ | ⟨reply, later, rfl, answered⟩
      · exact .waiting _
      · match reply with
        | .error refusal =>
            obtain ⟨rfl, rfl⟩ := runs_done.mp answered
            exact .refused _ _
        | .ok ⟨page, false, none⟩ => exact .last (.inl rfl) (course_deleteKeys answered)
        | .ok ⟨page, false, some next⟩ => exact .last (.inl rfl) (course_deleteKeys answered)
        | .ok ⟨page, true, none⟩ => exact .last (.inr rfl) (course_deleteKeys answered)
        | .ok ⟨page, true, some next⟩ =>
            have same : (do
                  let keys ← keysFrom directory.bucket directory.key patience (some next)
                  return page ++ keys) >>= (fun keys => deleteKeys directory.bucket (found ++ keys)) =
                keysFrom directory.bucket directory.key patience (some next) >>= fun keys =>
                  deleteKeys directory.bucket (found ++ page ++ keys) := by
              simp [List.append_assoc]
            apply Empties.more
            apply ih
            rw [← same]
            exact answered

inductive Paging where
  | fresh
  | due (token : String) (keys : List String)
  | complete

structure Contents where
  objects : Set Location
  paging : Paging

/-- The keys of a bucket that start with a text, each once and in any order. -/
structure Lists (objects : Set Location) (bucket stem : String) (keys : List String) : Prop where
  once : keys.Nodup
  all : ∀ key, key ∈ keys ↔ (⟨bucket, key⟩ : Location) ∈ objects ∧ stem.toList <+: key.toList

/-- What a listing has yet to tell. -/
inductive Contents.Due (store : Contents) (bucket stem : String) :
    Option String → List String → Prop where
  | first {keys : List String} (lists : Lists store.objects bucket stem keys) :
      Due store bucket stem none keys
  | later {token : String} {keys : List String} (promised : store.paging = .due token keys) :
      Due store bucket stem (some token) keys

def named (bucket : String) (keys : List String) : Set Location :=
  {object | object.bucket = bucket ∧ object.key ∈ keys}

/-- A listing may be cut anywhere. When a deletion fails, any of the objects may be gone that it
names. -/
inductive Answers : Contents → service.Event → Contents → Prop where
  | page {store : Contents} {bucket stem : String} {token : Option String}
      {page left : List String} (due : store.Due bucket stem token (page ++ left)) (next : String) :
      Answers store ⟨.list bucket stem token, .ok ⟨page, true, some next⟩⟩
        { store with paging := .due next left }
  | lastPage {store : Contents} {bucket stem : String} {token : Option String} {page : List String}
      (due : store.Due bucket stem token page) :
      Answers store ⟨.list bucket stem token, .ok ⟨page, false, none⟩⟩
        { store with paging := .complete }
  | unlisted {store : Contents} {bucket stem : String} {token : Option String} (refusal : Refusal) :
      Answers store ⟨.list bucket stem token, .error refusal⟩ store
  | deleted {store : Contents} {bucket : String} {keys : List String} :
      Answers store ⟨.delete bucket keys, .ok []⟩
        { store with objects := store.objects \ named bucket keys }
  | undeleted {store : Contents} {bucket : String} {keys : List String}
      {reply : Reply (.delete bucket keys)} {objects : Set Location} (fault : reply ≠ .ok [])
      (fewer : objects ⊆ store.objects) (only : store.objects \ objects ⊆ named bucket keys) :
      Answers store ⟨.delete bucket keys, reply⟩ { store with objects := objects }

def answering : Protocol service Contents where
  allowed _ _ := True
  step := Answers

variable {store last : Contents}

theorem course_contents {total : Nat} {batches : List BucketKeys}
    (goes : Course total batches trace rest) (steps : answering.Steps store trace last) :
    last.objects ⊆ store.objects ∧
    (∀ object ∈ store.objects \ last.objects, object ∈ batches.flatMap BucketKeys.locations) ∧
    ∀ count, rest = .done (.ok count) → count = total ∧
      ∀ object ∈ last.objects, object ∉ batches.flatMap BucketKeys.locations := by
  induction goes generalizing store with
  | complete =>
      cases steps
      simp
  | waiting next =>
      cases steps
      simp
  | @deleted batch later trace rest goes ih =>
      cases steps with
      | cons first steps =>
        cases first with
        | deleted =>
          obtain ⟨fewer, only, complete⟩ := ih steps
          simp only [List.flatMap_cons, List.mem_append, BucketKeys.mem_locations]
          refine ⟨fewer.trans Set.sdiff_subset, ?_, ?_⟩
          · rintro object ⟨present, gone⟩
            by_cases here : object ∈ named batch.bucket batch.keys
            · exact .inl here
            · exact .inr (only object ⟨⟨present, here⟩, gone⟩)
          · intro count finished
            obtain ⟨told, absent⟩ := complete count finished
            refine ⟨told, fun object present => ?_⟩
            rintro (here | later)
            · exact (fewer present).2 here
            · exact absent object present later
        | undeleted fault => exact absurd rfl fault
  | failed text fault =>
      cases steps with
      | cons first steps =>
        cases steps
        cases first with
        | deleted => exact absurd rfl fault
        | undeleted _ fewer only =>
          refine ⟨fewer, ?_, ?_⟩
          · intro object gone
            rw [List.flatMap_cons, List.mem_append]
            exact .inl (BucketKeys.mem_locations.mpr (only gone))
          · intro count finished
            cases finished

def Continues (directory : Location) (store : Contents) (token : Option String)
    (found : List String) : Prop :=
  ∀ keys, store.Due directory.bucket directory.key token keys →
    Lists store.objects directory.bucket directory.key (found ++ keys)

theorem continues_none (directory : Location) (store : Contents) :
    Continues directory store none [] := by
  rintro keys ⟨lists⟩
  exact lists

theorem Continues.page {page left : List String} {next : String}
    (continues : Continues directory store token found)
    (due : store.Due directory.bucket directory.key token (page ++ left)) :
    Continues directory { store with paging := .due next left } (some next) (found ++ page) := by
  intro keys due'
  cases due' with
  | later promised =>
      obtain ⟨_, rfl⟩ := Paging.due.inj promised
      rw [List.append_assoc]
      exact continues _ due

theorem Lists.mem_locations_iff {objects : Set Location} {keys : List String}
    (lists : Lists objects directory.bucket directory.key keys) {object : Location} :
    object ∈ (BucketKeys.mk directory.bucket keys).locations ↔
      object ∈ objects ∧ directory.Contains object := by
  obtain ⟨bucket, key⟩ := object
  rw [BucketKeys.mem_locations, lists.all, Location.Contains]
  constructor
  · rintro ⟨rfl, present, inside⟩
    exact ⟨present, rfl, inside⟩
  · rintro ⟨present, rfl, inside⟩
    exact ⟨rfl, present, inside⟩

theorem Lists.encard {objects : Set Location} {keys : List String}
    (lists : Lists objects directory.bucket directory.key keys) :
    {object ∈ objects | directory.Contains object}.encard = keys.length := by
  have once : (BucketKeys.mk directory.bucket keys).locations.Nodup :=
    lists.once.map fun _ _ same => congrArg Location.key same
  have size := @encard_of_listed _ {object ∈ objects | directory.Contains object} once fun _ =>
    lists.mem_locations_iff
  rwa [BucketKeys.locations, List.length_map] at size

theorem empties_contents (empties : Empties directory patience token found trace rest)
    (steps : answering.Steps store trace last) (continues : Continues directory store token found) :
    last.objects ⊆ store.objects ∧
    (∀ object ∈ store.objects \ last.objects, directory.Contains object) ∧
    ∀ count, rest = .done (.ok count) →
      (∀ object ∈ last.objects, ¬ directory.Contains object) ∧
      {object ∈ store.objects | directory.Contains object}.encard = count := by
  induction empties generalizing store with
  | tired =>
      cases steps
      simp
  | waiting next =>
      cases steps
      simp
  | refused refusal text =>
      cases steps with
      | cons first steps =>
        cases steps
        cases first
        simp
  | more goes ih =>
      cases steps with
      | cons first steps =>
        cases first with
        | page due =>
          have later := ih steps (continues.page due)
          exact later
  | last final goes =>
      cases steps with
      | cons first steps =>
        cases first with
        | page due next => simp at final
        | lastPage due =>
          have lists := continues _ due
          obtain ⟨fewer, only, complete⟩ := course_contents goes steps
          rw [BucketKeys.batches_locations] at only complete
          simp only [lists.mem_locations_iff] at only complete
          refine ⟨fewer, fun object gone => (only object gone).2, fun count finished => ?_⟩
          obtain ⟨rfl, absent⟩ := complete count finished
          exact ⟨fun object present inside => absent object present ⟨fewer present, inside⟩,
            lists.encard⟩

theorem deletePrefix_of_ok {uri : String} (read : Location.ofDirectory uri = .ok directory) :
    deletePrefix patience uri = keysFrom directory.bucket directory.key patience none >>= fun keys =>
      deleteKeys directory.bucket ([] ++ keys) := by
  rw [deletePrefix, read]
  rfl

/-- Either nothing is asked for, or one directory is emptied page by page and nothing else is lost,
however the pages are cut and whatever fails. -/
theorem empties_directory (patience : Nat) (uri : String) :
    ((∀ bucket key, Location.Splits uri bucket key → ∀ c ∈ key, c = '/') →
      ∃ text, (deletePrefix patience uri).run = .done (.error (.storage text))) ∧
    ∀ bucket key, Location.Splits uri bucket key → (∃ c ∈ key, c ≠ '/') → ∀ trace rest,
      Runs (deletePrefix patience uri).run trace rest →
      Empties (.within bucket key) patience none [] trace rest ∧
      ∀ store last, answering.Steps store trace last →
        last.objects ⊆ store.objects ∧
        (∀ object ∈ store.objects \ last.objects, (Location.within bucket key).Contains object) ∧
        ∀ count, rest = .done (.ok count) →
          (∀ object ∈ last.objects, ¬ (Location.within bucket key).Contains object) ∧
          {object ∈ store.objects | (Location.within bucket key).Contains object}.encard = count := by
  constructor
  · intro bare
    cases read : Location.ofDirectory uri with
    | error error =>
        obtain ⟨text, rfl⟩ := Location.storage_of_ofDirectory read
        refine ⟨text, ?_⟩
        rw [deletePrefix, read]
        rfl
    | ok directory =>
        obtain ⟨bucket, key, splits, c, member, other⟩ := Location.splits_of_ofDirectory read
        exact absurd (bare bucket key splits c member) other
  · intro bucket key splits more trace rest ran
    rw [deletePrefix_of_ok (Location.ofDirectory_splits splits more)] at ran
    have empties := empties_of_runs ran
    refine ⟨empties, fun store last steps => ?_⟩
    exact empties_contents empties steps (continues_none _ store)

/-- The keys come on two pages. A key that goes on after the name of the directory is left, and so
is the same key in another bucket. -/
theorem empties_directory_in_pages :
    let objects : List Location :=
      [⟨"b", "t/e/1"⟩, ⟨"b", "t/e/2"⟩, ⟨"b", "t/e2/1"⟩, ⟨"c", "t/e/1"⟩]
    let trace : List service.Event :=
      [⟨.list "b" "t/e/" none, .ok ⟨["t/e/2"], true, some "p"⟩⟩,
        ⟨.list "b" "t/e/" (some "p"), .ok ⟨["t/e/1"], false, none⟩⟩,
        ⟨.delete "b" ["t/e/2", "t/e/1"], .ok []⟩]
    (∃ text, (deletePrefix 9 "s3://b//").run = .done (.error (.storage text))) ∧
    ∃ last, answering.Steps ⟨{object | object ∈ objects}, .fresh⟩ trace last ∧
      Runs (deletePrefix 9 "s3://b/t/e").run trace (.done (.ok 2)) ∧
      ⟨"b", "t/e/1"⟩ ∉ last.objects ∧ ⟨"b", "t/e/2"⟩ ∉ last.objects ∧
      ⟨"b", "t/e2/1"⟩ ∈ last.objects ∧ ⟨"c", "t/e/1"⟩ ∈ last.objects ∧
      {object ∈ {object | object ∈ objects} |
        (Location.within ['b'] ['t', '/', 'e']).Contains object}.encard = 2 := by
  intro objects trace
  constructor
  · apply (empties_directory 9 "s3://b//").1
    intro bucket key splits
    by_contra other
    push Not at other
    cases Location.ofDirectory_splits splits other
  · have splits : Location.Splits "s3://b/t/e" ['b'] ['t', '/', 'e'] :=
      ⟨by decide, by decide, by decide⟩
    have lists : Lists {object | object ∈ objects} "b" "t/e/" (["t/e/2"] ++ ["t/e/1"]) := by
      refine ⟨by decide, fun key => ⟨?_, ?_⟩⟩
      · intro member
        simp only [List.cons_append, List.nil_append, List.mem_pair] at member
        rcases member with rfl | rfl <;> exact ⟨by decide, by decide⟩
      · rintro ⟨member, inside⟩
        have keys : key = "t/e/1" ∨ key = "t/e/2" ∨ key = "t/e2/1" := by
          simpa [objects] using member
        rcases keys with rfl | rfl | rfl
        · decide
        · decide
        · revert inside
          decide
    let last : Contents := ⟨{object | object ∈ objects} \ named "b" ["t/e/2", "t/e/1"], .complete⟩
    have steps : answering.Steps ⟨{object | object ∈ objects}, .fresh⟩ trace last :=
      .cons (.page (.first lists) "p") (.cons (.lastPage (.later rfl)) (.cons .deleted (.refl _)))
    have ran : Runs (deletePrefix 9 "s3://b/t/e").run trace (.done (.ok 2)) :=
      .answer (.answer (.answer (.stop _)))
    have more : ∃ c ∈ ['t', '/', 'e'], c ≠ '/' := ⟨'t', List.mem_cons_self, by decide⟩
    obtain ⟨_, only, complete⟩ := ((empties_directory 9 _).2 _ _ splits more _ _ ran).2 _ _ steps
    obtain ⟨absent, size⟩ := complete 2 rfl
    refine ⟨last, steps, ran, ?_, ?_, ?_, ?_, size⟩
    · exact fun present => absent _ present ⟨rfl, by decide⟩
    · exact fun present => absent _ present ⟨rfl, by decide⟩
    · by_contra gone
      obtain ⟨_, inside⟩ := only ⟨"b", "t/e2/1"⟩ ⟨by decide, gone⟩
      revert inside
      decide
    · by_contra gone
      obtain ⟨bucket, _⟩ := only ⟨"c", "t/e/1"⟩ ⟨by decide, gone⟩
      revert bucket
      decide

end ObjectStore
end AthenaModels
