import AthenaModels.Proofs.Table.Creation

namespace AthenaModels.TableConfig

open Text

variable {t : TableConfig} {relation : Relation} {sql suffix location text : String} {c : Char}
  {letters more rest : List Char}

def isTerminator (c : Char) : Bool := isBlank c || c == ';'

def groups : List Char → Nat
  | [] => 0
  | c :: rest => groups rest + if c = ';' ∧ rest.head? ≠ some ';' then 1 else 0

/-- The groups of semicolons that nothing but blanks and semicolons follows. -/
def closings (sql : String) : Nat := groups (sql.toList.reverse.takeWhile isTerminator)

theorem isTerminator_iff : isTerminator c = true ↔ isBlank c = true ∨ c = ';' := by
  simp [isTerminator]

theorem groups_cons_blank (blank : isBlank c = true) (rest : List Char) :
    groups (c :: rest) = groups rest := by
  rw [groups, if_neg, Nat.add_zero]
  rintro ⟨rfl, _⟩
  exact absurd blank (by decide)

theorem groups_cons_again (joined : rest.head? = some ';') :
    groups (';' :: rest) = groups rest := by
  rw [groups, if_neg fun first => first.2 joined, Nat.add_zero]

theorem groups_cons_first (apart : rest.head? ≠ some ';') :
    groups (';' :: rest) = groups rest + 1 := by
  rw [groups, if_pos ⟨rfl, apart⟩]

theorem groups_le_append (letters more : List Char) :
    groups letters ≤ groups (more ++ letters) := by
  induction more with
  | nil => exact Nat.le_refl _
  | cons c more ih => exact Nat.le_trans ih (Nat.le_add_right _ _)

theorem groups_eq_zero_iff : groups letters = 0 ↔ ';' ∉ letters := by
  induction letters with
  | nil => exact ⟨fun _ => List.not_mem_nil, fun _ => rfl⟩
  | cons c rest ih =>
      rw [groups, Nat.add_eq_zero_iff, ih, List.mem_cons, not_or]
      constructor
      · rintro ⟨free, none⟩
        refine ⟨?_, free⟩
        rintro rfl
        rw [if_pos ⟨rfl, fun head => free (List.mem_of_head? head)⟩] at none
        cases none
      · rintro ⟨other, free⟩
        exact ⟨free, if_neg fun first => other first.1.symm⟩

theorem groups_append_blanks (blank : ∀ c ∈ more, isBlank c = true) :
    groups (letters ++ more) = groups letters := by
  have free : ';' ∉ more := fun member => absurd (blank ';' member) (by decide)
  induction letters with
  | nil => exact groups_eq_zero_iff.mpr free
  | cons c rest ih =>
      have head : (rest ++ more).head? = some ';' ↔ rest.head? = some ';' := by
        cases rest with
        | nil => exact ⟨fun head => absurd (List.mem_of_head? head) free, nofun⟩
        | cons d rest => exact Iff.rfl
      simp only [List.cons_append, groups, ih, ne_eq, head]

theorem groups_dropWhile_blank (letters : List Char) :
    groups (letters.dropWhile isBlank) = groups letters := by
  induction letters with
  | nil => rfl
  | cons c rest ih =>
      rw [List.dropWhile_cons]
      split
      · next blank => rw [ih, groups_cons_blank blank]
      · rfl

/-- The letters without the blanks and the one group of semicolons at their start. -/
def reopened (letters : List Char) : List Char :=
  ((letters.dropWhile isBlank).dropWhile (· == ';')).dropWhile isBlank

theorem reopened_cons_blank (blank : isBlank c = true) (rest : List Char) :
    reopened (c :: rest) = reopened rest := by
  rw [reopened, List.dropWhile_cons_of_pos blank]
  rfl

theorem reopened_cons_semicolon (rest : List Char) :
    reopened (';' :: rest) = (rest.dropWhile (· == ';')).dropWhile isBlank := rfl

theorem reopened_cons_again (joined : rest.head? = some ';') :
    reopened (';' :: rest) = reopened rest := by
  obtain ⟨more, rfl⟩ := List.head?_eq_some_iff.mp joined
  rfl

theorem reopened_cons_first (apart : rest.head? ≠ some ';') :
    reopened (';' :: rest) = rest.dropWhile isBlank := by
  rw [reopened_cons_semicolon]
  cases rest with
  | nil => rfl
  | cons c rest =>
      rw [List.dropWhile_cons_of_neg (by simpa using apart)]

theorem head?_reopened (head : (reopened letters).head? = some c) : isBlank c = false := by
  have kept := List.head?_dropWhile_not isBlank ((letters.dropWhile isBlank).dropWhile (· == ';'))
  rw [← reopened, head] at kept
  exact kept

theorem reopened_suffix (letters : List Char) : reopened letters <:+ letters :=
  (List.dropWhile_suffix _).trans ((List.dropWhile_suffix _).trans (List.dropWhile_suffix _))

theorem groups_reopened (all : ∀ c ∈ letters, isTerminator c = true) :
    groups (reopened letters) = groups letters - 1 := by
  induction letters with
  | nil => rfl
  | cons c rest ih =>
      obtain ⟨here, later⟩ := List.forall_mem_cons.mp all
      rcases isTerminator_iff.mp here with blank | rfl
      · rw [reopened_cons_blank blank, groups_cons_blank blank, ih later]
      · by_cases joined : rest.head? = some ';'
        · rw [reopened_cons_again joined, groups_cons_again joined, ih later]
        · rw [reopened_cons_first joined, groups_cons_first joined, groups_dropWhile_blank,
            Nat.add_sub_cancel]

theorem reopened_cases (all : ∀ c ∈ letters, isTerminator c = true) :
    reopened letters = [] ∨ (reopened letters).head? = some ';' := by
  cases left : reopened letters with
  | nil => exact .inl rfl
  | cons c rest =>
      have member : c ∈ reopened letters := left ▸ List.mem_cons_self
      rcases isTerminator_iff.mp (all c ((reopened_suffix letters).subset member)) with blank | rfl
      · rw [head?_reopened (by rw [left]; rfl)] at blank
        cases blank
      · exact .inr rfl

theorem groups_ne_zero_of_head? (head : letters.head? = some ';') : groups letters ≠ 0 :=
  fun none => groups_eq_zero_iff.mp none (List.mem_of_head? head)

theorem head?_reopened_iff (all : ∀ c ∈ letters, isTerminator c = true) :
    (reopened letters).head? = some ';' ↔ 2 ≤ groups letters := by
  have counted := groups_reopened all
  constructor
  · intro head
    have some := groups_ne_zero_of_head? head
    omega
  · intro several
    rcases reopened_cases all with none | head
    · rw [none, groups] at counted
      omega
    · exact head

theorem reopened_eq_nil_iff (all : ∀ c ∈ letters, isTerminator c = true) :
    reopened letters = [] ↔ groups letters ≤ 1 := by
  have few : groups letters ≤ 1 ↔ ¬2 ≤ groups letters := by omega
  rw [few, ← head?_reopened_iff all]
  constructor
  · intro none
    rw [none]
    exact nofun
  · exact (reopened_cases all).resolve_right

/-- More terminators make no difference as long as they open no group after another one. -/
theorem reopened_append_iff (all : ∀ c ∈ more ++ letters, isTerminator c = true) :
    reopened (more ++ letters) = reopened letters ↔
      groups (more ++ letters) ≤ max 1 (groups letters) := by
  have all' : ∀ c ∈ letters, isTerminator c = true :=
    fun c member => all c (List.mem_append_right _ member)
  constructor
  · intro same
    have counted := groups_reopened all
    rw [same, groups_reopened all'] at counted
    omega
  · intro few
    induction more with
    | nil => rfl
    | cons c more ih =>
        have longer := groups_le_append letters more
        obtain ⟨here, later⟩ := List.forall_mem_cons.mp all
        rw [List.cons_append] at all few ⊢
        rcases isTerminator_iff.mp here with blank | rfl
        · rw [groups_cons_blank blank] at few
          rw [reopened_cons_blank blank, ih later few]
        · by_cases joined : (more ++ letters).head? = some ';'
          · rw [groups_cons_again joined] at few
            rw [reopened_cons_again joined, ih later few]
          · -- Only the first group of all can be opened.
            have counted := groups_cons_first joined
            rw [(reopened_eq_nil_iff all).mpr (by omega), (reopened_eq_nil_iff all').mpr (by omega)]

def kept (sql : String) : List Char := (body sql).toList.rdropWhile isBlank

theorem reopened_append (apart : ∀ c, rest.head? = some c → isTerminator c = false) :
    reopened (letters ++ rest) = reopened letters ++ rest := by
  have unlike : ∀ c, rest.head? = some c → isBlank c = false ∧ (c == ';') = false := by
    intro c head
    simpa [isTerminator] using apart c head
  have notBlank := fun c head => (unlike c head).1
  rw [reopened, dropWhile_append_of_head notBlank,
    dropWhile_append_of_head fun c head => (unlike c head).2, dropWhile_append_of_head notBlank]
  rfl

theorem reverse_kept (sql : String) :
    (kept sql).reverse = reopened (sql.toList.dropWhile isBlank).reverse := by
  simp [kept, body, trim, List.rdropWhile, reopened]

theorem closings_eq (sql : String) :
    closings sql = groups ((sql.toList.dropWhile isBlank).reverse.takeWhile isTerminator) := by
  have whole := List.takeWhile_append_dropWhile (p := isBlank) (l := sql.toList)
  have blank : ∀ c ∈ (sql.toList.takeWhile isBlank).reverse.takeWhile isTerminator,
      isBlank c = true := by
    intro c member
    have listed := (List.takeWhile_prefix isTerminator).subset member
    exact List.mem_takeWhile_imp (List.mem_reverse.mp listed)
  rw [closings, ← whole, List.reverse_append, whole, List.takeWhile_append]
  split
  · next same =>
      rw [groups_append_blanks blank, (List.takeWhile_prefix isTerminator).eq_of_length same]
  · rfl

theorem exists_dropWhile_append (sql : String) (all : ∀ c ∈ suffix.toList, isTerminator c = true) :
    ∃ more, (∀ c ∈ more, isTerminator c = true) ∧
      (sql ++ suffix).toList.dropWhile isBlank = sql.toList.dropWhile isBlank ++ more := by
  rw [String.toList_append, List.dropWhile_append]
  split
  · next none =>
      refine ⟨suffix.toList.dropWhile isBlank, ?_, by rw [List.isEmpty_iff.mp none]; rfl⟩
      exact fun c member => all c ((List.dropWhile_suffix _).subset member)
  · exact ⟨suffix.toList, all, rfl⟩

theorem kept_closings (all : ∀ c ∈ letters, isTerminator c = true)
    (apart : ∀ c, rest.head? = some c → isTerminator c = false)
    (cut : (sql.toList.dropWhile isBlank).reverse = letters ++ rest) :
    (kept sql).reverse = reopened letters ++ rest ∧ closings sql = groups letters := by
  have none : rest.takeWhile isTerminator = [] := by
    cases rest with
    | nil => rfl
    | cons c rest => exact List.takeWhile_cons_of_neg (by simp [apart c rfl])
  rw [reverse_kept, closings_eq, cut, reopened_append apart, List.takeWhile_append_of_pos all, none,
    List.append_nil]
  exact ⟨rfl, rfl⟩

theorem exists_cut (sql : String) : ∃ letters rest,
    (sql.toList.dropWhile isBlank).reverse = letters ++ rest ∧
      (∀ c ∈ letters, isTerminator c = true) ∧
      ∀ c, rest.head? = some c → isTerminator c = false := by
  let backwards := (sql.toList.dropWhile isBlank).reverse
  refine ⟨backwards.takeWhile isTerminator, backwards.dropWhile isTerminator,
    List.takeWhile_append_dropWhile.symm, fun _ => List.mem_takeWhile_imp, ?_⟩
  intro c head
  have other := List.head?_dropWhile_not isTerminator backwards
  rw [head] at other
  exact other

theorem getLast?_kept : (kept sql).getLast? = some ';' ↔ 2 ≤ closings sql := by
  obtain ⟨letters, rest, cut, all, apart⟩ := exists_cut sql
  obtain ⟨shape, counted⟩ := kept_closings all apart cut
  rw [counted, ← head?_reopened_iff all, ← List.head?_reverse, shape]
  cases left : reopened letters with
  | nil =>
      refine ⟨fun head => ?_, nofun⟩
      cases apart ';' head
  | cons c more => exact Iff.rfl

theorem kept_append_iff (all : ∀ c ∈ suffix.toList, isTerminator c = true) :
    kept (sql ++ suffix) = kept sql ↔ closings (sql ++ suffix) ≤ max 1 (closings sql) := by
  obtain ⟨letters, rest, cut, all', apart⟩ := exists_cut sql
  obtain ⟨more, others, longer⟩ := exists_dropWhile_append sql all
  have both : ∀ c ∈ more.reverse ++ letters, isTerminator c = true := by
    intro c member
    rcases List.mem_append.mp member with first | second
    · exact others c (List.mem_reverse.mp first)
    · exact all' c second
  have cut' : ((sql ++ suffix).toList.dropWhile isBlank).reverse =
      more.reverse ++ letters ++ rest := by
    rw [longer, List.reverse_append, cut, List.append_assoc]
  obtain ⟨shape, counted⟩ := kept_closings all' apart cut
  obtain ⟨shape', counted'⟩ := kept_closings both apart cut'
  rw [counted, counted', ← reopened_append_iff both, ← List.reverse_inj, shape, shape',
    List.append_left_inj]

def opening (t : TableConfig) (relation : Relation) (location : String) : String :=
  "CREATE TABLE " ++ relation.display ++ "\nWITH (\n  " ++
    ",\n  ".intercalate (t.properties location) ++ "\n)\nAS\n"

theorem trimEnd_append_iff : trimEnd (t.opening relation location ++ body (sql ++ suffix)) =
    trimEnd (t.opening relation location ++ body sql) ↔ kept (sql ++ suffix) = kept sql := by
  rw [← String.toList_inj, toList_trimEnd, toList_trimEnd, String.toList_append,
    String.toList_append, rdropWhile_append_inj]
  rfl

theorem getLast?_opening :
    ((t.opening relation location).toList.rdropWhile isBlank).getLast? = some 'S' := by
  have letters : "\n)\nAS\n".toList = ['\n', ')', '\n', 'A', 'S', '\n'] := by decide +kernel
  have ends : ∀ front : String,
      ((front ++ "\n)\nAS\n").toList.rdropWhile isBlank).getLast? = some 'S' := by
    intro front
    rw [String.toList_append, letters, rdropWhile_append, if_neg (by decide),
      List.getLast?_append_of_ne_nil _ (by decide)]
    decide
  exact ends _

theorem getLast?_trimEnd :
    (trimEnd (t.opening relation location ++ body sql)).toList.getLast? = some ';' ↔
      (kept sql).getLast? = some ';' := by
  have nothing : kept sql = [] ↔ (body sql).toList.all isBlank = true := by
    rw [kept, List.rdropWhile_eq_nil_iff, List.all_eq_true]
  rw [toList_trimEnd, String.toList_append, rdropWhile_append]
  split
  · next blank =>
      rw [getLast?_opening, nothing.mpr blank]
      decide
  · next some =>
      rw [← kept, List.getLast?_append_of_ne_nil _ (mt nothing.mp some)]

/-- Of the semicolons and blanks that a query ends in, the statement leaves the last group of
semicolons out. -/
theorem drops_last_group (valid : t.validate = .ok ()) (relation : Relation)
    (sql location : String) :
    ∃ text, t.creation relation sql location = .ok text ∧
      ((trimEnd text).toList.getLast? = some ';' ↔ 2 ≤ closings sql) ∧
      ∀ suffix : String, (∀ c ∈ suffix.toList, isTerminator c = true) →
        ∃ text', t.creation relation (sql ++ suffix) location = .ok text' ∧
          (trimEnd text' = trimEnd text ↔
            closings (sql ++ suffix) ≤ max 1 (closings sql)) := by
  refine ⟨_, creation_ok_iff.mpr ⟨valid, rfl⟩, getLast?_trimEnd.trans getLast?_kept, ?_⟩
  intro suffix all
  exact ⟨_, creation_ok_iff.mpr ⟨valid, rfl⟩, trimEnd_append_iff.trans (kept_append_iff all)⟩

def dayCounts : Relation := ⟨"awsdatacatalog", "analytics", "day_counts"⟩

theorem drops_last_group_of_two :
    TableConfig.default.validate = .ok () ∧ (∀ c ∈ " ;;\u3000\n".toList, isTerminator c = true) ∧
    ∃ text text', TableConfig.default.creation dayCounts "SELECT 1" "s3://b/days" = .ok text ∧
      TableConfig.default.creation dayCounts ("SELECT 1" ++ " ;;\u3000\n") "s3://b/days" =
        .ok text' ∧
      trimEnd text' = trimEnd text ∧ (trimEnd text).toList.getLast? ≠ some ';' := by
  have valid : TableConfig.default.validate = .ok () := by decide +kernel
  have all : ∀ c ∈ " ;;\u3000\n".toList, isTerminator c = true :=
    List.all_eq_true.mp (by decide +kernel)
  obtain ⟨text, made, last, others⟩ := drops_last_group valid dayCounts "SELECT 1" "s3://b/days"
  obtain ⟨text', made', same⟩ := others " ;;\u3000\n" all
  exact ⟨valid, all, text, text', made, made', same.mpr (by decide +kernel),
    mt last.mp (by decide +kernel)⟩

/-- A semicolon that a blank sets apart from the last one gets into the statement. -/
theorem keeps_semicolon_before_blank :
    let start := TableConfig.default.opening dayCounts "s3://b/days"
    TableConfig.default.validate = .ok () ∧ (∀ c ∈ ";\n;\n".toList, isTerminator c = true) ∧
    TableConfig.default.creation dayCounts "SELECT 1" "s3://b/days" = .ok (start ++ "SELECT 1") ∧
    TableConfig.default.creation dayCounts ("SELECT 1" ++ ";\n;\n") "s3://b/days" =
      .ok (start ++ "SELECT 1;\n") ∧
    trimEnd (start ++ "SELECT 1;\n") ≠ trimEnd (start ++ "SELECT 1") ∧
    (trimEnd (start ++ "SELECT 1;\n")).toList.getLast? = some ';' := by
  intro start
  have valid : TableConfig.default.validate = .ok () := by decide +kernel
  have alone : body "SELECT 1" = "SELECT 1" := by decide +kernel
  have ended : body ("SELECT 1" ++ ";\n;\n") = "SELECT 1;\n" := by decide +kernel
  have last : (trimEnd (start ++ "SELECT 1;\n")).toList.getLast? = some ';' := by
    rw [← ended]
    exact getLast?_trimEnd.mpr (by decide +kernel)
  have last' : (trimEnd (start ++ "SELECT 1")).toList.getLast? ≠ some ';' := by
    rw [← alone]
    exact mt getLast?_trimEnd.mp (by decide +kernel)
  have all : ∀ c ∈ ";\n;\n".toList, isTerminator c = true :=
    List.all_eq_true.mp (by decide +kernel)
  refine ⟨valid, all, ?_, ?_, ?_, last⟩
  · exact creation_ok_iff.mpr ⟨valid, congrArg (start ++ ·) alone⟩
  · exact creation_ok_iff.mpr ⟨valid, congrArg (start ++ ·) ended⟩
  · intro same
    rw [same] at last
    exact last' last

end AthenaModels.TableConfig
