import AthenaModels.Client.Call
import AthenaModels.Proofs.Program.Protocol

namespace AthenaModels.Call

variable {α : Type} {preparation : Work Unit}

def ownEvent? : service.Event → Option Warehouse.service.Event
  | ⟨.own r, reply⟩ => some ⟨r, reply⟩
  | ⟨.prepare, _⟩ => none

def ownEvents (events : List service.Event) : List Warehouse.service.Event :=
  events.filterMap ownEvent?

@[simp] theorem ownEvents_nil : ownEvents [] = [] := rfl

theorem exists_of_ownEvents_eq_append {events : List service.Event}
    {before after : List Warehouse.service.Event} {r : Warehouse.Request}
    {reply : Warehouse.Reply r} (own : ownEvents events = before ++ ⟨r, reply⟩ :: after) :
    ∃ earlier later, events = earlier ++ ⟨.own r, reply⟩ :: later ∧ ownEvents earlier = before := by
  obtain ⟨first, second, rfl, rfl, rest⟩ := List.filterMap_eq_append_iff.mp own
  obtain ⟨quiet, event, later, rfl, none, some, rfl⟩ := List.filterMap_eq_cons_iff.mp rest
  obtain ⟨request, answer⟩ := event
  cases request with
  | prepare => cases some
  | own r =>
      cases some
      refine ⟨first ++ quiet, later, by rw [List.append_assoc], ?_⟩
      rw [ownEvents, List.filterMap_append, List.filterMap_eq_nil_iff.mpr none, List.append_nil]

def owned (event : Warehouse.service.Event) : service.Event :=
  ⟨.own event.request, event.reply⟩

@[simp] theorem ownEvents_map_owned (trace : List Warehouse.service.Event) :
    ownEvents (trace.map owned) = trace := by
  induction trace with
  | nil => rfl
  | cons event trace ih => exact congrArg (event :: ·) ih

theorem ownEvents_append (before after : List service.Event) :
    ownEvents (before ++ after) = ownEvents before ++ ownEvents after :=
  List.filterMap_append

def lowered {σ : Type} (upper : Protocol service σ) : Protocol Warehouse.service σ where
  allowed state r := upper.allowed state (.own r)
  step state event later := upper.step state (owned event) later

theorem steps_lowered_iff {σ : Type} {upper : Protocol service σ} {state last : σ}
    {trace : List Warehouse.service.Event} :
    (lowered upper).Steps state trace last ↔ upper.Steps state (trace.map owned) last := by
  induction trace generalizing state with
  | nil =>
      constructor
      · rintro ⟨⟩
        exact .refl _
      · rintro ⟨⟩
        exact .refl _
  | cons event trace ih =>
      constructor
      · rintro (_ | ⟨first, later⟩)
        exact .cons first (ih.mp later)
      · rintro (_ | ⟨first, later⟩)
        exact .cons first (ih.mpr later)

theorem keeps_own_lowered {σ : Type} {upper : Protocol service σ} {work : Work α}
    {post : σ → Except Error α → Prop} {state : σ}
    (keeps : work.run.Keeps (lowered upper) post state) :
    (own work).run.Keeps upper post state := by
  apply keeps.translate
  intro state request allowed
  exact ⟨allowed, fun reply later step => step⟩

/-- A protocol for a call's own events, and for what its preparations do. -/
def protocol {σ : Type} (own : Protocol Warehouse.service σ) (prepares : σ → σ → Prop) :
    Protocol service σ where
  allowed
    | state, .own r => own.allowed state r
    | _, .prepare => True
  step
    | state, ⟨.own r, reply⟩, later => own.step state ⟨r, reply⟩ later
    | state, ⟨.prepare, _⟩, later => prepares state later

variable {σ : Type} {lower : Protocol Warehouse.service σ} {prepares : σ → σ → Prop}

theorem keeps_own {work : Work α} {post : σ → Except Error α → Prop} {state : σ}
    (keeps : work.run.Keeps lower post state) :
    (own work).run.Keeps (protocol lower prepares) post state :=
  keeps_own_lowered keeps

theorem keeps_prepare {post : σ → Except Error Unit → Prop} {state : σ}
    (keeps : ∀ later reply, prepares state later → post later reply) :
    prepare.run.Keeps (protocol lower prepares) post state :=
  ⟨trivial, fun reply later prepared => keeps later reply prepared⟩

theorem keeps_prepared {call : Call α} {post : σ → Except Error α → Prop} {state : σ}
    (keeps : call.run.Keeps (protocol lower prepares) post state)
    (prepared : ∀ state, preparation.run.Keeps lower (fun later _ => prepares state later) state) :
    (call.prepared preparation).run.Keeps lower post state := by
  apply keeps.translate
  intro state request allowed
  cases request with
  | own r => exact ⟨allowed, fun reply later step => step⟩
  | prepare => exact prepared state

def guarded (own : Protocol Warehouse.service σ) (ready : σ → Prop)
    (prepares : σ → Except Error Unit → σ → Prop) : Protocol service σ where
  allowed
    | state, .own r => own.allowed state r
    | state, .prepare => ready state
  step
    | state, ⟨.own r, reply⟩, later => own.step state ⟨r, reply⟩ later
    | state, ⟨.prepare, reply⟩, later => prepares state reply later

section
variable {ready : σ → Prop} {prepares : σ → Except Error Unit → σ → Prop}

theorem keeps_own_guarded {work : Work α} {post : σ → Except Error α → Prop} {state : σ}
    (keeps : work.run.Keeps lower post state) :
    (own work).run.Keeps (guarded lower ready prepares) post state :=
  keeps_own_lowered keeps

theorem keeps_prepared_guarded {call : Call α} {post : σ → Except Error α → Prop} {state : σ}
    (keeps : call.run.Keeps (guarded lower ready prepares) post state)
    (prepared : ∀ state, ready state →
      preparation.run.Keeps lower (fun later reply => prepares state reply later) state) :
    (call.prepared preparation).run.Keeps lower post state := by
  apply keeps.translate
  intro state request allowed
  cases request with
  | own r => exact ⟨allowed, fun reply later step => step⟩
  | prepare => exact prepared state allowed

end

theorem steps_ownEvents (allowed : List Warehouse.service.Event → Warehouse.Request → Prop)
    (past : List Warehouse.service.Event) (events : List service.Event) :
    (protocol (.ofPast allowed) Eq).Steps past events (past ++ ownEvents events) := by
  induction events generalizing past with
  | nil =>
      rw [ownEvents_nil, List.append_nil]
      exact .refl past
  | cons event events ih =>
      obtain ⟨request, reply⟩ := event
      cases request with
      | own r =>
          have later := ih (past ++ [⟨r, reply⟩])
          rw [List.append_assoc] at later
          exact .cons rfl later
      | prepare => exact .cons rfl (ih past)

theorem expands_unprepared {events : List service.Event}
    {trace : List Warehouse.service.Event}
    (expands : Program.Expands (carryOut (pure ())) events trace) : trace = ownEvents events := by
  induction expands with
  | nil => rfl
  | @cons event events part trace ran _ ih =>
      obtain ⟨request, reply⟩ := event
      cases request with
      | own r =>
          rcases Program.runs_ask.mp ran with ⟨_, same⟩ | ⟨answer, later, rfl, complete⟩
          · cases same
          · obtain ⟨rfl, same⟩ := Program.runs_done.mp complete
            cases same
            rw [ih]
            rfl
      | prepare =>
          obtain ⟨rfl, _⟩ := Program.runs_done.mp ran
          rw [ih]
          rfl

theorem begun_unprepared {reached : Program service α} {begun : List Warehouse.service.Event}
    {rest : Program Warehouse.service α}
    (underway : Program.Begun (carryOut (pure ())) reached begun rest) : begun = [] := by
  cases underway with
  | complete => rfl
  | exhausted => rfl
  | @underway request _ _ left ran unfinished =>
      cases request with
      | own r =>
          rcases Program.runs_ask.mp ran with ⟨rfl, _⟩ | ⟨answer, later, rfl, complete⟩
          · rfl
          · obtain ⟨rfl, rfl⟩ := Program.runs_done.mp complete
            cases unfinished
      | prepare =>
          obtain ⟨rfl, rfl⟩ := Program.runs_done.mp ran
          cases unfinished

theorem account_unprepared {call reached : Program service α} {events : List service.Event}
    {trace : List Warehouse.service.Event} {rest : Program Warehouse.service α}
    (account : Program.Account (carryOut (pure ())) call events reached trace rest) :
    trace = ownEvents events := by
  obtain ⟨before, begun, rfl, expands, underway⟩ := account.carried
  rw [begun_unprepared underway, List.append_nil]
  exact expands_unprepared expands

end AthenaModels.Call
