import AthenaModels.Proofs.Program.Requests

/-! Rules for showing what a program does in a world that it shares with the service. -/

namespace AthenaModels

/-- How a state goes on with each answered request, and what may be asked for in it. -/
structure Protocol (S : Service) (σ : Type) where
  allowed : σ → S.Request → Prop
  step : σ → S.Event → σ → Prop

namespace Protocol

variable {S : Service} {σ : Type}

inductive Steps (protocol : Protocol S σ) : σ → List S.Event → σ → Prop where
  | refl (state : σ) : Steps protocol state [] state
  | cons {state middle last : σ} {event : S.Event} {trace : List S.Event}
      (first : protocol.step state event middle) (later : Steps protocol middle trace last) :
      Steps protocol state (event :: trace) last

/-- The past is the state; `allowed` says what may be asked for after it. -/
def ofPast (allowed : List S.Event → S.Request → Prop) : Protocol S (List S.Event) where
  allowed := allowed
  step past event later := later = past ++ [event]

end Protocol

namespace Program

variable {S T : Service} {σ α β : Type} {protocol : Protocol S σ}

/-- From a state on, a program asks only for what is allowed, and `post` holds in the end. -/
def Keeps (protocol : Protocol S σ) (post : σ → α → Prop) : Program S α → σ → Prop
  | .done value, state => post state value
  | .ask request next, state =>
      protocol.allowed state request ∧
        ∀ reply later, protocol.step state ⟨request, reply⟩ later →
          (next reply).Keeps protocol post later
  | .exhausted, _ => True

theorem keeps_ask {post : σ → α → Prop} {state : σ} {request : S.Request}
    {next : S.Reply request → Program S α} :
    (ask request next).Keeps protocol post state ↔
      protocol.allowed state request ∧
        ∀ reply later, protocol.step state ⟨request, reply⟩ later →
          (next reply).Keeps protocol post later := Iff.rfl

theorem keeps_request {state : σ} {request : S.Request}
    {post : σ → S.Reply request → Prop} :
    (Program.request request).Keeps protocol post state ↔
      protocol.allowed state request ∧
        ∀ reply later, protocol.step state ⟨request, reply⟩ later → post later reply := Iff.rfl

@[simp] theorem keeps_request_ofPast {allowed : List S.Event → S.Request → Prop}
    {past : List S.Event} {request : S.Request} {post : List S.Event → S.Reply request → Prop} :
    (Program.request request).Keeps (.ofPast allowed) post past ↔
      allowed past request ∧ ∀ reply, post (past ++ [⟨request, reply⟩]) reply := by
  simp only [keeps_request, Protocol.ofPast, forall_eq]

theorem keeps_bind {p : Program S α} {f : α → Program S β} {post : σ → β → Prop} {state : σ} :
    (p.bind f).Keeps protocol post state ↔
      p.Keeps protocol (fun later value => (f value).Keeps protocol post later) state := by
  induction p generalizing state with
  | done value => rfl
  | exhausted => rfl
  | ask request next ih => simp only [ask_bind, keeps_ask, ih]

theorem Keeps.mono {p : Program S α} {post weaker : σ → α → Prop} {state : σ}
    (keeps : p.Keeps protocol post state)
    (implies : ∀ later value, post later value → weaker later value) :
    p.Keeps protocol weaker state := by
  induction p generalizing state with
  | done value => exact implies state value keeps
  | exhausted => trivial
  | ask request next ih =>
      exact ⟨keeps.1, fun reply later step => ih reply (keeps.2 reply later step)⟩

theorem Keeps.run {p rest : Program S α} {post : σ → α → Prop} {state last : σ}
    {trace : List S.Event} (keeps : p.Keeps protocol post state) (ran : Runs p trace rest)
    (steps : protocol.Steps state trace last) : rest.Keeps protocol post last := by
  induction ran generalizing state with
  | stop =>
      cases steps
      exact keeps
  | answer _ ih =>
      cases steps with
      | cons first later => exact ih (keeps.2 _ _ first) later

theorem Keeps.allowed {p rest : Program S α} {post : σ → α → Prop} {state middle : σ}
    {before after : List S.Event} {event : S.Event} (keeps : p.Keeps protocol post state)
    (ran : Runs p (before ++ event :: after) rest)
    (steps : protocol.Steps state before middle) : protocol.allowed middle event.request := by
  obtain ⟨q, first, second⟩ := ran.split
  have reached := keeps.run first steps
  cases second with
  | answer _ => exact reached.1

/-- What each allowed step leaves true stays true. -/
theorem Keeps.preserved {holds : σ → Prop} {p rest : Program S α} {post : σ → α → Prop}
    {state last : σ} {trace : List S.Event} (keeps : p.Keeps protocol post state)
    (ran : Runs p trace rest) (steps : protocol.Steps state trace last)
    (kept : ∀ state event later, holds state → protocol.allowed state event.request →
      protocol.step state event later → holds later) (now : holds state) : holds last := by
  induction ran generalizing state with
  | stop =>
      cases steps
      exact now
  | answer _ ih =>
      cases steps with
      | cons first later =>
          exact ih (keeps.2 _ _ first) later (kept _ _ _ now keeps.1 first)

/-- What is allowed after what has gone before is allowed by another protocol as well. -/
theorem Keeps.permitted {narrow wide : List S.Event → S.Request → Prop} {p : Program S α}
    {post : List S.Event → α → Prop} {holds : List S.Event → Prop} {past : List S.Event}
    (keeps : p.Keeps (.ofPast narrow) post past) (now : holds past)
    (kept : ∀ past event, holds past → holds (past ++ [event]))
    (permits : ∀ past request, holds past → narrow past request → wide past request) :
    p.Keeps (.ofPast wide) (fun later value => holds later ∧ post later value) past := by
  induction p generalizing past with
  | done value => exact ⟨now, keeps⟩
  | exhausted => trivial
  | ask request next ih =>
      refine ⟨permits past request now keeps.1, ?_⟩
      rintro reply _ rfl
      exact ih reply (keeps.2 reply _ rfl) (kept past _ now)

theorem Keeps.makes {allowed : List S.Event → S.Request → Prop} {always : S.Request → Prop}
    {p : Program S α} {post : List S.Event → α → Prop} {past : List S.Event}
    (keeps : p.Keeps (.ofPast allowed) post past)
    (implies : ∀ past request, allowed past request → always request) : p.Makes always := by
  induction p generalizing past with
  | done => trivial
  | exhausted => trivial
  | ask request next ih =>
      exact ⟨implies past request keeps.1, fun reply => ih reply (keeps.2 reply _ rfl)⟩

theorem steps_play {τ : Type} {answer : (r : S.Request) → τ → S.Reply r × τ} {view : τ → σ}
    (serves : ∀ request state, protocol.step (view state) ⟨request, (answer request state).1⟩
      (view (answer request state).2)) (p : Program S α) (state : τ) :
    protocol.Steps (view state) (p.play answer state).1
      (view (stateAfter answer state (p.play answer state).1)) := by
  induction p generalizing state with
  | done => exact .refl _
  | exhausted => exact .refl _
  | ask request next ih => exact .cons (serves request state) (ih _ _)

/-- A program keeps to a protocol when what carries out its requests keeps to another one and does
with each of them what the first one says. -/
theorem Keeps.translate {lower : Protocol T σ} {carryOut : (r : S.Request) → Program T (S.Reply r)}
    {p : Program S α} {post : σ → α → Prop} {state : σ} (keeps : p.Keeps protocol post state)
    (carried : ∀ state request, protocol.allowed state request →
      (carryOut request).Keeps lower
        (fun later reply => protocol.step state ⟨request, reply⟩ later) state) :
    (p.translate carryOut).Keeps lower post state := by
  induction p generalizing state with
  | done value => exact keeps
  | exhausted => trivial
  | ask request next ih =>
      apply keeps_bind.mpr
      apply (carried state request keeps.1).mono
      intro later reply step
      exact ih reply (keeps.2 reply later step)

/-- What the carrying out of each request leaves true stays true. -/
theorem keeps_translate_of_invariant {lower : Protocol T σ}
    {carryOut : (r : S.Request) → Program T (S.Reply r)} {holds : σ → Prop} {p : Program S α}
    {state : σ} (carried : ∀ request state, holds state →
      (carryOut request).Keeps lower (fun later _ => holds later) state) (now : holds state) :
    (p.translate carryOut).Keeps lower (fun later _ => holds later) state := by
  induction p generalizing state with
  | done value => exact now
  | exhausted => trivial
  | ask request next ih =>
      apply keeps_bind.mpr
      apply (carried request state now).mono
      intro later reply now
      exact ih reply now

end Program

namespace Fallible

variable {S T : Service} {σ α β : Type} {protocol : Protocol S σ}

def ends (good : σ → α → Prop) (bad : σ → Error → Prop) (state : σ) : Except Error α → Prop
  | .ok value => good state value
  | .error error => bad state error

theorem keeps_lift {p : Program S α} {good : σ → α → Prop} {bad : σ → Error → Prop} {state : σ} :
    (ExceptT.lift p : Fallible S α).run.Keeps protocol (ends good bad) state ↔
      p.Keeps protocol good state :=
  Program.keeps_bind

theorem keeps_outcome {p : Fallible S α} {good : σ → Except Error α → Prop}
    {bad : σ → Error → Prop} {state : σ} :
    p.outcome.run.Keeps protocol (ends good bad) state ↔ p.run.Keeps protocol good state :=
  keeps_lift

theorem keeps_ofExcept {outcome : Except Error α} {post : σ → Except Error α → Prop} {state : σ} :
    (ofExcept outcome : Fallible S α).run.Keeps protocol post state ↔ post state outcome := by
  cases outcome with
  | error error => rfl
  | ok value => rfl

theorem keeps_bind {p : Fallible S α} {f : α → Fallible S β} {post : σ → Except Error β → Prop}
    {state : σ} :
    (p >>= f).run.Keeps protocol post state ↔
      p.run.Keeps protocol
        (ends (fun later value => (f value).run.Keeps protocol post later)
          (fun later error => post later (.error error))) state := by
  have same : ends (fun later value => (f value).run.Keeps protocol post later)
        (fun later error => post later (.error error)) =
      fun later outcome => (ExceptT.bindCont f outcome).Keeps protocol post later := by
    funext later outcome
    cases outcome with
    | error error => rfl
    | ok value => rfl
  rw [same]
  exact Program.keeps_bind

variable {good : σ → α → Prop} {bad : σ → Error → Prop} {state : σ}

theorem keeps_of_ends {p : Fallible S α} {post : σ → Except Error α → Prop}
    (keeps : p.run.Keeps protocol (ends good bad) state)
    (failed : ∀ later error, bad later error → post later (.error error))
    (succeeded : ∀ later value, good later value → post later (.ok value)) :
    p.run.Keeps protocol post state := by
  apply keeps.mono
  intro later outcome kept
  cases outcome with
  | error error => exact failed later error kept
  | ok value => exact succeeded later value kept

theorem keeps_bind_of {p : Fallible S α} {f : α → Fallible S β} {post : σ → Except Error β → Prop}
    (first : p.run.Keeps protocol (ends good bad) state)
    (failed : ∀ later error, bad later error → post later (.error error))
    (next : ∀ later value, good later value → (f value).run.Keeps protocol post later) :
    (p >>= f).run.Keeps protocol post state :=
  keeps_bind.mpr (keeps_of_ends first failed next)

theorem keeps_bind_any {p : Fallible S α} {f : α → Fallible S β}
    {post : σ → Except Error β → Prop} (first : p.run.Keeps protocol (fun _ _ => True) state)
    (failed : ∀ later error, post later (.error error))
    (next : ∀ later value, (f value).run.Keeps protocol post later) :
    (p >>= f).run.Keeps protocol post state := by
  refine keeps_bind.mpr (first.mono ?_)
  intro later outcome _
  cases outcome with
  | error error => exact failed later error
  | ok value => exact next later value

/-- What is good about the values found so far stays so while the others are looked for. -/
theorem keeps_mapM {f : α → Fallible S β} {holds : σ → Prop} {good : σ → β → Prop}
    {items : List α}
    (each : ∀ item state, holds state → (f item).run.Keeps protocol
      (ends (fun later value => holds later ∧ (∀ other, good state other → good later other) ∧
        good later value) (fun later _ => holds later)) state)
    (now : holds state) :
    (items.mapM f).run.Keeps protocol
      (ends (fun later values => holds later ∧ (∀ other, good state other → good later other) ∧
        ∀ value ∈ values, good later value) (fun later _ => holds later)) state := by
  induction items generalizing state with
  | nil => exact ⟨now, fun _ same => same, nofun⟩
  | cons item items ih =>
      rw [List.mapM_cons]
      refine keeps_bind_of (each item state now) (fun _ _ now => now) ?_
      rintro middle value ⟨now, kept, found⟩
      refine keeps_bind_of (ih now) (fun _ _ now => now) ?_
      rintro later values ⟨now, still, all⟩
      refine ⟨now, fun other same => still other (kept other same), ?_⟩
      exact List.forall_mem_cons.mpr ⟨still value found, all⟩

theorem keeps_forM {f : α → Fallible S PUnit} {holds : σ → Prop} {items : List α}
    (each : ∀ item state, holds state → (f item).run.Keeps protocol
      (ends (fun later _ => holds later) (fun later _ => holds later)) state)
    (now : holds state) :
    (items.forM f).run.Keeps protocol
      (ends (fun later _ => holds later) (fun later _ => holds later)) state := by
  induction items generalizing state with
  | nil => exact now
  | cons item items ih =>
      exact keeps_bind_of (each item state now) (fun _ _ now => now) fun _ _ now => ih now

end Fallible
end AthenaModels
