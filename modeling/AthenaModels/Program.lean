/-! Programs that ask a service, as data. What a program does is the requests it makes on each
course of the answers. -/

namespace AthenaModels

structure Service where
  Request : Type
  Reply : Request → Type

inductive Program (S : Service) (α : Type) where
  | done (value : α)
  | ask (request : S.Request) (next : S.Reply request → Program S α)
  /-- The patience of a loop is used up. -/
  | exhausted

namespace Program

variable {S T : Service} {α β γ : Type}

def bind : Program S α → (α → Program S β) → Program S β
  | .done value, f => f value
  | .ask request next, f => .ask request fun reply => (next reply).bind f
  | .exhausted, _ => .exhausted

instance : Monad (Program S) where
  pure := done
  bind := bind

def request (request : S.Request) : Program S (S.Reply request) :=
  .ask request .done

@[simp] theorem pure_eq (value : α) : (pure value : Program S α) = .done value := rfl

@[simp] theorem bind_eq (p : Program S α) (f : α → Program S β) : p >>= f = p.bind f := rfl

@[simp] theorem done_bind (value : α) (f : α → Program S β) : (done value).bind f = f value := rfl

@[simp] theorem ask_bind (r : S.Request) (next : S.Reply r → Program S α) (f : α → Program S β) :
    (ask r next).bind f = ask r fun reply => (next reply).bind f := rfl

@[simp] theorem exhausted_bind (f : α → Program S β) :
    (exhausted : Program S α).bind f = exhausted := rfl

@[simp] theorem bind_done (p : Program S α) : p.bind done = p := by
  induction p with
  | done _ => rfl
  | ask r next ih => simp only [ask_bind, ih]
  | exhausted => rfl

theorem bind_assoc (p : Program S α) (f : α → Program S β) (g : β → Program S γ) :
    (p.bind f).bind g = p.bind fun value => (f value).bind g := by
  induction p with
  | done _ => rfl
  | ask r next ih => simp only [ask_bind, ih]
  | exhausted => rfl

instance : LawfulMonad (Program S) :=
  LawfulMonad.mk' _ bind_done (fun _ _ => rfl) bind_assoc

def run {m : Type → Type} [Monad m] (answer : (r : S.Request) → m (S.Reply r)) :
    Program S α → m (Option α)
  | .done value => return some value
  | .ask request next => do run answer (next (← answer request))
  | .exhausted => return none

def translate (carryOut : (r : S.Request) → Program T (S.Reply r)) : Program S α → Program T α
  | .done value => .done value
  | .ask request next => (carryOut request).bind fun reply => translate carryOut (next reply)
  | .exhausted => .exhausted

end Program
end AthenaModels
