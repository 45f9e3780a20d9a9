import CollectionScript.Error
import CollectionScript.Log.Event

/-! Computations that may fail, log events and ask the environment for variables. A run is its outcome
with all events and all names asked for, in order; a failure keeps those that came before it. -/
namespace CollectionScript

structure Run (α : Type) where
  outcome : Except Error α
  events : List Event
  reads : List Text

namespace Run

variable {α β : Type}

protected def pure (a : α) : Run α := ⟨.ok a, [], []⟩

protected def bind (x : Run α) (f : α → Run β) : Run β :=
  match x.outcome with
  | .ok a => ⟨(f a).outcome, x.events ++ (f a).events, x.reads ++ (f a).reads⟩
  | .error e => ⟨.error e, x.events, x.reads⟩

instance : Monad Run where
  pure := Run.pure
  bind := Run.bind

def ofExcept (x : Except Error α) : Run α := ⟨x, [], []⟩

def fail (e : Error) : Run α := ⟨.error e, [], []⟩

def emit (event : Event) : Run Unit := ⟨.ok (), [event], []⟩

/-- Notes that the environment is asked for `name`. -/
def ask (name : Text) (answer : α) : Run α := ⟨.ok answer, [], [name]⟩

/-- A failure without a line number gets this one. -/
def atLine (number : Nat) (x : Run α) : Run α :=
  { x with outcome := x.outcome.mapError (·.atLine number) }

@[simp] theorem pure_eq (a : α) : (pure a : Run α) = ⟨.ok a, [], []⟩ := rfl

theorem bind_eq (x : Run α) (f : α → Run β) : x >>= f = x.bind f := rfl

instance : LawfulMonad Run := LawfulMonad.mk' Run
  (fun x => by
    obtain ⟨outcome, events, reads⟩ := x
    cases outcome <;> simp [Functor.map, Run.bind, Run.pure])
  (fun a f => by simp [bind_eq, Run.bind])
  (fun x f g => by
    obtain ⟨outcome, events, reads⟩ := x
    cases outcome with
    | error e => simp [bind_eq, Run.bind]
    | ok a => cases h : (f a).outcome <;> simp [bind_eq, Run.bind, h])

theorem bind_of_ok {x : Run α} {a : α} (h : x.outcome = .ok a) (f : α → Run β) :
    x >>= f = ⟨(f a).outcome, x.events ++ (f a).events, x.reads ++ (f a).reads⟩ := by
  simp [bind_eq, Run.bind, h]

theorem bind_of_error {x : Run α} {e : Error} (h : x.outcome = .error e) (f : α → Run β) :
    x >>= f = ⟨.error e, x.events, x.reads⟩ := by
  simp [bind_eq, Run.bind, h]

@[simp] theorem atLine_events (n : Nat) (x : Run α) : (x.atLine n).events = x.events := rfl

@[simp] theorem atLine_reads (n : Nat) (x : Run α) : (x.atLine n).reads = x.reads := rfl

end Run
end CollectionScript
