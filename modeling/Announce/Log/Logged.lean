import Announce.Log.Event

/-!
# Computations that report events

A logged computation has a value and the events that it reported, in order.
Reporting never changes a value, so statements about results look at `value`
alone and statements about the log look at `events`.
-/

namespace Announce.Log

/-- A value together with the events reported on the way to it, oldest first. -/
structure Logged (α : Type) where
  events : List Event
  value : α
deriving Repr

namespace Logged

/-- Run one computation after another and keep the events of both, in order. -/
instance : Monad Logged where
  pure value := ⟨[], value⟩
  bind first next :=
    let second := next first.value
    ⟨first.events ++ second.events, second.value⟩

@[ext] theorem ext {α : Type} {left right : Logged α}
    (events : left.events = right.events) (value : left.value = right.value) :
    left = right := by
  cases left
  cases right
  simp_all

variable {α β : Type}

@[simp] theorem events_pure (value : α) : (pure value : Logged α).events = [] := rfl

@[simp] theorem value_pure (value : α) : (pure value : Logged α).value = value := rfl

@[simp] theorem events_bind (first : Logged α) (next : α → Logged β) :
    (first >>= next).events = first.events ++ (next first.value).events := rfl

@[simp] theorem value_bind (first : Logged α) (next : α → Logged β) :
    (first >>= next).value = (next first.value).value := rfl

@[simp] theorem events_map (f : α → β) (first : Logged α) :
    (f <$> first).events = first.events := by
  change first.events ++ [] = first.events
  simp

@[simp] theorem value_map (f : α → β) (first : Logged α) :
    (f <$> first).value = f first.value := rfl

instance : LawfulMonad Logged :=
  LawfulMonad.mk' Logged
    (fun first => by ext1 <;> simp)
    (fun value next => by ext1 <;> simp)
    (fun first next last => by ext1 <;> simp)

/-- Report one event. -/
def emit (event : Event) : Logged Unit :=
  ⟨[event], ()⟩

@[simp] theorem events_emit (event : Event) : (emit event).events = [event] := rfl

@[simp] theorem value_emit (event : Event) : (emit event).value = () := rfl

end Logged

end Announce.Log
