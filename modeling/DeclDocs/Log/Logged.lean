import DeclDocs.Log.Event

/-!
Computations that report events. A computation is its value together with the events in the order in
which they were reported; running one after the other appends their events.
-/
namespace DeclDocs.Log

structure Logged (α : Type) where
  events : List Event
  value : α

namespace Logged

instance : Monad Logged where
  pure a := ⟨[], a⟩
  bind x f := ⟨x.events ++ (f x.value).events, (f x.value).value⟩

def report (event : Event) : Logged Unit := ⟨[event], ()⟩

def reportWhen (condition : Bool) (event : Event) : Logged Unit :=
  ⟨if condition then [event] else [], ()⟩

variable {α β : Type}

@[simp] theorem value_pure (a : α) : (pure a : Logged α).value = a := rfl

@[simp] theorem events_pure (a : α) : (pure a : Logged α).events = [] := rfl

@[simp] theorem value_bind (x : Logged α) (f : α → Logged β) :
    (x >>= f).value = (f x.value).value := rfl

@[simp] theorem events_bind (x : Logged α) (f : α → Logged β) :
    (x >>= f).events = x.events ++ (f x.value).events := rfl

instance : LawfulMonad Logged :=
  LawfulMonad.mk' Logged
    (fun x => by cases x; simp [Functor.map])
    (fun a f => by simp [bind, pure])
    (fun x f g => by simp [bind, List.append_assoc])

end Logged
end DeclDocs.Log
