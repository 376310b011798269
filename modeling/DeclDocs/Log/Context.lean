import DeclDocs.Log.Logged

/-!
Where a record was emitted: the run, its phase and the source unit at hand. A dash stands for none.
A journal is a computation that reads and changes this context and emits records tagged with it. A
scope sets the phase or the unit for a computation and puts the old value back when it is done,
however it ends.
-/
namespace DeclDocs.Log

structure Context where
  run : String := "-"
  phase : String := "-"
  unit : String := "-"
  deriving DecidableEq, Repr

structure Record where
  level : Level
  channel : String
  message : String
  context : Context
  deriving DecidableEq, Repr

namespace Record

/-- A record as one line, without its time. -/
def line (r : Record) : String :=
  String.intercalate " | "
    [r.level.name, "run_id=" ++ r.context.run, "phase=" ++ r.context.phase,
     "unit=" ++ r.context.unit, r.channel, r.message]

end Record

def Event.record (event : Event) (context : Context) : Record :=
  ⟨event.level, event.channel, event.message, context⟩

namespace Journal

/-- What a journal leaves behind. -/
structure Page (α : Type) where
  context : Context
  records : List Record
  value : α

end Journal

def Journal (α : Type) : Type := Context → Journal.Page α

namespace Journal

variable {α β : Type}

instance : Monad Journal where
  pure a := fun context => ⟨context, [], a⟩
  bind x f := fun context =>
    let first := x context
    let second := f first.value first.context
    ⟨second.context, first.records ++ second.records, second.value⟩

def emit (level : Level) (channel message : String) : Journal Unit :=
  fun context => ⟨context, [⟨level, channel, message, context⟩], ()⟩

def report (event : Event) : Journal Unit :=
  fun context => ⟨context, [event.record context], ()⟩

/-- Emit what a computation reports, in the context at hand. -/
def ofLogged (x : Logged α) : Journal α :=
  fun context => ⟨context, x.events.map fun e => e.record context, x.value⟩

instance : MonadLift Logged Journal := ⟨ofLogged⟩

def setRun (run : String) : Journal Unit :=
  fun context => ⟨{ context with run }, [], ()⟩

def inPhase (phase : String) (x : Journal α) : Journal α :=
  fun context =>
    let page := x { context with phase }
    { page with context := { page.context with phase := context.phase } }

def inUnit (unit : String) (x : Journal α) : Journal α :=
  fun context =>
    let page := x { context with unit }
    { page with context := { page.context with unit := context.unit } }

end Journal
end DeclDocs.Log
