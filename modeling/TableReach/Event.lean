/-!
# Events

Computations leave events: lines of a log with a level, a message and named
values.  `Logged` is a value together with the events that its computation left,
in order.
-/

namespace TableReach

/-- How important an event is. -/
inductive Level where
  | trace
  | debug
  | info
  | warn
deriving DecidableEq

/-- The name of a level, five characters wide. -/
def Level.label : Level → String
  | trace => "TRACE"
  | debug => "DEBUG"
  | info => " INFO"
  | warn => " WARN"

/-- How important the events of a level are. -/
def Level.rank : Level → Nat
  | trace => 0
  | debug => 1
  | info => 2
  | warn => 3

/-- The level of this name. -/
def Level.ofName? (name : String) : Option Level :=
  match name with
  | "trace" => some trace
  | "debug" => some debug
  | "info" => some info
  | "warn" => some warn
  | _ => none

/-- One line of a log. -/
structure Event where
  /-- How important the event is. -/
  level : Level
  /-- What happened. -/
  message : String
  /-- Named values, as they are printed. -/
  fields : List (String × String)
deriving DecidableEq

/-- The event is shown in a log of some level; a log without one shows nothing. -/
def Event.isShown (event : Event) (level? : Option Level) : Bool :=
  match level? with
  | none => false
  | some level => level.rank ≤ event.level.rank

/-- The line of an event. -/
def Event.render (event : Event) : String :=
  event.level.label ++ " " ++ event.message ++
    String.join (event.fields.map fun field => " " ++ field.1 ++ "=" ++ field.2) ++ "\n"

/-- A value and the events that its computation left. -/
structure Logged (α : Type) where
  /-- The value. -/
  value : α
  /-- The events, in order. -/
  events : List Event

namespace Logged

instance : Monad Logged where
  pure value := { value := value, events := [] }
  bind first continuation :=
    let second := continuation first.value
    { value := second.value, events := first.events ++ second.events }

@[simp] theorem value_pure (value : α) : (pure value : Logged α).value = value := rfl

@[simp] theorem value_bind
    (first : Logged α)
    (continuation : α → Logged β) :
    (first >>= continuation).value = (continuation first.value).value := rfl

@[simp] theorem events_pure (value : α) : (pure value : Logged α).events = [] := rfl

@[simp] theorem events_bind
    (first : Logged α)
    (continuation : α → Logged β) :
    (first >>= continuation).events = first.events ++ (continuation first.value).events := rfl

/-- Leave an event. -/
def leave
    (level : Level)
    (message : String)
    (fields : List (String × String)) : Logged Unit :=
  { value := (), events := [{ level := level, message := message, fields := fields }] }

/-- Leave some events. -/
def leaveAll (events : List Event) : Logged Unit :=
  { value := (), events := events }

/-- The text of the log. -/
def text (logged : Logged α) : String :=
  String.join (logged.events.map Event.render)

end Logged
end TableReach
