import ServiceClient.Failure

/-!
# Log records

What an operation reports besides its result: records with a source, a level and a text. The
trace of the transport also has the direction of the message, its status and its body.

* `Record`: one record.
* `Logged`: a result with the records on the way to it.
-/

namespace ServiceClient

inductive Level
  | debug
  | warning
deriving DecidableEq, Repr, Inhabited

/-- The parts of the library that report. -/
inductive Source
  | errors
  | factory
  | handlers
  | client
  | profile
  | regions
  | wire
deriving DecidableEq, Repr, Inhabited

/-- What the trace of the transport adds to a record. -/
structure Trace where
  isResponse : Bool
  status : Option Int
  body : Bytes
deriving Repr

/-- A log record. -/
structure Record where
  source : Source
  level : Level
  text : String
  trace : Option Trace
deriving Repr

def Record.debug (source : Source) (text : String) : Record := ⟨source, .debug, text, none⟩

def Record.warning (source : Source) (text : String) : Record := ⟨source, .warning, text, none⟩

/-- A result with the records on the way to it, the first one first. -/
structure Logged (α : Type) where
  result : α
  records : List Record

namespace Logged

/-- A result without records. -/
def pure (x : α) : Logged α := ⟨x, []⟩

/-- Goes on with a result; the records follow each other. -/
def bind (x : Logged α) (f : α → Logged β) : Logged β :=
  let y := f x.result
  ⟨y.result, x.records ++ y.records⟩

instance : Monad Logged where
  pure := Logged.pure
  bind := Logged.bind

/-- Reports a record. -/
def report (r : Record) : Logged Unit := ⟨(), [r]⟩

end Logged

/-- A computation that reports and may fail. -/
abbrev Attempt (α : Type) := ExceptT Failure Logged α

end ServiceClient
