import ServiceClient.Log.ShortName
import ServiceClient.ValueText

/-!
# Log lines

How a log entry reads: time, level, thread, logger and message in columns. Lines of the
transport's trace end with the message that was sent or received.

* `LogEntry`: what is logged.
* `LogColumns.ofEntry`: level, logger and thread as they are shown.
* `LogEntry.line`, `LogEntry.traceLine`: the whole line.
-/

namespace ServiceClient

/-- A log entry. -/
structure LogEntry where
  logger : String
  level : Int
  thread : String
  template : String
  arguments : List Value
  /-- Seconds since 1970. -/
  created : Int
  milliseconds : Int
deriving Repr

/-- The name of a level. -/
def levelName (level : Int) : String :=
  match level with
  | 50 => "FATAL"
  | 40 => "ERROR"
  | 30 => "WARN"
  | 20 => "INFO"
  | 10 => "DEBUG"
  | 0 => "NOTSET"
  | n => "Level " ++ toString n

/-- Level, logger and thread as they are shown. -/
structure LogColumns where
  level : String
  logger : String
  thread : String
deriving DecidableEq, Repr

namespace LogColumns

/-- The most characters of a logger's name, unless another limit is set. -/
def loggerLimit : Int := 26

/-- The most characters of a thread's name, unless another limit is set. -/
def threadLimit : Int := 12

/-- A limit; zero stands for the standard one. -/
def limitOr (standard limit : Int) : Int := if limit = 0 then standard else limit

/-- The end of a text; a negative limit drops characters from the front instead. -/
def tail (limit : Int) (s : String) : String :=
  let s := s.toList
  String.ofList (if limit < 0 then s.drop limit.natAbs else s.drop (s.length - limit.toNat))

/-- The columns of an entry under limits. -/
def ofEntry (maxLogger maxThread : Int) (e : LogEntry) : Except Failure LogColumns := do
  let logger ← shortName e.logger (limitOr loggerLimit maxLogger)
  return ⟨levelName e.level, logger, tail (limitOr threadLimit maxThread) e.thread⟩

end LogColumns

/-- A text with blanks in front up to a width. -/
def padLeft (width : Nat) (s : String) : String :=
  String.ofList (List.replicate (width - s.length) ' ') ++ s

/-- A text with blanks behind it up to a width. -/
def padRight (width : Nat) (s : String) : String :=
  s ++ String.ofList (List.replicate (width - s.length) ' ')

/-- What the transport's trace adds to a line. Null stands for what is not known. -/
structure TraceNote where
  direction : Value
  status : Value
  body : Value
deriving Repr

namespace TraceNote

/-- The longest body that is shown. -/
def bodyLimit : Nat := 512

/-- A body as the trace shows it: long ones by their length only. -/
def bodyText (body : Value) : Except Failure Text :=
  match body with
  | .bytes .fixed s | .bytes .array s =>
    if bodyLimit < s.length then .ok ("Bytes(" ++ toString s.length ++ ")" : String)
    else body.displayed
  | body => body.displayed

/-- The end of a line of the trace. -/
def text (n : TraceNote) : Except Failure Text := do
  let body ← bodyText n.body
  return ("; " : Text) ++ (← n.direction.displayed) ++ ("(status=" : Text) ++
    (← n.status.displayed) ++ (", body=" : Text) ++ body ++ (")" : Text)

end TraceNote

namespace LogEntry

/-- The message of an entry; without arguments the template is the message. -/
def message (e : LogEntry) : Except Failure Text :=
  if e.arguments.isEmpty then .ok e.template
  else ((Template.ofText e.template).fill e.arguments).mapError .format

/-- Date and time of an entry in UTC. -/
def timeText (e : LogEntry) : String :=
  let t : Timestamp := .ofInstant (e.created * 1000000)
  let d := t.date
  let c := t.timeOfDay
  toString d.year ++ "-" ++ zeroPadded 2 d.month ++ "-" ++ zeroPadded 2 d.day ++ "T" ++
    zeroPadded 2 c.hour ++ ":" ++ zeroPadded 2 c.minute ++ ":" ++ zeroPadded 2 c.second

/-- Milliseconds with three digits, a sign counting as one of them. -/
def millisecondsText (e : LogEntry) : String :=
  if e.milliseconds < 0 then "-" ++ zeroPadded 2 e.milliseconds.natAbs
  else zeroPadded 3 e.milliseconds.toNat

/-- The line of an entry. -/
def line (e : LogEntry) (c : LogColumns) : Except Failure Text := do
  let message ← e.message
  let columns := e.timeText ++ "." ++ e.millisecondsText ++ " " ++ padLeft 5 c.level ++ " --- [" ++
    padLeft 12 c.thread ++ "] " ++ padRight 26 c.logger ++ " : "
  return columns ++ message

/-- The line of an entry of the transport's trace. -/
def traceLine (e : LogEntry) (c : LogColumns) (note : TraceNote) : Except Failure Text := do
  let line ← e.line c
  return line ++ (← note.text)

end LogEntry

end ServiceClient
