import ServiceClient.Environment

/-!
# Log thresholds

The levels below which loggers are silent. Libraries that talk much are held back whatever the
level of the client is.

* `Thresholds.ofLevel`: the thresholds for a level.
* `Thresholds.ofChoice`: the thresholds for the settings of a process.
-/

namespace ServiceClient

/-- The lowest level that each logger lets pass. -/
structure Thresholds where
  root : Int
  /-- That of the handler that writes the lines. -/
  handler : Int
  /-- Those of named loggers, in the order of their names. -/
  loggers : List (String × Int)
deriving DecidableEq, Repr

namespace Thresholds

/-- The thresholds for a level of the client. -/
def ofLevel (level : Int) : Thresholds where
  root := level
  handler := level
  loggers :=
    [("botocore", 40), ("cos_sdk", level), ("cos_sdk.http.client", 20), ("cos_sdk.wire", 30),
      ("requests", 30), ("urllib3", 30), ("werkzeug", 30)]

/-- The thresholds with the transport's trace switched on. -/
def withTrace (t : Thresholds) : Thresholds :=
  { t with loggers :=
      Association.put "cos_sdk.wire" 10 (Association.put "cos_sdk.http.client" 10 t.loggers) }

/-- The thresholds for a choice of log and the debug switch. -/
def ofChoice (log : Option LogChoice) (debug : Bool) : Thresholds :=
  let t := ofLevel (LogChoice.level log debug)
  if log = some .trace then t.withTrace else t

end Thresholds

end ServiceClient
