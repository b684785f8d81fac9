import SessionReplay.Log.Message
import SessionReplay.Text.Quoted

/-!
# Log lines

A log line shows its level, the spans it was written in from the outermost inwards, the message and
the fields, all on one line.
-/

namespace SessionReplay.Log

/-- How important a line is, the most important first. -/
inductive Level where
  /-- Something failed. -/
  | error
  /-- Something looks wrong. -/
  | warn
  /-- News for everyone. -/
  | info
  /-- News for developers. -/
  | debug
  /-- The smallest steps. -/
  | trace
deriving DecidableEq, Repr, Inhabited

/-- The written name of a level. -/
def Level.name : Level → String
  | .error => "ERROR"
  | .warn => "WARN"
  | .info => "INFO"
  | .debug => "DEBUG"
  | .trace => "TRACE"

/-- A number that is larger for less important levels. -/
def Level.detail : Level → Nat
  | .error => 0
  | .warn => 1
  | .info => 2
  | .debug => 3
  | .trace => 4

/-- A named value of a line or a span. -/
structure Field where
  /-- The name. -/
  name : String
  /-- The value as it is shown. -/
  shown : String
deriving DecidableEq, Repr

/-- A field shown as it is. -/
def Field.plain (name text : String) : Field := ⟨name, text⟩

/-- A text field shown in quotes. -/
def Field.quoted (name text : String) : Field := ⟨name, Text.quoted text⟩

/-- A number. -/
def Field.int (name : String) (n : Int) : Field := ⟨name, toString n⟩

/-- A truth value. -/
def Field.bool (name : String) (b : Bool) : Field := ⟨name, if b then "true" else "false"⟩

/-- A period of work that lines are written in. -/
structure Span where
  /-- The name. -/
  name : String
  /-- The values recorded for it. -/
  fields : List Field := []
deriving DecidableEq, Repr

/-- A line. -/
structure Line where
  /-- How important it is. -/
  level : Level
  /-- The spans around it, the outermost first. -/
  spans : List Span := []
  /-- The message, if any. -/
  message : Option String := none
  /-- Further values. -/
  fields : List Field := []
deriving DecidableEq, Repr

/-- The name that every line starts with. -/
def tag : String := "DD_SESSION_REPLAY"

/-- The written form of a field. -/
def Field.render (f : Field) : String := f.name ++ "=" ++ f.shown

/-- The written form of a span: its name, its fields in braces if there are any. -/
def Span.render (s : Span) : String :=
  let fields := if s.fields.isEmpty then ""
    else "\x7b" ++ " ".intercalate (s.fields.map Field.render) ++ "\x7d"
  s.name ++ fields ++ ": "

/-- The written form of a line, with its line end. -/
def Line.render (l : Line) : String :=
  tag ++ " | " ++ l.level.name ++ " | " ++ String.join (l.spans.map Span.render)
    ++ " ".intercalate ((l.message.map messageText).toList ++ l.fields.map Field.render) ++ "\n"

end SessionReplay.Log
