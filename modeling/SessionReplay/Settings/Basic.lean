/-!
# Settings

The limits and delays of a recording, their defaults, and the checks that a set of values has to
pass before a recording starts. The checks are made in a fixed order and the first one that fails is
reported.
-/

namespace SessionReplay

/-- The nanoseconds of a millisecond, the unit in which delays are kept. -/
def nanosPerMilli : Nat := 1000000

/-- The limits and delays of a recording. -/
structure Settings where
  /-- How old an item may become before it is dropped, in milliseconds. -/
  maxItemDelay : Int := 200
  /-- The quiet time a draw waits for before a snapshot is taken, in nanoseconds. -/
  debounce : Nat := 64 * nanosPerMilli
  /-- The longest a burst of draws goes without a snapshot, in nanoseconds. -/
  maxRecordDelay : Nat := 64 * nanosPerMilli
  /-- How many items may wait. -/
  maxQueueSize : Nat := 128
  /-- The longest side of a picture that is recorded, in density-independent units. -/
  imageSideLimit : Int := 120
  /-- The largest encoded picture, in bytes. -/
  imageByteLimit : Nat := 15000
  /-- The least important log level that is shown. -/
  logLevel : String := "info"
deriving DecidableEq, Repr, Inhabited

/-- Why a set of values is refused. -/
inductive SettingsFault where
  /-- Items must be allowed some age. -/
  | itemDelay
  /-- Neither the quiet time nor the longest burst may be zero. -/
  | debounceDelays
  /-- At least one item must fit. -/
  | queueSize
  /-- Pictures must be allowed some size. -/
  | imageLimits
  /-- The name is not one of the levels. -/
  | logLevel (name : String)
deriving DecidableEq, Repr

/-- The names of the log levels, the least important first. -/
def levelNames : List String := ["trace", "debug", "info", "warn", "error"]

/-- What is wrong, without the introduction. -/
def SettingsFault.reason : SettingsFault → String
  | .itemDelay => "Max item delay must be greater than 0"
  | .debounceDelays => "Debounce delays must be greater than 0"
  | .queueSize => "Max queue size must be greater than 0"
  | .imageLimits => "Image size limits must be greater than 0"
  | .logLevel name =>
    "Invalid log level '" ++ name ++ "'. Must be one of: " ++ ", ".intercalate levelNames

/-- The message for settings that are refused for a reason. -/
def invalidSettings (reason : String) : String :=
  "Invalid configuration: " ++ reason

/-- What is wrong, as it is shown. -/
def SettingsFault.message (f : SettingsFault) : String :=
  invalidSettings f.reason

namespace Settings

/-- The first check that fails, if any. -/
def fault? (s : Settings) : Option SettingsFault :=
  if s.maxItemDelay ≤ 0 then some .itemDelay
  else if s.debounce = 0 ∨ s.maxRecordDelay = 0 then some .debounceDelays
  else if s.maxQueueSize = 0 then some .queueSize
  else if s.imageSideLimit ≤ 0 ∨ s.imageByteLimit = 0 then some .imageLimits
  else if s.logLevel ∉ levelNames then some (.logLevel s.logLevel)
  else none

/-- The settings themselves if every check passes. -/
def validate (s : Settings) : Except SettingsFault Settings :=
  match s.fault? with
  | some f => .error f
  | none => .ok s

end Settings

end SessionReplay
