import SessionReplay.Settings.Basic
import SessionReplay.Settings.Numeral
import SessionReplay.Text.Blank
import SessionReplay.Text.LowerCase

/-!
# Settings from the environment

Each setting has a variable. A variable that is not set, is not text, or does not hold a number of
the setting's range leaves the default in place, so only values that are numbers can be refused by
the checks.
-/

namespace SessionReplay

/-- The texts of the environment's variables; a variable that is not set or whose bytes are not text
has none. -/
abbrev Environment := String → Option String

namespace Environment

/-- The text of a value given by its bytes, if they are text at all. -/
def textOfBytes? (bytes : ByteArray) : Option String :=
  String.fromUTF8? bytes

/-- The environment of a list of variables. -/
def ofList (entries : List (String × Option String)) : Environment :=
  fun name => (entries.lookup name).join

/-- An integer setting. -/
def integer (env : Environment) (name : String) (default : Int) : Int :=
  ((env name).bind fun text => Numeral.signed? (Text.trim text.toList)).getD default

/-- A natural number setting. -/
def natural (env : Environment) (name : String) (default : Nat) : Nat :=
  ((env name).bind fun text => Numeral.unsigned? (Text.trim text.toList)).getD default

end Environment

namespace Settings

/-- The settings that an environment asks for, not yet checked. -/
def ofEnvironment (env : Environment) : Settings where
  maxItemDelay := env.integer "DD_SESSION_REPLAY_MAX_ITEM_DELAY_MS" 200
  debounce := env.natural "DD_SESSION_REPLAY_DEBOUNCE_MS" 64 * nanosPerMilli
  maxRecordDelay := env.natural "DD_SESSION_REPLAY_MAX_RECORD_DELAY_MS" 64 * nanosPerMilli
  maxQueueSize := env.natural "DD_SESSION_REPLAY_MAX_QUEUE_SIZE" 128
  imageSideLimit := env.integer "DD_SESSION_REPLAY_IMAGE_SIZE_LIMIT_DP" 120
  imageByteLimit := env.natural "DD_SESSION_REPLAY_BITMAP_SIZE_LIMIT_BYTES" 15000
  logLevel := ((env "DD_LOG_LEVEL").map Text.lower).getD "info"

/-- Reads and checks the settings of an environment. -/
def load (env : Environment) : Except SettingsFault Settings :=
  (ofEnvironment env).validate

end Settings

end SessionReplay
