import Carryover.Failure
import Carryover.Text.Blank
import Carryover.Text.LetterCase

/-!
# Settings

Settings are read from variables of the environment, each of which may be absent.

| text of a flag, without blanks around it and in lower case | flag |
| --- | --- |
| none, or empty | the default |
| `1`, `true`, `yes`, `on` | on |
| `0`, `false`, `no`, `off` | off |
| any other | refused |

The level of the log is its text in upper case, blanks included. Files that add to the environment
are left out.
-/

namespace Carryover
namespace Settings

/-- The texts that switch a flag on. -/
def onTexts : List String := ["1", "true", "yes", "on"]

/-- The texts that switch a flag off. -/
def offTexts : List String := ["0", "false", "no", "off"]

/-- The flag that a text stands for. -/
def flag (name : String) (text : Option String) (default : Bool) : Except Failure Bool :=
  let word := Text.lower (Text.trim (text.getD ""))
  if word = "" then .ok default
  else if onTexts.contains word then .ok true
  else if offTexts.contains word then .ok false
  else .error (.notFlag name word)

/-- The variable that says whether fields are kept. -/
def cachingName : String := "ACTION_CONTEXT_FIELD_CACHE"

/-- The variable that holds the level of the log. -/
def logLevelName : String := "ACTION_CONTEXT_LOG_LEVEL"

/-- The level of the log that a text stands for. -/
def level (text : Option String) : String :=
  Text.upper (text.getD "WARNING")

end Settings

/-- The settings of a program. -/
structure Settings where
  /-- Whether the fields of a class are kept. -/
  caching : Bool
  logLevel : String
  deriving DecidableEq

/-- The settings that an environment holds. -/
def Settings.read (lookup : String → Option String) : Except Failure Settings := do
  let caching ← flag cachingName (lookup cachingName) true
  return ⟨caching, level (lookup logLevelName)⟩

/-- The levels at which only failures of the program are shown. -/
def Settings.quietLevels : List String := ["ERROR", "CRITICAL", "FATAL"]

/-- Whether entries of the log are shown: all of them at the level `DEBUG`, and warnings unless
the level is a quiet one. -/
def Settings.shows (s : Settings) (isWarning : Bool) : Bool :=
  s.logLevel == "DEBUG" || (isWarning && !quietLevels.contains s.logLevel)

end Carryover
