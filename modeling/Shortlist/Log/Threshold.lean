import Shortlist.Config.Basic
import Shortlist.Log.Event

/-!
# The log

Events are written to the log if their level has at least the weight of a threshold.  The threshold
is given by the name of a level in any letter case; a name that is none stands for `INFO`.
-/

namespace Shortlist

/-- A name that can be no threshold because it stands for another setting of the log. -/
inductive ReservedName where
  | format
  | styles
deriving DecidableEq

/-- The message about a reserved name: it shows what the name stands for. -/
def ReservedName.message : ReservedName → String
  | .format => "Unknown level: '%(levelname)s:%(name)s:%(message)s'"
  | .styles =>
    "Level not an integer or a valid string: "
      ++ "\x7b'%': (<class 'logging.PercentStyle'>, '%(levelname)s:%(name)s:%(message)s'), "
      ++ "'\x7b': (<class 'logging.StrFormatStyle'>, "
      ++ "'\x7blevelname\x7d:\x7bname\x7d:\x7bmessage\x7d'), "
      ++ "'$': (<class 'logging.StringTemplateStyle'>, "
      ++ "'$\x7blevelname\x7d:$\x7bname\x7d:$\x7bmessage\x7d')\x7d"

namespace Threshold

/-- The upper-case form of a character, as far as it can be part of a name. -/
def upperChar (c : Char) : List Char :=
  if c.toNat = 0x131 then ['I']
  else if c.toNat = 0x17F then ['S']
  else if c.toNat = 0xFB05 ∨ c.toNat = 0xFB06 then ['S', 'T']
  else [c.toUpper]

/-- The weights of the names. -/
def weights : List (String × Nat) :=
  [("CRITICAL", 50), ("FATAL", 50), ("ERROR", 40), ("WARNING", 30), ("WARN", 30), ("INFO", 20),
    ("DEBUG", 10), ("NOTSET", 0)]

/-- The weight that a name sets as the threshold. -/
def ofName (name : Text) : Except ReservedName Nat :=
  let upper := String.ofList (name.replacingSurrogates.toList.flatMap upperChar)
  if upper = "BASIC_FORMAT" then .error .format
  else if upper = "_STYLES" then .error .styles
  else .ok (((weights.find? (·.1 = upper)).map (·.2)).getD LogLevel.info.weight)

end Threshold

/-- An entry of the log. -/
structure LogEntry where
  level : LogLevel
  event : Value
  fields : List (String × Value)

/-- The entry of an event. -/
def Event.entry (e : Event) : LogEntry := ⟨e.level, .text e.name, e.fields⟩

/-- The entries that are written to a log with the given threshold. -/
def LogEntry.written (threshold : Nat) (entries : List LogEntry) : List LogEntry :=
  entries.filter fun e => threshold ≤ e.level.weight

end Shortlist
