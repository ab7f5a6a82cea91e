/-!
# Arguments

The arguments of a command are options with a value, the flag `--help`, and words.  The value of an
option follows it, or stands behind an equals sign; it may begin with a dash.  After `--` there are
only words.  Of several values of one option the last one counts.  In front of the name of a command
there can be the flag only.
-/

namespace Shortlist

/-- The arguments of a command, sorted. -/
structure Arguments where
  options : List (String × String) := []
  words : List String := []
  help : Bool := false
deriving DecidableEq

namespace Arguments

/-- The flag that asks for help. -/
def helpFlag : String := "--help"

/-- Whether an argument is an option: it begins with a dash and is longer than that. -/
def isOption (arg : String) : Bool := arg.toList.head? = some '-' && arg.toList.length > 1

/-- The part before the first equals sign, and the part behind it. -/
def splitValue (arg : String) : String × Option String :=
  let cs := arg.toList
  (String.ofList (cs.takeWhile (· ≠ '=')),
    match cs.dropWhile (· ≠ '=') with
    | [] => none
    | _ :: value => some (String.ofList value))

/-- The value of an option, if it has one. -/
def value? (a : Arguments) (name : String) : Option String :=
  (a.options.reverse.find? (·.1 = name)).map (·.2)

/-- The names of the options that are given, in the order in which each is given first. -/
def given (a : Arguments) : List String := (a.options.map (·.1)).eraseDups

/-- Adds an option in front. -/
def withOption (a : Arguments) (name value : String) : Arguments :=
  { a with options := (name, value) :: a.options }

/-- Sorts the arguments of a command that has options of the given names.  There is no result if an
option is unknown, lacks its value, or is the flag with a value. -/
def read (names : List String) : List String → Option Arguments
  | [] => some {}
  | arg :: rest =>
    if arg = "--" then some { words := rest }
    else if !isOption arg then
      (read names rest).map fun a => { a with words := arg :: a.words }
    else
      match splitValue arg with
      | (name, some value) =>
        if name ∈ names then (read names rest).map (·.withOption name value) else none
      | (name, none) =>
        if name = helpFlag then (read names rest).map fun a => { a with help := true }
        else if name ∈ names then
          match rest with
          | [] => none
          | value :: rest => (read names rest).map (·.withOption name value)
        else none

/-- Whether help is asked for in front of the first word, and the arguments from that word on.
There is no result if another option is in front of it. -/
def leading : List String → Option (Bool × List String)
  | [] => some (false, [])
  | arg :: rest =>
    if arg = "--" then some (false, rest)
    else if !isOption arg then some (false, arg :: rest)
    else if arg = helpFlag then (leading rest).map fun (_, rest) => (true, rest)
    else none

end Arguments

end Shortlist
