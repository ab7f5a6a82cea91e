import Shortlist.Config.Basic
import Shortlist.Files.Tree
import Shortlist.Yaml.Document

/-!
# Configuration files

A configuration is read from a YAML file.  A file can be named, without its ending, as one of the
current directory.
-/

namespace Shortlist

/-- Why a configuration file cannot be read. -/
inductive ConfigFileFault where
  | unopened (obstructed : Obstructed)
  | undecodable (fault : Text.Utf8Fault)
  | yaml (fault : Yaml.Fault)
  | refused (issues : List Issue)
  | durationPair (fault : DurationPair)
deriving DecidableEq

namespace Config

/-- The name of the configuration that is read when none is named. -/
def defaultName : String := "recruitscreening"

/-- The path of a named configuration. -/
def pathOf (name : String) : Path := .ofText (name ++ ".yaml")

/-- The document of a configuration file. -/
def readDocument (t : Tree) (p : Path) : Except ConfigFileFault Value :=
  match t.read p with
  | .error obstructed => .error (.unopened obstructed)
  | .ok bytes =>
    match Yaml.readFile bytes with
    | .error (.undecodable fault) => .error (.undecodable fault)
    | .error (.text fault) => .error (.yaml fault)
    | .ok v => .ok v

/-- Reads the configuration in a file. -/
def readFile (t : Tree) (p : Path) : Except ConfigFileFault Config := do
  match Config.read (← readDocument t p) with
  | .accepted c => return c
  | .refused issues => throw (.refused issues)
  | .broken fault => throw (.durationPair fault)

end Config

end Shortlist
