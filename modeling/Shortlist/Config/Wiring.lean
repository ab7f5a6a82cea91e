import Shortlist.Config.Basic
import Shortlist.Pipeline.Session

/-!
# Wiring

Settings say which collaborators a system is built from.  What they do not mention is as it is by
default: reasons are joined by a semicolon and a space, the usual facts are assumed, and the
store is in memory.  Settings that are empty, or no mapping at all, mention nothing.
-/

namespace Shortlist

/-- Why a system cannot be wired: a section is no mapping, the assumed facts are no facts, the path
of the store is no text or has no bytes, or its directory cannot be made. -/
inductive WiringFault where
  | sectionNotMapping
  | facts (issues : List Issue)
  | pathNotText (kind : String)
  | pathUnencodable (fault : Text.Unencodable)
  | obstructed (obstructed : Obstructed)
deriving DecidableEq

/-- The message about settings that cannot be used, if there is one. -/
def WiringFault.message? : WiringFault → Option String
  | .sectionNotMapping | .facts _ => none
  | .pathNotText kind => some ("expected str, bytes or os.PathLike object, not " ++ kind)
  | .pathUnencodable fault => some fault.message
  | .obstructed o => some o.message

/-- What a system is built from. -/
structure Wiring where
  pipeline : Value := .mapping []
  defaults : Facts := .usual
  directory : Option Path := none

namespace Wiring

/-- The directory of a store in files for which no path is given. -/
def defaultDirectory : String := ".recruitscreening"

/-- A section of the settings; one that is left out is empty. -/
def settingsSection (es : Entries) (name : String) : Value := (es.get? name).getD (.mapping [])

/-- The entries of a section that has to be a mapping. -/
def sectionEntries : Value → Except WiringFault Entries
  | .mapping es => .ok es
  | _ => .error .sectionNotMapping

/-- The facts that a section on extraction assumes. -/
def readDefaults (v : Value) : Except WiringFault Facts := do
  let es ← sectionEntries v.opened
  match es.get? "defaults" with
  | none | some .null => return .usual
  | some facts =>
    match Facts.read facts.opened with
    | .accepted facts => return facts
    | .refused issues => throw (.facts issues)
    | .broken _ => throw (.facts [])

/-- The directory of the store, if a section on the store puts it into files. -/
def readDirectory (v : Value) : Except WiringFault (Option Path) := do
  let es ← sectionEntries v
  let backend := es.get? "backend"
  let isInFiles := match backend with
    | some (.text t) => t = Backend.files.name
    | _ => false
  if !isInFiles then return none
  let path := (es.get? "path").getD .null
  if path.isEmpty then return some (.ofText defaultDirectory)
  match path with
  | .text t =>
    match Path.ofPoints t with
    | .ok path => return some path
    | .error fault => throw (.pathUnencodable fault)
  | other => throw (.pathNotText other.kindWord)

/-- The separator that a section on the pipeline sets. -/
def readSeparator (v : Value) : Except WiringFault Value := do
  if v.isEmpty then return .text "; "
  match (← sectionEntries v).get? "feedback_separator" with
  | none | some .null => return .text "; "
  | some separator => return separator

/-- The wiring that settings ask for. -/
def ofSettings (settings : Value) : Except WiringFault Wiring := do
  match settings.opened with
  | .mapping es =>
    let defaults ← readDefaults (settingsSection es "extraction")
    let directory ← readDirectory (settingsSection es "store")
    return { pipeline := settingsSection es "pipeline", defaults, directory }
  | _ => return {}

/-- What joins reasons. -/
def separator (w : Wiring) : Except WiringFault Value := readSeparator w.pipeline

/-- The wired store.  The directory of a store in files is made if it is missing. -/
def openStore (w : Wiring) (files : Tree) : Except Obstructed (Store × Tree) :=
  match w.directory with
  | none => .ok (.inMemory, files)
  | some directory =>
    (files.makeDirectories directory).map fun files => (.inDirectory directory, files)

/-- The collaborators of the wired pipeline, its store, and the files with the directory of the
store. -/
def assemble (w : Wiring) (files : Tree) : Except WiringFault (Setup × Store × Tree) := do
  let (store, files) ← (w.openStore files).mapError .obstructed
  let separator := Setup.readSeparator (← w.separator)
  return ({ extractor := .standard w.defaults, separator }, store, files)

end Wiring

end Shortlist
