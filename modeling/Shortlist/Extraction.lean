import Shortlist.Application.Documents
import Shortlist.Failure
import Shortlist.Log.Event

/-!
# Fact extraction

Facts are extracted from the evidence of an application by an `Extractor`.  The standard one passes
on facts that came with the evidence and otherwise gives defaults; any other one may come back with
whatever it likes, at once or after a wait.  `Extracted.settle` says what is made of what an
extractor came back with.
-/

namespace Shortlist

/-- What an extractor comes back with: facts, a value to be read as facts, a refusal, or any other
failure. -/
inductive Extracted where
  | facts (facts : Facts)
  | value (value : Value)
  | refused (message : String)
  | failed (failure : Failure)

/-- A result that is there at once, or one that is waited for. -/
inductive Delivered (α : Type) where
  | atOnce (result : α)
  | awaited (result : α)

/-- The result, however it is delivered. -/
def Delivered.result {α : Type} : Delivered α → α
  | .atOnce a => a
  | .awaited a => a

/-- A way to extract facts.  One that is not standard need not come back with the same thing twice:
it is told how often it has been asked before. -/
inductive Extractor where
  | standard (defaults : Facts)
  | answering (behaviour : Nat → Documents → Delivered Extracted)

/-- The extractor that goes by nothing but the evidence. -/
def Extractor.custom (behaviour : Documents → Delivered Extracted) : Extractor :=
  .answering fun _ documents => behaviour documents

/-- Why no facts were extracted. -/
inductive ExtractionFault where
  | refused (message : String)
  | failed (message : String)
  | notFacts (issues : Nat)
  | escaped (raised : Escape)
deriving DecidableEq

/-- The message about facts that were not extracted, unless something has escaped. -/
def ExtractionFault.message? : ExtractionFault → Option String
  | .refused message => some message
  | .failed message => some ("Fact extraction failed: " ++ message)
  | .notFacts issues =>
    some ("Extractor returned invalid facts: " ++ issueCount issues Facts.modelName)
  | .escaped _ => none

/-- The facts that are assumed where nothing else is known. -/
def Facts.usual : Facts where
  degree := .text "BSc"
  gpa := .float (.ofDecimal false ⟨32, -1⟩)
  institution := .text "AAU"
  age := .int 25
  graduationDate := .text "2022-07-01"

namespace Extracted

/-- The facts that are made of what an extractor came back with, and what is reported.  Nothing at
all counts as empty facts. -/
def settle : Extracted → List Event × Except ExtractionFault Facts
  | .facts known => ([], .ok known)
  | .refused message => ([], .error (.refused message))
  | .failed failure =>
    match failure.text with
    | .ok message => ([.extractionFailed message], .error (.failed message))
    | .error raised => ([], .error (.escaped raised))
  | .value .null => ([], .ok .none)
  | .value v =>
    match Facts.read v with
    | .accepted known => ([], .ok known)
    | .refused issues => ([], .error (.notFacts issues.length))
    | .broken _ => ([], .error (.notFacts 0))

end Extracted

namespace Extractor

/-- What the extractor comes back with after it has been asked so many times, and what it
reports. -/
def extract (extractor : Extractor) (asked : Nat) (documents : Documents) :
    List Event × Delivered Extracted :=
  match extractor with
  | .standard defaults =>
    match documents.facts with
    | some facts => ([], .awaited (.facts facts))
    | none => ([.defaultsUsed], .awaited (.facts defaults))
  | .answering behaviour => ([], behaviour asked documents)

/-- The facts extracted from the evidence, and what is reported. -/
def run (extractor : Extractor) (asked : Nat) (documents : Documents) :
    List Event × Except ExtractionFault Facts :=
  let (events, delivered) := extractor.extract asked documents
  let (more, outcome) := delivered.result.settle
  (events ++ more, outcome)

end Extractor

end Shortlist
