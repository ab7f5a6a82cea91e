import Shortlist.Schema.Check
import Shortlist.Value.Loop

/-!
# Candidate facts

What is known about a candidate: five facts, each of which may be any value.  Facts are kept exactly
as they were handed in; a fact that makes no sense fails the rules that read it and nothing
else.
-/

namespace Shortlist

/-- The name of a fact. -/
inductive FactField where
  | degree
  | gpa
  | institution
  | age
  | graduationDate
deriving DecidableEq

namespace FactField

/-- All facts, in the order in which they are written. -/
def all : List FactField := [.degree, .gpa, .institution, .age, .graduationDate]

/-- The written form of the name of a fact. -/
def name : FactField → String
  | .degree => "degree"
  | .gpa => "gpa"
  | .institution => "institution"
  | .age => "age"
  | .graduationDate => "graduation_date"

end FactField

/-- What is known about a candidate. -/
structure Facts where
  degree : Value := .null
  gpa : Value := .null
  institution : Value := .null
  age : Value := .null
  graduationDate : Value := .null

namespace Facts

/-- No facts. -/
def none : Facts := {}

/-- The value of a fact. -/
def get (facts : Facts) : FactField → Value
  | .degree => facts.degree
  | .gpa => facts.gpa
  | .institution => facts.institution
  | .age => facts.age
  | .graduationDate => facts.graduationDate

/-- The name of the model in messages. -/
def modelName : String := "CandidateFacts"

/-- Reads facts from a mapping; those that it does not hold are null. -/
def read (v : Value) : Check Facts :=
  (Check.entries (.notRecord modelName) v).andThen fun es =>
    let fact (field : FactField) := Check.optional es field.name .null Check.anything
    Check.closed es (FactField.all.map (·.name)) <|
      Facts.mk <$> fact .degree <*> fact .gpa <*> fact .institution <*> fact .age
        <*> fact .graduationDate

/-- Copies of the facts. -/
def copied (facts : Facts) : Facts where
  degree := facts.degree.copied
  gpa := facts.gpa.copied
  institution := facts.institution.copied
  age := facts.age.copied
  graduationDate := facts.graduationDate.copied

/-- The greatest number of values inside one another in the mapping of facts that can be reduced. -/
def levels : Nat := Value.depthLimit + 1

/-- The facts as a mapping, unchanged. -/
def toValue (facts : Facts) : Value :=
  .record (FactField.all.map fun field => (field.name, facts.get field))

end Facts

end Shortlist
