import Shortlist.Facts

/-!
# Requirement rules

A rule puts one condition on one fact.  The fact determines the family of the rule, and the family
determines the operators and the kind of value that the rule may have:

* a numeric rule compares the grade point average or the age with a finite number;
* a date rule compares the graduation date with the moment that a text stands for;
* an equality rule asks for a degree or institution, letter case aside.

The types admit well-formed rules only, so every rule can be compared with every fact.
-/

namespace Shortlist

/-- The facts that are numbers. -/
inductive NumericField where
  | gpa
  | age
deriving DecidableEq

/-- The facts that are texts. -/
inductive TextField where
  | degree
  | institution
deriving DecidableEq

/-- The two ways to write that a fact equals a text; they mean the same. -/
inductive EqualitySign where
  | word
  | symbol
deriving DecidableEq

/-- The fact that a numeric rule reads. -/
def NumericField.fact : NumericField → FactField
  | .gpa => .gpa
  | .age => .age

/-- The fact that an equality rule reads. -/
def TextField.fact : TextField → FactField
  | .degree => .degree
  | .institution => .institution

/-- The written form of a sign of equality. -/
def EqualitySign.text : EqualitySign → String
  | .word => "equals"
  | .symbol => "=="

/-- A bound on a numeric fact. -/
structure NumericRule where
  field : NumericField
  comparison : Comparison
  threshold : Number
  threshold_fits : threshold.fitsDouble = true
deriving DecidableEq

/-- A bound on the graduation date.  The text is kept as it was written, with the moment it stands
for. -/
structure DateRule where
  comparison : Comparison
  text : String
  moment : Moment
  text_reads : Moment.read? text = .ok (some moment)
deriving DecidableEq

/-- A text that a fact has to be, letter case aside. -/
structure EqualityRule where
  field : TextField
  sign : EqualitySign
  text : Text
deriving DecidableEq

/-- A condition on a fact. -/
inductive Rule where
  | numeric (rule : NumericRule)
  | date (rule : DateRule)
  | equality (rule : EqualityRule)
deriving DecidableEq

/-- The families of rules. -/
inductive Family where
  | numeric
  | date
  | equality
deriving DecidableEq

namespace Family

/-- All families, in the order in which messages list them. -/
def all : List Family := [.numeric, .date, .equality]

/-- The name of a family in messages. -/
def name : Family → String
  | .numeric => "NumericRule"
  | .date => "DateRule"
  | .equality => "EqualityRule"

/-- The type of the rules of a family. -/
def Condition : Family → Type
  | .numeric => NumericRule
  | .date => DateRule
  | .equality => EqualityRule

end Family

namespace Rule

/-- The family of a rule. -/
def family : Rule → Family
  | .numeric _ => .numeric
  | .date _ => .date
  | .equality _ => .equality

/-- A rule as one of its family. -/
def condition : (rule : Rule) → rule.family.Condition
  | .numeric r => r
  | .date r => r
  | .equality r => r

/-- The fact that a rule reads. -/
def field : Rule → FactField
  | .numeric r => r.field.fact
  | .date _ => .graduationDate
  | .equality r => r.field.fact

/-- The operator of a rule as it was written. -/
def operatorText : Rule → String
  | .numeric r => r.comparison.symbol
  | .date r => r.comparison.symbol
  | .equality r => r.sign.text

end Rule

/-! ## Descriptions -/

/-- The text of a threshold: an integer of either kind is written without a fraction. -/
def Number.display (n : Number) : String :=
  String.ofList <| match n with
    | .int i => intChars i
    | .double x => x.displayThreshold

namespace Rule

/-- The reason that is given when a rule is not met. -/
def description : Rule → Text
  | .numeric r =>
    .ofString (r.field.fact.name ++ " " ++ r.comparison.symbol ++ " " ++ r.threshold.display
      ++ " not satisfied")
  | .date r =>
    .ofString (FactField.graduationDate.name ++ " " ++ r.comparison.symbol ++ " " ++ r.text
      ++ " not satisfied")
  | .equality r =>
    .ofString (r.field.fact.name ++ " equals ") ++ r.text ++ .ofString " not satisfied"

end Rule

end Shortlist
