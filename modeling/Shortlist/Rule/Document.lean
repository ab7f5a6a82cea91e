import Shortlist.Rule.Basic

/-!
# Rules in documents

A rule is written as a mapping with the members `field`, `operator` and `value`.  `Rule.readList`
reads a list of rules: the member `field` says which kind of rule an item is, and the item is
then read as that kind.  `Rule.toValue` writes a rule in the form in which it was read.
-/

namespace Shortlist

/-- The value that is a number. -/
def Number.toValue : Number → Value
  | .int n => .int n
  | .double x => .float (.finite x)

/-- Reads an operator of comparison. -/
def Comparison.read : Value → Check Comparison :=
  Check.oneOf (Comparison.all.map fun c => (c.symbol, c))

/-- Reads a sign of equality. -/
def EqualitySign.read : Value → Check EqualitySign :=
  Check.oneOf ([EqualitySign.word, .symbol].map fun s => (s.text, s))

/-- The member names of a rule. -/
def ruleMembers : List String := ["field", "operator", "value"]

/-- The mapping of a rule. -/
def ruleRecord (field : FactField) (operator : String) (value : Value) : Value :=
  .record [("field", .text field.name), ("operator", .text operator), ("value", value)]

namespace NumericRule

/-- A number that has a nearest finite double. -/
abbrev Threshold := { n : Number // n.fitsDouble = true }

/-- Reads a threshold, which is an integer or a double and is finite. -/
def readThreshold (v : Value) : Check Threshold :=
  match v with
  | .int _ | .float _ =>
    match v.number? with
    | none => Check.issue .notFinite
    | some n => if h : n.fitsDouble = true then .accepted ⟨n, h⟩ else Check.issue .notFinite
  | _ => .refused [⟨[.name "int"], .notInteger⟩, ⟨[.name "float"], .notNumber⟩]

/-- Reads a numeric rule from the members of a mapping. -/
def readMembers (es : Entries) : Check NumericRule :=
  (fun field comparison (threshold : Threshold) =>
      ⟨field, comparison, threshold.1, threshold.2⟩)
    <$> Check.required es "field"
      (Check.oneOf ([NumericField.gpa, .age].map fun f => (f.fact.name, f)))
    <*> Check.required es "operator" Comparison.read
    <*> Check.required es "value" readThreshold

end NumericRule

namespace DateRule

/-- A text with the moment that it stands for. -/
abbrev Threshold := { t : String × Moment // Moment.read? t.1 = .ok (some t.2) }

/-- Reads a text that stands for a moment. -/
def readThreshold (v : Value) : Check Threshold :=
  (Check.exactText v).andThen fun t =>
    match t.string? with
    | none => Check.issue (.notDate t)
    | some s =>
      match h : Moment.read? s with
      | .ok (some moment) => .accepted ⟨(s, moment), h⟩
      | .ok none => Check.issue (.notDate t)
      | .error fault => .broken fault

/-- Reads a date rule from the members of a mapping. -/
def readMembers (es : Entries) : Check DateRule :=
  (fun _ comparison (threshold : Threshold) =>
      ⟨comparison, threshold.1.1, threshold.1.2, threshold.2⟩)
    <$> Check.required es "field" (Check.oneOf [(FactField.graduationDate.name, ())])
    <*> Check.required es "operator" Comparison.read
    <*> Check.required es "value" readThreshold

end DateRule

namespace EqualityRule

/-- Reads an equality rule from the members of a mapping. -/
def readMembers (es : Entries) : Check EqualityRule :=
  EqualityRule.mk
    <$> Check.required es "field"
      (Check.oneOf ([TextField.degree, .institution].map fun f => (f.fact.name, f)))
    <*> Check.required es "operator" EqualitySign.read
    <*> Check.required es "value" Check.exactText

end EqualityRule

namespace Rule

/-- Reads a rule of the given family from the members of a mapping. -/
def readMembers (family : Family) (es : Entries) : Check Rule :=
  match family with
  | .numeric => .numeric <$> Check.closed es ruleMembers (NumericRule.readMembers es)
  | .date => .date <$> Check.closed es ruleMembers (DateRule.readMembers es)
  | .equality => .equality <$> Check.closed es ruleMembers (EqualityRule.readMembers es)

/-- Reads a rule of the given family. -/
def readAs (family : Family) (v : Value) : Check Rule :=
  (Check.entries (.notRecord family.name) v).andThen (readMembers family)

/-- The facts that a rule may be about, each with the family of the rules about it. -/
def tags : List (FactField × Family) :=
  [(.gpa, .numeric), (.age, .numeric), (.graduationDate, .date), (.degree, .equality),
    (.institution, .equality)]

/-- The text of the member `field` in a message. -/
def tagText (v : Value) : String :=
  match v.display with
  | .ok t => t.replacingSurrogates
  | .error _ => "<unprintable " ++ v.kindWord ++ " object>"

/-- The fact and the family that the value of the member `field` names. -/
def tag? : Value → Option (FactField × Family)
  | .text t => tags.find? fun tag => t = tag.1.name
  | _ => none

/-- Reads a rule of any family. -/
def read (v : Value) : Check Rule :=
  (Check.entries .itemNotRecord v).andThen fun es =>
    match es.get? "field" with
    | none => Check.issue (.noTag "field")
    | some tag =>
      match tag? tag with
      | some (field, family) => (readMembers family es).under (.name field.name)
      | none => Check.issue (.unknownTag "field" (tagText tag) (tags.map fun t => t.1.name))

/-- Reads a list of rules. -/
def readList : Value → Check (List Rule) := Check.items .notList read

/-- The mapping of a rule. -/
def toValue : Rule → Value
  | .numeric r => ruleRecord r.field.fact r.comparison.symbol r.threshold.toValue
  | .date r => ruleRecord .graduationDate r.comparison.symbol (.text r.text)
  | .equality r => ruleRecord r.field.fact r.sign.text (.text r.text)

/-- The list of the mappings of rules. -/
def listToValue (rules : List Rule) : Value := .list (rules.map toValue)

end Rule

end Shortlist
