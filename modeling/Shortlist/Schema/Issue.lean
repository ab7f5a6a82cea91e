import Shortlist.Text.Quoted
import Shortlist.Value.Display

/-!
# Issues

A document that does not fit is answered with the list of everything that is wrong with it.  An
`Issue` says where, by the names and indices that lead there, and what, by an `IssueKind`.
-/

namespace Shortlist

/-- A step into a document: to the member of a name, or to the item of an index. -/
inductive Step where
  | name (s : String)
  | index (n : Int)
deriving DecidableEq

namespace Step

/-- The text of a step in a message. -/
def display : Step → String
  | .name s => s
  | .index n => String.ofList (intChars n)

/-- The step to a key: an integer is an index, and any other key that is no text is spelled out. -/
def ofKey (key : Key) : Step :=
  match key with
  | .name t => .name t.replacingSurrogates
  | .bool b => .index (if b then 1 else 0)
  | .int n => if -2 ^ 63 ≤ n ∧ n < 2 ^ 63 then .index n else .name (String.ofList (intChars n))
  | key =>
    match Value.spellKey key with
    | .ok cs => .name (String.ofList cs)
    | .error _ => .name ""

end Step

/-- What can be wrong in a document. -/
inductive IssueKind where
  | missing
  | extra
  | keyNotText
  | notText
  | notCharacters
  | textTooShort
  | notRecord (model : String)
  | notList
  | notSequence
  | notDictionary
  | notOneOf (choices : List String)
  | notInteger
  | notNumber
  | itemNotRecord
  | noTag (field : String)
  | unknownTag (field tag : String) (tags : List String)
  | notFinite
  | notDate (text : Text)
  | notAddress (text : Text)
deriving DecidableEq

namespace IssueKind

/-- The short name of an issue. -/
def code : IssueKind → String
  | .missing => "missing"
  | .extra => "extra_forbidden"
  | .keyNotText => "invalid_key"
  | .notText => "string_type"
  | .notCharacters => "string_unicode"
  | .textTooShort => "string_too_short"
  | .notRecord _ => "model_type"
  | .notList => "list_type"
  | .notSequence => "tuple_type"
  | .notDictionary => "dict_type"
  | .notOneOf _ => "literal_error"
  | .notInteger => "int_type"
  | .notNumber => "float_type"
  | .itemNotRecord => "model_attributes_type"
  | .noTag _ => "union_tag_not_found"
  | .unknownTag .. => "union_tag_invalid"
  | .notFinite | .notDate _ | .notAddress _ => "value_error"

/-- A text between single quotes. -/
def inQuotes (s : String) : String := "'" ++ s ++ "'"

/-- Choices with commas between them and `or` before the last one. -/
def choice : List String → String
  | [] => ""
  | [s] => inQuotes s
  | [s, t] => inQuotes s ++ " or " ++ inQuotes t
  | s :: rest => inQuotes s ++ ", " ++ choice rest

/-- The message about an issue. -/
def message : IssueKind → String
  | .missing => "Field required"
  | .extra => "Extra inputs are not permitted"
  | .keyNotText => "Keys should be strings"
  | .notText => "Input should be a valid string"
  | .notCharacters =>
    "Input should be a valid string, unable to parse raw data as a unicode string"
  | .textTooShort => "String should have at least 1 character"
  | .notRecord model => "Input should be a valid dictionary or instance of " ++ model
  | .notList => "Input should be a valid list"
  | .notSequence => "Input should be a valid tuple"
  | .notDictionary => "Input should be a valid dictionary"
  | .notOneOf choices => "Input should be " ++ choice choices
  | .notInteger => "Input should be a valid integer"
  | .notNumber => "Input should be a valid number"
  | .itemNotRecord => "Input should be a valid dictionary or object to extract fields from"
  | .noTag field => "Unable to extract tag using discriminator " ++ inQuotes field
  | .unknownTag field tag tags =>
    "Input tag " ++ inQuotes tag ++ " found using " ++ inQuotes field
      ++ " does not match any of the expected tags: " ++ ", ".intercalate (tags.map inQuotes)
  | .notFinite => "Value error, value must be a finite number"
  | .notDate text => "Value error, value is not an ISO-8601 date: " ++ text.quoted
  | .notAddress text => "Value error, not a valid http(s) URL: " ++ text.quoted

end IssueKind

/-- Something that is wrong at a place of a document. -/
structure Issue where
  place : List Step
  kind : IssueKind
deriving DecidableEq

namespace Issue

/-- The issue seen from one step further out. -/
def under (step : Step) (issue : Issue) : Issue := { issue with place := step :: issue.place }

/-- The place of an issue in a message. -/
def placeText (issue : Issue) : String :=
  let text := ".".intercalate (issue.place.map Step.display)
  if text = "" then "<root>" else text

end Issue

/-- The head of a report on the issues of a document. -/
def issueCount (count : Nat) (model : String) : String :=
  toString count ++ (if count = 1 then " validation error for " else " validation errors for ")
    ++ model

end Shortlist
