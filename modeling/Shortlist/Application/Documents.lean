import Shortlist.Facts
import Shortlist.Web.Address

/-!
# Evidence

The evidence that comes with an application: up to three web addresses, kept exactly as they were
submitted, and the facts that have been extracted, if they have been.
-/

namespace Shortlist

/-- The evidence that comes with an application. -/
structure Documents where
  cv : Option WebAddress := none
  diploma : Option WebAddress := none
  idCard : Option WebAddress := none
  facts : Option Facts := none

/-- Reads a web address. -/
def WebAddress.read (v : Value) : Check WebAddress :=
  (Check.text v).andThen fun t =>
    match t.string? with
    | some s => if h : Web.isAddress s = true then .accepted ⟨s, h⟩ else Check.issue (.notAddress t)
    | none => Check.issue (.notAddress t)

namespace Documents

/-- The name of the model in messages. -/
def modelName : String := "ApplicationDocuments"

/-- Reads evidence from a mapping. -/
def read (v : Value) : Check Documents :=
  (Check.entries (.notRecord modelName) v).andThen fun es =>
    let address (name : String) := Check.optional es name none (Check.orNull WebAddress.read)
    Check.closed es ["cv_url", "diploma_url", "id_card_url", "parsed"] <|
      Documents.mk <$> address "cv_url" <*> address "diploma_url" <*> address "id_card_url"
        <*> Check.optional es "parsed" none (Check.orNull Facts.read)

/-- The greatest number of values inside one another in the mapping of evidence that can be
reduced. -/
def levels : Nat := Facts.levels + 1

/-- The mapping of the evidence. -/
def toValue (d : Documents) : Value :=
  let address (a : Option WebAddress) : Value := .ofText? (a.map fun a => a.text)
  .record [("cv_url", address d.cv), ("diploma_url", address d.diploma),
    ("id_card_url", address d.idCard),
    ("parsed", match d.facts with
      | some facts => facts.toValue
      | none => .null)]

end Documents

end Shortlist
