import Shortlist.Application.Basic
import Shortlist.Proofs.Schema.Check

/-!
# Checks that complete

Only the text of a date can break a check off.  A check that has no date to read accepts or refuses
(`Check.Completes`); this passes from the checks of the members to that of a mapping
(`Check.Completes.closed`).  None is read in evidence or in the entries of a batch: facts are taken
as they come, a date among them, too.
-/

namespace Shortlist

variable {α β : Type}

namespace Check

/-- The check accepts or refuses; it does not break off. -/
def Completes (x : Check α) : Prop := ∀ fault, x ≠ .broken fault

lemma completes_accepted (a : α) : (accepted a).Completes := by
  rintro fault ⟨⟩

lemma completes_refused (issues : List Issue) : (refused issues : Check α).Completes := by
  rintro fault ⟨⟩

lemma completes_issue (kind : IssueKind) : (issue kind : Check α).Completes :=
  completes_refused _

/-- A check that completes has one of two outcomes. -/
lemma Completes.accepted_or_refused {x : Check α} (h : x.Completes) :
    (∃ a, x = .accepted a) ∨ ∃ issues, x = .refused issues := by
  cases x with
  | accepted a => exact .inl ⟨a, rfl⟩
  | refused issues => exact .inr ⟨issues, rfl⟩
  | broken fault => exact absurd rfl (h fault)

lemma Completes.map {x : Check α} (h : x.Completes) (f : α → β) : (f <$> x).Completes := by
  rcases h.accepted_or_refused with ⟨a, rfl⟩ | ⟨issues, rfl⟩
  · exact completes_accepted (f a)
  · exact completes_refused issues

lemma Completes.seq {f : Check (α → β)} {x : Check α} (hf : f.Completes) (hx : x.Completes) :
    (f <*> x).Completes := by
  rcases hf.accepted_or_refused with ⟨g, rfl⟩ | ⟨first, rfl⟩ <;>
    rcases hx.accepted_or_refused with ⟨a, rfl⟩ | ⟨second, rfl⟩
  · exact completes_accepted (g a)
  · exact completes_refused second
  · exact completes_refused first
  · exact completes_refused (first ++ second)

lemma Completes.andThen {x : Check α} {f : α → Check β} (hx : x.Completes)
    (hf : ∀ a, (f a).Completes) : (x.andThen f).Completes := by
  rcases hx.accepted_or_refused with ⟨a, rfl⟩ | ⟨issues, rfl⟩
  · exact hf a
  · exact completes_refused issues

lemma Completes.under {x : Check α} (h : x.Completes) (step : Step) :
    (x.under step).Completes := by
  rcases h.accepted_or_refused with ⟨a, rfl⟩ | ⟨issues, rfl⟩
  · exact completes_accepted a
  · exact completes_refused _

/-! ## Members of a mapping -/

variable {es : Entries} {read : Value → Check α}

lemma completes_entries (kind : IssueKind) (v : Value) : (entries kind v).Completes := by
  cases v with
  | mapping es => exact completes_accepted es
  | _ => exact completes_issue kind

lemma completes_optional (hread : ∀ v, (read v).Completes) (es : Entries) (name : String)
    (default : α) : (optional es name default read).Completes := by
  unfold optional
  split
  · exact (hread _).under _
  · exact completes_accepted default

lemma completes_onlyNames (es : Entries) (names : List String) :
    (onlyNames es names).Completes := by
  unfold onlyNames
  split
  · exact completes_accepted ()
  · exact completes_refused _

/-- Members that complete do so as the members of a mapping without others. -/
theorem Completes.closed {members : Check α} (h : members.Completes) (es : Entries)
    (names : List String) : (closed es names members).Completes := by
  have hboth : (members <* onlyNames es names).Completes :=
    (h.map _).seq (completes_onlyNames es names)
  unfold Check.closed
  split
  · exact absurd rfl (h _)
  · split
    · exact completes_issue _
    · exact hboth

/-! ## Values -/

lemma completes_anything (v : Value) : (anything v).Completes := completes_accepted v

lemma completes_text (v : Value) : (text v).Completes := by
  unfold text
  split
  · exact completes_accepted _
  · dsimp only
    split
    · exact completes_accepted _
    · exact completes_issue _
  · exact completes_issue _

lemma completes_orNull (hread : ∀ v, (read v).Completes) (v : Value) :
    (orNull read v).Completes := by
  unfold orNull
  split
  · exact completes_accepted none
  · exact (hread v).map some

lemma completes_textOrNull (v : Value) : (textOrNull v).Completes :=
  completes_orNull completes_text v

end Check

open Check

/-! ## Evidence and entries -/

lemma WebAddress.completes_read (v : Value) : (WebAddress.read v).Completes := by
  refine (completes_text v).andThen fun t => ?_
  split
  · split
    · exact completes_accepted _
    · exact completes_issue _
  · exact completes_issue _

lemma Facts.completes_read (v : Value) : (Facts.read v).Completes := by
  refine (completes_entries _ v).andThen fun es => Completes.closed ?_ _ _
  have hfact (field : FactField) : (optional es field.name .null anything).Completes :=
    completes_optional completes_anything es field.name .null
  exact (((((hfact .degree).map _).seq (hfact .gpa)).seq (hfact .institution)).seq
    (hfact .age)).seq (hfact .graduationDate)

lemma Documents.completes_read (v : Value) : (Documents.read v).Completes := by
  refine (completes_entries _ v).andThen fun es => Completes.closed ?_ _ _
  have haddress (name : String) : (optional es name none (orNull WebAddress.read)).Completes :=
    completes_optional (completes_orNull WebAddress.completes_read) es name none
  have hfacts : (optional es "parsed" none (orNull Facts.read)).Completes :=
    completes_optional (completes_orNull Facts.completes_read) es "parsed" none
  exact ((((haddress "cv_url").map _).seq (haddress "diploma_url")).seq
    (haddress "id_card_url")).seq hfacts

/-- What is on a line of a batch is an entry, or it has issues. -/
lemma BatchEntry.completes_read (v : Value) : (BatchEntry.read v).Completes := by
  refine (completes_entries _ v).andThen fun es => Completes.closed ?_ _ _
  have hid (name : String) : (optional es name none textOrNull).Completes :=
    completes_optional completes_textOrNull es name none
  have hdocuments : (optional es "documents" {} Documents.read).Completes :=
    completes_optional Documents.completes_read es "documents" {}
  exact (((hid "applicant_id").map _).seq (hid "vacancy_id")).seq hdocuments

end Shortlist
