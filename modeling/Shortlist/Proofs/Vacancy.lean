import Shortlist.Proofs.Rule.Document
import Shortlist.Vacancy

/-!
# Vacancies read back

A vacancy is read back from its mapping (`Vacancy.read_toValue`), which is plain and one that a JSON
text can say.  Nothing has to be assumed for this: the title, the description and the deadline
carry the proofs that they are filled, and every rule that there is can be read back.  So unlike an
application, whose facts may be any values, a vacancy is its own settled form, and a file gives it
back as it is.
-/

namespace Shortlist

namespace Rule

lemma isDecoded_toValue (r : Rule) : r.toValue.IsDecoded := by
  rw [toValue_eq, ← ruleRecord_eq]
  refine Value.isDecoded_record (by simp) ?_
  intro f hf
  simp only [List.mem_cons, List.not_mem_nil, or_false] at hf
  rcases hf with rfl | rfl | rfl
  · exact .text _
  · exact .text _
  · exact r.isDecoded_operand

lemma isPlain_toValue (r : Rule) : r.toValue.IsPlain := by
  rw [toValue_eq, ← ruleRecord_eq, ruleRecord, Value.isPlain_record]
  intro f hf
  simp only [List.mem_cons, List.not_mem_nil, or_false] at hf
  rcases hf with rfl | rfl | rfl
  · rfl
  · rfl
  · exact r.isPlain_operand

lemma isDecoded_listToValue (rules : List Rule) : (listToValue rules).IsDecoded := by
  refine .list fun v hv => ?_
  obtain ⟨r, -, rfl⟩ := List.mem_map.1 hv
  exact r.isDecoded_toValue

lemma isPlain_listToValue (rules : List Rule) : (listToValue rules).IsPlain := by
  rw [listToValue, Value.isPlain_list]
  intro v hv
  obtain ⟨r, -, rfl⟩ := List.mem_map.1 hv
  exact r.isPlain_toValue

end Rule

namespace Vacancy

/-- The members of a vacancy. -/
def fields (v : Vacancy) : List (String × Value) :=
  [("id", .text v.id), ("title", .text v.title.text), ("description", .text v.description.text),
    ("requirements", Rule.listToValue v.requirements), ("deadline", .text v.deadline.text),
    ("created_at", .text v.createdAt)]

lemma toValue_eq (v : Vacancy) :
    v.toValue = .mapping (v.fields.map fun f => (.name f.1, f.2)) := rfl

theorem read_toValue (v : Vacancy) : read v.toValue = .accepted v := by
  have hget (name : String) : Entries.get? (v.fields.map fun f => (.name f.1, f.2)) name
      = (v.fields.find? fun f => f.1 = name).map (·.2) := Entries.get?_map _ _
  have hrules : Check.items .notSequence Rule.read (Rule.listToValue v.requirements)
      = .accepted v.requirements := Check.itemsFrom_map (fun r _ => r.read_toValue) 0
  rw [toValue_eq, read, Check.entries, Check.andThen_accepted,
    Check.required_eq (hget "id") (Check.text_text _),
    Check.required_eq (hget "title") (FilledText.read_text _),
    Check.required_eq (hget "description") (FilledText.read_text _),
    Check.optional_eq (hget "requirements") hrules,
    Check.required_eq (hget "deadline") (FilledText.read_text _),
    Check.required_eq (hget "created_at") (Check.text_text _)]
  exact Check.closed_map (by simp [fields]) v

lemma isDecoded_toValue (v : Vacancy) : v.toValue.IsDecoded := by
  refine Value.isDecoded_record (by simp) ?_
  intro f hf
  simp only [List.mem_cons, List.not_mem_nil, or_false] at hf
  rcases hf with rfl | rfl | rfl | rfl | rfl | rfl
  on_goal 4 => exact Rule.isDecoded_listToValue _
  all_goals exact .text _

lemma isPlain_toValue (v : Vacancy) : v.toValue.IsPlain := by
  rw [toValue, Value.isPlain_record]
  intro f hf
  simp only [List.mem_cons, List.not_mem_nil, or_false] at hf
  rcases hf with rfl | rfl | rfl | rfl | rfl | rfl
  on_goal 4 => exact Rule.isPlain_listToValue _
  all_goals rfl

end Vacancy

lemma VacancyDraft.isDecoded_toValue (d : VacancyDraft) : d.toValue.IsDecoded := by
  refine Value.isDecoded_record (by simp) ?_
  intro f hf
  simp only [List.mem_cons, List.not_mem_nil, or_false] at hf
  rcases hf with rfl | rfl | rfl | rfl
  on_goal 3 => exact Rule.isDecoded_listToValue _
  all_goals exact .text _

/-! ## A posting -/

/-- A draft of a posting without requirements. -/
def analystDraft : VacancyDraft where
  title := ⟨"Analyst", by decide⟩
  description := ⟨"Data team", by decide⟩
  requirements := []
  deadline := ⟨"2026-12-31", by decide⟩

/-- The posting of the draft. -/
def analystPosting : Vacancy := analystDraft.register "v" "2026-10-01T00:00:00Z"

end Shortlist
