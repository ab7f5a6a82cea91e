import Shortlist.Proofs.Batch.Accounting
import Shortlist.Proofs.Store.RecordLine

/-!
# What the output of a batch can show

A batch that has decided on its entries may still fail over its output.  The report is written
exactly if each result can be shown and their number can be written
(`BatchReport.exists_document_iff`).  An application with facts that a JSON text can say can be
shown unless one of the facts is too deep or there is a surrogate in it
(`Application.isShowable_iff`); its id does not matter.

That the id does not matter is what makes this a condition on lines.  Whether a line spoils the
output can be said before the batch has decided on anything, from the facts that it hands in and the
vacancy, although the id is drawn only when the line is reached.

Whether there is room for the file is another condition, on the tree alone: see `Tree.Accommodates`.
-/

namespace Shortlist

/-! ## Values that can be shown -/

namespace Value

variable {v : Value} {levels : Nat} {fields : List (String × Value)}

/-- A value that an output can show: it can be reduced, and what it is reduced to can be written and
encoded. -/
structure IsShowable (levels : Nat) (v : Value) : Prop where
  reducible : v.plainFault? false levels = none
  writable : Json.writable v.dump = .ok ()
  encodable : v.dump.plainFault? true levels = none

lemma isShowable_record (hdistinct : (fields.map (·.1)).Nodup) :
    (record fields).IsShowable (levels + 1) ↔ ∀ f ∈ fields, f.2.IsShowable levels := by
  have hwritable : Json.writable (record fields).dump = .ok ()
      ↔ ∀ f ∈ fields, Json.writable f.2.dump = .ok () := by
    rw [dump_record hdistinct, Json.writable_record, List.forall_mem_map]
  have hencodable : (record fields).dump.plainFault? true (levels + 1) = none
      ↔ ∀ f ∈ fields, f.2.dump.plainFault? true levels = none := by
    rw [dump_record hdistinct, plainFault?_record, List.forall_mem_map]
  constructor
  · intro h f hf
    exact ⟨plainFault?_record.1 h.reducible f hf, hwritable.1 h.writable f hf,
      hencodable.1 h.encodable f hf⟩
  · intro h
    exact ⟨plainFault?_record.2 fun f hf => (h f hf).reducible,
      hwritable.2 fun f hf => (h f hf).writable, hencodable.2 fun f hf => (h f hf).encodable⟩

/-- A text that a string is can be shown. -/
lemma isShowable_ofString (s : String) : (Value.text s).IsShowable (levels + 1) :=
  ⟨textFault?_ofChars _, rfl, textFault?_ofChars _⟩

/-- A value that a JSON text can say can be shown exactly if it can be reduced and encoded. -/
lemma IsDecoded.isShowable_iff (h : v.IsDecoded) :
    v.IsShowable levels ↔ v.plainFault? true levels = none := by
  constructor
  · intro hshown
    rw [← h.plainFault?_plain_iff, ← h.dump_eq]
    exact hshown.encodable
  · intro hfault
    have hwritable : Json.writable v.dump = .ok () := by
      rw [h.dump_eq]
      exact Json.writable_of_isDecoded h.plain
    exact ⟨plainFault?_of_encoded hfault, hwritable, plainFault?_dump hfault⟩

end Value

/-! ## Applications that can be shown -/

namespace Application

variable {a : Application}

/-- An application that an output can show. -/
def IsShowable (a : Application) : Prop := a.toValue.IsShowable Application.levels

theorem isShowable_iff (h : a.documents.HasDecodedFacts) :
    a.IsShowable ↔ a.facts.IsShallow ∧ a.toValue.IsEncodable := by
  rw [← lineFault?_eq_none h]
  exact (isDecoded_toValue h).isShowable_iff

/-- An application that can be shown can be shown under every other id that is a string. -/
lemma IsShowable.withId (h : a.IsShowable) (id : String) : IsShowable { a with id } := by
  have hdistinct (b : Application) : (b.fields.map (·.1)).Nodup := by simp [fields]
  have hfields : ∀ f ∈ a.fields, f.2.IsShowable Documents.levels :=
    (Value.isShowable_record (hdistinct a)).1 h
  have hothers : ∀ f ∈ a.fields.tail, f.2.IsShowable Documents.levels :=
    fun f hf => hfields f (List.mem_of_mem_tail hf)
  refine (Value.isShowable_record (hdistinct { a with id })).2 ?_
  rw [fields, List.forall_mem_cons]
  exact ⟨Value.isShowable_ofString id, hothers⟩

end Application

/-! ## Reports that can be written -/

namespace BatchReport

open Value (plainFault?)

variable {report : BatchReport}

/-- What is to know about a batch can be written exactly if the number of its results can. -/
lemma writable_metadata :
    Json.writable report.metadata = .ok ()
      ↔ digitCount report.results.length ≤ integerDigitLimit := by
  have hint (n : Nat) : Json.writable (.int n) = .ok () ↔ digitCount n ≤ integerDigitLimit := by
    rw [Json.writable, Int.natAbs_natCast]
    split <;> simp <;> omega
  -- a count is at most the number of the results, so it has no more digits
  have hcount (status : Status) (h : digitCount report.results.length ≤ integerDigitLimit) :
      digitCount (report.count status) ≤ integerDigitLimit := by
    rw [digitCount_le_iff (by decide)] at h ⊢
    exact (List.length_filter_le _ _).trans_lt h
  have herrors : Json.writable (.list (report.errors.map fun e => .text e.message)) = .ok () :=
    Json.writable_list.2 (List.forall_mem_map.2 fun e _ => rfl)
  rw [metadata, Json.writable_record]
  constructor
  · intro h
    exact (hint _).1 (h ("application_count", .int report.results.length) (by simp))
  · intro h f hf
    simp only [List.mem_cons, List.not_mem_nil, or_false] at hf
    rcases hf with rfl | rfl | rfl | rfl | rfl | rfl | rfl
    · rfl
    · exact (hint _).2 h
    · exact (hint _).2 (hcount .accepted h)
    · exact (hint _).2 (hcount .rejected h)
    · exact herrors
    · rfl
    · rfl

/-- There are no surrogates in what is to know about a batch whose id and time are strings. -/
lemma plainFault?_metadata {vacancyId finishedAt : String} (hvacancy : report.vacancyId = vacancyId)
    (hfinished : report.finishedAt = finishedAt) :
    report.metadata.plainFault? true (Application.levels + 1) = none := by
  have hstring (s : String) {levels : Nat} : (Value.text s).plainFault? true (levels + 1) = none :=
    Value.textFault?_ofChars _
  refine Value.plainFault?_record.2 fun f hf => ?_
  rw [hvacancy, hfinished] at hf
  simp only [List.mem_cons, List.not_mem_nil, or_false] at hf
  rcases hf with rfl | rfl | rfl | rfl | rfl | rfl | rfl
  · exact hstring _
  · rfl
  · rfl
  · rfl
  · exact Value.plainFault?_list.2 (List.forall_mem_map.2 fun e _ => hstring _)
  · exact hstring _
  · exact hstring _

/-- A report has a document with bytes exactly if every result can be shown and their number can be
written. -/
theorem exists_document_iff {vacancyId finishedAt : String}
    (hvacancy : report.vacancyId = vacancyId)
    (hfinished : report.finishedAt = finishedAt)
    (hreducible : ∀ a ∈ report.results, a.toValue.plainFault? false Application.levels = none) :
    (∃ text bytes, Json.document .page report.toValue = .ok text ∧ text.encode = .ok bytes)
      ↔ digitCount report.results.length ≤ integerDigitLimit
        ∧ ∀ a ∈ report.results, a.IsShowable := by
  have hwritable : Json.writable report.toValue = .ok ()
      ↔ digitCount report.results.length ≤ integerDigitLimit
        ∧ ∀ a ∈ report.results, Json.writable a.toValue.dump = .ok () := by
    rw [← writable_metadata, toValue, Json.writable_record]
    simp only [List.forall_mem_cons, List.not_mem_nil, false_implies, implies_true, and_true,
      Json.writable_list, List.forall_mem_map]
  have hencodable : report.toValue.plainFault? true (Application.levels + 2) = none
      ↔ ∀ a ∈ report.results, a.toValue.dump.plainFault? true Application.levels = none := by
    rw [toValue, Value.plainFault?_record]
    simp only [List.forall_mem_cons, List.not_mem_nil, false_implies, implies_true, and_true,
      plainFault?_metadata hvacancy hfinished, true_and, Value.plainFault?_list,
      List.forall_mem_map]
  -- the one condition gives a text, the other one its bytes; both are about the results alone
  rw [Json.exists_document_iff Json.Style.isSpaced_page report.isPlain_toValue
    (plainFault?_toValue hreducible), hwritable, hencodable, and_assoc, ← forall₂_and]
  refine and_congr_right fun _ => forall₂_congr fun a ha => ?_
  constructor
  · rintro ⟨hwritable, hencodable⟩
    exact ⟨hreducible a ha, hwritable, hencodable⟩
  · intro h
    exact ⟨h.writable, h.encodable⟩

end BatchReport

/-- An output whose directory is there is written exactly if the value has a document with bytes. -/
lemma Pipeline.exists_exec_writeOutput_iff {s : Session} {p : Path} {v : Value}
    (hroom : s.files.Accommodates p) :
    (∃ s', Action.exec (writeOutput p v) s = (.ok (), s'))
      ↔ ∃ text bytes, Json.document .page v = .ok text ∧ text.encode = .ok bytes := by
  constructor
  · rintro ⟨s', h⟩
    obtain ⟨text, bytes, -, htext, hbytes, -⟩ := exec_writeOutput_ok h
    exact ⟨text, bytes, htext, hbytes⟩
  · rintro ⟨text, bytes, htext, hbytes⟩
    exact exec_writeOutput_of_hasRoom hroom.room hroom.makeDirectories htext hbytes

end Shortlist
