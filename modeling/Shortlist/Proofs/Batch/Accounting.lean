import Shortlist.Proofs.Application
import Shortlist.Proofs.Batch.Lines
import Shortlist.Proofs.Batch.Run
import Shortlist.Proofs.Json.Document

/-!
# Nothing is lost in a batch

Every line of a file of applications that is not blank ends up in exactly one place of the report:
among the results, among the bad lines, or among the entries that name another vacancy
(`Pipeline.Accounts`).  Each of the three keeps the order of the lines.  The output file says the
report (`Course.readDocument_output`), with the results as they are shown.

The account is an inductive relation between the lines and the three lists, with one case for each
of the three, so that orders, counts and numbers all come from it by induction.  The entries are
counted apart from the lines: a bad line has the number of its line, but an entry that names another
vacancy has its number among the entries, which is what the report says of it.
-/

namespace Shortlist

/-! ## Results -/

/-- An application is the result of a line: it carries the applicant id and the addresses that the
line says, character for character, and what else the entry says. -/
structure ValidLine.Yields (l : ValidLine) (a : Application) : Prop where
  applicant : IsKept ((Value.mapping l.members).member? "applicant_id") a.applicantId
  cv : IsKept (((Value.mapping l.members).member? "documents").bind (·.member? "cv_url"))
    (addressText a.documents.cv)
  diploma : IsKept (((Value.mapping l.members).member? "documents").bind (·.member? "diploma_url"))
    (addressText a.documents.diploma)
  idCard : IsKept (((Value.mapping l.members).member? "documents").bind (·.member? "id_card_url"))
    (addressText a.documents.idCard)
  entry : a.applicantId = l.entry.applicantId
    ∧ ∃ facts, a.documents = { l.entry.documents with facts := some facts }

/-- An application that holds what the entry of a line says is the result of the line. -/
lemma ValidLine.yields_of_entry {l : ValidLine} {a : Application} {facts : Facts}
    (happlicant : a.applicantId = l.entry.applicantId)
    (hdocuments : a.documents = { l.entry.documents with facts := some facts }) : l.Yields a := by
  obtain ⟨hid, hread, -⟩ := ValidLine.read_eq_accepted l.reads
  obtain ⟨hcv, hdiploma, hidCard⟩ := Documents.isKept_of_optional hread
  have hkept := isKept_of_textOrNull hid
  rw [← happlicant] at hkept
  exact
    { applicant := hkept
      cv := by rw [hdocuments]; exact hcv
      diploma := by rw [hdocuments]; exact hdiploma
      idCard := by rw [hdocuments]; exact hidCard
      entry := ⟨happlicant, facts, hdocuments⟩ }

namespace Pipeline

open Session
open ApplicationsFile (lines validLines readLine readContents)
open Shortlist.Action (exec)

variable {setup : Setup} {now : Instant} {paths : BatchPaths} {vacancyId : Text} {number : Nat}
  {entries : List BatchEntry} {ls : List (Nat × List Char)} {file : ApplicationsFile}
  {results : List Application} {errors : List LineError} {mismatches : List BatchError}
  {report : BatchReport} {s s' : Session}

/-! ## Lines -/

/-- Lines are accounted for by results, bad lines and mismatches, each line by one of them: a line
that is no valid one by an error with its number, a valid one that names another vacancy by a
mismatch with the number of the entry, and any other one by its result. -/
inductive Accounts (vacancyId : Text) :
    Nat → List (Nat × List Char) → List Application → List LineError → List BatchError → Prop where
  | nil (entry : Nat) : Accounts vacancyId entry [] [] [] []
  | bad {entry number : Nat} {content : List Char} {flaw : LineFlaw} {rest : List (Nat × List Char)}
    {results : List Application} {errors : List LineError} {mismatches : List BatchError}
    (hnone : ValidLine.ofContent? content = none)
    (hflaw : readLine number content = .ok ⟨[], [⟨number, flaw⟩]⟩)
    (hrest : Accounts vacancyId entry rest results errors mismatches) :
    Accounts vacancyId entry ((number, content) :: rest) results (⟨number, flaw⟩ :: errors)
      mismatches
  | mismatch {entry number : Nat} {content : List Char} {l : ValidLine} {other : Text}
    {rest : List (Nat × List Char)} {results : List Application} {errors : List LineError}
    {mismatches : List BatchError} (hl : ValidLine.ofContent? content = some l)
    (hother : l.entry.vacancyId = some other) (hne : other ≠ vacancyId)
    (hrest : Accounts vacancyId (entry + 1) rest results errors mismatches) :
    Accounts vacancyId entry ((number, content) :: rest) results errors
      (.mismatch entry other vacancyId :: mismatches)
  | result {entry number : Nat} {content : List Char} {l : ValidLine} {a : Application}
    {rest : List (Nat × List Char)} {results : List Application} {errors : List LineError}
    {mismatches : List BatchError} (hl : ValidLine.ofContent? content = some l)
    (hjoins : l.joins vacancyId = true) (hyields : l.Yields a)
    (hrest : Accounts vacancyId (entry + 1) rest results errors mismatches) :
    Accounts vacancyId entry ((number, content) :: rest) (a :: results) errors mismatches

/-- The lines of a file are accounted for by the errors of the file and the decisions on its
entries. -/
lemma accounts_of_readContents (hread : readContents ls = .ok file)
    (h : Decides setup now vacancyId number file.entries s results mismatches s') :
    Accounts vacancyId number ls results file.errors mismatches := by
  -- over the lines: the decisions are on the entries, and only a valid line has one
  induction ls generalizing number file s results mismatches with
  | nil =>
    cases hread
    cases h
    exact .nil number
  | cons line rest ih =>
    obtain ⟨_, content⟩ := line
    obtain ⟨others, hothers, ⟨l, hl, rfl⟩ | ⟨hnone, flaw, hflaw, rfl⟩⟩ :=
      ApplicationsFile.readContents_cons_ok hread
    · cases h with
      | mismatch hother hne hreport hrest =>
        have haccounts := ih hothers hrest
        exact .mismatch hl hother hne haccounts
      | application hjoins hcreate hreducible hrest =>
        obtain ⟨v, ruling, applications, added, rfl, hsettled⟩ := exec_createApplication_ok hcreate
        have hyields := ValidLine.yields_of_entry hsettled.ruled.applicant hsettled.ruled.documents
        have haccounts := ih hothers hrest
        exact .result hl (ValidLine.joins_iff.2 hjoins) hyields haccounts
    · have haccounts := ih hothers h
      exact .bad hnone hflaw haccounts

/-- No line is accounted for twice, and none is left out. -/
theorem Accounts.length (h : Accounts vacancyId number ls results errors mismatches) :
    ls.length = results.length + (errors.length + mismatches.length) := by
  induction h with
  | nil => rfl
  | bad _ _ _ ih | mismatch _ _ _ _ ih | result _ _ _ _ ih =>
    simp only [List.length_cons, ih]
    omega

/-- The results are those of the valid lines that name no other vacancy, one for each, in order. -/
lemma Accounts.forall₂_yields (h : Accounts vacancyId number ls results errors mismatches) :
    List.Forall₂ ValidLine.Yields ((validLines ls).filter (·.joins vacancyId)) results := by
  induction h with
  | nil => exact .nil
  | bad hnone _ _ ih => simpa [validLines, List.filterMap_cons, hnone] using ih
  | @mismatch _ _ _ l _ _ _ _ _ hl hother hne _ ih =>
    have hleft := ValidLine.not_joins_iff.2 ⟨_, hother, hne⟩
    simpa [validLines, List.filterMap_cons, hl, hleft] using ih
  | result hl hjoins hyields _ ih =>
    simpa [validLines, List.filterMap_cons, hl, hjoins] using ⟨hyields, ih⟩

/-! ## The vacancy of a batch -/

/-- The applications of a batch are to its vacancy, as long as no other one is found under its
id. -/
lemma Decides.vacancyId_eq (h : Decides setup now vacancyId number entries s results mismatches s')
    (hid : ∀ files v, s.store.vacancies.get? files vacancyId = .ok (some v) → v.id = vacancyId) :
    ∀ a ∈ results, a.vacancyId = vacancyId := by
  induction h with
  | nil => simp
  | mismatch _ _ hreport _ ih =>
    obtain ⟨events, rfl⟩ := hreport
    exact ih hid
  | application _ hcreate _ _ ih =>
    obtain ⟨v, ruling, applications, added, rfl, hsettled⟩ := exec_createApplication_ok hcreate
    intro a ha
    rcases List.mem_cons.1 ha with rfl | ha
    · rw [hsettled.ruled.vacancyId]
      exact hid _ v hsettled.ruled.vacancy
    · refine ih ?_ a ha
      rw [hsettled.store]
      exact hid

lemma Course.vacancyId_eq (course : Course setup now paths s report s') :
    ∀ a ∈ report.results, a.vacancyId = course.vacancy.id := by
  obtain ⟨-, vacancies, files, hinsert, hstore, -⟩ := exec_createVacancy_ok course.registers
  obtain ⟨events, hloaded⟩ := course.loads
  refine course.decides.vacancyId_eq fun files' v hget => ?_
  rw [hloaded, hstore] at hget
  exact Collection.id_of_get?_insert hinsert hget

lemma Decides.reducible (h : Decides setup now vacancyId number entries s results mismatches s') :
    ∀ a ∈ results, a.toValue.plainFault? false Application.levels = none := by
  induction h with
  | nil => simp
  | mismatch _ _ _ _ ih => exact ih
  | application _ _ hreducible _ ih => simpa using ⟨hreducible, ih⟩

end Pipeline

/-! ## The report -/

namespace BatchReport

variable {report : BatchReport}

/-- Every result is accepted or rejected. -/
lemma length_results (report : BatchReport) :
    report.results.length = report.count .accepted + report.count .rejected := by
  have hrejected : (report.results.filter fun a => !decide (a.status = .accepted))
      = report.results.filter fun a => a.status = .rejected := by
    refine List.filter_congr fun a _ => ?_
    cases a.status <;> rfl
  rw [count, count, ← hrejected]
  exact List.length_eq_length_filter_add _

/-- A document says a report: it holds the results as they are shown, and what is to know about the
batch. -/
structure IsSaidBy (report : BatchReport) (document : Value) : Prop where
  results : document.member? "results" = some (.list (report.results.map fun a => a.toValue.dump))
  vacancyId : (document.member? "metadata").bind (·.member? "vacancy_id")
    = some (.text report.vacancyId)
  applicationCount : (document.member? "metadata").bind (·.member? "application_count")
    = some (.int report.results.length)
  accepted : (document.member? "metadata").bind (·.member? "accepted")
    = some (.int (report.count .accepted))
  rejected : (document.member? "metadata").bind (·.member? "rejected")
    = some (.int (report.count .rejected))
  errors : (document.member? "metadata").bind (·.member? "errors")
    = some (.list (report.errors.map fun e => .text e.message))

lemma isSaidBy_toValue (report : BatchReport) : report.IsSaidBy report.toValue := by
  have hmetadata : report.toValue.member? "metadata" = some report.metadata := by
    rw [toValue, Value.member?_record]
    rfl
  have hresults : report.toValue.member? "results"
      = some (.list (report.results.map fun a => a.toValue.dump)) := by
    rw [toValue, Value.member?_record]
    rfl
  refine ⟨hresults, ?_, ?_, ?_, ?_, ?_⟩ <;>
  · rw [hmetadata, Option.bind_some, metadata, Value.member?_record]
    rfl

lemma isPlain_toValue (report : BatchReport) : report.toValue.IsPlain := by
  have herrors : (Value.list (report.errors.map fun e => .text e.message)).IsPlain := by
    rw [Value.isPlain_list, List.forall_mem_map]
    exact fun e _ => rfl
  have hmetadata : report.metadata.IsPlain := by
    refine Value.isPlain_record.2 fun f hf => ?_
    simp only [List.mem_cons, List.not_mem_nil, or_false] at hf
    rcases hf with rfl | rfl | rfl | rfl | rfl | rfl | rfl
    on_goal 5 => exact herrors
    all_goals rfl
  have hresults : (Value.list (report.results.map fun a => a.toValue.dump)).IsPlain := by
    rw [Value.isPlain_list, List.forall_mem_map]
    exact fun a _ => Value.isPlain_dump _
  refine Value.isPlain_record.2 fun f hf => ?_
  simp only [List.mem_cons, List.not_mem_nil, or_false] at hf
  rcases hf with rfl | rfl
  · exact hmetadata
  · exact hresults

/-- A report of results that can be reduced can be reduced, with two more levels. -/
lemma plainFault?_toValue
    (h : ∀ a ∈ report.results, a.toValue.plainFault? false Application.levels = none) :
    report.toValue.plainFault? false (Application.levels + 2) = none := by
  have hmetadata : report.metadata.plainFault? false (Application.levels + 1) = none := by
    refine Value.plainFault?_record.2 fun f hf => ?_
    simp only [List.mem_cons, List.not_mem_nil, or_false] at hf
    rcases hf with rfl | rfl | rfl | rfl | rfl | rfl | rfl
    on_goal 5 => exact Value.plainFault?_list.2 (List.forall_mem_map.2 fun e _ => rfl)
    all_goals rfl
  refine Value.plainFault?_record.2 fun f hf => ?_
  simp only [List.mem_cons, List.not_mem_nil, or_false] at hf
  rcases hf with rfl | rfl
  · exact hmetadata
  · exact Value.plainFault?_list.2 (List.forall_mem_map.2 fun a ha =>
      Value.plainFault?_dump (h a ha))

/-- A report that can be written is one that a document can say. -/
lemma isDecoded_toValue (h : Json.writable report.toValue = .ok ()) :
    report.toValue.IsDecoded := by
  have hfields := Json.writable_record.1 h
  have hmetadata : report.metadata.IsDecoded := by
    have hmembers := Json.writable_record.1 (hfields ("metadata", report.metadata) (by simp))
    refine Value.isDecoded_record (by simp) fun f hf => ?_
    have hwritable := hmembers f hf
    simp only [List.mem_cons, List.not_mem_nil, or_false] at hf
    rcases hf with rfl | rfl | rfl | rfl | rfl | rfl | rfl
    · exact .text _
    · exact Json.isDecoded_int hwritable
    · exact Json.isDecoded_int hwritable
    · exact Json.isDecoded_int hwritable
    · exact .list (List.forall_mem_map.2 fun e _ => .text _)
    · exact .text _
    · exact .text _
  -- a result is shown with the entries of equal keys merged, which is why writing it says so much
  have hresults := Json.writable_list.1
    (hfields ("results", .list (report.results.map fun a => a.toValue.dump)) (by simp))
  refine Value.isDecoded_record (by simp) fun f hf => ?_
  simp only [List.mem_cons, List.not_mem_nil, or_false] at hf
  rcases hf with rfl | rfl
  · exact hmetadata
  · refine .list (List.forall_mem_map.2 fun a ha => ?_)
    exact Json.isDecoded_merged (Value.isPlain_plain _) (List.forall_mem_map.1 hresults a ha)

end BatchReport

namespace Pipeline

open ApplicationsFile (lines validLines)
open Shortlist.Action (exec)

variable {setup : Setup} {now : Instant} {paths : BatchPaths} {report : BatchReport}
  {s s' : Session}

/-- The output file of a batch says its report. -/
theorem Course.readDocument_output (course : Course setup now paths s report s') :
    ∃ output, s'.files.read paths.output = .ok output
      ∧ readDocument output = .ok (.ok report.toValue) := by
  obtain ⟨text, output, files, htext, houtput, -, hread, hs'⟩ := exec_writeOutput_ok course.writes
  obtain ⟨_, hwritable, -⟩ := Except.bind_eq_ok.1 htext
  have hfault := BatchReport.plainFault?_toValue course.decides.reducible
  refine ⟨output, by rw [hs']; exact hread, ?_⟩
  exact readDocument_document Json.Style.isSpaced_page report.isPlain_toValue
    (BatchReport.isDecoded_toValue hwritable) hfault (by decide) htext houtput

/-- A report accounts for a file of applications. -/
structure IsAccount (report : BatchReport) (content : Text.Bytes) : Prop where
  lines : ∃ errors mismatches, report.errors = errors.map .line ++ mismatches
    ∧ Accounts report.vacancyId 1 (lines content) report.results errors mismatches
  length : (ApplicationsFile.lines content).length = report.results.length + report.errors.length
  results : List.Forall₂ ValidLine.Yields
    ((validLines (ApplicationsFile.lines content)).filter (·.joins report.vacancyId)) report.results
  counts : report.results.length = report.count .accepted + report.count .rejected
  vacancyId : ∀ a ∈ report.results, a.vacancyId = report.vacancyId

lemma Course.isAccount (course : Course setup now paths s report s') :
    IsAccount report course.content := by
  obtain ⟨-, hread⟩ := ApplicationsFile.read_ok course.reads_file
  have haccounts := accounts_of_readContents hread course.decides
  rw [← course.vacancyId] at haccounts
  exact
    { lines := ⟨course.file.errors, course.mismatches, course.errors, haccounts⟩
      length := by simp [haccounts.length, course.errors]
      results := haccounts.forall₂_yields
      counts := report.length_results
      vacancyId := by rw [course.vacancyId]; exact course.vacancyId_eq }

/-- A batch that comes back accounts for every line of its file of applications that is not blank:
by one result or by one error.  The file can be decoded, and is the one that is there when the
vacancy has been registered.  The output file says the report. -/
theorem runBatch_accounts (h : exec (runBatch setup now paths) s = (.ok report, s')) :
    ∃ (bytes content output : Text.Bytes) (document : Value) (vacancy : Vacancy)
      (registered : Session),
      s.files.read paths.vacancy = .ok bytes ∧ readVacancyFile bytes = .ok document
      ∧ exec (createVacancy now document) s = (.ok vacancy, registered)
      ∧ registered.files.read paths.applications = .ok content
      ∧ (Text.decodeUtf8 content).fault = none
      ∧ report.vacancyId = vacancy.id ∧ IsAccount report content
      ∧ s'.files.read paths.output = .ok output
      ∧ readDocument output = .ok (.ok report.toValue) ∧ report.IsSaidBy report.toValue := by
  obtain ⟨course⟩ := nonempty_course h
  obtain ⟨bytes, hbytes, hdocument⟩ := course.reads_document
  obtain ⟨hdecoded, -⟩ := ApplicationsFile.read_ok course.reads_file
  obtain ⟨output, houtput, hsays⟩ := course.readDocument_output
  exact ⟨bytes, course.content, output, course.document, course.vacancy, course.registered, hbytes,
    hdocument, course.registers, course.reads_content, hdecoded, course.vacancyId,
    course.isAccount, houtput, hsays, report.isSaidBy_toValue⟩

/-- Of three lines one is decided on, one is bad, and one is for another vacancy. -/
theorem runBatch_accounts_analyst :
    ∃ s' content output, exec (runBatch analystSetup analystDay analystPaths) analystBatch
        = (.ok firstReport, s')
      ∧ IsAccount firstReport content ∧ (ApplicationsFile.lines content).length = 3
      ∧ firstReport.results.length = 1
      ∧ firstReport.errors = [.line ⟨2, .notObject⟩, .mismatch 2 "w" firstReport.vacancyId]
      ∧ s'.files.read analystPaths.output = .ok output
      ∧ readDocument output = .ok (.ok firstReport.toValue) := by
  obtain ⟨s', h⟩ := exists_runBatch_analyst
  obtain ⟨-, content, output, -, -, -, -, -, -, -, -, -, haccount, houtput, hsays, -⟩ :=
    runBatch_accounts h
  exact ⟨s', content, output, h, haccount, haccount.length, rfl, rfl, houtput, hsays⟩

end Pipeline

end Shortlist
