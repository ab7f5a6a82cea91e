import Shortlist.Proofs.Audit
import Shortlist.Proofs.Files.Content
import Shortlist.Proofs.Json.Document

/-!
# Lines of an audit file

A record that is written to an audit file is one line, and the line says the record: it is a JSON
document without a line break in it, whatever the texts and the facts of the record hold.

A line break inside a text is written as an escape, and the style of the file puts none between the
tokens, so the breaks of the file are the ends of its lines, and it can be split at them.
-/

namespace Shortlist

open CodePoint (chars)
open Value (plainFault?)

namespace AuditRecord

variable {r : AuditRecord}

/-- The characters of the line of a record. -/
def lineChars (r : AuditRecord) : List Char := chars (Json.write .line 0 r.toValue)

/-- A record whose line says the record, and does so without a line break. -/
structure IsLegible (r : AuditRecord) : Prop where
  parse : Json.parse r.lineChars = .ok r.toValue
  unbroken : '\n' ∉ r.lineChars

/-- The members of the mapping of a record. -/
def fields (r : AuditRecord) : List (String × Value) :=
  [("application_id", .text r.applicationId), ("vacancy_id", .text r.vacancyId),
    ("applicant_id", .ofText? r.applicantId), ("status", .text r.status.name),
    ("reasons", .list (r.reasons.map .text)), ("facts", r.facts.toValue.dump),
    ("created_at", .text r.createdAt)]

lemma toValue_eq (r : AuditRecord) : r.toValue = .record r.fields := rfl

/-- The members of a record have a property that the dump of its facts has and that texts, null and
lists of texts have. -/
lemma forall_fields {P : Value → Prop} (hnull : P .null) (htext : ∀ t, P (.text t))
    (hlist : ∀ ts : List Text, P (.list (ts.map .text))) (hfacts : P r.facts.toValue.dump) :
    ∀ f ∈ r.fields, P f.2 := by
  have hof (t : Option Text) : P (.ofText? t) := by
    cases t with
    | none => exact hnull
    | some t => exact htext t
  simp only [fields, List.forall_mem_cons]
  exact ⟨htext _, htext _, hof _, htext _, hlist _, hfacts, htext _, by simp⟩

lemma isPlain_toValue (r : AuditRecord) : r.toValue.IsPlain := by
  rw [toValue_eq, Value.isPlain_record]
  refine forall_fields rfl (fun _ => rfl) (fun ts => ?_) (Value.isPlain_dump _)
  rw [Value.isPlain_list, List.forall_mem_map]
  exact fun _ _ => rfl

/-- A record can be reduced if its facts can, with one level more. -/
lemma plainFault?_toValue (h : AuditTrail.factsFault? r = none) :
    plainFault? false (Facts.levels + 1) r.toValue = none := by
  rw [toValue_eq, Value.plainFault?_record]
  refine forall_fields (P := fun v => plainFault? false Facts.levels v = none) rfl (fun _ => rfl)
    (fun ts => ?_) (Value.plainFault?_dump h)
  rw [Facts.levels, Value.plainFault?_list, List.forall_mem_map]
  exact fun _ _ => rfl

lemma isDecoded_toValue (h : Json.writable r.toValue = .ok ()) : r.toValue.IsDecoded := by
  rw [toValue_eq, Json.writable_record] at h
  have hfacts : Json.writable r.facts.toValue.dump = .ok () :=
    h ("facts", r.facts.toValue.dump) (by simp [fields])
  rw [toValue_eq]
  refine Value.isDecoded_record (by simp [fields]) (forall_fields .null .text (fun ts => ?_)
    (Json.isDecoded_merged (Value.isPlain_plain _) hfacts))
  refine .list fun v hv => ?_
  obtain ⟨t, -, rfl⟩ := List.mem_map.1 hv
  exact .text t

/-- What a record of reducible facts that has a line comes to: it can be written, and there are no
surrogates in it. -/
lemma writable_of_auditLine? {line : Text.Bytes} (hfacts : AuditTrail.factsFault? r = none)
    (h : auditLine? r.toValue = .ok line) :
    Json.writable r.toValue = .ok () ∧ plainFault? true (Facts.levels + 1) r.toValue = none
      ∧ line = Text.lineBytes r.lineChars := by
  rw [auditLine?] at h
  split at h
  · cases h
  · rename_i text htext
    split at h
    · cases h
    · rename_i bytes hbytes
      cases h
      obtain ⟨_, hwritable, htext⟩ := Except.bind_eq_ok.1 htext
      cases htext
      obtain ⟨hsurrogates, rfl⟩ := Text.encode_eq_ok.1 hbytes
      refine ⟨hwritable, Json.plainFault?_of_write r.isPlain_toValue (plainFault?_toValue hfacts)
        hsurrogates, ?_⟩
      rw [Text.lineBytes, Text.encodeUtf8_append]
      rfl

/-- The line of such a record is made of characters that do not break it. -/
lemma isPrinted_of_auditLine? {line : Text.Bytes} (hfacts : AuditTrail.factsFault? r = none)
    (h : auditLine? r.toValue = .ok line) : Json.IsPrinted (Json.write .line 0 r.toValue) :=
  (Json.isSetOut_write Json.Style.isSpaced_line r.isPlain_toValue
    (writable_of_auditLine? hfacts h).2.1).isPrinted rfl

/-- A record of reducible facts that has a line can be read in it. -/
lemma isLegible_of_auditLine? {line : Text.Bytes} (hfacts : AuditTrail.factsFault? r = none)
    (h : auditLine? r.toValue = .ok line) :
    r.IsLegible ∧ line = Text.lineBytes r.lineChars := by
  obtain ⟨hwritable, hfault, hline⟩ := writable_of_auditLine? hfacts h
  refine ⟨⟨?_, fun hmem => ?_⟩, hline⟩
  · exact Json.parse_write Json.Style.isSpaced_line r.isPlain_toValue
      (isDecoded_toValue hwritable) hfault (by decide)
  · exact absurd ((isPrinted_of_auditLine? hfacts h).le_toNat _ hmem) (by decide)

end AuditRecord

/-! ## Adding a line -/

variable {files : Tree} {p : Path} {place : Place} {r : AuditRecord}

lemma appendAuditLine_ok {files' : Tree} {v : Value}
    (h : appendAuditLine files p v = (files', .ok ())) :
    ∃ line, auditLine? v = .ok line
      ∧ files'.bytesAt (files.resolve p) = files.bytesAt (files.resolve p) ++ line := by
  rw [appendAuditLine] at h
  split at h
  · cases h
  · rename_i opened hopen
    split at h
    · cases h
    · rename_i line hline
      split at h
      · cases h
      · rename_i added hadd
        cases h
        refine ⟨line, hline, ?_⟩
        have hadded := Tree.bytesAt_append hadd
        rw [Tree.resolve_write hopen, Tree.bytesAt_append_nil hopen] at hadded
        exact hadded

namespace AuditTrail

/-- A decision that has been recorded in a file stands on a line at its end. -/
lemma append_file_ok (h : ((AuditTrail.file p).append files r).2.2 = .ok ()) :
    r.IsLegible ∧ ((AuditTrail.file p).append files r).2.1.bytesAt (files.resolve p)
      = files.bytesAt (files.resolve p) ++ Text.lineBytes r.lineChars := by
  rw [append] at h ⊢
  cases hfacts : factsFault? r with
  | some fault =>
    rw [hfacts] at h
    cases h
  | none =>
    rw [hfacts] at h
    dsimp only [isOn, appendRecord] at h ⊢
    generalize hadd : appendAuditLine files p r.toValue = added at h ⊢
    obtain ⟨files', outcome⟩ := added
    obtain rfl : outcome = .ok () := h
    obtain ⟨line, hline, hbytes⟩ := appendAuditLine_ok hadd
    obtain ⟨hlegible, rfl⟩ := AuditRecord.isLegible_of_auditLine? hfacts hline
    exact ⟨hlegible, hbytes⟩

/-- A trail in a file stays in it. -/
lemma append_file_fst (files : Tree) (p : Path) (r : AuditRecord) :
    ((AuditTrail.file p).append files r).1 = .file p := by
  rw [append]
  split <;> rfl

/-- Recording a decision leaves the bytes at other places as they are. -/
lemma bytesAt_append_ne (hne : place ≠ files.resolve p) (r : AuditRecord) :
    ((AuditTrail.file p).append files r).2.1.bytesAt place = files.bytesAt place := by
  let P (t : Tree) : Prop := t.here = files.here ∧ t.bytesAt place = files.bytesAt place
  have hP : ∀ q, AuditTrail.file p = .file q → ∀ t content t', P t →
      t.write q content = .ok t' → P t' := by
    rintro q hq t content t' ⟨hhere, hbytes⟩ hwrite
    cases hq
    refine ⟨(Tree.sameOff_write hwrite).here.trans hhere, ?_⟩
    rw [Tree.bytesAt_write_ne hwrite (by rwa [Tree.resolve_of_here hhere]), hbytes]
  exact (append_preserves (P := P) hP ⟨rfl, rfl⟩ r).2

/-- Recording a decision leaves the current directory as it is. -/
lemma here_append (trail : AuditTrail) (files : Tree) (r : AuditRecord) :
    (trail.append files r).2.1.here = files.here :=
  append_preserves (P := fun t => t.here = files.here)
    (fun _ _ _ _ _ ht hwrite => (Tree.sameOff_write hwrite).here.trans ht) rfl r

end AuditTrail

end Shortlist
