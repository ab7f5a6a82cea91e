import Shortlist.Audit
import Shortlist.Proofs.Files.Tree

/-!
# What an audit trail leaves alone

A trail writes to its own file and to no other one, whether or not a decision can be recorded.
Nothing escapes from a trail in a file, and from a recorder something escapes only if it fails at a
call in such a way (`AuditTrail.IsContained`).

A trail that is told of a decision comes back with a new trail, the files and perhaps a fault, and a
fault is taken in two ways.  One that has a text is reported, and the work goes on.  One that
escapes has no text, and everything breaks off.  So there are two kinds of lemmas about recording.
Those on the files hold for every fault and are inductive: whatever writing at the end of a path
preserves, recording does (`append_preserves`).  Those on the fault say where it can come from:
what goes wrong with a file always has a text (`exists_text_of_appendAuditLine`), so that a trail in
a file is contained, and so is one that is switched off.
-/

namespace Shortlist

/-! ## What recording preserves -/

section

variable {P : Tree → Prop} {files : Tree}

/-- What every writing of an audit file preserves is preserved when a line is added to it. -/
lemma appendAuditLine_preserves {p : Path}
    (hP : ∀ t content t', P t → t.write p content = .ok t' → P t') (h : P files) (v : Value) :
    P (appendAuditLine files p v).1 := by
  rw [appendAuditLine]
  cases hopen : files.append p [] with
  | error o => exact h
  | ok opened =>
    have hopened : P opened := hP _ _ _ h hopen
    dsimp only
    cases auditLine? v with
    | error fault => exact hopened
    | ok line =>
      dsimp only
      cases hline : opened.append p line with
      | error o => exact hopened
      | ok added => exact hP _ _ _ hopened hline

/-- What every writing of the file of a trail preserves is preserved when a decision is recorded. -/
lemma AuditTrail.append_preserves {trail : AuditTrail}
    (hP : ∀ p, trail = .file p → ∀ t content t', P t → t.write p content = .ok t' → P t')
    (h : P files) (r : AuditRecord) : P (trail.append files r).2.1 := by
  have hrecord : P (trail.appendRecord files r).2.1 := by
    cases trail with
    | off => exact h
    | file p => exact appendAuditLine_preserves (hP p rfl) h _
    | recorder failure calls records =>
      rw [appendRecord]
      cases failure calls <;> exact h
  rw [append]
  split
  · exact h
  · exact hrecord

end

/-! ## What goes wrong with a file -/

section

variable {files : Tree} {p : Path} {v : Value} {fault : AuditFault}

lemma exists_text_of_auditLine? (h : auditLine? v = .error fault) :
    ∃ message, fault.text = .ok message := by
  rw [auditLine?] at h
  split at h
  · cases h
    exact ⟨_, rfl⟩
  · split at h <;> cases h
    exact ⟨_, rfl⟩

/-- What goes wrong with the line of an audit file has a text. -/
lemma exists_text_of_appendAuditLine (h : (appendAuditLine files p v).2 = .error fault) :
    ∃ message, fault.text = .ok message := by
  rw [appendAuditLine] at h
  split at h
  · cases h
    exact ⟨_, rfl⟩
  · split at h
    · rename_i hline
      cases h
      exact exists_text_of_auditLine? hline
    · split at h <;> cases h
      exact ⟨_, rfl⟩

end

namespace AuditTrail

/-- Without a trail nothing is recorded. -/
lemma append_off (files : Tree) (r : AuditRecord) :
    AuditTrail.off.append files r = (.off, files, .ok ()) := by
  rw [append]
  split
  · rename_i hon _
    cases hon
  · rfl

/-- A trail in a file was in this file before. -/
lemma eq_file_of_append {trail : AuditTrail} {files : Tree} {p : Path} {r : AuditRecord}
    (h : (trail.append files r).1 = .file p) :
    trail = .file p := by
  rw [append] at h
  split at h
  · exact h
  · cases trail with
    | off => cases h
    | file q => exact h
    | recorder failure calls records =>
      rw [appendRecord] at h
      cases hfailure : failure calls <;> rw [hfailure] at h <;> cases h

/-- A trail from which nothing escapes: wherever a recorder fails, it has a text to tell. -/
def IsContained : AuditTrail → Prop
  | .off | .file _ => True
  | .recorder failure _ _ => ∀ n how, failure n = some how → ∃ message, how.text = .ok message

lemma isContained_off : AuditTrail.off.IsContained := trivial

lemma isContained_file (p : Path) : (AuditTrail.file p).IsContained := trivial

/-- Something escapes from a recorder at its next call. -/
def Escapes (trail : AuditTrail) (raised : Escape) : Prop :=
  ∃ failure calls records how, trail = .recorder failure calls records
    ∧ failure calls = some how ∧ how.text = .error raised

/-- What has no text has escaped from a recorder. -/
lemma escapes_of_text {trail : AuditTrail} {files : Tree} {r : AuditRecord} {fault : AuditFault}
    {raised : Escape} (hfault : (trail.append files r).2.2 = .error fault)
    (htext : fault.text = .error raised) : trail.Escapes raised := by
  rw [append] at hfault
  split at hfault
  · cases hfault
    cases htext
  · cases trail with
    | off => cases hfault
    | file p =>
      obtain ⟨message, hmessage⟩ := exists_text_of_appendAuditLine hfault
      cases hmessage.symm.trans htext
    | recorder failure calls records =>
      rw [appendRecord] at hfault
      cases hcall : failure calls with
      | none =>
        rw [hcall] at hfault
        cases hfault
      | some how =>
        rw [hcall] at hfault
        cases hfault
        exact ⟨failure, calls, records, how, rfl, hcall, htext⟩

/-- What goes wrong with a trail from which nothing escapes has a text. -/
lemma IsContained.exists_text {trail : AuditTrail} (h : trail.IsContained) {files : Tree}
    {r : AuditRecord} {fault : AuditFault} (hfault : (trail.append files r).2.2 = .error fault) :
    ∃ message, fault.text = .ok message := by
  cases htext : fault.text with
  | ok message => exact ⟨message, rfl⟩
  | error raised =>
    obtain ⟨failure, calls, records, how, rfl, hcall, hhow⟩ := escapes_of_text hfault htext
    obtain ⟨message, hmessage⟩ := h calls how hcall
    cases hmessage.symm.trans hhow

/-- Recording does not make anything escape later on. -/
lemma IsContained.append {trail : AuditTrail} (h : trail.IsContained) (files : Tree)
    (r : AuditRecord) : (trail.append files r).1.IsContained := by
  rw [AuditTrail.append]
  split
  · exact h
  · cases trail with
    | off => exact h
    | file p => exact h
    | recorder failure calls records =>
      rw [appendRecord]
      cases failure calls <;> exact h

/-- A trail that is not kept in the file at the end of a path. -/
def Spares (trail : AuditTrail) (files : Tree) (q : Path) : Prop :=
  ∀ p, trail = .file p → files.resolve q ≠ files.resolve p

end AuditTrail

end Shortlist
