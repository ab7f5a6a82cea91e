import Shortlist.Proofs.Audit.Line
import Shortlist.Proofs.Json.Faithful
import Shortlist.Proofs.Store.Record

/-!
# The id that a line says

A record is read from a value only if the value is a mapping with a member `id`, and this member is
the id of the record (`IdentifiedRecord`).  So whatever is read from the line of a record has the id
of that record (`Record.id_of_readLine`), even if the facts in it are not read as they were written,
or not at all.

A file of records can hold other things as well.  The line of an audit record has no member of this
name, and a report begins with a line on which a mapping is opened but not closed, so no record is
read from either of them.
-/

namespace Shortlist

open CodePoint (chars)

/-- A value says an id: it is a mapping in which a text, or the bytes of one, stand under the name
for ids. -/
def Value.SaysId (v : Value) (id : Text) : Prop :=
  ∃ es member, v = .mapping es ∧ Entries.get? es "id" = some member
    ∧ Check.text member = .accepted id

namespace Value

variable {v : Value} {id id' : Text} {fields : List (String × Value)}

/-- A value says at most one id. -/
lemma SaysId.eq (h : v.SaysId id) (h' : v.SaysId id') : id = id' := by
  obtain ⟨es, member, rfl, hget, hid⟩ := h
  obtain ⟨es', member', hes, hget', hid'⟩ := h'
  cases hes
  cases hget.symm.trans hget'
  exact Check.accepted.inj (hid.symm.trans hid')

/-- The mapping of a record whose first member is its id says the id when it is reduced, whatever
else is in it. -/
lemma saysId_dump (h : ((("id", text id) :: fields).map (·.1)).Nodup) :
    (record (("id", text id) :: fields)).dump.SaysId id := by
  rw [dump_record h, List.map_cons, record]
  refine ⟨_, text id, rfl, ?_, rfl⟩
  rw [Entries.get?_map, List.find?_cons_of_pos (by simp)]
  rfl

/-- A mapping without a member of this name says no id. -/
lemma not_saysId (h : "id" ∉ fields.map (·.1)) : ¬(record fields).SaysId id := by
  rintro ⟨es, member, hes, hget, -⟩
  cases hes
  rw [Entries.get?_map, Option.map_eq_some_iff] at hget
  obtain ⟨f, hfind, -⟩ := hget
  have hname : f.1 = "id" := by simpa using List.find?_some hfind
  exact h (hname ▸ List.mem_map_of_mem (List.mem_of_find?_eq_some hfind))

end Value

/-! ## Records -/

/-- Records whose id can be seen from the values they are read from and are written as. -/
class IdentifiedRecord (α : Type) [Record α] : Prop where
  saysId_of_read : ∀ {v : Value} {a : α}, Record.read v = .accepted a → v.SaysId (Record.id a)
  saysId_dump : ∀ a : α, (Record.toValue a).dump.SaysId (Record.id a)

/-- What is read under the name for ids is what the mapping says. -/
lemma Check.ensures_saysId (es : Entries) :
    (required es "id" text).Ensures fun id => (Value.mapping es).SaysId id := by
  intro id h
  obtain ⟨member, hget, hid⟩ := required_eq_accepted.1 h
  exact ⟨es, member, rfl, hget, hid⟩

lemma Vacancy.ensures_saysId_read (v : Value) :
    (read v).Ensures fun vacancy => v.SaysId vacancy.id := by
  refine .entries fun es hes => .closed ?_
  subst hes
  -- the id is the first member, and what is read of the others does not matter
  iterate 5 refine .seq ?_
  exact .map fun id hid _ _ _ _ _ => Check.ensures_saysId es id hid

lemma Application.ensures_saysId_read (v : Value) :
    (read v).Ensures fun application => v.SaysId application.id := by
  refine .entries fun es hes => .closed ?_
  subst hes
  iterate 6 refine .seq ?_
  exact .map fun id hid _ _ _ _ _ _ => Check.ensures_saysId es id hid

instance : IdentifiedRecord Vacancy where
  saysId_of_read h := Vacancy.ensures_saysId_read _ _ h
  saysId_dump v := Value.saysId_dump (by simp)

instance : IdentifiedRecord Application where
  saysId_of_read h := Application.ensures_saysId_read _ _ h
  saysId_dump a := Value.saysId_dump (by simp)

/-! ## Lines of records -/

namespace Record

variable {α : Type} [Record α] {name : String} {number : Nat} {cs : List Char} {a b : α}

/-- A line is read as a record if it is the text of a value that is read as the record. -/
lemma readLine_eq_ok :
    RecordFile.readLine name number cs = .ok a
      ↔ ∃ v, Json.parse cs = .ok v ∧ Record.read v = .accepted a := by
  rw [RecordFile.readLine]
  cases hparse : Json.parse cs with
  | error failure => cases failure <;> simp
  | ok v => cases hread : (Record.read v : Check α) <;> simp [hread]

variable [IdentifiedRecord α]

/-- Whatever is read from the line of a record has the id of the record. -/
theorem id_of_readLine (hfault : lineFault? a = none)
    (h : RecordFile.readLine name number (lineChars a) = .ok b) : id b = id a := by
  obtain ⟨v, hparse, hread⟩ := readLine_eq_ok.1 h
  have hdump : v = (toValue a).dump :=
    Json.merged_of_parse_write Json.Style.isSpaced_record (Value.isPlain_plain _)
      (Value.plainFault?_plain hfault) hparse
  have hsays : (toValue a).dump.SaysId (id b) := hdump ▸ IdentifiedRecord.saysId_of_read hread
  exact hsays.eq (IdentifiedRecord.saysId_dump a)

end Record

/-! ## Lines of other things -/

namespace AuditRecord

variable {r : AuditRecord}

/-- The line of an audit record stands between braces. -/
lemma exists_lineChars (r : AuditRecord) : ∃ cs, r.lineChars = '\x7b' :: (cs ++ ['\x7d']) := by
  rw [lineChars, toValue_eq, Value.record]
  exact Json.exists_chars_mapping _ _ (by simp [fields])

lemma trim_lineChars (r : AuditRecord) : Text.trim r.lineChars = r.lineChars := by
  obtain ⟨cs, hcs⟩ := r.exists_lineChars
  rw [hcs, Text.trim_of_ends (by decide) (by decide)]

lemma lineChars_ne_nil (r : AuditRecord) : r.lineChars ≠ [] := by
  obtain ⟨cs, hcs⟩ := r.exists_lineChars
  rw [hcs]
  exact List.cons_ne_nil _ _

end AuditRecord

variable {α : Type} [Record α] [IdentifiedRecord α]

/-- No record is read from the line of an audit record. -/
lemma RecordFile.readLine_audit_ne {r : AuditRecord} (hr : r.IsLegible) (name : String)
    (number : Nat) (a : α) : readLine name number r.lineChars ≠ .ok a := by
  intro h
  obtain ⟨v, hparse, hread⟩ := Record.readLine_eq_ok.1 h
  cases hr.parse.symm.trans hparse
  have hsays : r.toValue.SaysId (Record.id a) := IdentifiedRecord.saysId_of_read hread
  exact Value.not_saysId (by simp) hsays

omit [IdentifiedRecord α] in
/-- No record is read from a line on which a mapping is only opened. -/
lemma RecordFile.readLine_brace_ne (name : String) (number : Nat) (a : α) :
    readLine name number ['\x7b'] ≠ .ok a := by
  intro h
  obtain ⟨v, hparse, -⟩ := Record.readLine_eq_ok.1 h
  cases hparse

end Shortlist
