import Shortlist.Proofs.Application
import Shortlist.Proofs.Json.RoundTrip
import Shortlist.Proofs.Text.Lines
import Shortlist.Proofs.Vacancy
import Shortlist.Store.RecordFile

/-!
# Records and their lines

Vacancies and applications are lawful records: each is read back from its mapping, and from the
mapping that a line holds its settled form is read.  A record that has a line is therefore read back
from it (`readLine_lineChars`), and its settled form is shown like the record itself
(`dump?_settled`).
-/

namespace Shortlist

open CodePoint (chars)

/-- Records that are read back from their mappings.  The settled form of a record is what its line
holds. -/
class LawfulRecord (α : Type) [Record α] where
  settled : α → α
  id_settled : ∀ a, Record.id (settled a) = Record.id a
  toValue_settled : ∀ a, Record.toValue (settled a) = (Record.toValue a).plain
  read_toValue : ∀ a : α, Record.read (Record.toValue a) = .accepted a
  exists_record : ∀ a : α, ∃ f fs, Record.toValue a = .record (f :: fs)
  levels_le : Record.levels α ≤ Json.nestingLimit

instance : LawfulRecord Vacancy where
  settled := id
  id_settled _ := rfl
  toValue_settled v := (Value.plain_of_isPlain v.isPlain_toValue).symm
  read_toValue := Vacancy.read_toValue
  exists_record v := ⟨_, _, rfl⟩
  levels_le := by decide

instance : LawfulRecord Application where
  settled := Application.settled
  id_settled _ := rfl
  toValue_settled := Application.toValue_settled
  read_toValue := Application.read_toValue
  exists_record a := ⟨_, _, rfl⟩
  levels_le := by decide

namespace Record

variable {α : Type} [Record α] {a : α}

/-! ## Lines -/

/-- The characters of the line of a record. -/
def lineChars (a : α) : List Char := chars (line a).points

lemma isPrinted_line (h : lineFault? a = none) : Json.IsPrinted (line a).points :=
  Json.isPrinted_write (Value.isPlain_plain _) (Value.plainFault?_plain h)

/-- A record that has a line has the text of the line, too. -/
lemma chars?_line (h : lineFault? a = none) : (line a).chars? = some (lineChars a) := by
  have hline : line a = .ofChars (lineChars a) :=
    congrArg Text.mk (CodePoint.map_ofChar_chars (isPrinted_line h).isSurrogate).symm
  rw [hline, Text.chars?_ofChars]

lemma lineBytes?_eq_ok {bytes : Text.Bytes} :
    lineBytes? a = .ok bytes ↔ lineFault? a = none ∧ bytes = Text.lineBytes (lineChars a) := by
  rw [lineBytes?]
  cases h : lineFault? a with
  | none =>
    simp only [Except.ok.injEq, true_and]
    exact eq_comm
  | some fault => simp

variable [LawfulRecord α]

/-- The line of a record stands between braces. -/
lemma exists_lineChars (a : α) : ∃ cs, lineChars a = '\x7b' :: (cs ++ ['\x7d']) := by
  obtain ⟨f, fs, hrecord⟩ := LawfulRecord.exists_record a
  have hentries : ((f :: fs).map fun f => (f.1, f.2.plain)).map
      (fun f => ((.name f.1, f.2) : Key × Value)) ≠ [] := by simp
  rw [lineChars, line, hrecord, Value.plain_record, Value.record]
  exact Json.exists_chars_mapping _ _ hentries

lemma trim_lineChars (a : α) : Text.trim (lineChars a) = lineChars a := by
  obtain ⟨cs, hcs⟩ := exists_lineChars a
  rw [hcs, Text.trim_of_ends (by decide) (by decide)]

lemma lineChars_ne_nil (a : α) : lineChars a ≠ [] := by
  obtain ⟨cs, hcs⟩ := exists_lineChars a
  rw [hcs]
  exact List.cons_ne_nil _ _

/-- The line of a record is a document that says its reduced mapping. -/
lemma parse_lineChars (h : lineFault? a = none) (hdecoded : (toValue a).IsDecoded) :
    Json.parse (lineChars a) = .ok (toValue a).plain :=
  Json.parse_write Json.Style.isSpaced_record (Value.isPlain_plain _) hdecoded.plain
    (Value.plainFault?_plain h)
    (LawfulRecord.levels_le (α := α))

/-- A record is read back from its line in its settled form. -/
theorem readLine_lineChars (h : lineFault? a = none) (hdecoded : (toValue a).IsDecoded)
    (name : String) (number : Nat) :
    RecordFile.readLine name number (lineChars a) = .ok (LawfulRecord.settled a) := by
  have hread := LawfulRecord.read_toValue (LawfulRecord.settled a)
  rw [LawfulRecord.toValue_settled] at hread
  rw [RecordFile.readLine, parse_lineChars h hdecoded]
  simp only [hread]

/-- The settled form of a record is shown like the record itself. -/
theorem dump?_settled (h : lineFault? a = none) : dump? (LawfulRecord.settled a) = dump? a := by
  have hfault : (toValue a).plainFault? false (levels α) = none := Value.plainFault?_of_encoded h
  have hplain : (toValue a).plain.plainFault? false (levels α) = none :=
    Value.plainFault?_plain hfault
  rw [dump?, dump?, LawfulRecord.toValue_settled, Value.dump?, Value.dump?, hfault, hplain]
  simp only [Value.dump_plain]

end Record

end Shortlist
