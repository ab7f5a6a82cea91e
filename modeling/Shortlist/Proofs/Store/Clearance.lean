import Shortlist.Proofs.Files.Clearance
import Shortlist.Proofs.Store.Change

/-!
# Collections that keep clear of places

A collection whose file keeps clear of some places is the same in two trees that are the same but
for these places: it lists the same records, and what is added to it in one tree is added in the
other.

The places are those that an audit trail may write to.  It is not enough that the file is not at one
of them: the path of the collection must not lead through one either, as a file that appears there
would stand in the way.
-/

namespace Shortlist.Collection

variable {α : Type} {c c' : Collection α} {files files' : Tree} {touched : Place → Prop}

/-- The file of a collection, if there is one, keeps clear of some places. -/
def IsClear (c : Collection α) (files : Tree) (touched : Place → Prop) : Prop :=
  ∀ p, c.path? = some p → files.IsClear touched p

lemma load_of_sameBut {p : Path} (h : Tree.SameBut touched files files')
    (hclear : files.IsClear touched p) :
    RecordFile.load (α := α) files' p = RecordFile.load files p := by
  rw [RecordFile.load, RecordFile.load, h.readIfThere hclear]

variable [Record α] (h : Tree.SameBut touched files files') (hclear : c.IsClear files touched)
include h hclear

lemma toList_of_sameBut : c.toList files' = c.toList files := by
  cases c with
  | memory m => rfl
  | file p => rw [toList, toList, load_of_sameBut h (hclear p rfl)]

lemma get?_of_sameBut (id : Text) : c.get? files' id = c.get? files id := by
  cases c with
  | memory m => rfl
  | file p => rw [get?, get?, load_of_sameBut h (hclear p rfl)]

lemma filter_of_sameBut (condition : α → Bool) :
    c.filter files' condition = c.filter files condition := by
  cases c with
  | memory m => rfl
  | file p => rw [filter, filter, load_of_sameBut h (hclear p rfl)]

omit h hclear in
/-- Something that is added changes no files but those along one path. -/
lemma sameOff_insert {a : α} (hinsert : c.insert files a = .ok (c', files')) :
    ∃ p, Tree.SameOff p files files' := by
  obtain rfl | ⟨p, content, -, hwrite⟩ := write_of_insert hinsert
  · exact ⟨⟨"", []⟩, .refl _ _⟩
  · exact ⟨p, Tree.sameOff_write hwrite⟩

/-- What is added in one tree is added in the other, or refused for the same reason. -/
lemma insert_of_sameBut (a : α) :
    (∃ fault, c.insert files a = .error fault ∧ c.insert files' a = .error fault)
      ∨ ∃ c' later later', c.insert files a = .ok (c', later)
        ∧ c.insert files' a = .ok (c', later') ∧ Tree.SameBut touched later later' := by
  -- the file reads the same in both trees, so everything up to the write is the same
  cases c with
  | memory m =>
    rw [insert_memory, insert_memory]
    cases m.insert a with
    | error fault => exact .inl ⟨fault, rfl, rfl⟩
    | ok m' => exact .inr ⟨_, files, files', rfl, rfl, h⟩
  | file p =>
    rw [insert, insert, load_of_sameBut h (hclear p rfl)]
    cases hline : Record.lineBytes? a with
    | error fault => exact .inl ⟨fault, rfl, rfl⟩
    | ok line =>
      cases hload : RecordFile.load (α := α) files p with
      | error fault => exact .inl ⟨fault, rfl, rfl⟩
      | ok f =>
        cases happend : f.append (Record.id a) line with
        | error fault => exact .inl ⟨fault, by simp [bind, Except.bind, happend],
            by simp [bind, Except.bind, happend]⟩
        | ok g =>
          obtain ⟨records, -, -, rfl⟩ := RecordFile.append_eq_ok.1 happend
          have hwrite := h.write (hclear p rfl) (f.bytes ++ line)
          simp only [bind, Except.bind, happend, save_addLine]
          generalize files.write p (f.bytes ++ line) = first at hwrite
          generalize files'.write p (f.bytes ++ line) = second at hwrite
          cases hwrite with
          | obstructed o => exact .inl ⟨.obstructed o, rfl, rfl⟩
          | changed h' => exact .inr ⟨_, _, _, rfl, rfl, h'⟩

end Shortlist.Collection
