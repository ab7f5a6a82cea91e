import Shortlist.Proofs.Files.Content
import Shortlist.Proofs.Store.Change

/-!
# Growth of a collection

What any number of additions have done to a collection: the records stand one after another at the
end of the list in memory, or their lines at the end of the file.  Nothing is said about what was
there before, and it does not matter what has happened to other files.
-/

namespace Shortlist.Collection

variable {α : Type} [Record α] {c c' c'' : Collection α} {files files' files'' : Tree}
  {as : List α} {a : α} {p : Path}

/-- A collection has grown by these records, in this order. -/
inductive HasGrown (as : List α) (files files' : Tree) : Collection α → Collection α → Prop where
  | memory {m m' : MemoryCollection α} (records : m'.records = m.records ++ as) :
    HasGrown as files files' (.memory m) (.memory m')
  | file {p : Path} (bytes : files'.bytesAt (files.resolve p)
      = files.bytesAt (files.resolve p)
        ++ as.flatMap fun a => Text.lineBytes (Record.lineChars a)) :
    HasGrown as files files' (.file p) (.file p)

namespace HasGrown

lemma refl (c : Collection α) (files : Tree) : HasGrown [] files files c c := by
  cases c with
  | memory m => exact .memory (by simp)
  | file p => exact .file (by simp)

lemma path?_eq (h : HasGrown as files files' c c') : c'.path? = c.path? := by
  cases h <;> rfl

/-- Nothing has happened since then to the file of the collection. -/
lemma of_bytesAt (h : HasGrown as files files' c c')
    (hbytes : ∀ p, c.path? = some p →
      files''.bytesAt (files.resolve p) = files'.bytesAt (files.resolve p)) :
    HasGrown as files files'' c c' := by
  cases h with
  | memory hrecords => exact .memory hrecords
  | file hgrown => exact .file ((hbytes _ rfl).trans hgrown)

/-- A record that is added comes last. -/
lemma insert (h : HasGrown as files files' c c') (hhere : files'.here = files.here)
    (hinsert : c'.insert files' a = .ok (c'', files'')) :
    HasGrown (as ++ [a]) files files'' c c'' := by
  cases h with
  | memory hrecords =>
    cases gains_of_insert hinsert with
    | memory records index =>
      refine .memory ?_
      dsimp only at hrecords ⊢
      rw [hrecords, List.append_assoc]
  | @file p hgrown =>
    obtain ⟨content, hread⟩ := exists_content_of_insert hinsert
    obtain ⟨-, -, -, -, hwrite, rfl⟩ := insert_file_eq_ok hread hinsert
    have hresolve : files'.resolve p = files.resolve p := Tree.resolve_of_here hhere p
    have hbefore := Tree.bytesAt_eq_of_readIfThere hread hwrite
    have hafter := Tree.bytesAt_write hwrite
    rw [hresolve] at hbefore hafter
    refine .file ?_
    rw [hafter, ← hbefore, hgrown, List.append_assoc, List.flatMap_append, List.flatMap_singleton]

end HasGrown

/-- An addition leaves the current directory as it is. -/
lemma here_insert (h : c.insert files a = .ok (c', files')) : files'.here = files.here := by
  obtain rfl | ⟨p, content, -, hwrite⟩ := write_of_insert h
  · rfl
  · exact (Tree.sameOff_write hwrite).here

/-- An addition leaves the current directory as it is, and the bytes at all places but that of the
file. -/
lemma bytesAt_insert_ne {place : Place} (h : c.insert files a = .ok (c', files'))
    (hne : ∀ p, c.path? = some p → place ≠ files.resolve p) :
    files'.here = files.here ∧ files'.bytesAt place = files.bytesAt place := by
  refine ⟨here_insert h, ?_⟩
  obtain rfl | ⟨p, content, hp, hwrite⟩ := write_of_insert h
  · rfl
  · exact Tree.bytesAt_write_ne hwrite (hne p hp)

end Shortlist.Collection
