import Shortlist.Proofs.Store.Collection
import Shortlist.Proofs.Store.Memory

/-!
# Changes of a store

A collection either stays as it is (`Collection.Keeps`) or has grown by one record at its end
(`Collection.Gains`).  For a collection in a file both are said about the bytes of the file, so that
nothing is left open about blank lines, records written by hand and whatever else is in it.
-/

namespace Shortlist

namespace Collection

variable {α : Type} {c c' : Collection α} {files files' : Tree} {p : Path}

/-- The path of the file in which a collection is kept, if it is kept in one. -/
def path? : Collection α → Option Path
  | .memory _ => none
  | .file p => some p

variable [Record α] {a : α}

/-- A collection has grown by one record at its end: in memory by an entry of the list and of the
index, in a file by the line of the record with a line feed. -/
inductive Gains (a : α) (files files' : Tree) : Collection α → Collection α → Prop where
  | memory (records : List α) (index : Std.HashMap Text α) :
    Gains a files files' (.memory ⟨records, index⟩)
      (.memory ⟨records ++ [a], index.insert (Record.id a) a⟩)
  | file {p : Path} {content : Option Text.Bytes} {json : List Char}
    (before : files.readIfThere p = .ok content) (line : (Record.line a).chars? = some json)
    (after : files'.readIfThere p
      = .ok (some (content.getD [] ++ Text.encodeUtf8 json ++ Text.encodeUtf8 ['\n']))) :
    Gains a files files' (.file p) (.file p)

/-- A collection in a file to which something was added could be read. -/
lemma exists_content_of_insert (h : (Collection.file p).insert files a = .ok (c', files')) :
    ∃ content, files.readIfThere p = .ok content := by
  rw [insert] at h
  obtain ⟨line, -, h⟩ := Except.bind_eq_ok.1 h
  obtain ⟨f, hload, -⟩ := Except.bind_eq_ok.1 h
  rw [RecordFile.load] at hload
  split at hload
  · rename_i content hread
    exact ⟨content, hread⟩
  · cases hload

/-- What an insertion that is accepted does to the collection. -/
lemma gains_of_insert (h : c.insert files a = .ok (c', files')) : Gains a files files' c c' := by
  cases c with
  | memory m =>
    obtain ⟨m', hm, h⟩ := Except.bind_eq_ok.1 h
    obtain ⟨-, rfl⟩ := MemoryCollection.insert_eq_ok.1 hm
    cases h
    exact .memory m.records m.index
  | file p =>
    obtain ⟨content, hread⟩ := exists_content_of_insert h
    obtain ⟨records, -, -, hfault, hwrite, rfl⟩ := insert_file_eq_ok hread h
    refine .file hread (Record.chars?_line hfault) ?_
    rw [Tree.readIfThere_write hwrite, Text.lineBytes, Text.encodeUtf8_append, List.append_assoc]

/-- A collection that has grown is kept where it was. -/
lemma path?_of_insert (h : c.insert files a = .ok (c', files')) : c'.path? = c.path? := by
  cases gains_of_insert h <;> rfl

/-- Under the id of a record that has been added there is a record of that id. -/
lemma id_of_get?_insert {b : α} {later : Tree} (h : c.insert files a = .ok (c', files'))
    (hget : c'.get? later (Record.id a) = .ok (some b)) : Record.id b = Record.id a := by
  cases gains_of_insert h with
  | memory records index =>
    rw [get?, MemoryCollection.get?, Std.HashMap.getElem?_insert_self] at hget
    cases hget
    rfl
  | file =>
    obtain ⟨f, -, hget⟩ := Except.bind_eq_ok.1 hget
    obtain ⟨found, -, hfind⟩ := Except.map_eq_ok.1 hget
    simpa using List.find?_some hfind

/-- An insertion writes to no file but that of the collection. -/
lemma write_of_insert (h : c.insert files a = .ok (c', files')) :
    files' = files ∨ ∃ p content, c.path? = some p ∧ files.write p content = .ok files' := by
  cases c with
  | memory m =>
    obtain ⟨m', -, h⟩ := Except.bind_eq_ok.1 h
    cases h
    exact .inl rfl
  | file p =>
    obtain ⟨content, hread⟩ := exists_content_of_insert h
    obtain ⟨records, -, -, -, hwrite, -⟩ := insert_file_eq_ok hread h
    exact .inr ⟨p, _, rfl, hwrite⟩

/-- The files at other places are as before. -/
lemma readIfThere_insert_ne {q : Path} (h : c.insert files a = .ok (c', files'))
    (hne : ∀ p, c.path? = some p → files.resolve q ≠ files.resolve p) :
    files'.readIfThere q = files.readIfThere q := by
  obtain rfl | ⟨p, content, hp, hwrite⟩ := write_of_insert h
  · rfl
  · exact Tree.readIfThere_write_ne hwrite (hne p hp)

end Collection

namespace Store

/-- A store as one is made: in memory, or in the two files of a directory. -/
inductive IsUniform : Store → Prop where
  | memory (vacancies : MemoryCollection Vacancy) (applications : MemoryCollection Application) :
    IsUniform ⟨.memory vacancies, .memory applications⟩
  | directory (p : Path) : IsUniform (.inDirectory p)

/-- The two collections are never kept in one file. -/
lemma IsUniform.resolve_ne {store : Store} (h : store.IsUniform) {p q : Path}
    (hp : store.vacancies.path? = some p) (hq : store.applications.path? = some q) (files : Tree) :
    files.resolve p ≠ files.resolve q := by
  cases h with
  | memory => cases hp
  | directory directory =>
    cases hp
    cases hq
    have hchild (name : String) : files.resolve (directory.child name)
        = Tree.go (files.resolve directory) name := by
      rw [Tree.resolve, Path.child, List.foldl_append]
      rfl
    rw [hchild, hchild]
    simp [Tree.go, vacanciesName, applicationsName]

end Store

end Shortlist
