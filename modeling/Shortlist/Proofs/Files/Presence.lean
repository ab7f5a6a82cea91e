import Shortlist.Proofs.Files.Directories

/-!
# The file at a place

Which file is at a place, if one is there.  Making directories never changes this, at no place: a
directory is only put where nothing is.  Writing at the end of a path changes it at one place, the
one that the path means.
-/

namespace Shortlist.Tree

variable {t t' : Tree} {p q : Path} {place : Place} {content : Text.Bytes}

/-- The content of the file at a place, if a file is there. -/
def fileAt (t : Tree) (place : Place) : Option Text.Bytes := (t.item? place).bind Item.content?

lemma fileAt_of_item? (h : t'.item? place = t.item? place) : t'.fileAt place = t.fileAt place := by
  rw [fileAt, fileAt, h]

lemma item?_of_fileAt (h : t.fileAt place = some content) :
    t.item? place = some (.file content) := by
  rw [fileAt] at h
  obtain ⟨item, hitem, hcontent⟩ := Option.bind_eq_some_iff.1 h
  cases item with
  | file content' =>
    cases hcontent
    exact hitem
  | directory => cases hcontent

/-- What is read at the end of a path is the file at its place. -/
lemma fileAt_of_read (h : t.read p = .ok content) : t.fileAt (t.resolve p) = some content := by
  rw [read] at h
  obtain ⟨place, hplace, h⟩ := Except.bind_eq_ok.1 h
  obtain rfl := placeOf_ok hplace
  split at h
  · rename_i hitem
    cases h
    rw [fileAt, hitem]
    rfl
  · cases h
  · cases h

lemma readIfThere_eq_some : t.readIfThere p = .ok (some content) ↔ t.read p = .ok content := by
  rw [readIfThere]
  cases t.read p with
  | ok content' => simp
  | error o =>
    dsimp only
    split <;> simp

/-! ## Making directories -/

/-- A directory that is put where nothing is takes no file away. -/
lemma fileAt_put_directory (h : t.item? place = none) (other : Place) :
    (t.put place .directory).fileAt other = t.fileAt other := by
  by_cases hother : other = place
  · subst hother
    have hroot : other ≠ [] := by
      rintro rfl
      cases h
    rw [fileAt, fileAt, item?_put_self hroot, h]
    rfl
  · exact fileAt_of_item? (item?_put_ne hother)

lemma fileAt_makeDirectory (h : t.makeDirectory p = .ok t') (place : Place) :
    t'.fileAt place = t.fileAt place := by
  rw [makeDirectory] at h
  obtain ⟨made, -, h⟩ := Except.bind_eq_ok.1 h
  split at h
  · cases h
    rfl
  · cases h
  · rename_i hnone
    cases h
    exact fileAt_put_directory hnone place
  · cases h
  · cases h

lemma fileAt_makeUpward {root : String} {names : List String}
    (h : t.makeUpward root names = .ok t') (place : Place) : t'.fileAt place = t.fileAt place := by
  -- the names are those of the path from its end, so each one is made below the rest of them
  induction names generalizing t' with
  | nil =>
    cases h
    rfl
  | cons name above ih =>
    rw [makeUpward] at h
    split at h
    · rename_i hmake
      cases h
      exact fileAt_makeDirectory hmake place
    · split at h
      · obtain ⟨t₁, habove, hmake⟩ := Except.bind_eq_ok.1 h
        exact (fileAt_makeDirectory hmake place).trans (ih habove)
      · cases h

/-- Making directories leaves every file as it is. -/
lemma fileAt_makeDirectories (h : t.makeDirectories p = .ok t') (place : Place) :
    t'.fileAt place = t.fileAt place := fileAt_makeUpward h place

lemma here_makeDirectories (h : t.makeDirectories p = .ok t') : t'.here = t.here :=
  (sameOff_makeDirectories h).here

/-- Two trees with the same files, in which the current directory is the same. -/
structure SameFiles (t t' : Tree) : Prop where
  here : t'.here = t.here
  fileAt : ∀ place, t'.fileAt place = t.fileAt place

lemma SameFiles.refl (t : Tree) : SameFiles t t := ⟨rfl, fun _ => rfl⟩

lemma SameFiles.trans {t'' : Tree} (h : SameFiles t t') (h' : SameFiles t' t'') :
    SameFiles t t'' :=
  ⟨h'.here.trans h.here, fun place => (h'.fileAt place).trans (h.fileAt place)⟩

lemma sameFiles_makeDirectories (h : t.makeDirectories p = .ok t') : SameFiles t t' :=
  ⟨here_makeDirectories h, fileAt_makeDirectories h⟩

/-- A file that can be read can be read when directories have been made. -/
lemma read_makeDirectories (h : t.makeDirectories p = .ok t') (hread : t.read q = .ok content) :
    t'.read q = .ok content := by
  have hfile := fileAt_of_read hread
  rw [read] at hread
  obtain ⟨place, hplace, -⟩ := Except.bind_eq_ok.1 hread
  obtain rfl := placeOf_ok hplace
  rw [← fileAt_makeDirectories h] at hfile
  rw [read, (sameOff_makeDirectories h).placeOf hplace]
  simp only [bind, Except.bind]
  rw [item?_of_fileAt hfile]
  rfl

/-- Directories take no room away at the end of a path that leads elsewhere. -/
lemma Accommodates.of_makeDirectories (hq : t.Accommodates q) (h : t.makeDirectories p = .ok t')
    (hoff : ¬t.IsOn p (t.resolve q)) : t'.Accommodates q := by
  obtain ⟨place, hplace, hdir⟩ := hq.parent
  have hsame := sameOff_makeDirectories h
  exact ⟨hsame.hasRoom hq.room hoff, place, hsame.placeOf hplace, hsame.directory place hdir⟩

/-! ## Writing -/

lemma fileAt_write (h : t.write p content = .ok t') : t'.fileAt (t.resolve p) = some content := by
  obtain ⟨-, hdir, rfl⟩ := write_eq_ok h
  have hroot : t.resolve p ≠ [] := fun heq => hdir (by rw [heq]; rfl)
  rw [fileAt, item?_put_self hroot]
  rfl

/-- Writing leaves the files at other places as they are. -/
lemma fileAt_write_ne (h : t.write p content = .ok t') (hne : place ≠ t.resolve p) :
    t'.fileAt place = t.fileAt place := by
  obtain ⟨-, -, rfl⟩ := write_eq_ok h
  exact fileAt_of_item? (item?_put_ne hne)

lemma here_write (h : t.write p content = .ok t') : t'.here = t.here := (sameOff_write h).here

/-- Where something has been written there was room for it. -/
lemma hasRoom_of_write (h : t.write p content = .ok t') : t.HasRoom p := by
  obtain ⟨hplace, hdir, -⟩ := write_eq_ok h
  refine ⟨hplace, ?_, hdir⟩
  rw [write, hplace] at h
  simp only [bind, Except.bind] at h
  split at h
  · cases h
  · rename_i hparent _
    exact hparent
  · cases h
  · cases h

end Shortlist.Tree
