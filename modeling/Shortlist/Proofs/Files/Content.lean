import Shortlist.Proofs.Files.Directories

/-!
# The bytes at a place

What is in the file at a place, whether or not a path leads there.  Writing at the end of a path
determines the bytes at the place that the path means and leaves all others as they are.
-/

namespace Shortlist.Tree

variable {t t' : Tree} {p q : Path} {place : Place} {content : Text.Bytes}

/-- The bytes of the file at a place; there are none if no file is there. -/
def bytesAt (t : Tree) (place : Place) : Text.Bytes :=
  ((t.item? place).bind Item.content?).getD []

lemma bytesAt_of_item? (h : t'.item? place = t.item? place) :
    t'.bytesAt place = t.bytesAt place := by
  rw [bytesAt, bytesAt, h]

lemma bytesAt_write (h : t.write p content = .ok t') : t'.bytesAt (t.resolve p) = content := by
  obtain ⟨-, hdir, rfl⟩ := write_eq_ok h
  have hroot : t.resolve p ≠ [] := fun heq => hdir (by rw [heq]; rfl)
  rw [bytesAt, item?_put_self hroot]
  rfl

lemma bytesAt_write_ne (h : t.write p content = .ok t') (hne : place ≠ t.resolve p) :
    t'.bytesAt place = t.bytesAt place := by
  obtain ⟨-, -, rfl⟩ := write_eq_ok h
  exact bytesAt_of_item? (item?_put_ne hne)

/-- What is added at the end of a file comes after the bytes that are there. -/
lemma bytesAt_append (h : t.append p content = .ok t') :
    t'.bytesAt (t.resolve p) = t.bytesAt (t.resolve p) ++ content := by
  obtain ⟨hplace, -, -⟩ := write_eq_ok h
  rw [bytesAt_write h, look?, hplace]
  rfl

/-- A file that is opened for adding keeps its bytes. -/
lemma bytesAt_append_nil (h : t.append p [] = .ok t') (place : Place) :
    t'.bytesAt place = t.bytesAt place := by
  by_cases hplace : place = t.resolve p
  · rw [hplace, bytesAt_append h, List.append_nil]
  · exact bytesAt_write_ne h hplace

/-- What is read at the end of a path to which something can be written is what is at its place. -/
lemma bytesAt_eq_of_readIfThere {before : Option Text.Bytes} (hread : t.readIfThere p = .ok before)
    (h : t.write p content = .ok t') : t.bytesAt (t.resolve p) = before.getD [] := by
  obtain ⟨hplace, -, -⟩ := write_eq_ok h
  rw [readIfThere_of_placeOf hplace, contentAt] at hread
  rw [bytesAt]
  split at hread
  · rename_i hitem
    cases hread
    rw [hitem]
    rfl
  · cases hread
  · rename_i hitem
    cases hread
    rw [hitem]
    rfl

lemma SameOff.bytesAt (h : SameOff p t t') (hoff : ¬t.IsOn p place) :
    t'.bytesAt place = t.bytesAt place := bytesAt_of_item? (h.item? place hoff)

/-- A path that neither leads to the place which another one means nor passes through it. -/
def IsOff (t : Tree) (q p : Path) : Prop := ¬t.IsOn q (t.resolve p)

end Shortlist.Tree
