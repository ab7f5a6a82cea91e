import Shortlist.Files.Tree
import Shortlist.Proofs.Outcome

/-!
# Reading after writing

A file that has been written is read back (`readIfThere_write`), and whatever is read at the end of
a path to another place is read as before (`readIfThere_put_ne`).  A path may lead through the place
of the file, but as long as there is no directory it leads nowhere, before and after.

It may lead nowhere for another reason, though: if there was nothing at the place, there is a file
after the write.  Both obstacles mean that there is nothing to be read (`Obstacle.IsAbsence`), so
that the lemmas on paths speak of an obstacle of this kind, and only those on `readIfThere`, which
does not tell them apart, are equations.

Whether a file can be written is a condition on the tree alone (`Tree.HasRoom`), whatever the file
is to hold, and it stays so through all writes.
-/

namespace Shortlist

/-- An obstacle that says that there is nothing to be read. -/
def Obstacle.IsAbsence (o : Obstacle) : Prop := o = .missing ∨ o = .throughFile

instance (o : Obstacle) : Decidable o.IsAbsence := inferInstanceAs (Decidable (_ ∨ _))

namespace Tree

variable {t t' : Tree} {p q : Path} {place start : Place} {content : Text.Bytes} {item : Item}

/-! ## Putting -/

lemma item?_put_self (h : place ≠ []) : (t.put place item).item? place = some item := by
  rw [item?, if_neg h, put, List.find?_cons_of_pos (by simp)]
  rfl

lemma item?_put_ne {other : Place} (h : other ≠ place) :
    (t.put place item).item? other = t.item? other := by
  have hne : ¬(place = other) := fun heq => h heq.symm
  have hfind : (t.items.filter fun i => i.1 ≠ place).find? (fun i => i.1 = other)
      = t.items.find? fun i => i.1 = other := by
    rw [List.find?_filter]
    congr 1
    funext i
    by_cases hi : i.1 = other
    · simp [hi, h]
    · simp [hi]
  rw [item?, item?, put]
  dsimp only
  rw [List.find?_cons_of_neg (by simpa using hne), hfind]

lemma start_put : (t.put place item).start p = t.start p := rfl

/-! ## Following a path -/

lemma step_ok {name : String} {next : Place} (h : t.step start name = .ok next) :
    next = go start name := by
  rw [step] at h
  split at h
  · split at h
    · cases h
    · cases h
      rfl
  · cases h
  · cases h

/-- A path that can be followed leads to the place that it means. -/
lemma follow_ok {names : List String} (h : t.follow start names = .ok place) :
    place = names.foldl go start := by
  induction names generalizing start with
  | nil =>
    cases h
    rfl
  | cons name names ih =>
    rw [follow, List.foldlM_cons] at h
    obtain ⟨next, hnext, h⟩ := Except.bind_eq_ok.1 h
    rw [List.foldl_cons, ← step_ok hnext]
    exact ih h

lemma placeOf_ok (h : t.placeOf p = .ok place) : place = t.resolve p := by
  rw [placeOf] at h
  split at h
  · cases h
  · split at h
    · cases h
    · split at h
      · rename_i hfollow
        cases h
        exact follow_ok hfollow
      · cases h

/-- Putting a file where there is no directory changes nothing about a path, except that a path
which leads nowhere may be stopped by the file. -/
lemma follow_put (hdir : t.item? place ≠ some .directory) (content : Text.Bytes)
    (names : List String) (start : Place) :
    (t.put place (.file content)).follow start names = t.follow start names
      ∨ ∃ o, t.follow start names = .error o ∧ o.IsAbsence
        ∧ (t.put place (.file content)).follow start names = .error .throughFile := by
  induction names generalizing start with
  | nil => exact .inl rfl
  | cons name names ih =>
    simp only [follow, List.foldlM_cons] at ih ⊢
    by_cases hstart : start = place
    · subst hstart
      have hroot : start ≠ [] := by
        rintro rfl
        exact hdir rfl
      have hput : (t.put start (.file content)).step start name = .error .throughFile := by
        rw [step, item?_put_self hroot]
      rw [hput]
      cases hitem : t.item? start with
      | none =>
        have hstep : t.step start name = .error .missing := by rw [step, hitem]
        exact .inr ⟨.missing, by rw [hstep]; rfl, .inl rfl, rfl⟩
      | some i =>
        cases i with
        | directory => exact absurd hitem hdir
        | file c =>
          have hstep : t.step start name = .error .throughFile := by rw [step, hitem]
          exact .inr ⟨.throughFile, by rw [hstep]; rfl, .inr rfl, rfl⟩
    · have hstep : (t.put place (.file content)).step start name = t.step start name := by
        rw [step, step, item?_put_ne hstart]
      rw [hstep]
      cases h : t.step start name with
      | error o => exact .inl rfl
      | ok next => exact ih next

lemma placeOf_put (hdir : t.item? place ≠ some .directory) (content : Text.Bytes) (q : Path) :
    (t.put place (.file content)).placeOf q = t.placeOf q
      ∨ ∃ o, t.placeOf q = .error ⟨o, q⟩ ∧ o.IsAbsence
        ∧ (t.put place (.file content)).placeOf q = .error ⟨.throughFile, q⟩ := by
  rw [placeOf, placeOf]
  split
  · exact .inl rfl
  · split
    · exact .inl rfl
    · rw [start_put]
      rcases follow_put hdir content q.names (t.start q) with h | ⟨o, h, ho, hput⟩
      · rw [h]
        exact .inl rfl
      · rw [h, hput]
        exact .inr ⟨o, rfl, ho, rfl⟩

/-! ## Reading -/

/-- What is read at a place to which a path leads. -/
def contentAt (t : Tree) (p : Path) (place : Place) : Except Obstructed (Option Text.Bytes) :=
  match t.item? place with
  | some (.file content) => .ok (some content)
  | some .directory => .error ⟨.directory, p⟩
  | none => .ok none

lemma readIfThere_of_placeOf (h : t.placeOf p = .ok place) :
    t.readIfThere p = t.contentAt p place := by
  rw [readIfThere, read, h, contentAt]
  cases hitem : t.item? place with
  | none => simp [bind, Except.bind, hitem]; rfl
  | some i => cases i <;> simp [bind, Except.bind, hitem] <;> rfl

lemma readIfThere_of_absence {o : Obstacle} (h : t.placeOf p = .error ⟨o, p⟩)
    (ho : o.IsAbsence) : t.readIfThere p = .ok none := by
  rw [readIfThere, read, h]
  exact if_pos ho

lemma readIfThere_of_error {o : Obstructed} (h : t.placeOf p = .error o) :
    t.readIfThere p = if o.obstacle.IsAbsence then .ok none else .error o := by
  rw [readIfThere, read, h]
  rfl

/-- Putting a file where there is no directory leaves what is read elsewhere as it is. -/
theorem readIfThere_put_ne (hdir : t.item? place ≠ some .directory) (hne : t.resolve q ≠ place) :
    (t.put place (.file content)).readIfThere q = t.readIfThere q := by
  rcases placeOf_put hdir content q with h | ⟨o, h, ho, hput⟩
  · cases hplace : t.placeOf q with
    | error o => rw [readIfThere_of_error (h.trans hplace), readIfThere_of_error hplace]
    | ok other =>
      have hother : other ≠ place := placeOf_ok hplace ▸ hne
      rw [readIfThere_of_placeOf (h.trans hplace), readIfThere_of_placeOf hplace, contentAt,
        contentAt, item?_put_ne hother]
  · rw [readIfThere_of_absence h ho, readIfThere_of_absence hput (.inr rfl)]

/-! ## Writing -/

lemma write_eq_ok (h : t.write p content = .ok t') :
    t.placeOf p = .ok (t.resolve p) ∧ t.item? (t.resolve p) ≠ some .directory
      ∧ t' = t.put (t.resolve p) (.file content) := by
  rw [write] at h
  obtain ⟨place, hplace, h⟩ := Except.bind_eq_ok.1 h
  obtain rfl := placeOf_ok hplace
  split at h
  · cases h
  · rename_i hnot
    cases h
    exact ⟨hplace, hnot, rfl⟩
  · cases h
  · cases h

/-- Writing does not change which place a path means. -/
lemma resolve_write (h : t.write p content = .ok t') (q : Path) : t'.resolve q = t.resolve q := by
  obtain ⟨-, -, rfl⟩ := write_eq_ok h
  rfl

/-- A file that has been written is read back. -/
theorem readIfThere_write (h : t.write p content = .ok t') :
    t'.readIfThere p = .ok (some content) := by
  obtain ⟨hplace, hdir, rfl⟩ := write_eq_ok h
  have hroot : t.resolve p ≠ [] := fun heq => hdir (by rw [heq]; rfl)
  rcases placeOf_put hdir content p with hput | ⟨o, herror, -, -⟩
  · rw [readIfThere_of_placeOf (hput.trans hplace), contentAt, item?_put_self hroot]
  · rw [hplace] at herror
    cases herror

/-- A file at another place is left as it is. -/
lemma readIfThere_write_ne (h : t.write p content = .ok t') (hne : t.resolve q ≠ t.resolve p) :
    t'.readIfThere q = t.readIfThere q := by
  obtain ⟨-, hdir, rfl⟩ := write_eq_ok h
  exact readIfThere_put_ne hdir hne

/-! ## Room for a file -/

/-- A path at whose end a file can be written: it leads to a place in a directory, and the place
itself is no directory. -/
structure HasRoom (t : Tree) (p : Path) : Prop where
  placeOf : t.placeOf p = .ok (t.resolve p)
  parent : t.item? (t.resolve p).dropLast = some .directory
  place : t.item? (t.resolve p) ≠ some .directory

lemma HasRoom.write (h : t.HasRoom p) (content : Text.Bytes) :
    t.write p content = .ok (t.put (t.resolve p) (.file content)) := by
  have hplace := h.place
  rw [Tree.write, h.placeOf]
  simp only [bind, Except.bind]
  rw [h.parent]
  generalize t.item? (t.resolve p) = item at hplace
  rcases item with _ | _ | _
  · rfl
  · rfl
  · exact absurd rfl hplace

/-- Writing a file takes no room away. -/
lemma HasRoom.of_write (h : t.HasRoom q) (hwrite : t.write p content = .ok t') : t'.HasRoom q := by
  obtain ⟨-, hdir, rfl⟩ := write_eq_ok hwrite
  have hroot : t.resolve p ≠ [] := fun heq => hdir (by rw [heq]; rfl)
  refine ⟨?_, ?_, ?_⟩
  · rcases placeOf_put hdir content q with hput | ⟨o, herror, -, -⟩
    · exact hput.trans h.placeOf
    · rw [h.placeOf] at herror
      cases herror
  · have hne : (t.resolve q).dropLast ≠ t.resolve p := fun heq => hdir (heq ▸ h.parent)
    exact (item?_put_ne hne).trans h.parent
  · by_cases hq : t.resolve q = t.resolve p
    · intro hitem
      have hself : (t.put (t.resolve p) (.file content)).item? (t.resolve p)
          = some (.file content) := item?_put_self hroot
      exact Item.noConfusion (Option.some.inj (hself.symm.trans (hq ▸ hitem)))
    · exact fun hitem => h.place ((item?_put_ne hq).symm.trans hitem)

/-- The tree with nothing in it. -/
def bare : Tree := ⟨[], []⟩

end Tree

end Shortlist
