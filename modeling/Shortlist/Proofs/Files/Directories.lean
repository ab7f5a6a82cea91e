import Shortlist.Proofs.Files.Tree

/-!
# Directories on the way to a file

Making the directories above a file and writing the file touches nothing but the places along its
path, and whatever was a directory stays one (`Tree.SameOff`).  So a path that led somewhere still
leads there, and what is read at the end of one that leads elsewhere is as before
(`SameOff.readIfThere`).

`SameOff` is transitive and grows with the path, so that a chain of directories is gone through by
induction on its names, each of which is along the path to the last one.  That directories stay is
part of it because following a path needs them: a tree that is the same at the end of a path, and
not on the way to it, would say nothing about reading.

The last section is about a path whose directory is there (`Tree.Accommodates`).  Nothing has to be
made for it, and no write takes its room away, which is what a batch needs to know about its output
while it decides.
-/

namespace Shortlist.Tree

variable {t t' t'' : Tree} {p q : Path} {place start : Place} {item : Item}
  {content : Text.Bytes}

/-- A place to which a path leads, or through which it passes. -/
def IsOn (t : Tree) (p : Path) (place : Place) : Prop :=
  ∃ names, names <+: p.names ∧ place = t.resolve ⟨p.root, names⟩

/-- Which places paths mean depends on the current directory only. -/
lemma resolve_of_here (h : t'.here = t.here) (q : Path) : t'.resolve q = t.resolve q := by
  rw [resolve, resolve, start, start, h]

lemma isOn_of_here (h : t'.here = t.here) : t'.IsOn q place ↔ t.IsOn q place := by
  simp only [IsOn, resolve_of_here h]

lemma isOn_resolve (t : Tree) (p : Path) : t.IsOn p (t.resolve p) :=
  ⟨p.names, List.prefix_rfl, rfl⟩

/-- The places along a path to a directory are along every path that goes on from there. -/
lemma IsOn.mono (h : t.IsOn p place) (hroot : q.root = p.root) (hnames : p.names <+: q.names) :
    t.IsOn q place := by
  obtain ⟨names, hprefix, rfl⟩ := h
  exact ⟨names, hprefix.trans hnames, by rw [hroot]⟩

/-- Two trees that are the same but for places along a path.  A directory stays one. -/
structure SameOff (p : Path) (t t' : Tree) : Prop where
  here : t'.here = t.here
  item? : ∀ place, ¬t.IsOn p place → t'.item? place = t.item? place
  directory : ∀ place, t.item? place = some .directory → t'.item? place = some .directory

namespace SameOff

lemma refl (p : Path) (t : Tree) : SameOff p t t := ⟨rfl, fun _ _ => rfl, fun _ h => h⟩

lemma resolve (h : SameOff p t t') (q : Path) : t'.resolve q = t.resolve q :=
  resolve_of_here h.here q

lemma isOn_iff (h : SameOff p t t') : t'.IsOn q place ↔ t.IsOn q place := isOn_of_here h.here

lemma trans (h : SameOff p t t') (h' : SameOff p t' t'') : SameOff p t t'' where
  here := h'.here.trans h.here
  item? place hoff := (h'.item? place (mt h.isOn_iff.1 hoff)).trans (h.item? place hoff)
  directory place hdir := h'.directory place (h.directory place hdir)

lemma mono (h : SameOff p t t') (hroot : q.root = p.root) (hnames : p.names <+: q.names) :
    SameOff q t t' :=
  ⟨h.here, fun place hoff => h.item? place fun hon => hoff (hon.mono hroot hnames),
    h.directory⟩

/-- Something is put at a place along the path where there is no directory. -/
lemma put (hon : t.IsOn p place) (hdir : t.item? place ≠ some .directory) (item : Item) :
    SameOff p t (t.put place item) where
  here := rfl
  item? other hoff := item?_put_ne fun heq => hoff (heq ▸ hon)
  directory other hother := by
    have hne : other ≠ place := fun heq => hdir (heq ▸ hother)
    exact (item?_put_ne hne).trans hother

/-! ## Reading -/

lemma follow (h : SameOff p t t') {names : List String}
    (hfollow : t.follow start names = .ok place) : t'.follow start names = .ok place := by
  induction names generalizing start with
  | nil => exact hfollow
  | cons name names ih =>
    rw [Tree.follow, List.foldlM_cons] at hfollow ⊢
    obtain ⟨next, hstep, hrest⟩ := Except.bind_eq_ok.1 hfollow
    have hstep' : t'.step start name = .ok next := by
      rw [step] at hstep ⊢
      split at hstep
      · rename_i hdir
        rw [h.directory start hdir]
        exact hstep
      · cases hstep
      · cases hstep
    exact Except.bind_eq_ok.2 ⟨next, hstep', ih hrest⟩

/-- A path that leads somewhere still leads there. -/
lemma placeOf (h : SameOff p t t') (hq : t.placeOf q = .ok place) : t'.placeOf q = .ok place := by
  have hstart : t'.start q = t.start q := by rw [Tree.start, Tree.start, h.here]
  rw [Tree.placeOf] at hq ⊢
  split at hq
  · cases hq
  · split at hq
    · cases hq
    · rename_i hnull hlong
      rw [if_neg hnull, if_neg hlong, hstart]
      split at hq
      · rename_i hfollow
        rw [h.follow hfollow]
        exact hq
      · cases hq

/-- What is read at a place that is not along the path is as before. -/
theorem readIfThere (h : SameOff p t t') (hq : t.placeOf q = .ok place) (hoff : ¬t.IsOn p place) :
    t'.readIfThere q = t.readIfThere q := by
  rw [readIfThere_of_placeOf (h.placeOf hq), readIfThere_of_placeOf hq, contentAt, contentAt,
    h.item? place hoff]

end SameOff

/-- What happens along a path takes no room away at the end of one that leads elsewhere. -/
lemma SameOff.hasRoom (h : SameOff p t t') (hq : t.HasRoom q) (hoff : ¬t.IsOn p (t.resolve q)) :
    t'.HasRoom q where
  placeOf := by
    rw [h.resolve]
    exact h.placeOf hq.placeOf
  parent := by
    rw [h.resolve]
    exact h.directory _ hq.parent
  place := by
    rw [h.resolve, h.item? _ hoff]
    exact hq.place

/-! ## Making directories and writing -/

lemma sameOff_makeDirectory (h : t.makeDirectory p = .ok t') : SameOff p t t' := by
  rw [makeDirectory] at h
  obtain ⟨place, hplace, h⟩ := Except.bind_eq_ok.1 h
  obtain rfl := placeOf_ok hplace
  split at h
  · cases h
    exact .refl p t
  · cases h
  · rename_i hnone
    cases h
    exact .put (isOn_resolve t p) (by rw [hnone]; simp) .directory
  · cases h
  · cases h

lemma sameOff_makeUpward {root : String} {names : List String}
    (h : t.makeUpward root names = .ok t') : SameOff ⟨root, names.reverse⟩ t t' := by
  induction names generalizing t' with
  | nil =>
    cases h
    exact .refl _ t
  | cons name above ih =>
    rw [makeUpward] at h
    split at h
    · rename_i hmake
      cases h
      exact sameOff_makeDirectory hmake
    · split at h
      · obtain ⟨t₁, habove, hmake⟩ := Except.bind_eq_ok.1 h
        have hprefix : above.reverse <+: (name :: above).reverse := by simp
        have hfirst : SameOff ⟨root, (name :: above).reverse⟩ t t₁ :=
          (ih habove).mono rfl hprefix
        exact hfirst.trans (sameOff_makeDirectory hmake)
      · cases h

lemma sameOff_makeDirectories (h : t.makeDirectories p = .ok t') : SameOff p t t' := by
  have hupward := sameOff_makeUpward h
  rwa [List.reverse_reverse] at hupward

lemma sameOff_write (h : t.write p content = .ok t') : SameOff p t t' := by
  obtain ⟨-, hdir, rfl⟩ := write_eq_ok h
  exact .put (isOn_resolve t p) hdir _

/-- A file that has been written can be read. -/
lemma read_write (h : t.write p content = .ok t') : t'.read p = .ok content := by
  have hread := readIfThere_write h
  rw [readIfThere] at hread
  split at hread
  · rename_i hcontent
    cases hread
    exact hcontent
  · split at hread <;> cases hread

/-! ## Room in a directory that is there -/

/-- A path at whose end a file can be written, in a directory that the path before the last name
leads to. -/
structure Accommodates (t : Tree) (p : Path) : Prop where
  room : t.HasRoom p
  parent : ∃ place, t.placeOf p.parent = .ok place ∧ t.item? place = some .directory

/-- A directory that is there is not made anew. -/
lemma makeDirectory_of_directory (hplace : t.placeOf p = .ok place)
    (hdir : t.item? place = some .directory) : t.makeDirectory p = .ok t := by
  rw [makeDirectory, hplace]
  simp only [bind, Except.bind]
  split
  · rfl
  · rename_i hfile
    rw [hdir] at hfile
    cases hfile
  all_goals
    rename_i hnone
    rw [hdir] at hnone
    cases hnone

lemma makeDirectories_of_directory (hplace : t.placeOf p = .ok place)
    (hdir : t.item? place = some .directory) : t.makeDirectories p = .ok t := by
  rw [makeDirectories]
  cases hnames : p.names.reverse with
  | nil => rfl
  | cons name above =>
    have hp : (⟨p.root, (name :: above).reverse⟩ : Path) = p := by
      rw [← hnames, List.reverse_reverse]
    rw [makeUpward, hp, makeDirectory_of_directory hplace hdir]

lemma Accommodates.makeDirectories (h : t.Accommodates p) :
    t.makeDirectories p.parent = .ok t := by
  obtain ⟨place, hplace, hdir⟩ := h.parent
  exact makeDirectories_of_directory hplace hdir

/-- Writing a file takes no room away, wherever the file is. -/
lemma Accommodates.of_write (h : t.Accommodates p) (hwrite : t.write q content = .ok t') :
    t'.Accommodates p := by
  obtain ⟨place, hplace, hdir⟩ := h.parent
  have hsame := sameOff_write hwrite
  exact ⟨h.room.of_write hwrite, place, hsame.placeOf hplace, hsame.directory place hdir⟩

end Shortlist.Tree
