import Shortlist.Proofs.Files.Directories

/-!
# Paths that keep clear of places

Two trees may be the same but for what is at some places (`Tree.SameBut`).  A path that keeps clear
of these places, so that it neither ends at one of them or below it nor passes through there, makes
no difference between the trees: whatever is read at its end is the same, and a file that is written
or a directory that is made there leaves the trees as they were, the same but for the places.
-/

namespace Shortlist.Tree

variable {t t' : Tree} {touched : Place → Prop} {p q : Path} {place : Place}

/-- No place along a path is one of the given ones or below one. -/
def IsClear (t : Tree) (touched : Place → Prop) (q : Path) : Prop :=
  ∀ place, t.IsOn q place → ∀ other, touched other → ¬other <+: place

lemma isClear_of_here (h : t'.here = t.here) : t'.IsClear touched q ↔ t.IsClear touched q := by
  simp only [IsClear, isOn_of_here h]

namespace IsClear

lemma mono (h : t.IsClear touched q) (hroot : q.root = p.root) (hnames : p.names <+: q.names) :
    t.IsClear touched p :=
  fun place hon => h place (hon.mono hroot hnames)

/-- A change that leaves the current directory as it is keeps clear paths clear. -/
lemma of_sameOff (hclear : t.IsClear touched q) (h : SameOff p t t') : t'.IsClear touched q :=
  (isClear_of_here h.here).2 hclear

lemma not_touched (h : t.IsClear touched q) (hon : t.IsOn q place) : ¬touched place :=
  fun htouched => h place hon place htouched List.prefix_rfl

lemma not_touched_dropLast (h : t.IsClear touched q) (hon : t.IsOn q place) :
    ¬touched place.dropLast :=
  fun htouched => h place hon _ htouched (List.dropLast_prefix place)

lemma resolve (h : t.IsClear touched q) : ¬touched (t.resolve q) := h.not_touched (isOn_resolve t q)

lemma resolve_dropLast (h : t.IsClear touched q) : ¬touched (t.resolve q).dropLast :=
  h.not_touched_dropLast (isOn_resolve t q)

end IsClear

/-- Two trees that are the same but for what is at some places. -/
structure SameBut (touched : Place → Prop) (t t' : Tree) : Prop where
  here : t'.here = t.here
  item? : ∀ place, ¬touched place → t'.item? place = t.item? place

namespace SameBut

lemma refl (touched : Place → Prop) (t : Tree) : SameBut touched t t := ⟨rfl, fun _ _ => rfl⟩

lemma put (h : SameBut touched t t') (place : Place) (item : Item) :
    SameBut touched (t.put place item) (t'.put place item) where
  here := h.here
  item? other hother := by
    by_cases hplace : other = place
    · subst hplace
      by_cases hroot : other = []
      · rw [hroot]
        rfl
      · rw [item?_put_self hroot, item?_put_self hroot]
    · rw [item?_put_ne hplace, item?_put_ne hplace, h.item? other hother]

/-- Something is put at one of the places in one of the trees. -/
lemma put_right (h : SameBut touched t t') (hplace : touched place) (item : Item) :
    SameBut touched t (t'.put place item) where
  here := h.here
  item? other hother := by
    have hne : other ≠ place := fun heq => hother (heq ▸ hplace)
    rw [item?_put_ne hne, h.item? other hother]

/-! ## Reading -/

theorem step (h : SameBut touched t t') {place : Place} (hplace : ¬touched place) (name : String) :
    t'.step place name = t.step place name := by
  rw [Tree.step, Tree.step, h.item? place hplace]

/-- The rest of a clear path leads to the same place in both trees. -/
lemma follow (h : SameBut touched t t') (hclear : t.IsClear touched q) {before after : List String}
    (hnames : q.names = before ++ after) :
    t'.follow (t.resolve ⟨q.root, before⟩) after = t.follow (t.resolve ⟨q.root, before⟩) after := by
  induction after generalizing before with
  | nil => rfl
  | cons name after ih =>
    have hon : t.IsOn q (t.resolve ⟨q.root, before⟩) :=
      ⟨before, by rw [hnames]; exact List.prefix_append _ _, rfl⟩
    rw [Tree.follow, Tree.follow, List.foldlM_cons, List.foldlM_cons,
      h.step (hclear.not_touched hon)]
    cases hstep : t.step (t.resolve ⟨q.root, before⟩) name with
    | error o => rfl
    | ok next =>
      have hnext : next = t.resolve ⟨q.root, before ++ [name]⟩ := by
        rw [step_ok hstep]
        exact (List.foldl_concat go _ name before).symm
      rw [hnext]
      exact ih (by rw [hnames, List.append_assoc, List.singleton_append])

lemma placeOf (h : SameBut touched t t') (hclear : t.IsClear touched q) :
    t'.placeOf q = t.placeOf q := by
  have hfollow : t'.follow (t'.start q) q.names = t.follow (t.start q) q.names := by
    have hnames : q.names = [] ++ q.names := rfl
    rw [start, h.here]
    exact h.follow hclear hnames
  rw [Tree.placeOf, Tree.placeOf, hfollow]

lemma read (h : SameBut touched t t') (hclear : t.IsClear touched q) : t'.read q = t.read q := by
  rw [Tree.read, Tree.read, h.placeOf hclear]
  cases hplace : t.placeOf q with
  | error o => rfl
  | ok place =>
    obtain rfl := placeOf_ok hplace
    simp only [bind, Except.bind, h.item? _ hclear.resolve]

lemma readIfThere (h : SameBut touched t t') (hclear : t.IsClear touched q) :
    t'.readIfThere q = t.readIfThere q := by
  rw [Tree.readIfThere, Tree.readIfThere, h.read hclear]

end SameBut

/-! ## Writing -/

/-- Two changes come to the same thing: both are obstructed alike, or they leave trees that are the
same but for what is at some places. -/
inductive ChangedAlike (touched : Place → Prop) :
    Except Obstructed Tree → Except Obstructed Tree → Prop where
  | obstructed (o : Obstructed) : ChangedAlike touched (.error o) (.error o)
  | changed {t t' : Tree} (h : SameBut touched t t') : ChangedAlike touched (.ok t) (.ok t')

namespace SameBut

lemma write (h : SameBut touched t t') (hclear : t.IsClear touched q) (content : Text.Bytes) :
    ChangedAlike touched (t.write q content) (t'.write q content) := by
  rw [Tree.write, Tree.write, h.placeOf hclear]
  cases hplace : t.placeOf q with
  | error o => exact .obstructed o
  | ok place =>
    obtain rfl := placeOf_ok hplace
    simp only [bind, Except.bind, h.item? _ hclear.resolve, h.item? _ hclear.resolve_dropLast]
    split
    · exact .obstructed _
    · exact .changed (h.put _ _)
    · exact .obstructed _
    · exact .obstructed _

lemma makeDirectory (h : SameBut touched t t') (hclear : t.IsClear touched q) :
    ChangedAlike touched (t.makeDirectory q) (t'.makeDirectory q) := by
  rw [Tree.makeDirectory, Tree.makeDirectory, h.placeOf hclear]
  cases hplace : t.placeOf q with
  | error o => exact .obstructed o
  | ok place =>
    obtain rfl := placeOf_ok hplace
    simp only [bind, Except.bind, h.item? _ hclear.resolve, h.item? _ hclear.resolve_dropLast]
    split
    · exact .changed h
    · exact .obstructed _
    · exact .changed (h.put _ _)
    · exact .obstructed _
    · exact .obstructed _

lemma makeUpward (h : SameBut touched t t') {root : String} {names : List String}
    (hclear : t.IsClear touched ⟨root, names.reverse⟩) :
    ChangedAlike touched (t.makeUpward root names) (t'.makeUpward root names) := by
  induction names with
  | nil => exact .changed h
  | cons name above ih =>
    rw [Tree.makeUpward, Tree.makeUpward]
    have hmade := h.makeDirectory hclear
    have habove : t.IsClear touched ⟨root, above.reverse⟩ := hclear.mono rfl (by simp)
    generalize hfirst : t.makeDirectory ⟨root, (name :: above).reverse⟩ = first at hmade
    generalize t'.makeDirectory ⟨root, (name :: above).reverse⟩ = second at hmade
    cases hmade with
    | changed h' => exact .changed h'
    | obstructed o =>
      dsimp only
      split
      · have hrest := ih habove
        generalize hup : t.makeUpward root above = up at hrest
        generalize t'.makeUpward root above = up' at hrest
        cases hrest with
        | obstructed o' => exact .obstructed o'
        | changed h' =>
          exact h'.makeDirectory (hclear.of_sameOff (sameOff_makeUpward hup))
      · exact .obstructed o

lemma makeDirectories (h : SameBut touched t t') (hclear : t.IsClear touched q) :
    ChangedAlike touched (t.makeDirectories q) (t'.makeDirectories q) :=
  h.makeUpward (by rwa [List.reverse_reverse])

end SameBut

end Shortlist.Tree
