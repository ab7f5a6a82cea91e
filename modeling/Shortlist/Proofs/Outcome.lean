import Mathlib.Data.List.Forall2

/-!
# Outcomes

How a computation that may fail comes to a result: each of its steps does.  So a computation in two
steps comes to a result exactly if the first one comes to something with which the second one comes
to that result, and it fails where one of the two fails.  A list of steps comes to a list of results
that stand beside the members one by one, which is how the lists of lines, records and rules are
related to what is made of them.
-/

namespace Except

universe u v w

variable {ε : Type u} {α : Type v} {β : Type v} {x : Except ε α} {b : β}

lemma bind_eq_ok {f : α → Except ε β} : x.bind f = .ok b ↔ ∃ a, x = .ok a ∧ f a = .ok b := by
  cases x <;> simp [Except.bind]

lemma bind_eq_error {f : α → Except ε β} {e : ε} :
    x.bind f = .error e ↔ x = .error e ∨ ∃ a, x = .ok a ∧ f a = .error e := by
  cases x <;> simp [Except.bind]

lemma map_eq_ok {f : α → β} : x.map f = .ok b ↔ ∃ a, x = .ok a ∧ f a = b := by
  cases x <;> simp [Except.map]

lemma exists_map_eq_ok {f : α → β} : (∃ b, x.map f = .ok b) ↔ ∃ a, x = .ok a := by
  cases x <;> simp [Except.map]

lemma mapError_eq_ok {ε' : Type w} {f : ε → ε'} {a : α} :
    x.mapError f = .ok a ↔ x = .ok a := by
  cases x <;> simp [Except.mapError]

lemma map_eq_error {f : α → β} {e : ε} : x.map f = .error e ↔ x = .error e := by
  cases x <;> simp [Except.map]

lemma mapError_eq_error {ε' : Type w} {f : ε → ε'} {e : ε'} :
    x.mapError f = .error e ↔ ∃ e', x = .error e' ∧ f e' = e := by
  cases x <;> simp [Except.mapError]

end Except

namespace List

/-! ## Lists side by side -/

section

variable {α β : Type} {R : α → β → Prop} {P : β → Prop} {as : List α} {bs : List β}

/-- A list stands beside a list exactly if something stands beside each of its members. -/
lemma exists_forall₂_iff : (∃ bs, Forall₂ R as bs) ↔ ∀ a ∈ as, ∃ b, R a b := by
  induction as with
  | nil => simp
  | cons a as ih =>
    rw [List.forall_mem_cons, ← ih]
    constructor
    · rintro ⟨bs, hbs⟩
      cases hbs with
      | cons ha has => exact ⟨⟨_, ha⟩, _, has⟩
    · rintro ⟨⟨b, hb⟩, bs, hbs⟩
      exact ⟨b :: bs, .cons hb hbs⟩

lemma forall₂_and_right :
    Forall₂ (fun a b => R a b ∧ P b) as bs ↔ Forall₂ R as bs ∧ ∀ b ∈ bs, P b := by
  induction as generalizing bs with
  | nil => cases bs <;> simp
  | cons a as ih =>
    cases bs with
    | nil => simp
    | cons b bs =>
      simp only [forall₂_cons, ih, List.forall_mem_cons]
      tauto

lemma Forall₂.imp_of_mem {S : α → β → Prop} (h : Forall₂ R as bs)
    (hS : ∀ a ∈ as, ∀ b, R a b → S a b) : Forall₂ S as bs := by
  have hmem : Forall₂ (fun a b => a ∈ as ∧ R a b) as bs :=
    (forall₂_and_left as bs).2 ⟨fun a ha => ha, h⟩
  exact hmem.imp fun a b hab => hS a hab.1 b hab.2

end

/-! ## Traversals -/

variable {ε α β : Type} {f : α → Except ε β} {l l' : List α} {bs : List β}

lemma mapM_append_eq_ok :
    (l ++ l').mapM f = .ok bs
      ↔ ∃ cs ds, l.mapM f = .ok cs ∧ l'.mapM f = .ok ds ∧ bs = cs ++ ds := by
  rw [List.mapM_append]
  cases l.mapM f with
  | error e => simp [bind, Except.bind]
  | ok cs =>
    cases l'.mapM f with
    | error e => simp [bind, Except.bind]
    | ok ds =>
      simp [bind, Except.bind, pure, Except.pure]
      exact eq_comm

lemma mapM_singleton_eq_ok {a : α} : [a].mapM f = .ok bs ↔ ∃ b, f a = .ok b ∧ bs = [b] := by
  simp only [List.mapM_cons, List.mapM_nil]
  cases f a with
  | error e => simp [bind, Except.bind]
  | ok b =>
    simp [bind, Except.bind, pure, Except.pure]
    exact eq_comm

/-- A traversal comes back with the results of its steps. -/
lemma mapM_eq_ok : l.mapM f = .ok bs ↔ Forall₂ (fun a b => f a = .ok b) l bs := by
  induction l generalizing bs with
  | nil => cases bs <;> simp [pure, Except.pure]
  | cons a l ih =>
    rw [List.mapM_cons]
    cases ha : f a with
    | error e => cases bs <;> simp [ha, bind, Except.bind]
    | ok b =>
      cases hl : l.mapM f with
      | error e => cases bs <;> simp [ha, ← ih, hl, bind, Except.bind]
      | ok cs => cases bs <;> simp [ha, ← ih, hl, bind, Except.bind, pure, Except.pure]

/-- A traversal comes back exactly if each of its steps does. -/
lemma exists_mapM_eq_ok : (∃ bs, l.mapM f = .ok bs) ↔ ∀ a ∈ l, ∃ b, f a = .ok b := by
  simp only [mapM_eq_ok]
  exact exists_forall₂_iff

/-- A traversal fails as one of its steps does. -/
lemma exists_of_mapM_eq_error {e : ε} (h : l.mapM f = .error e) : ∃ a ∈ l, f a = .error e := by
  induction l with
  | nil => cases h
  | cons a l ih =>
    rw [List.mapM_cons] at h
    rcases Except.bind_eq_error.1 h with ha | ⟨b, -, h⟩
    · exact ⟨a, List.mem_cons_self, ha⟩
    · rcases Except.bind_eq_error.1 h with hl | ⟨bs, -, h⟩
      · obtain ⟨a', ha', he⟩ := ih hl
        exact ⟨a', List.mem_cons_of_mem a ha', he⟩
      · cases h

/-- A traversal depends only on the steps for the members of the list. -/
lemma mapM_congr_of_mem {g : α → Except ε β} (h : ∀ a ∈ l, f a = g a) : l.mapM f = l.mapM g := by
  induction l with
  | nil => rfl
  | cons a l ih =>
    rw [List.mapM_cons, List.mapM_cons, h a List.mem_cons_self,
      ih fun b hb => h b (List.mem_cons_of_mem _ hb)]

lemma length_eq_of_mapM (h : l.mapM f = .ok bs) : bs.length = l.length :=
  (mapM_eq_ok.1 h).length_eq.symm

end List
