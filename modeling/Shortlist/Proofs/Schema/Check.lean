import Mathlib.Data.List.Forall2
import Mathlib.Logic.Function.Basic
import Shortlist.Proofs.Text.Characters
import Shortlist.Schema.Check

/-!
# Reading back what was written

A record is written as a mapping with one entry for each of its fields.  These lemmas read such a
mapping back: the members are found under their names (`Entries.get?_map`), each of them is accepted
if its value is, and there are no others.

There are lemmas for both directions.  To read back a record that is known, one goes through its
fields, each of which is accepted by `required_eq` or `optional_eq`.  To learn something from a
value that was accepted, the combinators are inverted (`seq_eq_accepted`, `andThen_eq_accepted`,
`closed_eq_accepted`).  Where only one member matters there is a shorter way: `Check.Ensures`
carries a property of it through the checks of all others.

A mapping is read by name, so its order is free, and what is accepted is described up to the order
(`Value.IsRecordOf`).
-/

namespace Shortlist

lemma Entries.get?_map (fields : List (String × Value)) (name : String) :
    Entries.get? (fields.map fun f => (.name f.1, f.2)) name
      = (fields.find? fun f => f.1 = name).map (·.2) := by
  induction fields with
  | nil => rfl
  | cons f fields ih =>
    rw [Entries.get?] at ih ⊢
    by_cases hf : f.1 = name
    · simp [hf]
    · have hne : (Text.ofString f.1) ≠ Text.ofString name := fun h => hf (Text.ofString_injective h)
      simpa [hf, hne] using ih

namespace Check

variable {α β : Type} {es : Entries} {name : String} {read : Value → Check α} {v : Value} {a : α}

@[simp]
lemma andThen_accepted (a : α) (f : α → Check β) : (accepted a).andThen f = f a := rfl

@[simp]
lemma under_accepted (step : Step) (a : α) : (accepted a).under step = accepted a := rfl

lemma required_eq (hget : es.get? name = some v) (hread : read v = .accepted a) :
    required es name read = .accepted a := by
  rw [required, hget]
  simp [hread]

lemma optional_eq (hget : es.get? name = some v) (hread : read v = .accepted a) (default : α) :
    optional es name default read = .accepted a := by
  rw [optional, hget]
  simp [hread]

lemma keyIssue?_eq_none {names : List String} (h : name ∈ names) :
    keyIssue? names (.name name) = none := by
  rw [keyIssue?, if_pos]
  simpa using ⟨name, h, rfl⟩

lemma hasSurrogates_ofString (s : String) : hasSurrogates (.name s) = false := by
  have h : ∀ p ∈ (Text.ofString s).points, p.isSurrogate = false :=
    Text.unencodable?_eq_none.1 (Text.unencodable?_ofChars s.toList)
  simpa [hasSurrogates] using h

@[simp]
lemma text_text (t : Text) : text (.text t) = .accepted t := rfl

@[simp]
lemma characters_ofString (s : String) : characters (.ofString s) = .accepted s := by
  rw [characters, Text.string?_ofString]

@[simp]
lemma textOrNull_ofText? (t : Option Text) : textOrNull (.ofText? t) = .accepted t := by
  cases t <;> rfl

lemma oneOf_text {choices : List (String × α)} {s : String}
    (h : choices.find? (fun c => c.1 = s) = some (name, a)) :
    oneOf choices (.text s) = .accepted a := by
  rw [oneOf, characters_ofString, andThen_accepted, choose]
  simp only [h]

/-! ## What was accepted -/

variable {b : β} {f : Check (α → β)} {x : Check α}

lemma map_eq_accepted {g : α → β} : g <$> x = accepted b ↔ ∃ a, x = accepted a ∧ g a = b := by
  cases x <;> simp [Functor.map, map]

lemma seq_eq_accepted :
    f <*> x = accepted b ↔ ∃ g a, f = accepted g ∧ x = accepted a ∧ g a = b := by
  cases f <;> cases x <;> simp [Seq.seq, both]

lemma seq₃_eq_accepted {γ δ : Type} {k : α → β → γ → δ} {y : Check β} {z : Check γ} {d : δ} :
    k <$> x <*> y <*> z = accepted d
      ↔ ∃ a b c, x = accepted a ∧ y = accepted b ∧ z = accepted c ∧ k a b c = d := by
  simp only [seq_eq_accepted, map_eq_accepted]
  constructor
  · rintro ⟨_, c, ⟨_, b, ⟨a, hx, rfl⟩, hy, rfl⟩, hz, h⟩
    exact ⟨a, b, c, hx, hy, hz, h⟩
  · rintro ⟨a, b, c, hx, hy, hz, h⟩
    exact ⟨_, c, ⟨_, b, ⟨a, hx, rfl⟩, hy, rfl⟩, hz, h⟩

lemma andThen_eq_accepted {k : α → Check β} :
    x.andThen k = accepted b ↔ ∃ a, x = accepted a ∧ k a = accepted b := by
  cases x <;> simp [andThen]

lemma under_eq_accepted {step : Step} : x.under step = accepted a ↔ x = accepted a := by
  cases x <;> simp [under]

lemma entries_eq_accepted {kind : IssueKind} :
    entries kind v = accepted es ↔ v = .mapping es := by
  cases v <;> simp [entries, issue]

lemma required_eq_accepted :
    required es name read = accepted a ↔ ∃ v, es.get? name = some v ∧ read v = accepted a := by
  rw [required]
  cases es.get? name <;> simp [under_eq_accepted]

lemma exactText_eq_accepted {t : Text} : exactText v = accepted t ↔ v = .text t := by
  cases v <;> simp [exactText, issue]

lemma characters_eq_accepted {t : Text} {s : String} :
    characters t = accepted s ↔ t = .ofString s := by
  constructor
  · intro h
    cases hs : t.string? with
    | none => simp [characters, hs, issue] at h
    | some s' =>
      rw [characters, hs] at h
      cases h
      exact Text.eq_ofString hs
  · rintro rfl
    exact characters_ofString s

/-- One of several things is read from the name that is written for it, and from nothing else. -/
lemma oneOf_map_eq_accepted {write : α → String} (hwrite : Function.Injective write)
    {choices : List α} :
    oneOf (choices.map fun a => (write a, a)) v = accepted a
      ↔ a ∈ choices ∧ v = .text (write a) := by
  have hchoose (name : String) : choose (choices.map fun a => (write a, a)) name = accepted a
      ↔ a ∈ choices ∧ name = write a := by
    rw [choose, List.find?_map]
    constructor
    · intro h
      cases hfind : choices.find? ((fun c => decide (c.1 = name)) ∘ fun a => (write a, a)) with
      | none =>
        rw [hfind] at h
        cases h
      | some a' =>
        rw [hfind] at h
        cases h
        have heq : write a' = name := by simpa using List.find?_some hfind
        exact ⟨List.mem_of_find?_eq_some hfind, heq.symm⟩
    · rintro ⟨hmem, rfl⟩
      cases hfind : choices.find? ((fun c => decide (c.1 = write a)) ∘ fun a => (write a, a)) with
      | none =>
        rw [List.find?_eq_none] at hfind
        exact absurd (hfind a hmem) (by simp)
      | some a' =>
        have heq : write a' = write a := by simpa using List.find?_some hfind
        rw [hwrite heq]
        rfl
  cases v with
  | text t =>
    rw [oneOf, andThen_eq_accepted]
    simp only [characters_eq_accepted, hchoose]
    constructor
    · rintro ⟨name, rfl, hmem, rfl⟩
      exact ⟨hmem, rfl⟩
    · rintro ⟨hmem, heq⟩
      cases heq
      exact ⟨write a, rfl, hmem, rfl⟩
  | _ => simp [oneOf, issue]

lemma optional_eq_accepted {default : α} :
    optional es name default read = accepted a
      ↔ (es.get? name = none ∧ a = default) ∨ ∃ v, es.get? name = some v ∧ read v = accepted a := by
  rw [optional]
  cases es.get? name with
  | none => simp [eq_comm]
  | some v => simp [under_eq_accepted]

lemma seqLeft_eq_accepted {y : Check β} :
    x <* y = accepted a ↔ x = accepted a ∧ ∃ b, y = accepted b := by
  cases x <;> cases y <;> simp [SeqLeft.seqLeft, both, map]

/-- Members are closed if they read as something and no key is out of place. -/
lemma closed_eq_accepted {names : List String} :
    closed es names x = accepted a
      ↔ x = accepted a ∧ ∀ e ∈ es, hasSurrogates e.1 = false ∧ keyIssue? names e.1 = none := by
  have honly : (∃ u, onlyNames es names = accepted u)
      ↔ ∀ e ∈ es, keyIssue? names e.1 = none := by
    rw [onlyNames, ← List.filterMap_eq_nil_iff]
    cases es.filterMap fun e => keyIssue? names e.1 <;> simp
  have hclosed : closed es names x = accepted a
      ↔ (es.any fun e => hasSurrogates e.1) = false ∧ x <* onlyNames es names = accepted a := by
    cases x with
    | broken fault => simp [closed, seqLeft_eq_accepted]
    | accepted _ | refused _ =>
      cases hany : es.any fun e => hasSurrogates e.1 <;> simp only [closed, hany, issue] <;> simp
  rw [hclosed, seqLeft_eq_accepted, honly, List.any_eq_false]
  constructor
  · rintro ⟨hsurrogates, hx, hnames⟩
    exact ⟨hx, fun e he => ⟨by simpa using hsurrogates e he, hnames e he⟩⟩
  · rintro ⟨hx, hkeys⟩
    exact ⟨fun e he => by simpa using (hkeys e he).1, hx, fun e he => (hkeys e he).2⟩

lemma eq_accepted_of_closed {names : List String} (h : closed es names x = accepted a) :
    x = accepted a := (closed_eq_accepted.1 h).1

/-- A key that is in place is one of the names. -/
lemma key_inPlace_iff {names : List String} {key : Key} :
    hasSurrogates key = false ∧ keyIssue? names key = none ↔ ∃ name ∈ names, key = .name name := by
  constructor
  · rintro ⟨-, hissue⟩
    cases key with
    | name t =>
      have hany : names.any (fun name => t = .ofString name) = true := by
        by_contra hnone
        rw [keyIssue?, if_neg hnone] at hissue
        cases hissue
      obtain ⟨name, hmem, heq⟩ := List.any_eq_true.1 hany
      exact ⟨name, hmem, congrArg Key.name (of_decide_eq_true heq)⟩
    | _ => cases hissue
  · rintro ⟨name, hmem, rfl⟩
    exact ⟨hasSurrogates_ofString name, keyIssue?_eq_none hmem⟩

/-- The fields of a record are closed under their names. -/
lemma closed_map {fields : List (String × Value)} {names : List String}
    (h : ∀ f ∈ fields, f.1 ∈ names) (a : α) :
    closed (fields.map fun f => (.name f.1, f.2)) names (.accepted a) = .accepted a := by
  refine closed_eq_accepted.2 ⟨rfl, fun e he => ?_⟩
  obtain ⟨f, hf, rfl⟩ := List.mem_map.1 he
  exact ⟨hasSurrogates_ofString f.1, keyIssue?_eq_none (h f hf)⟩

/-! ## Lists that were accepted -/

lemma itemsFrom_eq_accepted {vs : List Value} {as : List α} {index : Nat} :
    itemsFrom read index vs = accepted as
      ↔ List.Forall₂ (fun v a => read v = accepted a) vs as := by
  induction vs generalizing as index with
  | nil =>
    rw [itemsFrom, List.forall₂_nil_left_iff, accepted.injEq]
    exact eq_comm
  | cons v vs ih =>
    simp only [itemsFrom, seq_eq_accepted, map_eq_accepted, under_eq_accepted, ih]
    constructor
    · rintro ⟨_, as, ⟨a, hv, rfl⟩, hvs, rfl⟩
      exact .cons hv hvs
    · intro h
      cases h with
      | cons hv hvs => exact ⟨_, _, ⟨_, hv, rfl⟩, hvs, rfl⟩

lemma items_eq_accepted {kind : IssueKind} {as : List α} :
    items kind read v = accepted as
      ↔ ∃ vs, v = .list vs ∧ List.Forall₂ (fun v a => read v = accepted a) vs as := by
  cases v <;> simp [items, issue, itemsFrom_eq_accepted]

lemma itemsFrom_map {write : β → Value} {readItem : Value → Check β} {xs : List β}
    (h : ∀ x ∈ xs, readItem (write x) = .accepted x) (index : Nat) :
    itemsFrom readItem index (xs.map write) = .accepted xs := by
  rw [itemsFrom_eq_accepted, List.forall₂_map_left_iff, List.forall₂_same]
  exact h

/-! ## Properties of what is accepted -/

/-- Everything that a check accepts has a property. -/
def Ensures (x : Check α) (P : α → Prop) : Prop := ∀ a, x = accepted a → P a

variable {P : β → Prop}

lemma Ensures.map {g : α → β} (h : x.Ensures fun a => P (g a)) : (g <$> x).Ensures P := by
  intro b hb
  obtain ⟨a, ha, rfl⟩ := map_eq_accepted.1 hb
  exact h a ha

/-- A property that comes from the first of two checks does not need the second one. -/
lemma Ensures.seq (h : f.Ensures fun g => ∀ a, P (g a)) : (f <*> x).Ensures P := by
  intro b hb
  obtain ⟨g, a, hg, -, rfl⟩ := seq_eq_accepted.1 hb
  exact h g hg a

theorem Ensures.closed {names : List String} {members : Check β} (h : members.Ensures P) :
    (closed es names members).Ensures P := fun b hb => h b (eq_accepted_of_closed hb)

lemma Ensures.entries {kind : IssueKind} {members : Entries → Check β}
    (h : ∀ es, v = .mapping es → (members es).Ensures P) :
    ((entries kind v).andThen members).Ensures P := by
  intro b hb
  obtain ⟨es, hes, hmembers⟩ := andThen_eq_accepted.1 hb
  exact h es (entries_eq_accepted.1 hes) b hmembers

end Check

/-! ## Records in any order -/

/-- The mapping has these members and no others; their order is free. -/
def Value.IsRecordOf (fields : List (String × Value)) (v : Value) : Prop :=
  ∃ es : Entries, v = .mapping es ∧ (∀ f ∈ fields, es.get? f.1 = some f.2)
    ∧ ∀ e ∈ es, ∃ f ∈ fields, e.1 = .name f.1

/-- If what is read of a mapping is some of its members, then closed under their names it is that
mapping. -/
lemma Check.closed_eq_accepted_iff {α : Type} {es : Entries} {fields : List (String × Value)}
    {names : List String} {x : Check α} {a : α} (hnames : fields.map (·.1) = names)
    (hx : x = accepted a ↔ ∀ f ∈ fields, es.get? f.1 = some f.2) :
    closed es names x = accepted a ↔ (Value.mapping es).IsRecordOf fields := by
  simp only [closed_eq_accepted, key_inPlace_iff, hx, ← hnames, List.mem_map]
  constructor
  · rintro ⟨hmembers, hkeys⟩
    refine ⟨es, rfl, hmembers, fun e he => ?_⟩
    obtain ⟨_, ⟨f, hf, rfl⟩, hkey⟩ := hkeys e he
    exact ⟨f, hf, hkey⟩
  · rintro ⟨_, heq, hmembers, hkeys⟩
    cases heq
    refine ⟨hmembers, fun e he => ?_⟩
    obtain ⟨f, hf, hkey⟩ := hkeys e he
    exact ⟨f.1, ⟨f, hf, rfl⟩, hkey⟩

@[simp]
lemma FilledText.read_text (t : FilledText) : FilledText.read (.text t.text) = .accepted t := by
  rw [FilledText.read, Check.text_text, Check.andThen_accepted, Check.characters_ofString,
    Check.andThen_accepted, dif_pos t.text_ne]

end Shortlist
