import Shortlist.Json.Reader
import Shortlist.Proofs.Number.Digits
import Shortlist.Proofs.Outcome
import Shortlist.Proofs.Value.Entries
import Shortlist.Proofs.Value.Plain

/-!
# What a document can say

Whatever the reader accepts is a decoded value (`isDecoded_of_parse`): its integers are not too
long, and its mappings have distinct texts as keys.

The readers of values, items and members call one another with less fuel each time, so the three
statements are proved together, by induction on the fuel (`ReadsDecoded`).  Nothing is said about
what the text looks like: a value that is decoded may have come from any text that says it.
-/

namespace Shortlist.Json

open Value (IsDecoded)

variable {levels : Nat} {cs rest : List Char} {v : Value}

lemma wholeDigits?_spec {whole : List Char} (h : wholeDigits? cs = some (whole, rest)) :
    (∀ c ∈ whole, isDigit c = true) ∧ 0 < whole.length := by
  cases cs with
  | nil => cases h
  | cons c cs =>
    rw [wholeDigits?] at h
    split at h
    · cases h
      simp [isDigit_zero]
    · split at h
      · rename_i hc
        cases h
        exact ⟨fun d hd => List.mem_takeWhile_imp hd, by simp [hc]⟩
      · cases h

/-- An integer has no more digits than it is written with. -/
lemma digitCount_natOfDigits_le {ds : List Char} (h : ∀ c ∈ ds, isDigit c = true)
    (hpos : 0 < ds.length) : digitCount (natOfDigits ds) ≤ ds.length :=
  (digitCount_le_iff hpos).2 (natOfDigits_lt h)

lemma isDecoded_of_readUnsigned {negative : Bool}
    (h : readUnsigned negative cs = some (.ok (v, rest))) : v.IsDecoded := by
  rw [readUnsigned, Option.map_eq_some_iff] at h
  obtain ⟨⟨whole, after⟩, hwhole, h⟩ := h
  obtain ⟨hdigits, hpos⟩ := wholeDigits?_spec hwhole
  dsimp only at h
  split at h
  · split at h
    · cases h
    · rename_i hshort
      cases h
      have habs : (if negative then -(natOfDigits whole : Int) else natOfDigits whole).natAbs
          = natOfDigits whole := by
        split <;> simp
      refine .int ?_
      rw [habs]
      have hcount := digitCount_natOfDigits_le hdigits hpos
      omega
  · cases h
    exact .float _

lemma isDecoded_of_readNumber? (h : readNumber? cs = some (.ok (v, rest))) : v.IsDecoded := by
  unfold readNumber? at h
  split at h
  · exact isDecoded_of_readUnsigned h
  · exact isDecoded_of_readUnsigned h

lemma isDecoded_of_readWord? (h : readWord? cs = some (v, rest)) : v.IsDecoded := by
  rw [readWord?] at h
  obtain ⟨⟨w, v'⟩, hmem, h⟩ := List.exists_of_findSome?_eq_some h
  have hv : v' = v := by
    dsimp only at h
    split at h <;> cases h
    rfl
  subst hv
  simp only [words, List.mem_cons, Prod.mk.injEq, List.not_mem_nil, or_false] at hmem
  rcases hmem with ⟨-, rfl⟩ | ⟨-, rfl⟩ | ⟨-, rfl⟩ | ⟨-, rfl⟩ | ⟨-, rfl⟩ | ⟨-, rfl⟩
  · exact .null
  · exact .bool _
  · exact .bool _
  all_goals exact .float _

lemma isDecoded_of_readScalar (h : readScalar cs = .ok (v, rest)) : v.IsDecoded := by
  unfold readScalar at h
  split at h
  · obtain ⟨⟨s, after⟩, -, h⟩ := Except.map_eq_ok.1 h
    cases h
    exact .text _
  · split at h
    · rename_i hword
      cases h
      exact isDecoded_of_readWord? hword
    · cases hnumber : readNumber? cs with
      | none =>
        rw [hnumber] at h
        cases h
      | some r =>
        rw [hnumber] at h
        exact isDecoded_of_readNumber? (hnumber.trans (congrArg some h))

/-- What the readers accept, for a given amount of fuel. -/
structure ReadsDecoded (fuel : Nat) : Prop where
  value : ∀ levels cs v rest, readValue levels fuel cs = .ok (v, rest) → v.IsDecoded
  items : ∀ levels cs vs rest, readItems levels fuel cs = .ok (vs, rest) → ∀ v ∈ vs, v.IsDecoded
  members : ∀ levels cs es rest, readMembers levels fuel cs = .ok (es, rest) →
    ∀ e ∈ es, (∃ t, e.1 = .name t) ∧ e.2.IsDecoded

variable {fuel : Nat}

lemma isDecoded_of_readValue (ih : ReadsDecoded fuel)
    (h : readValue levels (fuel + 1) cs = .ok (v, rest)) : v.IsDecoded := by
  rw [readValue.eq_def] at h
  dsimp only at h
  split at h
  · split at h
    · cases h
    · split at h
      · cases h
        exact .list (by simp)
      · obtain ⟨⟨items, after⟩, hitems, h⟩ := Except.map_eq_ok.1 h
        cases h
        exact .list (ih.items _ _ _ _ hitems)
  · split at h
    · cases h
    · split at h
      · cases h
        exact .mapping List.nodup_nil (by simp) (by simp)
      · obtain ⟨⟨members, after⟩, hmembers, h⟩ := Except.map_eq_ok.1 h
        cases h
        -- members of equal names have been merged, which is what makes the keys distinct
        have hread := ih.members _ _ _ _ hmembers
        exact .mapping (Entries.nodup_keys_ofList members)
          (fun e he => (hread e (Entries.mem_of_mem_ofList he)).1)
          fun e he => (hread e (Entries.mem_of_mem_ofList he)).2
  · exact isDecoded_of_readScalar h

lemma isDecoded_of_readItems {vs : List Value} (ih : ReadsDecoded fuel)
    (h : readItems levels (fuel + 1) cs = .ok (vs, rest)) : ∀ v ∈ vs, v.IsDecoded := by
  rw [readItems] at h
  obtain ⟨⟨v, after⟩, hv, h⟩ := Except.bind_eq_ok.1 h
  have hfirst := ih.value _ _ _ _ hv
  dsimp only at h
  split at h
  · cases h
    simpa using hfirst
  · obtain ⟨⟨items, after⟩, hitems, h⟩ := Except.map_eq_ok.1 h
    cases h
    intro w hw
    rcases List.mem_cons.1 hw with rfl | hw
    · exact hfirst
    · exact ih.items _ _ _ _ hitems w hw
  · cases h

lemma isDecoded_of_readMembers {es : List (Key × Value)} (ih : ReadsDecoded fuel)
    (h : readMembers levels (fuel + 1) cs = .ok (es, rest)) :
    ∀ e ∈ es, (∃ t, e.1 = .name t) ∧ e.2.IsDecoded := by
  rw [readMembers.eq_def] at h
  dsimp only at h
  split at h
  · obtain ⟨⟨name, after⟩, -, h⟩ := Except.bind_eq_ok.1 h
    dsimp only at h
    split at h
    · obtain ⟨⟨v, after⟩, hv, h⟩ := Except.bind_eq_ok.1 h
      have hfirst := ih.value _ _ _ _ hv
      dsimp only at h
      split at h
      · cases h
        intro e he
        rw [List.mem_singleton] at he
        exact he ▸ ⟨⟨_, rfl⟩, hfirst⟩
      · obtain ⟨⟨members, after⟩, hmembers, h⟩ := Except.map_eq_ok.1 h
        cases h
        intro e he
        rcases List.mem_cons.1 he with rfl | he
        · exact ⟨⟨_, rfl⟩, hfirst⟩
        · exact ih.members _ _ _ _ hmembers e he
      · cases h
    · cases h
  · cases h

lemma readsDecoded (fuel : Nat) : ReadsDecoded fuel := by
  induction fuel with
  | zero =>
    refine ⟨?_, ?_, ?_⟩
    · intro levels cs v rest h
      simp [readValue, stopAt] at h
    · intro levels cs vs rest h
      simp [readItems, stopAt] at h
    · intro levels cs es rest h
      simp [readMembers, stopAt] at h
  | succ fuel ih =>
    exact ⟨fun _ _ _ _ => isDecoded_of_readValue ih, fun _ _ _ _ => isDecoded_of_readItems ih,
      fun _ _ _ _ => isDecoded_of_readMembers ih⟩

/-- A document that is accepted is a value with space around it. -/
lemma readValue_of_parse (h : parse cs = .ok v) :
    ∃ rest, readValue nestingLimit (2 * cs.length + 2) (skipSpace cs) = .ok (v, rest) := by
  unfold parse at h
  dsimp only at h
  split at h
  · rename_i houtcome
    cases h
    split at houtcome
    · cases houtcome
    · obtain ⟨⟨v', rest⟩, hread, hrest⟩ := Except.bind_eq_ok.1 houtcome
      dsimp only at hrest
      split at hrest
      · cases hrest
        exact ⟨rest, hread⟩
      · cases hrest
  all_goals cases h

/-- Whatever a document says is a decoded value. -/
theorem isDecoded_of_parse (h : parse cs = .ok v) : v.IsDecoded := by
  obtain ⟨rest, hread⟩ := readValue_of_parse h
  exact (readsDecoded _).value _ _ _ _ hread

end Shortlist.Json
