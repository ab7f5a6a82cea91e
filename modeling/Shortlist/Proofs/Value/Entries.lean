import Mathlib.Data.List.Nodup
import Shortlist.Value.Basic

/-!
# Entries of a mapping

`Entries.ofList` puts entries one by one.  No two entries of the result have equal keys
(`nodup_keys_ofList`), each of them is one that was put (`mem_of_mem_ofList`), and entries whose
keys differ from the start are left as they are (`ofList_of_nodup`).
-/

namespace Shortlist.Entries

variable {entries es : List (Key × Value)} {e : Key × Value} {k : Key} {v : Value}

lemma keys_put (k : Key) (v : Value) (es : List (Key × Value)) :
    (put k v es).map (·.1) = if k ∈ es.map (·.1) then es.map (·.1) else es.map (·.1) ++ [k] := by
  induction es with
  | nil => rfl
  | cons e es ih =>
    rw [put]
    by_cases hk : e.1 = k
    · simp [hk]
    · rw [if_neg hk, List.map_cons, ih]
      have hk' : k ≠ e.1 := fun h => hk h.symm
      by_cases hmem : k ∈ es.map (·.1) <;> simp [hmem, hk']

lemma get?_put (t name : Text) (v : Value) (es : Entries) :
    (put (.name t) v es).get? name = if t = name then some v else es.get? name := by
  simp only [get?]
  induction es with
  | nil => by_cases ht : t = name <;> simp [put, ht]
  | cons e es ih =>
    rw [put]
    by_cases he : e.1 = .name t
    · by_cases ht : t = name
      · simp [he, ht]
      · simp [he, ht]
    · rw [if_neg he]
      by_cases hname : e.1 = .name name
      · have ht : t ≠ name := fun heq => he (heq ▸ hname)
        simp [hname, ht]
      · simpa [hname] using ih

lemma mem_of_mem_put (h : e ∈ put k v es) : e = (k, v) ∨ e ∈ es := by
  induction es with
  | nil => exact .inl (by simpa [put] using h)
  | cons e' es ih =>
    rw [put] at h
    split at h
    · rcases List.mem_cons.1 h with rfl | h
      · exact .inl rfl
      · exact .inr (List.mem_cons_of_mem _ h)
    · rcases List.mem_cons.1 h with rfl | h
      · exact .inr List.mem_cons_self
      · exact (ih h).imp_right (List.mem_cons_of_mem _)

lemma nodup_keys_put (h : (es.map (·.1)).Nodup) (k : Key) (v : Value) :
    ((put k v es).map (·.1)).Nodup := by
  rw [keys_put]
  split
  · exact h
  · rename_i hk
    exact h.append (List.nodup_singleton k) (by simpa using hk)

/-- A new key is put at the end. -/
lemma put_of_not_mem (h : k ∉ es.map (·.1)) (v : Value) : put k v es = es ++ [(k, v)] := by
  induction es with
  | nil => rfl
  | cons e es ih =>
    rw [List.map_cons, List.mem_cons, not_or] at h
    rw [put, if_neg (Ne.symm h.1), ih h.2, List.cons_append]

lemma nodup_keys_foldl_put (h : (es.map (·.1)).Nodup) :
    ((entries.foldl (fun es e => put e.1 e.2 es) es).map (·.1)).Nodup := by
  induction entries generalizing es with
  | nil => exact h
  | cons e entries ih => exact ih (nodup_keys_put h e.1 e.2)

theorem nodup_keys_ofList (entries : List (Key × Value)) :
    ((ofList entries).map (·.1)).Nodup := nodup_keys_foldl_put List.nodup_nil

lemma mem_of_mem_foldl_put (h : e ∈ entries.foldl (fun es e => put e.1 e.2 es) es) :
    e ∈ es ∨ e ∈ entries := by
  induction entries generalizing es with
  | nil => exact .inl h
  | cons e' entries ih =>
    rcases ih h with h | h
    · rcases mem_of_mem_put h with rfl | h
      · exact .inr List.mem_cons_self
      · exact .inl h
    · exact .inr (List.mem_cons_of_mem _ h)

theorem mem_of_mem_ofList (h : e ∈ ofList entries) : e ∈ entries :=
  (mem_of_mem_foldl_put h).resolve_left List.not_mem_nil

lemma foldl_put_of_nodup (h : ((es ++ entries).map (·.1)).Nodup) :
    entries.foldl (fun es e => put e.1 e.2 es) es = es ++ entries := by
  induction entries generalizing es with
  | nil => simp
  | cons e entries ih =>
    have hnew : e.1 ∉ es.map (·.1) := by
      rw [List.map_append, List.map_cons, List.nodup_middle, List.nodup_cons] at h
      exact fun hmem => h.1 (List.mem_append_left _ hmem)
    have happend : es ++ e :: entries = es ++ [e] ++ entries := by simp
    rw [List.foldl_cons, put_of_not_mem hnew, ih (by rwa [happend] at h), happend]

/-- Entries with distinct keys are left as they are. -/
theorem ofList_of_nodup (h : (entries.map (·.1)).Nodup) : ofList entries = entries :=
  foldl_put_of_nodup h

end Shortlist.Entries
