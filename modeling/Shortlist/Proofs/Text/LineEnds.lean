import Shortlist.Proofs.Text.Lines

/-!
# Texts one after the other

Nothing stands open after the last line feed of a text that ends in one, so whatever is written
behind it begins a line of its own: the lines of both texts are those of the first and then those of
the second (`splitLines_append`).  The first has as many lines as it has line ends, lines of blanks
counted (`length_splitLines`), and the numbers of the second go up by that.
-/

namespace Shortlist.Text

variable {cs : List Char}

/-- The number of line ends: line feeds, carriage returns, and both together, which are one. -/
def lineEnds : List Char → Nat
  | [] => 0
  | '\r' :: '\n' :: rest => lineEnds rest + 1
  | '\r' :: rest => lineEnds rest + 1
  | '\n' :: rest => lineEnds rest + 1
  | _ :: rest => lineEnds rest

/-- A text that holds nothing or ends in a line feed. -/
def IsClosed (cs : List Char) : Prop := cs = [] ∨ cs.getLast? = some '\n'

lemma IsClosed.getLast?_ne (h : IsClosed cs) : cs.getLast? ≠ some '\r' := by
  rcases h with rfl | h
  · simp
  · simp [h]

/-! ## Line ends as line feeds -/

lemma getLast?_ne_of_cons {c d : Char} (h : (c :: cs).getLast? ≠ some d) :
    cs.getLast? ≠ some d := by
  intro hlast
  apply h
  simp [List.getLast?_cons, hlast]

/-- What is written behind a text that does not end in a carriage return is unified on its own. -/
lemma unifyNewlines_append_of_last (h : cs.getLast? ≠ some '\r') (ds : List Char) :
    unifyNewlines (cs ++ ds) = unifyNewlines cs ++ unifyNewlines ds := by
  fun_induction unifyNewlines cs with
  | case1 => rfl
  | case2 rest ih =>
    have hrest : rest.getLast? ≠ some '\r' := getLast?_ne_of_cons (getLast?_ne_of_cons h)
    simp [unifyNewlines, ih hrest]
  | case3 rest hfeed ih =>
    -- a carriage return that is not the last character has the character after it behind it
    cases rest with
    | nil => simp at h
    | cons c rest =>
      have hc : c ≠ '\n' := by
        rintro rfl
        exact hfeed rest rfl
      rw [List.cons_append, unifyNewlines_return (by simpa using hc), ih (getLast?_ne_of_cons h),
        List.cons_append]
  | case4 c rest hpair hreturn ih =>
    rw [List.cons_append, unifyNewlines_cons hreturn, ih (getLast?_ne_of_cons h), List.cons_append]

/-- A text that ends in a line feed still does when it has been unified. -/
lemma getLast?_unifyNewlines (h : cs.getLast? = some '\n') :
    (unifyNewlines cs).getLast? = some '\n' := by
  have hcons {c : Char} {rest : List Char} (hlast : (c :: rest).getLast? = some '\n') :
      rest = [] ∧ c = '\n' ∨ rest.getLast? = some '\n' := by
    by_cases hrest : rest = []
    · exact .inl ⟨hrest, by simpa [hrest] using hlast⟩
    · exact .inr (by rwa [List.getLast?_cons_of_ne_nil hrest] at hlast)
  fun_induction unifyNewlines cs with
  | case1 => simp at h
  | case2 rest ih =>
    rw [List.getLast?_cons_cons] at h
    obtain ⟨rfl, -⟩ | hrest := hcons h
    · rfl
    · simp [List.getLast?_cons, ih hrest]
  | case3 rest hfeed ih =>
    obtain ⟨-, hreturn⟩ | hrest := hcons h
    · simp at hreturn
    · simp [List.getLast?_cons, ih hrest]
  | case4 c rest hpair hreturn ih =>
    obtain ⟨rfl, rfl⟩ | hrest := hcons h
    · rfl
    · simp [List.getLast?_cons, ih hrest]

lemma count_unifyNewlines (cs : List Char) : (unifyNewlines cs).count '\n' = lineEnds cs := by
  fun_induction lineEnds cs with
  | case1 => rfl
  | case2 rest ih => simp [unifyNewlines, ih]
  | case3 rest hfeed ih =>
    have hhead : ∀ c ∈ rest.head?, c ≠ '\n' := by
      rintro c hc rfl
      obtain ⟨after, rfl⟩ := List.head?_eq_some_iff.1 hc
      exact hfeed after rfl
    rw [unifyNewlines_return hhead, List.count_cons_self, ih]
  | case4 rest ih => rw [unifyNewlines_cons (by decide), List.count_cons_self, ih]
  | case5 c rest hpair hreturn hfeed ih =>
    rw [unifyNewlines_cons hreturn, List.count_cons_of_ne hfeed, ih]

/-! ## Lines -/

lemma length_closedLines (acc cs : List Char) : (closedLines acc cs).length = cs.count '\n' := by
  induction cs generalizing acc with
  | nil => rfl
  | cons c cs ih =>
    by_cases hc : c = '\n'
    · simp [closedLines, hc, ih]
    · simp [closedLines, hc, ih]

/-- After the last line feed of a text that ends in one there is no open line. -/
lemma IsClosed.openLine_eq (h : IsClosed cs) : openLine [] (unifyNewlines cs) = [] := by
  rcases h with rfl | h
  · rfl
  · obtain ⟨ds, hds⟩ := List.getLast?_eq_some_iff.1 (getLast?_unifyNewlines h)
    rw [hds, openLine_append_feed]

lemma IsClosed.splitLines_eq (h : IsClosed cs) :
    splitLines cs = closedLines [] (unifyNewlines cs) := by
  rw [splitLines, splitFeeds_eq, h.openLine_eq, if_pos rfl, List.append_nil]

/-- The lines of a text behind one that is closed are its own. -/
theorem splitLines_append (h : IsClosed cs) (ds : List Char) :
    splitLines (cs ++ ds) = splitLines cs ++ splitLines ds := by
  rw [h.splitLines_eq, splitLines, unifyNewlines_append_of_last h.getLast?_ne, splitFeeds_append,
    h.openLine_eq]
  rfl

/-- A closed text has a line for each of its line ends. -/
theorem length_splitLines (h : IsClosed cs) : (splitLines cs).length = lineEnds cs := by
  rw [h.splitLines_eq, length_closedLines, count_unifyNewlines]

/-- The numbers of lines that stand further down. -/
lemma contentLines_add (n k : Nat) (ls : List (List Char)) :
    contentLines (n + k) ls = (contentLines n ls).map fun line => (line.1 + k, line.2) := by
  induction ls generalizing n with
  | nil => rfl
  | cons l ls ih =>
    have hnumber : n + k + 1 = n + 1 + k := by omega
    by_cases hl : trim l = []
    · simp [contentLines, hl, hnumber, ih]
    · simp [contentLines, hl, hnumber, ih]

end Shortlist.Text
