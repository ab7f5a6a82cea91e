import Mathlib.Data.List.TakeWhile
import Shortlist.Proofs.Text.Utf8
import Shortlist.Text.Lines

/-!
# Appending a line

The lines of a text whose ends are line feeds are its closed lines and what stands after the last
line feed, the open line (`splitFeeds_eq`).  A line that is appended goes on where the open line
stands (`splitFeeds_append_line`), so it is a line of its own only if there is nothing but blanks.

Files are another matter in two respects.  A carriage return ends a line too, alone or in front of a
line feed, so that ends are unified before a file is split; and its bytes have to be decoded, which
may fail.  Both are done from the left, and neither looks beyond an end: unifying goes through an
append unless the second text begins with a line feed, and decoding goes through one unless the
first text breaks off within a character.  So the laws for texts carry over to files without a fault
(`unterminated`, `terminated`).

Only lines count that are not blank, under the number at which they stand (`contentLines`).  An open
line of blanks therefore leaves no trace: with the appended line it is one line, which is read
without the blanks around it.
-/

namespace Shortlist.Text

variable {cs ds line : List Char} {acc : List Char}

/-! ## Blanks -/

lemma trim_append_of_blank (h : ∀ c ∈ cs, isBlank c = true) (ds : List Char) :
    trim (cs ++ ds) = trim ds := by
  rw [trim, trim, List.dropWhile_append_of_pos h]

lemma trim_append_blanks (h : ∀ c ∈ ds, isBlank c = true) (cs : List Char) :
    trim (cs ++ ds) = trim cs := by
  have hds : ds.dropWhile isBlank = [] := List.dropWhile_eq_nil_iff.2 h
  by_cases hcs : cs.dropWhile isBlank = []
  · simp [trim, List.dropWhile_append, hcs, hds]
  · have hreverse : ∀ c ∈ ds.reverse, isBlank c = true := fun c hc => h c (List.mem_reverse.1 hc)
    simp [trim, List.dropWhile_append, hcs, List.dropWhile_append_of_pos hreverse]

/-- A text without blanks is left as it is. -/
lemma trim_of_not_blank (h : ∀ c ∈ cs, isBlank c = false) : trim cs = cs := by
  have hdrop (ds : List Char) (hds : ∀ c ∈ ds, isBlank c = false) : ds.dropWhile isBlank = ds := by
    cases ds with
    | nil => rfl
    | cons d ds => exact List.dropWhile_cons_of_neg (by simp [hds d])
  rw [trim, hdrop cs h, hdrop _ fun c hc => h c (List.mem_reverse.1 hc), List.reverse_reverse]

lemma trim_eq_nil : trim cs = [] ↔ ∀ c ∈ cs, isBlank c = true := by
  constructor
  · intro h
    have hall : ∀ c ∈ cs.dropWhile isBlank, isBlank c = true := by
      simpa [trim, List.dropWhile_eq_nil_iff] using h
    have hdrop : cs.dropWhile isBlank = [] := by
      by_contra hne
      have hhead := List.head_dropWhile_not isBlank hne
      rw [hall _ (List.head_mem hne)] at hhead
      cases hhead
    exact List.dropWhile_eq_nil_iff.1 hdrop
  · intro h
    simpa [trim] using trim_append_of_blank h []

/-- A text whose ends are not blank is left as it is. -/
lemma trim_of_ends {c d : Char} (hc : isBlank c = false) (hd : isBlank d = false)
    (cs : List Char) : trim (c :: (cs ++ [d])) = c :: (cs ++ [d]) := by
  rw [trim, List.dropWhile_cons_of_neg (by simp [hc])]
  simp [List.dropWhile_cons_of_neg, hd]

/-! ## Ends of lines -/

lemma unifyNewlines_return (h : ∀ c ∈ cs.head?, c ≠ '\n') :
    unifyNewlines ('\r' :: cs) = '\n' :: unifyNewlines cs := by
  rw [unifyNewlines]
  rintro rest rfl
  exact h '\n' rfl rfl

lemma unifyNewlines_cons {c : Char} (h : c ≠ '\r') (cs : List Char) :
    unifyNewlines (c :: cs) = c :: unifyNewlines cs := by
  rw [unifyNewlines]
  · rintro rest rfl
    exact absurd rfl h
  · exact h

/-- Texts are unified one after the other, unless a line end stands across their border. -/
lemma unifyNewlines_append (h : ∀ c ∈ ds.head?, c ≠ '\n') :
    unifyNewlines (cs ++ ds) = unifyNewlines cs ++ unifyNewlines ds := by
  fun_induction unifyNewlines cs with
  | case1 => rfl
  | case2 rest ih => simpa [unifyNewlines] using ih
  | case3 rest hrest ih =>
    rw [List.cons_append, unifyNewlines_return, ih, List.cons_append]
    cases rest with
    | nil => exact h
    | cons c rest =>
      rintro d hd rfl
      simp only [List.cons_append, List.head?_cons, Option.mem_def, Option.some.injEq] at hd
      exact hrest rest (hd ▸ rfl)
  | case4 c rest h₁ h₂ ih => rw [List.cons_append, unifyNewlines_cons h₂, ih, List.cons_append]

lemma unifyNewlines_of_not_mem (h : '\r' ∉ cs) : unifyNewlines cs = cs := by
  fun_induction unifyNewlines cs with
  | case1 => rfl
  | case2 rest ih => exact absurd List.mem_cons_self h
  | case3 rest hrest ih => exact absurd List.mem_cons_self h
  | case4 c rest h₁ h₂ ih => rw [ih fun hmem => h (List.mem_cons_of_mem _ hmem)]

/-! ## Closed lines and the open line -/

/-- The lines that a line feed closes, `line` being the current one in reverse. -/
def closedLines (line : List Char) : List Char → List (List Char)
  | [] => []
  | c :: rest =>
    if c = '\n' then line.reverse :: closedLines [] rest else closedLines (c :: line) rest

/-- What stands after the last line feed. -/
def openLine (line : List Char) : List Char → List Char
  | [] => line.reverse
  | c :: rest => if c = '\n' then openLine [] rest else openLine (c :: line) rest

/-- A text goes on where the open line of the text in front of it stands. -/
lemma splitFeeds_append (acc cs ds : List Char) :
    splitFeeds acc (cs ++ ds) = closedLines acc cs ++ splitFeeds (openLine acc cs).reverse ds := by
  induction cs generalizing acc with
  | nil => simp [closedLines, openLine]
  | cons c cs ih =>
    by_cases hc : c = '\n'
    · simp [splitFeeds, closedLines, openLine, hc, ih]
    · simp [splitFeeds, closedLines, openLine, hc, ih]

theorem splitFeeds_eq (acc cs : List Char) :
    splitFeeds acc cs
      = closedLines acc cs ++ if openLine acc cs = [] then [] else [openLine acc cs] := by
  rw [← List.append_nil cs, splitFeeds_append, List.append_nil, splitFeeds]
  simp

lemma splitFeeds_line (h : '\n' ∉ line) (acc : List Char) :
    splitFeeds acc (line ++ ['\n']) = [acc.reverse ++ line] := by
  induction line generalizing acc with
  | nil => simp [splitFeeds]
  | cons c line ih =>
    rw [List.mem_cons, not_or] at h
    rw [List.cons_append, splitFeeds, if_neg (Ne.symm h.1), ih h.2]
    simp

/-- A line that is appended goes on where the open line stands. -/
theorem splitFeeds_append_line (h : '\n' ∉ line) (acc cs : List Char) :
    splitFeeds acc (cs ++ (line ++ ['\n'])) = closedLines acc cs ++ [openLine acc cs ++ line] := by
  rw [splitFeeds_append, splitFeeds_line h, List.reverse_reverse]

/-- Text without a line feed closes no line. -/
lemma closedLines_append_open (h : '\n' ∉ ds) (acc cs : List Char) :
    closedLines acc (cs ++ ds) = closedLines acc cs := by
  induction cs generalizing acc with
  | nil =>
    induction ds generalizing acc with
    | nil => rfl
    | cons d ds ih =>
      rw [List.mem_cons, not_or] at h
      simpa [closedLines, Ne.symm h.1] using ih h.2 (d :: acc)
  | cons c cs ih =>
    rw [List.cons_append, closedLines, closedLines]
    split
    · rw [ih]
    · exact ih (c :: acc)

/-- Text without a line feed goes on with the open line. -/
lemma openLine_append_open (h : '\n' ∉ ds) (acc cs : List Char) :
    openLine acc (cs ++ ds) = openLine acc cs ++ ds := by
  induction cs generalizing acc with
  | nil =>
    induction ds generalizing acc with
    | nil => simp
    | cons d ds ih =>
      rw [List.mem_cons, not_or] at h
      simpa [openLine, Ne.symm h.1] using ih h.2 (d :: acc)
  | cons c cs ih =>
    rw [List.cons_append, openLine, openLine]
    split
    · exact ih []
    · exact ih (c :: acc)

lemma openLine_append_feed (acc cs : List Char) : openLine acc (cs ++ ['\n']) = [] := by
  induction cs generalizing acc with
  | nil => rfl
  | cons c cs ih =>
    rw [List.cons_append, openLine]
    split
    · exact ih []
    · exact ih (c :: acc)

/-! ## The lines that count -/

lemma contentLines_append (n : Nat) (ls ls' : List (List Char)) :
    contentLines n (ls ++ ls') = contentLines n ls ++ contentLines (n + ls.length) ls' := by
  induction ls generalizing n with
  | nil => rfl
  | cons l ls ih =>
    have hnumber : n + (ls.length + 1) = n + 1 + ls.length := by omega
    by_cases hl : trim l = []
    · simp [contentLines, hl, ih, hnumber]
    · simp [contentLines, hl, ih, hnumber]

lemma contentLines_singleton (n : Nat) (l : List Char) :
    contentLines n [l] = if trim l = [] then [] else [(n, trim l)] := by
  by_cases hl : trim l = []
  · simp [contentLines, hl]
  · simp [contentLines, hl]

/-! ## Files -/

variable {bytes : Bytes}

/-- What stands after the last end of a line in a file. -/
def unterminated (bytes : Bytes) : List Char := openLine [] (unifyNewlines (decodeUtf8 bytes).chars)

/-- The lines of a file that an end closes. -/
def terminated (bytes : Bytes) : List (List Char) :=
  closedLines [] (unifyNewlines (decodeUtf8 bytes).chars)

lemma readLines_of_fault_eq_none (h : (decodeUtf8 bytes).fault = none) :
    readLines bytes = ⟨splitLines (decodeUtf8 bytes).chars, none⟩ := by
  rw [readLines]
  simp only [h]

lemma readLines_fault_eq_none :
    (readLines bytes).fault = none ↔ (decodeUtf8 bytes).fault = none := by
  cases h : (decodeUtf8 bytes).fault with
  | none => simp [readLines_of_fault_eq_none h]
  | some f => simp [readLines, h]

/-- The lines that count in a file: the closed ones and the open one. -/
lemma contentLines_readLines (h : (decodeUtf8 bytes).fault = none) :
    contentLines 1 (readLines bytes).lines
      = contentLines 1 (terminated bytes)
        ++ contentLines (1 + (terminated bytes).length) [unterminated bytes] := by
  rw [readLines_of_fault_eq_none h, splitLines, splitFeeds_eq, contentLines_append]
  congr 1
  by_cases hopen : unterminated bytes = []
  · rw [hopen, contentLines_singleton]
    rw [unterminated] at hopen
    rw [if_pos hopen]
    rfl
  · rw [unterminated] at hopen
    rw [if_neg hopen]
    rfl

/-- Characters without an end of a line go on where the last line of a file stands. -/
lemma unterminated_append (h : (decodeUtf8 bytes).fault = none) (hfeed : '\n' ∉ cs)
    (hreturn : '\r' ∉ cs) :
    (decodeUtf8 (bytes ++ encodeUtf8 cs)).fault = none
      ∧ terminated (bytes ++ encodeUtf8 cs) = terminated bytes
      ∧ unterminated (bytes ++ encodeUtf8 cs) = unterminated bytes ++ cs := by
  obtain ⟨hchars, hfault⟩ := decodeUtf8_append (encodeUtf8 cs) h
  rw [decodeUtf8_encodeUtf8] at hchars hfault
  have hhead : ∀ c ∈ cs.head?, c ≠ '\n' := by
    rintro c hc rfl
    exact hfeed (List.mem_of_mem_head? hc)
  have hunified : unifyNewlines (decodeUtf8 (bytes ++ encodeUtf8 cs)).chars
      = unifyNewlines (decodeUtf8 bytes).chars ++ cs := by
    rw [hchars, unifyNewlines_append hhead, unifyNewlines_of_not_mem hreturn]
  refine ⟨hfault.2 rfl, ?_, ?_⟩
  · rw [terminated, hunified, closedLines_append_open hfeed, terminated]
  · rw [unterminated, hunified, openLine_append_open hfeed, unterminated]

/-- Blanks add no line that counts where there are nothing but blanks. -/
lemma contentLines_append_blanks (h : (decodeUtf8 bytes).fault = none)
    (hblank : ∀ c ∈ unterminated bytes, isBlank c = true) (hcs : ∀ c ∈ cs, isBlank c = true)
    (hfeed : '\n' ∉ cs) (hreturn : '\r' ∉ cs) :
    contentLines 1 (readLines (bytes ++ encodeUtf8 cs)).lines
      = contentLines 1 (readLines bytes).lines := by
  obtain ⟨hvalid, hclosed, hopen⟩ := unterminated_append h hfeed hreturn
  have hblank' : ∀ c ∈ unterminated bytes ++ cs, isBlank c = true :=
    List.forall_mem_append.2 ⟨hblank, hcs⟩
  rw [contentLines_readLines hvalid, contentLines_readLines h, hclosed, hopen,
    contentLines_singleton, contentLines_singleton, if_pos (trim_eq_nil.2 hblank),
    if_pos (trim_eq_nil.2 hblank')]

/-- A line counts there even without an end. -/
lemma exists_contentLines_append_open (h : (decodeUtf8 bytes).fault = none)
    (hblank : ∀ c ∈ unterminated bytes, isBlank c = true) (hline : line ≠ [])
    (hprinted : ∀ c ∈ line, 0x20 ≤ c.toNat) (htrim : trim line = line) :
    (decodeUtf8 (bytes ++ encodeUtf8 line)).fault = none
      ∧ ∃ n, contentLines 1 (readLines (bytes ++ encodeUtf8 line)).lines
        = contentLines 1 (readLines bytes).lines ++ [(n, line)] := by
  have hfeed : '\n' ∉ line := fun hmem => absurd (hprinted _ hmem) (by decide)
  have hreturn : '\r' ∉ line := fun hmem => absurd (hprinted _ hmem) (by decide)
  obtain ⟨hvalid, hclosed, hopen⟩ := unterminated_append h hfeed hreturn
  refine ⟨hvalid, 1 + (terminated bytes).length, ?_⟩
  rw [contentLines_readLines hvalid, contentLines_readLines h, hclosed, hopen,
    contentLines_singleton, contentLines_singleton, if_pos (trim_eq_nil.2 hblank),
    trim_append_of_blank hblank, htrim, if_neg hline, List.append_nil]

/-- The bytes of a line with its end. -/
def lineBytes (line : List Char) : Bytes := encodeUtf8 (line ++ ['\n'])

/-- The characters of a file to which a line has been appended. -/
lemma decodeUtf8_append_line (h : (decodeUtf8 bytes).fault = none) (hline : line ≠ [])
    (hprinted : ∀ c ∈ line, 0x20 ≤ c.toNat) :
    (decodeUtf8 (bytes ++ lineBytes line)).fault = none
      ∧ unifyNewlines (decodeUtf8 (bytes ++ lineBytes line)).chars
        = unifyNewlines (decodeUtf8 bytes).chars ++ (line ++ ['\n']) := by
  have hfeed : '\n' ∉ line := fun hmem => absurd (hprinted _ hmem) (by decide)
  have hreturn : '\r' ∉ line := fun hmem => absurd (hprinted _ hmem) (by decide)
  obtain ⟨hchars, hfault⟩ := decodeUtf8_append (lineBytes line) h
  rw [lineBytes, decodeUtf8_encodeUtf8] at hchars hfault
  have hhead : ∀ c ∈ (line ++ ['\n']).head?, c ≠ '\n' := by
    obtain ⟨c, cs, rfl⟩ := List.exists_cons_of_ne_nil hline
    rintro d hd rfl
    simp only [List.cons_append, List.head?_cons, Option.mem_def, Option.some.injEq] at hd
    exact hfeed (hd ▸ List.mem_cons_self)
  have hunified : unifyNewlines (line ++ ['\n']) = line ++ ['\n'] := by
    apply unifyNewlines_of_not_mem
    simpa using hreturn
  refine ⟨hfault.2 rfl, ?_⟩
  rw [lineBytes, hchars, unifyNewlines_append hhead, hunified]

/-- The lines of a file to which a line has been appended. -/
lemma readLines_append_line (h : (decodeUtf8 bytes).fault = none) (hline : line ≠ [])
    (hprinted : ∀ c ∈ line, 0x20 ≤ c.toNat) :
    (readLines (bytes ++ lineBytes line)).fault = none
      ∧ contentLines 1 (readLines (bytes ++ lineBytes line)).lines
        = contentLines 1 (terminated bytes)
          ++ contentLines (1 + (terminated bytes).length) [unterminated bytes ++ line] := by
  have hfeed : '\n' ∉ line := fun hmem => absurd (hprinted _ hmem) (by decide)
  obtain ⟨hnone, hunified⟩ := decodeUtf8_append_line h hline hprinted
  refine ⟨readLines_fault_eq_none.2 hnone, ?_⟩
  rw [readLines_of_fault_eq_none hnone, splitLines, hunified, splitFeeds_append_line hfeed,
    contentLines_append]
  rfl

/-- Where nothing but blanks stands after the last end of a line, a line that is appended counts on
its own. -/
lemma exists_contentLines_append_line (h : (decodeUtf8 bytes).fault = none)
    (hblank : ∀ c ∈ unterminated bytes, isBlank c = true) (hline : line ≠ [])
    (hprinted : ∀ c ∈ line, 0x20 ≤ c.toNat) (htrim : trim line = line) :
    ∃ n, contentLines 1 (readLines (bytes ++ lineBytes line)).lines
      = contentLines 1 (readLines bytes).lines ++ [(n, line)] := by
  obtain ⟨-, hlines⟩ := readLines_append_line h hline hprinted
  rw [contentLines_singleton, trim_append_of_blank hblank, htrim, if_neg hline] at hlines
  rw [contentLines_readLines h, contentLines_singleton, if_pos (trim_eq_nil.2 hblank),
    List.append_nil]
  exact ⟨_, hlines⟩

/-- Nothing stands after the end of the line that has been appended. -/
lemma unterminated_append_line (h : (decodeUtf8 bytes).fault = none) (hline : line ≠ [])
    (hprinted : ∀ c ∈ line, 0x20 ≤ c.toNat) : unterminated (bytes ++ lineBytes line) = [] := by
  rw [unterminated, (decodeUtf8_append_line h hline hprinted).2, ← List.append_assoc,
    openLine_append_feed]

end Shortlist.Text
