import Shortlist.Proofs.Json.Decoded
import Shortlist.Proofs.Json.RoundTrip

/-!
# Documents within the limits

A reader leaves the end of the text that it is given, and it stops at flaws, with two exceptions:
an integer of too many digits, and lists and objects that stand too deep inside one another
(`Proceeds`).  A text is within the limits if it has no more opening brackets and braces than levels
are allowed and no run of digits that is longer than an integer may be; neither exception comes up
in it (`parse_of_isWithinLimits`).  Both limits are sharp, see `parse_ones` and `parse_brackets`.
-/

namespace Shortlist.Json

variable {α β : Type} {levels : Nat} {cs rest : List Char}

/-! ## The limits -/

/-- The number of places at which a list or an object may begin. -/
def openings (cs : List Char) : Nat := cs.countP fun c => c = '[' || c = '\x7b'

/-- No run of digits is longer than an integer may be. -/
def HasShortRuns (cs : List Char) : Prop :=
  ∀ ds, ds <:+: cs → (∀ c ∈ ds, isDigit c = true) → ds.length ≤ integerDigitLimit

/-- A text of which no part can be too much for the reader. -/
structure IsWithinLimits (cs : List Char) : Prop where
  openings_le : openings cs ≤ nestingLimit
  runs : HasShortRuns cs

/-- A text that has no more characters than there may be levels is within the limits. -/
lemma isWithinLimits_of_length_le (h : cs.length ≤ nestingLimit) : IsWithinLimits cs where
  openings_le := List.countP_le_length.trans h
  runs := by
    intro ds hds _
    have hlimits : nestingLimit ≤ integerDigitLimit := by decide
    exact (hds.length_le.trans h).trans hlimits

/-- Stopping at a flaw, which is reported with its place. -/
def Stop.IsFlaw : Stop → Prop
  | .flaw .. => True
  | .integerTooLong _ | .tooDeep _ => False

lemma openings_le_of_suffix (h : rest <:+ cs) : openings rest ≤ openings cs :=
  h.sublist.countP_le

lemma HasShortRuns.of_suffix (h : HasShortRuns cs) (hrest : rest <:+ cs) : HasShortRuns rest := by
  intro ds hds hdigits
  exact h ds (hds.trans hrest.isInfix) hdigits

lemma skipSpace_suffix (cs : List Char) : skipSpace cs <:+ cs := List.dropWhile_suffix isSpace

/-! ## Readers that proceed -/

/-- A reader that proceeds leaves the end of its text, and stops at nothing but a flaw if the text
has no more openings than levels are allowed and only short runs of digits. -/
structure Proceeds (levels : Nat) (cs : List Char) (r : Result α) : Prop where
  suffix : ∀ a rest, r = .ok (a, rest) → rest <:+ cs
  isFlaw : ∀ stop, r = .error stop → openings cs ≤ levels → HasShortRuns cs → stop.IsFlaw

lemma proceeds_ok (levels : Nat) (a : α) (h : rest <:+ cs) :
    Proceeds levels cs (.ok (a, rest)) := by
  constructor
  · rintro _ _ ⟨⟩
    exact h
  · rintro _ ⟨⟩

lemma proceeds_flaw (levels : Nat) (cs : List Char) (flaw : Flaw) (left : Nat) :
    Proceeds (α := α) levels cs (.error (.flaw flaw left)) := by
  constructor
  · rintro _ _ ⟨⟩
  · rintro _ ⟨⟩ _ _
    trivial

lemma proceeds_stopAt (levels : Nat) (cs : List Char) (flaw : Flaw) (rest : List Char) :
    Proceeds (α := α) levels cs (stopAt flaw rest) := proceeds_flaw levels cs flaw rest.length

/-- A reader that proceeds on the end of a text proceeds on the text. -/
lemma Proceeds.of_suffix {r : Result α} (h : Proceeds levels rest r) (hrest : rest <:+ cs) :
    Proceeds levels cs r where
  suffix a after hr := (h.suffix a after hr).trans hrest
  isFlaw stop hr hopenings hruns :=
    h.isFlaw stop hr ((openings_le_of_suffix hrest).trans hopenings) (hruns.of_suffix hrest)

/-- A reader goes on where another one has stopped reading. -/
lemma Proceeds.bind {r : Result α} {f : α × List Char → Result β} (hr : Proceeds levels cs r)
    (hf : ∀ a rest, Proceeds levels rest (f (a, rest))) : Proceeds levels cs (r.bind f) := by
  cases hread : r with
  | error stop =>
    constructor
    · rintro _ _ ⟨⟩
    · rintro _ ⟨⟩
      exact hr.isFlaw stop hread
  | ok read =>
    obtain ⟨a, rest⟩ := read
    exact (hf a rest).of_suffix (hr.suffix a rest hread)

lemma Proceeds.map {r : Result α} {f : α × List Char → β × List Char} (hr : Proceeds levels cs r)
    (hf : ∀ a rest, (f (a, rest)).2 = rest) : Proceeds levels cs (r.map f) := by
  have hbind : r.map f = r.bind fun read => .ok (f read) := by cases r <;> rfl
  rw [hbind]
  apply hr.bind
  intro a rest
  exact proceeds_ok levels (f (a, rest)).1 ⟨[], hf a rest⟩

/-- Inside a list or an object one level less is allowed. -/
lemma Proceeds.inside {r : Result α} {c : Char} (hc : c = '[' ∨ c = '\x7b')
    (h : Proceeds (levels - 1) rest r) : Proceeds levels (c :: rest) r where
  suffix a after hr := (h.suffix a after hr).trans (List.suffix_cons c rest)
  isFlaw stop hr hopenings hruns := by
    have hopens : openings (c :: rest) = openings rest + 1 := by
      rcases hc with rfl | rfl <;> simp [openings]
    exact h.isFlaw stop hr (by omega) (hruns.of_suffix (List.suffix_cons c rest))

/-- Where no level is left, nothing may begin. -/
lemma proceeds_tooDeep {c : Char} (hc : c = '[' ∨ c = '\x7b') (rest : List Char)
    (nesting : Nesting) : Proceeds (α := α) 0 (c :: rest) (.error (.tooDeep nesting)) := by
  constructor
  · rintro _ _ ⟨⟩
  · rintro _ ⟨⟩ hopenings
    rcases hc with rfl | rfl <;> simp [openings] at hopenings

/-! ## Strings -/

lemma codeUnit?_suffix {n : Nat} (h : codeUnit? cs = some (n, rest)) : rest <:+ cs := by
  unfold codeUnit? at h
  split at h
  · rename_i a b c d e after
    simp only [Option.bind_eq_bind, Option.bind_eq_some_iff, Option.pure_def, Option.some.injEq,
      Prod.mk.injEq] at h
    obtain ⟨-, -, -, -, -, -, -, -, -, rfl⟩ := h
    exact ⟨[a, b, c, d], rfl⟩
  · simp at h

lemma proceeds_readUnicodeEscape (levels left : Nat) (cs : List Char) :
    Proceeds levels cs (readUnicodeEscape left cs) := by
  unfold readUnicodeEscape
  split
  · exact proceeds_flaw levels cs _ _
  · rename_i high rest hhigh
    have hrest := codeUnit?_suffix hhigh
    split
    · split
      · split
        · exact proceeds_flaw levels cs _ _
        · rename_i after _ _ low rest' hlow
          have hafter : after <:+ cs := (List.suffix_append ['\\', 'u'] after).trans hrest
          split
          · exact proceeds_ok levels _ ((codeUnit?_suffix hlow).trans hafter)
          · exact proceeds_ok levels _ hrest
      · exact proceeds_ok levels _ hrest
    · exact proceeds_ok levels _ hrest

lemma proceeds_readString (levels start fuel : Nat) (cs : List Char) :
    Proceeds levels cs (readString start fuel cs) := by
  induction fuel generalizing cs with
  | zero => exact proceeds_flaw levels cs _ _
  | succ fuel ih =>
    unfold readString
    split
    · exact proceeds_flaw levels [] _ _
    · rename_i c rest
      have hrest : rest <:+ c :: rest := List.suffix_cons c rest
      split
      · exact proceeds_ok levels [] hrest
      · split
        · exact proceeds_stopAt levels _ _ _
        · split
          · split
            · exact proceeds_flaw levels _ _ _
            · rename_i e after
              have hafter : after <:+ c :: e :: after := List.suffix_append [c, e] after
              split
              · have hescape := proceeds_readUnicodeEscape levels (e :: after).length after
                refine (hescape.bind fun d rest => ?_).of_suffix hafter
                exact (ih rest).map fun ds rest => rfl
              · split
                · exact proceeds_stopAt levels _ _ _
                · exact ((ih after).map fun ds rest => rfl).of_suffix hafter
          · exact ((ih rest).map fun ds rest => rfl).of_suffix hrest

/-! ## Numbers and words -/

lemma wholeDigits?_append_rest {whole : List Char} (h : wholeDigits? cs = some (whole, rest)) :
    whole ++ rest = cs := by
  unfold wholeDigits? at h
  split at h
  · cases h
  · rename_i c after
    split at h
    · rename_i hzero
      cases h
      rw [hzero]
      rfl
    · split at h
      · cases h
        exact List.takeWhile_append_dropWhile
      · cases h

lemma fractionDigits_suffix (cs : List Char) : (fractionDigits cs).2 <:+ cs := by
  unfold fractionDigits
  split
  · rename_i c after
    split
    · exact (List.dropWhile_suffix isDigit).trans (List.suffix_cons '.' _)
    · exact List.suffix_rfl
  · exact List.suffix_rfl

lemma exponent?_suffix {n : Int} (h : exponent? cs = some (n, rest)) : rest <:+ cs := by
  unfold exponent? at h
  split at h
  · rename_i e after
    have hafter : after <:+ e :: after := List.suffix_cons e after
    split at h
    · dsimp only at h
      split at h <;> split at h <;> cases h
      · exact (List.dropWhile_suffix isDigit).trans ((List.suffix_cons '-' _).trans hafter)
      · exact (List.dropWhile_suffix isDigit).trans ((List.suffix_cons '+' _).trans hafter)
      · exact (List.dropWhile_suffix isDigit).trans hafter
    · cases h
  · cases h

/-- The digits of an integer are a run of digits of the text. -/
lemma proceeds_readUnsigned {negative : Bool} {r : Result Value}
    (h : readUnsigned negative cs = some r) (levels : Nat) : Proceeds levels cs r := by
  unfold readUnsigned at h
  obtain ⟨⟨whole, after⟩, hwhole, rfl⟩ := Option.map_eq_some_iff.1 h
  have happend := wholeDigits?_append_rest hwhole
  have hafter : after <:+ cs := ⟨whole, happend⟩
  have hfraction := (fractionDigits_suffix after).trans hafter
  dsimp only
  split
  · split
    · rename_i hlong
      constructor
      · rintro _ _ ⟨⟩
      · intro stop _ _ hruns
        have hinfix : whole <:+: cs := ⟨[], after, by simpa using happend⟩
        have hshort := hruns whole hinfix (wholeDigits?_spec hwhole).1
        omega
    · exact proceeds_ok levels _ hfraction
  · rename_i exponent _
    refine proceeds_ok levels _ ?_
    cases hexponent : exponent? (fractionDigits after).2 with
    | none => exact hfraction
    | some power => exact (exponent?_suffix hexponent).trans hfraction

lemma proceeds_readNumber? {r : Result Value} (h : readNumber? cs = some r) (levels : Nat) :
    Proceeds levels cs r := by
  unfold readNumber? at h
  split at h
  · exact (proceeds_readUnsigned h levels).of_suffix (List.suffix_cons '-' _)
  · exact proceeds_readUnsigned h levels

lemma readWord?_suffix {v : Value} (h : readWord? cs = some (v, rest)) : rest <:+ cs := by
  unfold readWord? at h
  obtain ⟨⟨word, value⟩, -, h⟩ := List.exists_of_findSome?_eq_some h
  dsimp only at h
  split at h
  · cases h
    exact List.drop_suffix _ _
  · cases h

lemma proceeds_readScalar (levels : Nat) (cs : List Char) :
    Proceeds levels cs (readScalar cs) := by
  unfold readScalar
  split
  · rename_i rest
    exact ((proceeds_readString levels _ _ rest).map fun s rest => rfl).of_suffix
      (List.suffix_cons '"' rest)
  · split
    · rename_i read hword
      exact proceeds_ok levels read.1 (readWord?_suffix hword)
    · cases hnumber : readNumber? cs with
      | none => exact proceeds_stopAt levels cs _ _
      | some r => exact proceeds_readNumber? hnumber levels

/-! ## Values -/

/-- The readers of values proceed, for a given amount of fuel. -/
structure ReadersProceed (fuel : Nat) : Prop where
  value : ∀ levels cs, Proceeds levels cs (readValue levels fuel cs)
  items : ∀ levels cs, Proceeds levels cs (readItems levels fuel cs)
  members : ∀ levels cs, Proceeds levels cs (readMembers levels fuel cs)

variable {fuel : Nat}

lemma proceeds_readValue (ih : ReadersProceed fuel) (levels : Nat) (cs : List Char) :
    Proceeds levels cs (readValue levels (fuel + 1) cs) := by
  rw [readValue.eq_def]
  dsimp only
  split
  · rename_i rest
    have hinner := skipSpace_suffix rest
    split
    · rename_i hlevels
      subst hlevels
      exact proceeds_tooDeep (.inl rfl) rest .list
    · split
      · rename_i after hempty
        rw [hempty] at hinner
        have hafter := (List.suffix_cons ']' after).trans hinner
        exact proceeds_ok levels _ (hafter.trans (List.suffix_cons '[' rest))
      · exact (((ih.items _ _).map fun items rest => rfl).of_suffix hinner).inside (.inl rfl)
  · rename_i rest
    have hinner := skipSpace_suffix rest
    split
    · rename_i hlevels
      rw [hlevels]
      exact proceeds_tooDeep (.inr rfl) rest .object
    · split
      · rename_i after hempty
        rw [hempty] at hinner
        have hafter := (List.suffix_cons '\x7d' after).trans hinner
        exact proceeds_ok levels _ (hafter.trans (List.suffix_cons '\x7b' rest))
      · exact (((ih.members _ _).map fun members rest => rfl).of_suffix hinner).inside (.inr rfl)
  · exact proceeds_readScalar levels cs

/-- What follows an item or a member: its end, or a comma and the others. -/
lemma proceeds_readItems (ih : ReadersProceed fuel) (levels : Nat) (cs : List Char) :
    Proceeds levels cs (readItems levels (fuel + 1) cs) := by
  rw [readItems]
  refine (ih.value levels cs).bind fun v rest => ?_
  have hrest := skipSpace_suffix rest
  dsimp only
  split
  · rename_i after hend
    rw [hend] at hrest
    exact proceeds_ok levels [v] ((List.suffix_cons ']' after).trans hrest)
  · rename_i after hcomma
    rw [hcomma] at hrest
    have hafter := (skipSpace_suffix after).trans ((List.suffix_cons ',' after).trans hrest)
    exact ((ih.items levels _).map fun items rest => rfl).of_suffix hafter
  · exact proceeds_stopAt levels rest _ _

lemma proceeds_readMembers (ih : ReadersProceed fuel) (levels : Nat) (cs : List Char) :
    Proceeds levels cs (readMembers levels (fuel + 1) cs) := by
  rw [readMembers.eq_def]
  dsimp only
  split
  · rename_i rest
    refine ((proceeds_readString levels _ _ rest).bind fun name rest => ?_).of_suffix
      (List.suffix_cons '"' rest)
    have hrest := skipSpace_suffix rest
    dsimp only
    split
    · rename_i after hcolon
      rw [hcolon] at hrest
      have hafter := (skipSpace_suffix after).trans ((List.suffix_cons ':' after).trans hrest)
      refine ((ih.value levels _).bind fun v rest => ?_).of_suffix hafter
      have hrest := skipSpace_suffix rest
      dsimp only
      split
      · rename_i after hend
        rw [hend] at hrest
        exact proceeds_ok levels _ ((List.suffix_cons '\x7d' after).trans hrest)
      · rename_i after hcomma
        rw [hcomma] at hrest
        have hafter := (skipSpace_suffix after).trans ((List.suffix_cons ',' after).trans hrest)
        exact ((ih.members levels _).map fun members rest => rfl).of_suffix hafter
      · exact proceeds_stopAt levels rest _ _
    · exact proceeds_stopAt levels rest _ _
  · exact proceeds_stopAt levels cs _ _

lemma readersProceed (fuel : Nat) : ReadersProceed fuel := by
  induction fuel with
  | zero =>
    refine ⟨?_, ?_, ?_⟩
    · intro levels cs
      rw [readValue]
      exact proceeds_stopAt levels cs _ _
    · intro levels cs
      rw [readItems]
      exact proceeds_stopAt levels cs _ _
    · intro levels cs
      rw [readMembers]
      exact proceeds_stopAt levels cs _ _
  | succ fuel ih =>
    exact ⟨proceeds_readValue ih, proceeds_readItems ih, proceeds_readMembers ih⟩

/-! ## Documents -/

/-- The failure of a document at which the reader stops. -/
def Stop.failure (cs : List Char) : Stop → Failure
  | .flaw f left => .malformed (.locate f cs (cs.length - left))
  | .integerTooLong digits => .longInteger ⟨digits⟩
  | .tooDeep nesting => .tooDeep nesting

lemma parse_of_stop {stop : Stop} (hmark : cs.head? ≠ some (Char.ofNat 0xFEFF))
    (hread : readValue nestingLimit (2 * cs.length + 2) (skipSpace cs) = .error stop) :
    parse cs = .error (stop.failure cs) := by
  unfold parse
  simp only [if_neg hmark, hread]
  cases stop <;> rfl

/-- A document within the limits is read, or it is malformed. -/
theorem parse_of_isWithinLimits (h : IsWithinLimits cs) :
    (∃ v, parse cs = .ok v) ∨ ∃ m, parse cs = .error (.malformed m) := by
  by_cases hmark : cs.head? = some (Char.ofNat 0xFEFF)
  · unfold parse
    simp only [if_pos hmark]
    exact .inr ⟨_, rfl⟩
  · cases hread : readValue nestingLimit (2 * cs.length + 2) (skipSpace cs) with
    | error stop =>
      have hproceeds := ((readersProceed (2 * cs.length + 2)).value nestingLimit _).of_suffix
        (skipSpace_suffix cs)
      have hflaw := hproceeds.isFlaw stop hread h.openings_le h.runs
      rw [parse_of_stop hmark hread]
      cases stop with
      | flaw f left => exact .inr ⟨_, rfl⟩
      | integerTooLong digits => exact hflaw.elim
      | tooDeep nesting => exact hflaw.elim
    | ok read =>
      obtain ⟨v, rest⟩ := read
      unfold parse
      simp only [if_neg hmark, hread, Except.bind]
      cases skipSpace rest with
      | nil => exact .inl ⟨v, rfl⟩
      | cons c after => exact .inr ⟨_, rfl⟩

/-! ## Beyond the limits -/

/-- A character that is written over and over again is read from its first place on. -/
lemma parse_replicate {c : Char} {stop : Stop} {n : Nat} (hspace : isSpace c = false)
    (hmark : c ≠ Char.ofNat 0xFEFF)
    (hread : readValue nestingLimit (2 * (n + 1) + 2) (List.replicate (n + 1) c) = .error stop) :
    parse (List.replicate (n + 1) c) = .error (stop.failure (List.replicate (n + 1) c)) := by
  apply parse_of_stop
  · simpa [List.replicate_succ] using hmark
  · rw [List.length_replicate, ← hread, List.replicate_succ, skipSpace_cons hspace]

/-- An integer of one digit too many is too much for the reader. -/
theorem parse_ones {n : Nat} (h : integerDigitLimit < n) :
    parse (List.replicate n '1') = .error (.longInteger ⟨n⟩) := by
  have hdigit : isDigit '1' = true := by decide
  obtain ⟨m, rfl⟩ : ∃ m, n = m + 1 := ⟨n - 1, by omega⟩
  have hwhole : wholeDigits? (List.replicate (m + 1) '1')
      = some (List.replicate (m + 1) '1', []) := by
    simp [wholeDigits?, List.replicate_succ, hdigit]
  have hunsigned : readUnsigned false (List.replicate (m + 1) '1')
      = some (.error (.integerTooLong (m + 1))) := by
    simp [readUnsigned, hwhole, fractionDigits, exponent?, h]
  have hword : readWord? (List.replicate (m + 1) '1') = none :=
    readWord?_number ⟨'1', List.replicate m '1', hdigit, .inl List.replicate_succ⟩
  have hread : readValue nestingLimit (2 * (m + 1) + 2) (List.replicate (m + 1) '1')
      = .error (.integerTooLong (m + 1)) := by
    rw [List.replicate_succ] at hunsigned hword ⊢
    rw [readValue_scalar (by decide) (by decide), readScalar]
    · rw [hword, readNumber?_of_isDigit hdigit, hunsigned]
      rfl
    · rintro rest h
      exact absurd (List.cons.inj h).1 (by decide)
  exact parse_replicate rfl (by decide) hread

/-- Where so many levels are allowed, one more opening bracket is too much. -/
lemma readValue_brackets {levels fuel : Nat} (hfuel : 2 * levels < fuel) (n : Nat) :
    readValue levels fuel (List.replicate (levels + 1 + n) '[') = .error (.tooDeep .list) := by
  induction levels generalizing fuel with
  | zero =>
    obtain ⟨fuel, rfl⟩ : ∃ m, fuel = m + 1 := ⟨fuel - 1, by omega⟩
    have hlength : 0 + 1 + n = n + 1 := by omega
    rw [hlength, List.replicate_succ, readValue, if_pos rfl]
  | succ levels ih =>
    obtain ⟨fuel, rfl⟩ : ∃ m, fuel = m + 2 := ⟨fuel - 2, by omega⟩
    have hlength : levels + 1 + 1 + n = (levels + n + 1) + 1 := by omega
    have hinner : readValue levels fuel (List.replicate (levels + n + 1) '[')
        = .error (.tooDeep .list) := by
      have hcount : levels + n + 1 = levels + 1 + n := by omega
      rw [hcount]
      exact ih (by omega)
    rw [hlength, List.replicate_succ, readValue, if_neg (by omega), Nat.add_sub_cancel,
      List.replicate_succ, skipSpace_cons (by decide)]
    split
    · rename_i after hempty
      exact absurd (List.cons.inj hempty).1 (by decide)
    · rw [← List.replicate_succ, readItems, hinner]
      rfl

/-- One level too many of lists is too much. -/
theorem parse_brackets {n : Nat} (h : nestingLimit < n) :
    parse (List.replicate n '[') = .error (.tooDeep .list) := by
  obtain ⟨m, rfl⟩ : ∃ m, n = nestingLimit + 1 + m := ⟨n - (nestingLimit + 1), by omega⟩
  have hread : readValue nestingLimit (2 * (nestingLimit + 1 + m) + 2)
      (List.replicate (nestingLimit + 1 + m) '[') = .error (.tooDeep .list) :=
    readValue_brackets (by omega) m
  have hlength : nestingLimit + 1 + m = nestingLimit + m + 1 := by omega
  rw [hlength] at hread ⊢
  exact parse_replicate rfl (by decide) hread

end Shortlist.Json
