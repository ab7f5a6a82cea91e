import Shortlist.Proofs.Batch.Loading
import Shortlist.Proofs.Json.Limits

/-!
# What a file survives

Bad lines do not stand in the way of the others: a file is loaded with an error for each of them,
unless one of its lines breaks the reading off.  Then nothing is loaded at all, and the entries of
the lines before it are lost with those behind it (`ApplicationsFile.EndsAt`).

A line breaks off only if it is too much for the reader of values, with an integer of too many
digits or with lists and objects too deep inside one another, and so every line within the limits is
survived.  Both happen as soon as the limits are passed, to a line of nothing but digits
(`ApplicationsFile.breaksOff_ones_iff`) and to one of nothing but opening brackets
(`ApplicationsFile.breaksOff_brackets_iff`).
-/

namespace Shortlist.ApplicationsFile

variable {content : List Char} {fault : FileFault} {ls : List (Nat × List Char)}

/-- Files are read exactly if none of their lines breaks off. -/
lemma exists_gathers_iff :
    (∃ file, Gathers ls file) ↔ ∀ line ∈ ls, ∀ fault, ¬BreaksOff line.2 fault := by
  constructor
  · rintro ⟨file, hgathers⟩ line hline fault hbreaks
    obtain ⟨part, hpart⟩ := exists_readContents_iff.1 ⟨file, hgathers.readContents_eq⟩ line hline
    cases (readLine_of_breaksOff hbreaks 1).symm.trans hpart
  · intro h
    rcases gathers_or_endsAt ls with hgathers | ⟨fault, hends⟩
    · exact hgathers
    · obtain ⟨before, dropped, number, content, after, rfl, -, hbreaks⟩ := hends
      exact absurd hbreaks (h (number, content) (by simp) fault)

/-! ## Limits -/

/-- Whether a line breaks off, and with which fault, is a matter of what the reader of values comes
to. -/
lemma breaksOff_iff : BreaksOff content fault
    ↔ (∃ integer, Json.parse content = .error (.longInteger integer)
        ∧ fault = .longInteger integer)
      ∨ ∃ nesting, Json.parse content = .error (.tooDeep nesting) ∧ fault = .tooDeep nesting := by
  constructor
  · intro h
    cases h with
    | longInteger hparse => exact .inl ⟨_, hparse, rfl⟩
    | tooDeep hparse => exact .inr ⟨_, hparse, rfl⟩
  · rintro (⟨integer, hparse, rfl⟩ | ⟨nesting, hparse, rfl⟩)
    · exact .longInteger hparse
    · exact .tooDeep hparse

lemma not_breaksOff_of_isWithinLimits (h : Json.IsWithinLimits content) (fault : FileFault) :
    ¬BreaksOff content fault := by
  rw [breaksOff_iff]
  rcases Json.parse_of_isWithinLimits h with ⟨v, hparse⟩ | ⟨m, hparse⟩
  · simp [hparse]
  · simp [hparse]

/-- A line of digits breaks off exactly if an integer may not have so many. -/
theorem breaksOff_ones_iff {n : Nat} :
    BreaksOff (List.replicate n '1') fault ↔ integerDigitLimit < n ∧ fault = .longInteger ⟨n⟩ := by
  by_cases hlimit : integerDigitLimit < n
  · rw [breaksOff_iff, Json.parse_ones hlimit]
    simp [hlimit]
  · have hwithin : Json.IsWithinLimits (List.replicate n '1') := by
      constructor
      · simp [Json.openings, List.countP_replicate]
      · intro ds hds _
        have hlength := hds.length_le
        rw [List.length_replicate] at hlength
        omega
    simp [not_breaksOff_of_isWithinLimits hwithin, hlimit]

/-- A line of opening brackets breaks off exactly if so many levels are not allowed. -/
theorem breaksOff_brackets_iff {n : Nat} :
    BreaksOff (List.replicate n '[') fault ↔ Json.nestingLimit < n ∧ fault = .tooDeep .list := by
  by_cases hlimit : Json.nestingLimit < n
  · rw [breaksOff_iff, Json.parse_brackets hlimit]
    simp [hlimit]
  · have hwithin : Json.IsWithinLimits (List.replicate n '[') := by
      apply Json.isWithinLimits_of_length_le
      rw [List.length_replicate]
      omega
    simp [not_breaksOff_of_isWithinLimits hwithin, hlimit]

/-! ## Files -/

/-- What loading survives, for every text.  It comes back exactly if no line breaks off, and always
if the lines are within the limits; then it has the entry of every good line and one error for every
bad one.  Otherwise it ends with the fault of the first line that breaks off, and nothing else ends
it.  The limits are sharp, for digits (`breaksOff_ones_iff`) as for brackets
(`breaksOff_brackets_iff`). -/
theorem read_survives (t : List Char) :
    (∀ file, read (Text.encodeUtf8 t) = .ok file ↔ Gathers (linesOf t) file)
    ∧ ((∃ file, read (Text.encodeUtf8 t) = .ok file)
      ↔ ∀ line ∈ linesOf t, ∀ fault, ¬BreaksOff line.2 fault)
    ∧ ((∀ line ∈ linesOf t, Json.IsWithinLimits line.2) → ∃ file, Gathers (linesOf t) file)
    ∧ ∀ fault, read (Text.encodeUtf8 t) = .error fault ↔ EndsAt (linesOf t) fault := by
  rw [read_encodeUtf8]
  refine ⟨fun file => readContents_eq_ok_iff, ?_, ?_, fun fault => readContents_eq_error_iff⟩
  · simp only [readContents_eq_ok_iff, exists_gathers_iff]
  · intro h
    apply exists_gathers_iff.2
    intro line hline
    exact not_breaksOff_of_isWithinLimits (h line hline)

/-- An open list and an empty object: both lines are within the limits. -/
theorem read_survives_pair :
    (∃ file, read (Text.encodeUtf8 ['[', '\n', '\x7b', '\x7d']) = .ok file)
      ∧ ∃ file, Gathers (linesOf ['[', '\n', '\x7b', '\x7d']) file := by
  have hlines : linesOf ['[', '\n', '\x7b', '\x7d'] = [(1, ['[']), (2, ['\x7b', '\x7d'])] := by rfl
  have hwithin : ∀ line ∈ linesOf ['[', '\n', '\x7b', '\x7d'], Json.IsWithinLimits line.2 := by
    intro line hline
    rw [hlines] at hline
    apply Json.isWithinLimits_of_length_le
    rcases List.mem_pair.1 hline with rfl | rfl
    · decide
    · decide
  obtain ⟨hread, -, hgathered, -⟩ := read_survives ['[', '\n', '\x7b', '\x7d']
  obtain ⟨file, hgathers⟩ := hgathered hwithin
  exact ⟨⟨file, (hread file).2 hgathers⟩, file, hgathers⟩

end Shortlist.ApplicationsFile
