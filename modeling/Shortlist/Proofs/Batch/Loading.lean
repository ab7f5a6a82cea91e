import Shortlist.Proofs.Batch.Lines
import Shortlist.Proofs.Schema.Completion
import Shortlist.Proofs.Text.LineEnds
import Shortlist.Proofs.Text.Utf8

/-!
# Loading line by line

What a line of a file of applications comes to depends on its content alone: it holds an entry
(`BatchEntry.IsHeldBy`), it has a flaw (`LineFlaw.IsOf`), or it breaks the reading of the file off
(`ApplicationsFile.BreaksOff`).  A file that is read has the entries and the flaws of its lines, one
for each and in their order (`ApplicationsFile.Gathers`), and nothing is carried over from one line
to the next.  Otherwise the first line that breaks off decides (`ApplicationsFile.EndsAt`).

So files can be put together.  What is loaded from two texts, the first of which ends with a line,
is what is loaded from the first and then what is loaded from the second, with the numbers of its
lines moved up; see `ApplicationsFile.read_append`.
-/

namespace Shortlist

variable {content : List Char} {entry : BatchEntry} {flaw : LineFlaw} {fault : FileFault}

/-! ## What is on a line -/

/-- The line is the text of an object that reads as the entry. -/
def BatchEntry.IsHeldBy (entry : BatchEntry) (content : List Char) : Prop :=
  ∃ es, Json.parse content = .ok (.mapping es) ∧ BatchEntry.read (.mapping es) = .accepted entry

/-- The line has the flaw: it is no text of a value, its value is no object, or its object has
issues. -/
inductive LineFlaw.IsOf (content : List Char) : LineFlaw → Prop where
  | malformed {m : Json.Malformed} (hparse : Json.parse content = .error (.malformed m)) :
    IsOf content (.malformed m)
  | notObject {v : Value} (hparse : Json.parse content = .ok v) (hother : ∀ es, v ≠ .mapping es) :
    IsOf content .notObject
  | issues {es : Entries} {issues : List Issue} (hparse : Json.parse content = .ok (.mapping es))
    (hread : BatchEntry.read (.mapping es) = .refused issues) : IsOf content (.issues issues.length)

namespace ApplicationsFile

variable {number : Nat} {rest ls ms : List (Nat × List Char)} {file first second : ApplicationsFile}

/-- The line breaks the reading of its file off: it is too much for the reader of values. -/
inductive BreaksOff (content : List Char) : FileFault → Prop where
  | longInteger {integer : LongInteger}
    (hparse : Json.parse content = .error (.longInteger integer)) :
    BreaksOff content (.longInteger integer)
  | tooDeep {nesting : Json.Nesting} (hparse : Json.parse content = .error (.tooDeep nesting)) :
    BreaksOff content (.tooDeep nesting)

lemma readLine_of_isHeldBy (h : entry.IsHeldBy content) (number : Nat) :
    readLine number content = .ok ⟨[entry], []⟩ := by
  obtain ⟨es, hparse, hread⟩ := h
  unfold readLine
  simp only [hparse, hread]

lemma readLine_of_isOf (h : flaw.IsOf content) (number : Nat) :
    readLine number content = .ok ⟨[], [⟨number, flaw⟩]⟩ := by
  unfold readLine
  cases h with
  | malformed hparse => simp only [hparse]
  | issues hparse hread => simp only [hparse, hread]
  | @notObject v hparse hother =>
    cases v with
    | mapping es => exact absurd rfl (hother es)
    | _ => simp only [hparse]

lemma readLine_of_breaksOff (h : BreaksOff content fault) (number : Nat) :
    readLine number content = .error fault := by
  unfold readLine
  cases h with
  | longInteger hparse => simp only [hparse]
  | tooDeep hparse => simp only [hparse]

/-- A line holds an entry, has a flaw, or breaks the reading off; there is nothing else to it. -/
lemma entry_or_flaw_or_breaksOff (content : List Char) :
    (∃ entry : BatchEntry, entry.IsHeldBy content) ∨ (∃ flaw, LineFlaw.IsOf content flaw)
      ∨ ∃ fault, BreaksOff content fault := by
  cases hparse : Json.parse content with
  | error failure =>
    cases failure with
    | malformed m => exact .inr (.inl ⟨_, .malformed hparse⟩)
    | longInteger integer => exact .inr (.inr ⟨_, .longInteger hparse⟩)
    | tooDeep nesting => exact .inr (.inr ⟨_, .tooDeep hparse⟩)
  | ok v =>
    by_cases hobject : ∃ es, v = .mapping es
    · obtain ⟨es, rfl⟩ := hobject
      rcases (BatchEntry.completes_read (.mapping es)).accepted_or_refused with
        ⟨entry, hread⟩ | ⟨issues, hread⟩
      · exact .inl ⟨entry, es, hparse, hread⟩
      · exact .inr (.inl ⟨_, .issues hparse hread⟩)
    · have hother : ∀ es, v ≠ .mapping es := fun es heq => hobject ⟨es, heq⟩
      exact .inr (.inl ⟨_, .notObject hparse hother⟩)

/-! ## What lines come to -/

/-- The file gathers the lines: in their order, each gives the entry that it holds, or its flaw with
its number. -/
inductive Gathers : List (Nat × List Char) → ApplicationsFile → Prop where
  | nil : Gathers [] empty
  | entry {number : Nat} {content : List Char} {rest : List (Nat × List Char)}
    {file : ApplicationsFile} {entry : BatchEntry} (hheld : entry.IsHeldBy content)
    (hrest : Gathers rest file) :
    Gathers ((number, content) :: rest) ⟨entry :: file.entries, file.errors⟩
  | error {number : Nat} {content : List Char} {rest : List (Nat × List Char)}
    {file : ApplicationsFile} {flaw : LineFlaw} (hflaw : flaw.IsOf content)
    (hrest : Gathers rest file) :
    Gathers ((number, content) :: rest) ⟨file.entries, ⟨number, flaw⟩ :: file.errors⟩

/-- Each line gives an entry or an error, and not both. -/
lemma Gathers.length_eq (h : Gathers ls file) :
    ls.length = file.entries.length + file.errors.length := by
  induction h with
  | nil => rfl
  | entry hheld hrest ih =>
    simp only [List.length_cons, ih]
    omega
  | error hflaw hrest ih =>
    simp only [List.length_cons, ih]
    omega

lemma Gathers.append (hfirst : Gathers ls first) (hsecond : Gathers ms second) :
    Gathers (ls ++ ms) (first.append second) := by
  induction hfirst with
  | nil => exact hsecond
  | entry hheld _ ih => exact .entry hheld ih
  | error hflaw _ ih => exact .error hflaw ih

lemma append_empty (file : ApplicationsFile) : file.append empty = file := by
  show (⟨file.entries ++ [], file.errors ++ []⟩ : ApplicationsFile) = file
  rw [List.append_nil, List.append_nil]

/-- Lines that have been gathered go before what the lines behind them come to. -/
lemma Gathers.readContents_append (h : Gathers ls file) (rest : List (Nat × List Char)) :
    readContents (ls ++ rest) = (readContents rest).map file.append := by
  induction h with
  | nil =>
    rw [List.nil_append]
    cases readContents rest <;> rfl
  | entry hheld _ ih =>
    rw [List.cons_append, readContents, readLine_of_isHeldBy hheld, ih]
    cases readContents rest <;> rfl
  | error hflaw _ ih =>
    rw [List.cons_append, readContents, readLine_of_isOf hflaw, ih]
    cases readContents rest <;> rfl

lemma Gathers.readContents_eq (h : Gathers ls file) : readContents ls = .ok file := by
  have hread := h.readContents_append []
  rw [List.append_nil] at hread
  rw [hread]
  exact congrArg Except.ok (append_empty file)

/-- A line that does not break off is gathered with the others. -/
lemma Gathers.exists_cons (h : Gathers rest file) (hline : ∀ fault, ¬BreaksOff content fault)
    (number : Nat) : ∃ all, Gathers ((number, content) :: rest) all := by
  rcases entry_or_flaw_or_breaksOff content with ⟨entry, hheld⟩ | ⟨flaw, hflaw⟩ | ⟨fault, hbreaks⟩
  · exact ⟨_, .entry hheld h⟩
  · exact ⟨_, .error hflaw h⟩
  · exact absurd hbreaks (hline fault)

/-! ## Lines that break off -/

/-- Reading ends at a line that breaks off.  What the lines before it came to is dropped. -/
def EndsAt (ls : List (Nat × List Char)) (fault : FileFault) : Prop :=
  ∃ before dropped number content after, ls = before ++ (number, content) :: after
    ∧ Gathers before dropped ∧ BreaksOff content fault

lemma EndsAt.cons (h : EndsAt rest fault) (hline : ∀ fault, ¬BreaksOff content fault)
    (number : Nat) : EndsAt ((number, content) :: rest) fault := by
  obtain ⟨before, dropped, further, last, after, rfl, hgathers, hbreaks⟩ := h
  obtain ⟨all, hall⟩ := hgathers.exists_cons hline number
  exact ⟨(number, content) :: before, all, further, last, after, rfl, hall, hbreaks⟩

lemma EndsAt.readContents_eq (h : EndsAt ls fault) : readContents ls = .error fault := by
  obtain ⟨before, dropped, number, content, after, rfl, hgathers, hbreaks⟩ := h
  rw [hgathers.readContents_append, readContents, readLine_of_breaksOff hbreaks]
  rfl

/-- Lines are gathered, or one of them is the first to break off. -/
lemma gathers_or_endsAt (ls : List (Nat × List Char)) :
    (∃ file, Gathers ls file) ∨ ∃ fault, EndsAt ls fault := by
  induction ls with
  | nil => exact .inl ⟨empty, .nil⟩
  | cons line rest ih =>
    obtain ⟨number, content⟩ := line
    by_cases hline : ∃ fault, BreaksOff content fault
    · obtain ⟨fault, hbreaks⟩ := hline
      exact .inr ⟨fault, [], empty, number, content, rest, rfl, .nil, hbreaks⟩
    · have hline' : ∀ fault, ¬BreaksOff content fault := not_exists.1 hline
      rcases ih with ⟨file, hrest⟩ | ⟨fault, hends⟩
      · exact .inl (hrest.exists_cons hline' number)
      · exact .inr ⟨fault, hends.cons hline' number⟩

/-- Lines are read exactly if they are gathered, and then the file is what they come to. -/
lemma readContents_eq_ok_iff : readContents ls = .ok file ↔ Gathers ls file := by
  constructor
  · intro h
    rcases gathers_or_endsAt ls with ⟨gathered, hgathers⟩ | ⟨fault, hends⟩
    · cases h.symm.trans hgathers.readContents_eq
      exact hgathers
    · cases h.symm.trans hends.readContents_eq
  · exact Gathers.readContents_eq

lemma readContents_eq_error_iff : readContents ls = .error fault ↔ EndsAt ls fault := by
  constructor
  · intro h
    rcases gathers_or_endsAt ls with ⟨gathered, hgathers⟩ | ⟨fault', hends⟩
    · cases h.symm.trans hgathers.readContents_eq
    · cases h.symm.trans hends.readContents_eq
      exact hends
  · exact EndsAt.readContents_eq

end ApplicationsFile

/-! ## Moving lines down -/

/-- The error at a line that stands further down. -/
def LineError.shift (k : Nat) (e : LineError) : LineError := { e with line := e.line + k }

namespace ApplicationsFile

/-- What the same lines come to when they stand further down. -/
def shift (k : Nat) (file : ApplicationsFile) : ApplicationsFile :=
  { file with errors := file.errors.map (·.shift k) }

lemma Gathers.shift (h : Gathers ls file) (k : Nat) :
    Gathers (ls.map fun line => (line.1 + k, line.2)) (file.shift k) := by
  induction h with
  | nil => exact .nil
  | entry hheld _ ih => exact .entry hheld ih
  | error hflaw _ ih => exact .error hflaw ih

/-! ## Texts -/

/-- The lines of a text that hold more than blanks, with their numbers; lines of blanks are
counted. -/
def linesOf (t : List Char) : List (Nat × List Char) := Text.contentLines 1 (Text.splitLines t)

lemma read_encodeUtf8 (t : List Char) :
    read (Text.encodeUtf8 t) = readContents (linesOf t) := by
  have hdecoded : Text.decodeUtf8 (Text.encodeUtf8 t) = ⟨t, none⟩ := Text.decodeUtf8_encodeUtf8 t
  have hlines : Text.readLines (Text.encodeUtf8 t) = ⟨Text.splitLines t, none⟩ := by
    rw [Text.readLines_of_fault_eq_none (by rw [hdecoded]), hdecoded]
  rw [read, hlines]
  exact bind_pure (readContents (linesOf t))

/-- Behind a text that ends with a line, the lines of another are moved down by as many lines as the
first one has. -/
lemma linesOf_append {a : List Char} (ha : Text.IsClosed a) (b : List Char) :
    linesOf (a ++ b)
      = linesOf a ++ (linesOf b).map fun line => (line.1 + Text.lineEnds a, line.2) := by
  rw [linesOf, Text.splitLines_append ha, Text.contentLines_append, Text.length_splitLines ha,
    Text.contentLines_add]
  rfl

/-- Loading is local to the lines.  What is loaded from two texts, the first of which ends with a
line, is what is loaded from the first and then what is loaded from the second, the errors moved
down by the number of lines of the first.  What is loaded from any text is gathered from its lines:
each that is not blank gives one entry or one error. -/
theorem read_append :
    (∀ (a b : List Char) (first second : ApplicationsFile), Text.IsClosed a →
      read (Text.encodeUtf8 a) = .ok first → read (Text.encodeUtf8 b) = .ok second →
      read (Text.encodeUtf8 (a ++ b)) = .ok (first.append (second.shift (Text.lineEnds a))))
    ∧ ∀ (t : List Char) (file : ApplicationsFile), read (Text.encodeUtf8 t) = .ok file →
      Gathers (linesOf t) file
      ∧ (linesOf t).length = file.entries.length + file.errors.length := by
  constructor
  · intro a b first second ha hfirst hsecond
    rw [read_encodeUtf8, readContents_eq_ok_iff] at hfirst hsecond ⊢
    rw [linesOf_append ha]
    exact hfirst.append (hsecond.shift _)
  · intro t file h
    rw [read_encodeUtf8, readContents_eq_ok_iff] at h
    exact ⟨h, h.length_eq⟩

/-- A blank line and an empty object, and a list behind them: the list stands on the third line. -/
theorem read_append_pair :
    read (Text.encodeUtf8 (['\r', '\n', '\x7b', '\x7d', '\n'] ++ ['[', ']']))
        = .ok ⟨[⟨none, none, {}⟩], [⟨3, .notObject⟩]⟩
      ∧ Gathers (linesOf ['[', ']']) ⟨[], [⟨1, .notObject⟩]⟩
      ∧ (linesOf ['[', ']']).length = 1 := by
  have hfirst : read (Text.encodeUtf8 ['\r', '\n', '\x7b', '\x7d', '\n'])
      = .ok ⟨[⟨none, none, {}⟩], []⟩ := by rfl
  have hsecond : read (Text.encodeUtf8 ['[', ']']) = .ok ⟨[], [⟨1, .notObject⟩]⟩ := by rfl
  have hclosed : Text.IsClosed ['\r', '\n', '\x7b', '\x7d', '\n'] := .inr rfl
  refine ⟨read_append.1 _ _ _ _ hclosed hfirst hsecond, ?_⟩
  exact read_append.2 _ _ hsecond

end ApplicationsFile

end Shortlist
