import Shortlist.Proofs.Store.Collection

/-!
# Files that cannot be read

Every operation on a collection in a file reads the whole file.  If each line that is not blank
holds a record, the operation answers from these records (`Collection.AnswersFrom`).  Otherwise the
first line that holds none decides: every operation ends in the same way, and nothing is changed
(`Collection.EndsWith`).

A line can fail in two ways.  What is no JSON text or reads as no record is a flaw, which is
reported with the number of the line (`Record.HasFlaw`).  An integer that is too long, values that
are too deep, and an interval between durations break the reading off (`Record.BreaksOff`); then
nothing is said about the line.
-/

namespace Shortlist

namespace Record

variable {α : Type} [Record α] {line : List Char} {a : α} {flaw : RecordFlaw} {fault : FileFault}

/-! ## Lines -/

/-- A line holds a record if the text between the blanks around it is the JSON text of a value that
reads as the record. -/
def IsHeldBy (a : α) (line : List Char) : Prop :=
  ∃ v, Json.parse (Text.trim line) = .ok v ∧ Record.read v = .accepted a

/-- A line that does not stand in the way of reading: it is blank or holds a record. -/
def IsReadable (α : Type) [Record α] (line : List Char) : Prop :=
  Text.trim line = [] ∨ ∃ a : α, IsHeldBy a line

/-- A flaw of a line that is reported: its text is no JSON text, or its value reads as no record. -/
inductive HasFlaw (α : Type) [Record α] (line : List Char) : RecordFlaw → Prop where
  | malformed {m : Json.Malformed} (hparse : Json.parse (Text.trim line) = .error (.malformed m)) :
    HasFlaw α line (.malformed m)
  | issues {v : Value} {issues : List Issue} (hparse : Json.parse (Text.trim line) = .ok v)
    (hread : (Record.read v : Check α) = .refused issues) :
    HasFlaw α line (.issues issues.length (Record.modelName α))

/-- A line that breaks the reading of its file off. -/
inductive BreaksOff (α : Type) [Record α] (line : List Char) : FileFault → Prop where
  | longInteger {integer : LongInteger}
    (hparse : Json.parse (Text.trim line) = .error (.longInteger integer)) :
    BreaksOff α line (.longInteger integer)
  | tooDeep {nesting : Json.Nesting}
    (hparse : Json.parse (Text.trim line) = .error (.tooDeep nesting)) :
    BreaksOff α line (.tooDeep nesting)
  | durationPair {v : Value} {pair : DurationPair} (hparse : Json.parse (Text.trim line) = .ok v)
    (hread : (Record.read v : Check α) = .broken pair) :
    BreaksOff α line (.durationPair pair)

lemma readLine_of_isHeldBy (h : IsHeldBy a line) (name : String) (number : Nat) :
    RecordFile.readLine name number (Text.trim line) = .ok a := by
  obtain ⟨v, hparse, hread⟩ := h
  rw [RecordFile.readLine, hparse]
  dsimp only
  rw [hread]

lemma readLine_of_hasFlaw (h : HasFlaw α line flaw) (name : String) (number : Nat) :
    RecordFile.readLine (α := α) name number (Text.trim line)
      = .error (.unreadable name number flaw) := by
  cases h with
  | malformed hparse => rw [RecordFile.readLine, hparse]
  | issues hparse hread =>
    rw [RecordFile.readLine, hparse]
    dsimp only
    rw [hread]

lemma readLine_of_breaksOff (h : BreaksOff α line fault) (name : String) (number : Nat) :
    RecordFile.readLine (α := α) name number (Text.trim line) = .error (.file fault) := by
  cases h with
  | longInteger hparse => rw [RecordFile.readLine, hparse]
  | tooDeep hparse => rw [RecordFile.readLine, hparse]
  | durationPair hparse hread =>
    rw [RecordFile.readLine, hparse]
    dsimp only
    rw [hread]

/-- A line holds a record, has a flaw, or breaks the reading off. -/
lemma holds_or_fails (α : Type) [Record α] (line : List Char) :
    (∃ a : α, IsHeldBy a line) ∨ (∃ flaw, HasFlaw α line flaw)
      ∨ ∃ fault, BreaksOff α line fault := by
  cases hparse : Json.parse (Text.trim line) with
  | error failure =>
    cases failure with
    | malformed m => exact .inr (.inl ⟨_, .malformed hparse⟩)
    | longInteger integer => exact .inr (.inr ⟨_, .longInteger hparse⟩)
    | tooDeep nesting => exact .inr (.inr ⟨_, .tooDeep hparse⟩)
  | ok v =>
    cases hread : (Record.read v : Check α) with
    | accepted a => exact .inl ⟨a, v, hparse, hread⟩
    | refused issues => exact .inr (.inl ⟨_, .issues hparse hread⟩)
    | broken pair => exact .inr (.inr ⟨_, .durationPair hparse hread⟩)

end Record

namespace RecordFile

variable {α : Type} [Record α] {f : RecordFile α} {number : Nat} {ls : List (List Char)}

/-- The lines of a file, the blank ones among them. -/
def lines (f : RecordFile α) : List (List Char) :=
  Text.splitLines (Text.decodeUtf8 f.bytes).chars

/-- A file that decodes is read line by line. -/
lemma toList_eq_readLines (hvalid : (Text.decodeUtf8 f.bytes).fault = none) :
    f.toList = f.readLines (Text.contentLines 1 f.lines) := by
  obtain ⟨name, content⟩ := f
  cases content with
  | none => rfl
  | some content =>
    have hreading : Text.readLines content
        = ⟨Text.splitLines (Text.decodeUtf8 content).chars, none⟩ :=
      Text.readLines_of_fault_eq_none hvalid
    have hbind (outcome : Except StoreFault (List α)) : outcome.bind .ok = outcome := by
      cases outcome <;> rfl
    rw [toList_some, hreading]
    exact hbind _

lemma readLines_contentLines_cons (f : RecordFile α) (number : Nat) (line : List Char) :
    f.readLines (Text.contentLines number (line :: ls))
      = if Text.trim line = [] then f.readLines (Text.contentLines (number + 1) ls)
        else (readLine f.name number (Text.trim line)).bind fun a =>
          (f.readLines (Text.contentLines (number + 1) ls)).map (a :: ·) := by
  rw [Text.contentLines]
  split
  · rfl
  · rw [readLines, List.mapM_cons]
    rfl

/-- Lines of which none stands in the way are read as their records. -/
lemma exists_readLines (f : RecordFile α) (number : Nat)
    (h : ∀ line ∈ ls, Record.IsReadable α line) :
    ∃ records, f.readLines (Text.contentLines number ls) = .ok records
      ∧ List.Forall₂ (fun line (a : α) => Record.IsHeldBy a line)
          (ls.filter fun line => Text.trim line ≠ []) records := by
  induction ls generalizing number with
  | nil => exact ⟨[], rfl, .nil⟩
  | cons line rest ih =>
    obtain ⟨hline, hrest⟩ := List.forall_mem_cons.1 h
    obtain ⟨records, hrecords, hheld⟩ := ih (number + 1) hrest
    rw [readLines_contentLines_cons]
    by_cases hblank : Text.trim line = []
    · refine ⟨records, (if_pos hblank).trans hrecords, ?_⟩
      rw [List.filter_cons_of_neg (by simpa using hblank)]
      exact hheld
    · obtain ⟨a, ha⟩ := hline.resolve_left hblank
      refine ⟨a :: records, ?_, ?_⟩
      · rw [if_neg hblank, Record.readLine_of_isHeldBy ha, Except.bind, hrecords]
        rfl
      · rw [List.filter_cons_of_pos (by simpa using hblank)]
        exact .cons ha hheld

/-- The first line that stands in the way decides how the reading ends. -/
lemma readLines_eq_error {before after : List (List Char)} {line : List Char} {fault : StoreFault}
    (f : RecordFile α) (number : Nat) (hbefore : ∀ l ∈ before, Record.IsReadable α l)
    (hfilled : Text.trim line ≠ [])
    (hline : readLine (α := α) f.name (number + before.length) (Text.trim line) = .error fault) :
    f.readLines (Text.contentLines number (before ++ line :: after)) = .error fault := by
  -- over the readable lines before it, which only count the number up
  induction before generalizing number with
  | nil =>
    rw [List.nil_append, readLines_contentLines_cons, if_neg hfilled]
    rw [List.length_nil, Nat.add_zero] at hline
    rw [hline]
    rfl
  | cons first rest ih =>
    obtain ⟨hfirst, hrest⟩ := List.forall_mem_cons.1 hbefore
    have hnumber : number + (rest.length + 1) = number + 1 + rest.length := by omega
    rw [List.length_cons, hnumber] at hline
    have hfails := ih (number + 1) hrest hline
    rw [List.cons_append, readLines_contentLines_cons, hfails]
    rcases hfirst with hblank | ⟨a, ha⟩
    · exact if_pos hblank
    · split
      · rfl
      · rw [Record.readLine_of_isHeldBy ha]
        rfl

end RecordFile

/-! ## Operations -/

namespace Collection

/-- What a collection can be asked to do. -/
inductive Operation (α : Type) where
  | insert (a : α)
  | list (condition : Option (α → Bool))
  | get (id : Text)
  | size

/-- What a collection answers. -/
inductive Answer (α : Type) where
  | inserted (a : α)
  | records (records : List α)
  | found (a : Option α)
  | number (n : Nat)

variable {α : Type} [Record α] {p : Path} {files : Tree} {content : Option Text.Bytes}
  {records : List α} {fault : StoreFault}

/-- The answer to an operation, or why there is none, and what is left of the collection and the
files. -/
def perform (c : Collection α) (files : Tree) :
    Operation α → Except StoreFault (Answer α) × Collection α × Tree
  | .insert a =>
    match c.insert files a with
    | .ok (c', files') => (.ok (.inserted a), c', files')
    | .error fault => (.error fault, c, files)
  | .list none => ((c.toList files).map .records, c, files)
  | .list (some condition) => ((c.filter files condition).map .records, c, files)
  | .get id => ((c.get? files id).map .found, c, files)
  | .size => ((c.size files).map .number, c, files)

/-- An operation gets as far as the file: it adds no record that has no line. -/
def Operation.LooksAtFile : Operation α → Prop
  | .insert a => Record.lineFault? a = none
  | _ => True

/-- The collection in a file answers from records.  A record that has no line is not added, nor is
one whose id is taken; any other one is added at the end of the file. -/
structure AnswersFrom (p : Path) (files : Tree) (content : Option Text.Bytes) (records : List α) :
    Prop where
  list : (Collection.file p).perform files (.list none) = (.ok (.records records), .file p, files)
  filter : ∀ condition, (Collection.file p).perform files (.list (some condition))
    = (.ok (.records (records.filter condition)), .file p, files)
  get : ∀ id, (Collection.file p).perform files (.get id)
    = (.ok (.found (records.find? fun a => Record.id a = id)), .file p, files)
  size : (Collection.file (α := α) p).perform files .size
    = (.ok (.number records.length), .file p, files)
  noLine : ∀ (a : α) fault, Record.lineFault? a = some fault →
    (Collection.file p).perform files (.insert a) = (.error (.noLine fault), .file p, files)
  duplicate : ∀ a : α, Record.lineFault? a = none → (∃ r ∈ records, Record.id r = Record.id a) →
    (Collection.file p).perform files (.insert a)
      = (.error (.duplicate (Record.id a)), .file p, files)
  insert : ∀ a : α, Record.lineFault? a = none → (∀ r ∈ records, Record.id r ≠ Record.id a) →
    ∃ files', (Collection.file p).perform files (.insert a) = (.ok (.inserted a), .file p, files')
      ∧ files'.readIfThere p
        = .ok (some (content.getD [] ++ Text.lineBytes (Record.lineChars a)))

/-- Every operation that gets as far as the file ends with a fault; nothing is changed, and nothing
is changed by the others either. -/
structure EndsWith (α : Type) [Record α] (p : Path) (files : Tree) (fault : StoreFault) : Prop where
  fails : ∀ op : Operation α, op.LooksAtFile →
    (Collection.file p).perform files op = (.error fault, .file p, files)
  noLine : ∀ (a : α) fault, Record.lineFault? a = some fault →
    (Collection.file p).perform files (.insert a) = (.error (.noLine fault), .file p, files)

lemma perform_insert_of_noLine (p : Path) (files : Tree) {a : α} {fault : Value.PlainFault}
    (h : Record.lineFault? a = some fault) :
    (Collection.file p).perform files (.insert a) = (.error (.noLine fault), .file p, files) := by
  have hline : Record.lineBytes? a = .error (.noLine fault) := by rw [Record.lineBytes?, h]
  rw [perform, Collection.insert, hline]
  rfl

lemma lineBytes?_of_line {a : α} (h : Record.lineFault? a = none) :
    Record.lineBytes? a = .ok (Text.lineBytes (Record.lineChars a)) :=
  Record.lineBytes?_eq_ok.2 ⟨h, rfl⟩

lemma append_of_taken {f : RecordFile α} {id : Text} {line : Text.Bytes}
    (h : f.toList = .ok records) (htaken : ∃ r ∈ records, Record.id r = id) :
    f.append id line = .error (.duplicate id) := by
  have hany : records.any (fun r => Record.id r = id) = true := by simpa using htaken
  rw [RecordFile.append, h]
  simp only [bind, Except.bind]
  rw [if_pos hany]
  rfl

/-- A collection in a file that can be read answers from the records in it. -/
lemma answersFrom_of_toList (hroom : files.HasRoom p) (hread : files.readIfThere p = .ok content)
    (h : (fileOf (α := α) p content).toList = .ok records) :
    AnswersFrom p files content records := by
  have hload : RecordFile.load (α := α) files p = .ok (fileOf p content) := load_eq hread
  constructor
  · rw [perform, toList_file hread, h]
    rfl
  · intro condition
    rw [perform, Collection.filter, hload]
    simp only [bind, Except.bind]
    rw [RecordFile.filter, h]
    rfl
  · intro id
    rw [perform, Collection.get?, hload]
    simp only [bind, Except.bind]
    rw [RecordFile.get?, h]
    rfl
  · rw [perform, Collection.size, hload]
    simp only [bind, Except.bind]
    rw [RecordFile.size, h]
    rfl
  · intro a fault hfault
    exact perform_insert_of_noLine p files hfault
  · intro a hline htaken
    rw [perform, insert_file hread, lineBytes?_of_line hline, Except.bind, append_of_taken h htaken]
    rfl
  · intro a hline hnew
    have happend : (fileOf (α := α) p content).append (Record.id a)
        (Text.lineBytes (Record.lineChars a))
          = .ok ((fileOf (α := α) p content).addLine (Text.lineBytes (Record.lineChars a))) :=
      RecordFile.append_eq_ok.2 ⟨records, h, hnew, rfl⟩
    have hwrite := hroom.write (content.getD [] ++ Text.lineBytes (Record.lineChars a))
    refine ⟨_, ?_, Tree.readIfThere_write hwrite⟩
    rw [perform, insert_file hread, lineBytes?_of_line hline, Except.bind, happend, Except.bind,
      save_addLine, RecordFile.bytes, fileOf, hwrite]
    rfl

/-- A collection in a file that cannot be read ends every operation alike. -/
lemma endsWith_of_toList (hread : files.readIfThere p = .ok content)
    (h : (fileOf (α := α) p content).toList = .error fault) : EndsWith α p files fault := by
  have hload : RecordFile.load (α := α) files p = .ok (fileOf p content) := load_eq hread
  refine ⟨fun op hop => ?_, fun a fault hfault => perform_insert_of_noLine p files hfault⟩
  cases op with
  | insert a =>
    rw [perform, insert_file hread, lineBytes?_of_line hop, Except.bind, RecordFile.append, h]
    rfl
  | list condition =>
    cases condition with
    | none =>
      rw [perform, toList_file hread, h]
      rfl
    | some condition =>
      rw [perform, Collection.filter, hload]
      simp only [bind, Except.bind]
      rw [RecordFile.filter, h]
      rfl
  | get id =>
    rw [perform, Collection.get?, hload]
    simp only [bind, Except.bind]
    rw [RecordFile.get?, h]
    rfl
  | size =>
    rw [perform, Collection.size, hload]
    simp only [bind, Except.bind]
    rw [RecordFile.size, h]
    rfl

lemma EndsWith.eq {fault' : StoreFault} (h : EndsWith α p files fault)
    (h' : EndsWith α p files fault') : fault = fault' := by
  have hsize := (h.fails .size trivial).symm.trans (h'.fails .size trivial)
  exact Except.error.inj (Prod.mk.inj hsize).1

/-- A collection in a file of text answers from the records of the lines, if each line is blank or
holds one.  Otherwise every operation ends alike and changes nothing: the first line that is neither
is reported, with its flaw and its number, unless it is one that breaks the reading off.  Then, and
only then, the fault is another one. -/
theorem perform_reports_flaw (hroom : files.HasRoom p) (hread : files.readIfThere p = .ok content)
    (hvalid : (Text.decodeUtf8 (content.getD [])).fault = none) :
    ((∀ line ∈ (fileOf (α := α) p content).lines, Record.IsReadable α line) →
      ∃ records : List α, AnswersFrom p files content records
        ∧ List.Forall₂ (fun line a => Record.IsHeldBy a line)
            ((fileOf (α := α) p content).lines.filter fun line => Text.trim line ≠ []) records)
    ∧ ∀ before line after, (fileOf (α := α) p content).lines = before ++ line :: after →
      (∀ l ∈ before, Record.IsReadable α l) → ¬Record.IsReadable α line →
        ((∃ flaw, Record.HasFlaw α line flaw
            ∧ EndsWith α p files (.unreadable p.lastName (before.length + 1) flaw))
          ↔ ¬∃ fault, Record.BreaksOff α line fault)
        ∧ ∀ fault, Record.BreaksOff α line fault → EndsWith α p files (.file fault) := by
  have hlist := RecordFile.toList_eq_readLines (f := fileOf (α := α) p content) hvalid
  refine ⟨fun hlines => ?_, fun before line after hsplit hbefore hline => ?_⟩
  · obtain ⟨records, hrecords, hheld⟩ := (fileOf (α := α) p content).exists_readLines 1 hlines
    exact ⟨records, answersFrom_of_toList hroom hread (hlist.trans hrecords), hheld⟩
  · have hfilled : Text.trim line ≠ [] := fun hblank => hline (.inl hblank)
    have hends {fault : StoreFault} (hfails : RecordFile.readLine (α := α) p.lastName
        (1 + before.length) (Text.trim line) = .error fault) : EndsWith α p files fault := by
      refine endsWith_of_toList hread (hlist.trans ?_)
      rw [hsplit]
      exact RecordFile.readLines_eq_error _ 1 hbefore hfilled hfails
    have hbreaks : ∀ fault, Record.BreaksOff α line fault → EndsWith α p files (.file fault) :=
      fun fault hfault => hends (Record.readLine_of_breaksOff hfault _ _)
    refine ⟨⟨?_, fun hnot => ?_⟩, hbreaks⟩
    -- a file ends in one way only, so a flaw that is reported leaves no room for another fault
    · rintro ⟨flaw, -, hflawed⟩ ⟨fault, hfault⟩
      cases hflawed.eq (hbreaks fault hfault)
    · obtain ⟨a, ha⟩ | ⟨flaw, hflaw⟩ | hfault := Record.holds_or_fails α line
      · exact absurd (.inr ⟨a, ha⟩) hline
      · have hnumber : 1 + before.length = before.length + 1 := Nat.add_comm _ _
        exact ⟨flaw, hflaw, hnumber ▸ hends (Record.readLine_of_hasFlaw hflaw _ _)⟩
      · exact absurd hfault hnot

/-- Files with a file of postings whose first line is blank and whose second line is no JSON
text. -/
def damaged : Tree := ⟨[], [(["vacancies.jsonl"], .file (Text.encodeUtf8 ['\n', '[']))]⟩

theorem perform_reports_flaw_damaged :
    damaged.HasRoom postings
      ∧ ∃ flaw, Record.HasFlaw Vacancy ['['] flaw
        ∧ EndsWith Vacancy postings damaged (.unreadable "vacancies.jsonl" 2 flaw) := by
  have hroom : damaged.HasRoom postings := ⟨rfl, rfl, by decide⟩
  have hread : damaged.readIfThere postings = .ok (some (Text.encodeUtf8 ['\n', '['])) := rfl
  have hvalid :
      (Text.decodeUtf8 (Option.getD (some (Text.encodeUtf8 ['\n', '['])) [])).fault = none := by
    rw [Option.getD_some, Text.decodeUtf8_encodeUtf8]
  have hlines : (fileOf (α := Vacancy) postings (some (Text.encodeUtf8 ['\n', '[']))).lines
      = [[]] ++ ['['] :: [] := by
    rw [RecordFile.lines, RecordFile.bytes, fileOf, Option.getD_some, Text.decodeUtf8_encodeUtf8]
    rfl
  have hparse : Json.parse (Text.trim ['['])
      = .error (.malformed (.locate .expectingValue ['['] 1)) := rfl
  have hunreadable : ¬Record.IsReadable Vacancy ['['] := by
    rintro (hblank | ⟨a, v, hv, -⟩)
    · cases hblank
    · cases hparse.symm.trans hv
  have hunbroken : ¬∃ fault, Record.BreaksOff Vacancy ['['] fault := by
    rintro ⟨fault, ⟨hlong⟩ | ⟨hdeep⟩ | ⟨hvalue, -⟩⟩
    · cases hparse.symm.trans hlong
    · cases hparse.symm.trans hdeep
    · cases hparse.symm.trans hvalue
  obtain ⟨-, hfails⟩ := perform_reports_flaw (α := Vacancy) hroom hread hvalid
  exact ⟨hroom, ((hfails _ _ _ hlines (by simp [Record.IsReadable, Text.trim]) hunreadable).1).2
    hunbroken⟩

end Collection

end Shortlist
