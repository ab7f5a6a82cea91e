import Shortlist.Proofs.Store.Mirror
import Shortlist.Proofs.Store.RecordLine

/-!
# Files that keep what is put into them

Records that are inserted one after another into a file that was not there are found in it when it
is read again: all of them, in order and with every member as it was, and each under its id.  This
holds of vacancies, and of applications whose facts JSON can say, up to one condition: a record that
is too deep, or that holds a surrogate, has no line, and the insertion of it is refused
(`Collection.persists_iff`).

What a file gives back is the settled form of what was put in, and of an application this has its
facts reduced.  Facts that JSON can say are left alone by the reduction, so such an application is
its own settled form.  That the file can be read again after every insertion is carried by the
collection in memory which it mirrors (`Mirrors.insertAll`); nobody has to keep this collection.
-/

namespace Shortlist

open LawfulRecord (settled)

namespace Collection

variable {α : Type} [Record α]

/-- Inserts records one after another, until one is refused. -/
def insertAll (c : Collection α) (files : Tree) : List α → Except StoreFault (Collection α × Tree)
  | [] => .ok (c, files)
  | a :: rest => do
    let (c, files) ← c.insert files a
    c.insertAll files rest

/-- Records can be inserted into a file in order, and the file holds exactly them afterwards, in
this order, and finds each of them by its id. -/
def Persists (files : Tree) (p : Path) (records : List α) : Prop :=
  ∃ files', (Collection.file p).insertAll files records = .ok (.file p, files')
    ∧ (Collection.file p).toList files' = .ok records
    ∧ ∀ a ∈ records, (Collection.file p).get? files' (Record.id a) = .ok (some a)

variable {files files' : Tree} {p : Path} {records : List α} {c c' : Collection α} {a : α}

lemma insertAll_cons_ok {rest : List α}
    (h : c.insertAll files (a :: rest) = .ok (c', files')) :
    ∃ c₁ files₁, c.insert files a = .ok (c₁, files₁)
      ∧ c₁.insertAll files₁ rest = .ok (c', files') := by
  obtain ⟨⟨c₁, files₁⟩, hinsert, hrest⟩ := Except.bind_eq_ok.1 h
  exact ⟨c₁, files₁, hinsert, hrest⟩

/-- A file takes only records that have a line, and stays where it is. -/
lemma insert_file_ok (h : (Collection.file p).insert files a = .ok (c, files')) :
    Record.lineFault? a = none ∧ c = .file p := by
  obtain ⟨line, hline, h⟩ := Except.bind_eq_ok.1 h
  obtain ⟨loaded, -, h⟩ := Except.bind_eq_ok.1 h
  obtain ⟨appended, -, h⟩ := Except.bind_eq_ok.1 h
  obtain ⟨saved, -, h⟩ := Except.bind_eq_ok.1 h
  cases h
  exact ⟨(Record.lineBytes?_eq_ok.1 hline).1, rfl⟩

/-- Records that have all been taken have lines. -/
lemma lineFault?_of_insertAll
    (h : (Collection.file p).insertAll files records = .ok (c, files')) :
    ∀ a ∈ records, Record.lineFault? a = none := by
  induction records generalizing files with
  | nil => simp
  | cons a rest ih =>
    obtain ⟨c₁, files₁, hinsert, hrest⟩ := insertAll_cons_ok h
    obtain ⟨hline, rfl⟩ := insert_file_ok hinsert
    rw [List.forall_mem_cons]
    exact ⟨hline, ih hrest⟩

end Collection

/-! ## Records that have lines -/

section

variable {α : Type} [Record α] [LawfulRecord α] {files : Tree} {p : Path} {records : List α}
  {m : MemoryCollection α}

/-- A file that has taken a record mirrors the collection with this record at its end. -/
lemma Mirrors.of_insert {a : α} {c : Collection α} {files' : Tree} (h : Mirrors m files p)
    (hdecoded : (Record.toValue a).IsDecoded)
    (hinsert : (Collection.file p).insert files a = .ok (c, files')) :
    c = .file p ∧ ∃ m' content, m'.records = m.records ++ [a]
      ∧ files.write p content = .ok files' ∧ Mirrors m' files' p := by
  obtain ⟨hline, rfl⟩ := Collection.insert_file_ok hinsert
  rcases h.insert hline hdecoded with
    ⟨fault, -, hrefused⟩ | ⟨m', files₁, content, hadded, htaken, hwrite, hmirrors⟩
  · rw [hinsert] at hrefused
    cases hrefused
  · rw [hinsert] at htaken
    cases htaken
    exact ⟨rfl, m', content, (h.sound.insert hadded).2.1, hwrite, hmirrors⟩

/-- Records that have lines and distinct new ids are taken one after another, and the file mirrors
all of them in the end. -/
lemma Mirrors.insertAll (h : Mirrors m files p)
    (hnodup : ((m.records ++ records).map Record.id).Nodup)
    (hline : ∀ a ∈ records, Record.lineFault? a = none)
    (hdecoded : ∀ a ∈ records, (Record.toValue a).IsDecoded) :
    ∃ m' files', (Collection.file p).insertAll files records = .ok (.file p, files')
      ∧ Mirrors m' files' p ∧ m'.records = m.records ++ records := by
  -- the mirror is carried along: it says that the file can be read and which ids are taken
  induction records generalizing m files with
  | nil => exact ⟨m, files, rfl, h, (List.append_nil _).symm⟩
  | cons a rest ih =>
    rw [List.forall_mem_cons] at hline hdecoded
    have hnew : ¬ m.records.any (fun r => Record.id r = Record.id a) = true := by
      rw [List.map_append, List.nodup_append] at hnodup
      simpa using fun r hr =>
        hnodup.2.2 (Record.id r) (List.mem_map_of_mem hr) (Record.id a) (by simp)
    have hadded : m.insert a = .ok ⟨m.records ++ [a], m.index.insert (Record.id a) a⟩ := by
      rw [h.sound.insert_eq, if_neg hnew]
    rcases h.insert hline.1 hdecoded.1 with
      ⟨fault, hrefused, -⟩ | ⟨m₁, files₁, -, hm₁, hinsert, -, h₁⟩
    · rw [hadded] at hrefused
      cases hrefused
    · have hrecords : m₁.records = m.records ++ [a] := by
        rw [hadded] at hm₁
        cases hm₁
        rfl
      have hnodup₁ : ((m₁.records ++ rest).map Record.id).Nodup := by
        rw [hrecords, List.append_assoc]
        exact hnodup
      obtain ⟨m', files', hrest, h', hrecords'⟩ := ih h₁ hnodup₁ hline.2 hdecoded.2
      refine ⟨m', files', ?_, h', ?_⟩
      · rw [Collection.insertAll, hinsert]
        exact hrest
      · rw [hrecords', hrecords, List.append_assoc]
        rfl

/-- Records with distinct ids that JSON can say as they are persist in a new file exactly if each of
them has a line. -/
lemma Collection.persists_iff_lineFault? (hread : files.readIfThere p = .ok none)
    (hroom : files.HasRoom p) (hnodup : (records.map Record.id).Nodup)
    (hdecoded : ∀ a ∈ records, (Record.toValue a).IsDecoded)
    (hsettled : ∀ a ∈ records, settled a = a) :
    Persists files p records ↔ ∀ a ∈ records, Record.lineFault? a = none := by
  constructor
  · rintro ⟨files', hinsert, -⟩
    exact lineFault?_of_insertAll hinsert
  · intro hline
    have hempty : Mirrors (.empty : MemoryCollection α) files p := .empty hread hroom
    obtain ⟨m, files', hinsert, hm, hrecords⟩ := hempty.insertAll hnodup hline hdecoded
    have hrecords : m.records = records := hrecords
    have hself : m.records.map settled = records := by
      rw [hrecords]
      exact (List.map_congr_left hsettled).trans (List.map_id records)
    refine ⟨files', hinsert, ?_, fun a ha => ?_⟩
    · rw [hm.toList_eq, hself]
    · rw [hm.get?_eq, hm.sound.get?_id (hrecords ▸ ha)]
      exact congrArg (fun b => Except.ok (some b)) (hsettled a ha)

end

/-! ## Facts that JSON can say -/

/-- Facts that JSON can say: none of their numbers is NaN or infinite, and no integer is too
long. -/
def Facts.IsJson (facts : Facts) : Prop :=
  ∀ field, (facts.get field).IsPlain ∧ (facts.get field).IsDecoded

lemma Facts.IsJson.plain_eq {facts : Facts} (h : facts.IsJson) : facts.plain = facts := by
  have hfact (field : FactField) : (facts.get field).plain = facts.get field :=
    Value.plain_of_isPlain (h field).1
  obtain ⟨degree, gpa, institution, age, graduationDate⟩ := facts
  rw [Facts.plain, Facts.mk.injEq]
  exact ⟨hfact .degree, hfact .gpa, hfact .institution, hfact .age, hfact .graduationDate⟩

namespace Application

variable {a : Application}

lemma hasDecodedFacts (h : a.facts.IsJson) : a.documents.HasDecodedFacts := by
  intro facts hfacts field
  have hsame : a.facts = facts := by
    rw [Application.facts, hfacts]
    rfl
  exact hsame ▸ (h field).2

/-- An application whose facts JSON can say is its own settled form. -/
lemma settled_eq (h : a.facts.IsJson) : a.settled = a := by
  obtain ⟨id, applicantId, vacancyId, ⟨cv, diploma, idCard, facts⟩, status, feedback,
    createdAt⟩ := a
  cases facts with
  | none => rfl
  | some facts =>
    have hplain : facts.plain = facts := Facts.IsJson.plain_eq h
    rw [settled, Documents.settled, Option.map_some, hplain]

end Application

/-! ## New files -/

namespace Collection

variable {files : Tree} {p : Path}

/-- Vacancies with distinct ids persist in a new file exactly if no surrogate is part of a text in
them, and applications with distinct ids whose facts JSON can say do so exactly if, besides, none of
the facts is too deep. -/
theorem persists_iff (hread : files.readIfThere p = .ok none) (hroom : files.HasRoom p) :
    (∀ vacancies : List Vacancy, (vacancies.map (·.id)).Nodup →
        (Persists files p vacancies ↔ ∀ v ∈ vacancies, v.toValue.IsEncodable))
      ∧ ∀ applications : List Application, (applications.map (·.id)).Nodup →
        (∀ a ∈ applications, a.facts.IsJson) →
          (Persists files p applications
            ↔ ∀ a ∈ applications, a.facts.IsShallow ∧ a.toValue.IsEncodable) := by
  constructor
  · intro vacancies hnodup
    rw [persists_iff_lineFault? hread hroom hnodup (fun v _ => v.isDecoded_toValue) fun _ _ => rfl]
    exact forall₂_congr fun v _ => v.lineFault?_eq_none
  · intro applications hnodup hjson
    rw [persists_iff_lineFault? hread hroom hnodup
      (fun a ha => Application.isDecoded_toValue (Application.hasDecodedFacts (hjson a ha)))
      fun a ha => Application.settled_eq (hjson a ha)]
    exact forall₂_congr fun a ha =>
      Application.lineFault?_eq_none (Application.hasDecodedFacts (hjson a ha))

/-- An application with a degree in which there are quotes and the end of a line. -/
def quotedApplication : Application where
  id := "a"
  applicantId := none
  vacancyId := "v"
  documents := { facts := some { degree := .text "BSc\n\"hons\"", age := .int 25 } }
  status := .accepted
  feedback := none
  createdAt := "2026-10-01T00:00:00Z"

/-- An application that was rejected with an empty feedback, with a whole number of either kind. -/
def rejectedApplication : Application where
  id := "b"
  applicantId := some " ada "
  vacancyId := "v"
  documents := { facts := some { gpa := .float (.ofDecimal false ⟨3, 0⟩), age := .int 3 } }
  status := .rejected
  feedback := some ""
  createdAt := "2026-10-02T00:00:00Z"

lemma isJson_quotedApplication : quotedApplication.facts.IsJson := by
  intro field
  cases field with
  | degree => exact ⟨rfl, .text _⟩
  | age => exact ⟨rfl, .int (by decide)⟩
  | _ => exact ⟨rfl, .null⟩

lemma isJson_rejectedApplication : rejectedApplication.facts.IsJson := by
  intro field
  cases field with
  | gpa =>
    have hplain : (rejectedApplication.facts.get .gpa).isPlain = true := by decide +kernel
    exact ⟨hplain, .float _⟩
  | age => exact ⟨rfl, .int (by decide)⟩
  | _ => exact ⟨rfl, .null⟩

/-- Two postings persist, and two applications, in their order. -/
theorem persists_analyst :
    Tree.bare.readIfThere postings = .ok none ∧ Tree.bare.HasRoom postings
      ∧ Persists .bare postings [earlierPosting, analystPosting]
      ∧ Persists .bare postings [quotedApplication, rejectedApplication] := by
  have hread : Tree.bare.readIfThere postings = .ok none := rfl
  have hroom : Tree.bare.HasRoom postings := ⟨rfl, rfl, by decide⟩
  have hjson : ∀ a ∈ [quotedApplication, rejectedApplication], a.facts.IsJson := by
    simp [isJson_quotedApplication, isJson_rejectedApplication]
  have hvacancies : ∀ v ∈ [earlierPosting, analystPosting], Record.lineFault? v = none := by decide
  have happlications :
      ∀ a ∈ [quotedApplication, rejectedApplication], Record.lineFault? a = none := by
    decide +kernel
  refine ⟨hread, hroom, ((persists_iff hread hroom).1 _ (by decide)).2 fun v hv => ?_,
    ((persists_iff hread hroom).2 _ (by decide) hjson).2 fun a ha => ?_⟩
  · exact v.lineFault?_eq_none.1 (hvacancies v hv)
  · exact (Application.lineFault?_eq_none (Application.hasDecodedFacts (hjson a ha))).1
      (happlications a ha)

end Collection

end Shortlist
