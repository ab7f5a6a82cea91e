import Shortlist.Application.Basic
import Shortlist.Proofs.Schema.Check
import Shortlist.Proofs.Value.Loop

/-!
# Applications read back

Facts may be any values, so reading an application back from its mapping gives the application
itself (`Application.read_toValue`).  A record line holds the mapping reduced, from which the
application with its facts reduced is read: see `Application.settled`.

The module goes through the records from the inside out: facts, evidence, applications and
submissions.  For each of them there is the list of its members (`fields`), from which the other
facts follow alike: that it is read back, that reducing its mapping is reducing its facts, and that
a JSON text can say its mapping if it can say its facts (`HasDecodedFacts`).

The last two sections go the other way, from a document to what is read of it.  A document may give
its members in any order and leave some of them out, so it need not be what is written back.  But
the submission that is read holds the texts that were handed in (`Submission.IsHandedIn`), and if a
JSON text can say the document, one can say the facts in it.
-/

namespace Shortlist

/-! ## Facts -/

namespace Facts

/-- The members of facts. -/
def fields (facts : Facts) : List (String × Value) :=
  FactField.all.map fun field => (field.name, facts.get field)

lemma toValue_eq (facts : Facts) :
    facts.toValue = .mapping (facts.fields.map fun f => (.name f.1, f.2)) := rfl

lemma read_toValue (facts : Facts) : read facts.toValue = .accepted facts := by
  have hget (name : String) : Entries.get? (facts.fields.map fun f => (.name f.1, f.2)) name
      = (facts.fields.find? fun f => f.1 = name).map (·.2) := Entries.get?_map _ _
  have hfact (field : FactField) :
      Check.optional (facts.fields.map fun f => (.name f.1, f.2)) field.name .null Check.anything
        = .accepted (facts.get field) := by
    cases field <;> exact Check.optional_eq (hget _) rfl _
  rw [toValue_eq, read, Check.entries, Check.andThen_accepted]
  simp only [hfact]
  refine Check.closed_map ?_ facts
  simpa [fields] using fun field hfield => ⟨field, hfield, rfl⟩

/-- The facts as a record line holds them. -/
def plain (facts : Facts) : Facts :=
  ⟨facts.degree.plain, facts.gpa.plain, facts.institution.plain, facts.age.plain,
    facts.graduationDate.plain⟩

lemma toValue_plain (facts : Facts) : facts.plain.toValue = facts.toValue.plain := by
  rw [toValue, toValue, Value.plain_record]
  rfl

lemma get_plain (facts : Facts) (field : FactField) :
    facts.plain.get field = (facts.get field).plain := by
  cases field <;> rfl

/-- Facts that are values which a JSON text can say. -/
def IsDecoded (facts : Facts) : Prop := ∀ field, (facts.get field).IsDecoded

lemma isDecoded_toValue {facts : Facts} (h : facts.IsDecoded) : facts.toValue.IsDecoded := by
  refine Value.isDecoded_record (by simp [FactField.all, FactField.name]) ?_
  intro f hf
  obtain ⟨field, -, rfl⟩ := List.mem_map.1 hf
  exact h field

/-- Facts that come round to nothing that they stand in. -/
def IsClosed (facts : Facts) : Prop := ∀ field, (facts.get field).IsClosed

lemma IsClosed.toValue {facts : Facts} (h : facts.IsClosed) : facts.toValue.IsClosed :=
  Value.isClosed_record (List.forall_mem_map.2 fun field _ => h field)

lemma IsClosed.opened_toValue {facts : Facts} (h : facts.IsClosed) :
    facts.toValue.opened = facts.toValue :=
  Value.opened_record (List.forall_mem_map.2 fun field _ => h field)

lemma get_copied (facts : Facts) (field : FactField) :
    facts.copied.get field = (facts.get field).copied := by
  cases field <;> rfl

lemma isClosed_copied (facts : Facts) : facts.copied.IsClosed := by
  intro field
  rw [get_copied]
  exact Value.isClosed_copied _

lemma eq_iff_get {facts other : Facts} :
    facts = other ↔ ∀ field, facts.get field = other.get field := by
  constructor
  · rintro rfl _
    rfl
  · intro h
    obtain ⟨degree, gpa, institution, age, graduationDate⟩ := facts
    obtain rfl : degree = _ := h .degree
    obtain rfl : gpa = _ := h .gpa
    obtain rfl : institution = _ := h .institution
    obtain rfl : age = _ := h .age
    obtain rfl : graduationDate = _ := h .graduationDate
    rfl

/-- Copies of facts are like the facts exactly if none of these comes round to itself. -/
lemma copied_eq_iff {facts : Facts} :
    facts.copied = facts ↔ ∀ field, ¬(facts.get field).ComesRound Value.depthLimit := by
  rw [eq_iff_get]
  exact forall_congr' fun field => by rw [get_copied, Value.copied_eq_iff]

end Facts

/-! ## Evidence -/

lemma WebAddress.read_text (a : WebAddress) : WebAddress.read (.text a.text) = .accepted a := by
  rw [WebAddress.read, Check.text_text, Check.andThen_accepted, Text.string?_ofString]
  exact dif_pos a.text_isAddress

namespace Documents

/-- The value of an address, or null. -/
def addressValue (a : Option WebAddress) : Value := .ofText? (a.map fun a => a.text)

/-- The value of the facts, or null. -/
def factsValue (facts : Option Facts) : Value :=
  match facts with
  | some facts => facts.toValue
  | none => .null

/-- The members of the evidence. -/
def fields (d : Documents) : List (String × Value) :=
  [("cv_url", addressValue d.cv), ("diploma_url", addressValue d.diploma),
    ("id_card_url", addressValue d.idCard), ("parsed", factsValue d.facts)]

lemma toValue_eq (d : Documents) :
    d.toValue = .mapping (d.fields.map fun f => (.name f.1, f.2)) := rfl

lemma read_addressValue (a : Option WebAddress) :
    Check.orNull WebAddress.read (addressValue a) = .accepted a := by
  cases a with
  | none => rfl
  | some a => exact congrArg (some <$> ·) a.read_text

lemma read_factsValue (facts : Option Facts) :
    Check.orNull Facts.read (factsValue facts) = .accepted facts := by
  cases facts with
  | none => rfl
  | some facts => exact congrArg (some <$> ·) facts.read_toValue

lemma read_toValue (d : Documents) : read d.toValue = .accepted d := by
  have hget (name : String) : Entries.get? (d.fields.map fun f => (.name f.1, f.2)) name
      = (d.fields.find? fun f => f.1 = name).map (·.2) := Entries.get?_map _ _
  rw [toValue_eq, read, Check.entries, Check.andThen_accepted]
  dsimp only
  rw [Check.optional_eq (hget "cv_url") (read_addressValue _),
    Check.optional_eq (hget "diploma_url") (read_addressValue _),
    Check.optional_eq (hget "id_card_url") (read_addressValue _),
    Check.optional_eq (hget "parsed") (read_factsValue _)]
  exact Check.closed_map (by simp [fields]) d

/-- The evidence as a record line holds it. -/
def settled (d : Documents) : Documents := { d with facts := d.facts.map Facts.plain }

lemma toValue_settled (d : Documents) : d.settled.toValue = d.toValue.plain := by
  have haddress (a : Option WebAddress) : (addressValue a).plain = addressValue a :=
    Value.plain_ofText? _
  have hfacts : (factsValue d.facts).plain = factsValue (d.facts.map Facts.plain) := by
    cases d.facts with
    | none => rfl
    | some facts => exact facts.toValue_plain.symm
  have hplain : d.toValue.plain = .record (d.fields.map fun f => (f.1, f.2.plain)) :=
    Value.plain_record _
  rw [hplain, fields]
  simp only [List.map_cons, List.map_nil, haddress, hfacts]
  rfl

/-- The facts, if there are any, are values that a JSON text can say. -/
def HasDecodedFacts (d : Documents) : Prop := ∀ facts, d.facts = some facts → facts.IsDecoded

lemma isDecoded_toValue {d : Documents} (h : d.HasDecodedFacts) : d.toValue.IsDecoded := by
  have hfacts : (factsValue d.facts).IsDecoded := by
    cases hfacts : d.facts with
    | none => exact .null
    | some facts => exact Facts.isDecoded_toValue (h facts hfacts)
  refine Value.isDecoded_record (by simp) ?_
  intro f hf
  simp only [List.mem_cons, List.not_mem_nil, or_false] at hf
  rcases hf with rfl | rfl | rfl | rfl
  · exact .ofText? _
  · exact .ofText? _
  · exact .ofText? _
  · exact hfacts

end Documents

/-! ## Applications -/

lemma Status.read_name (s : Status) : Status.read (.text s.name) = .accepted s := by
  cases s <;> exact Check.oneOf_text rfl

namespace Application

/-- The members of an application. -/
def fields (a : Application) : List (String × Value) :=
  [("id", .text a.id), ("applicant_id", .ofText? a.applicantId), ("vacancy_id", .text a.vacancyId),
    ("documents", a.documents.toValue), ("status", .text a.status.name),
    ("feedback", .ofText? a.feedback), ("created_at", .text a.createdAt)]

lemma toValue_eq (a : Application) :
    a.toValue = .mapping (a.fields.map fun f => (.name f.1, f.2)) := rfl

theorem read_toValue (a : Application) : read a.toValue = .accepted a := by
  have hget (name : String) : Entries.get? (a.fields.map fun f => (.name f.1, f.2)) name
      = (a.fields.find? fun f => f.1 = name).map (·.2) := Entries.get?_map _ _
  rw [toValue_eq, read, Check.entries, Check.andThen_accepted,
    Check.required_eq (hget "id") (Check.text_text _),
    Check.optional_eq (hget "applicant_id") (Check.textOrNull_ofText? _),
    Check.required_eq (hget "vacancy_id") (Check.text_text _),
    Check.required_eq (hget "documents") (Documents.read_toValue _),
    Check.required_eq (hget "status") (Status.read_name _),
    Check.optional_eq (hget "feedback") (Check.textOrNull_ofText? _),
    Check.required_eq (hget "created_at") (Check.text_text _)]
  exact Check.closed_map (by simp [fields]) a

/-- The application as it is read back from its record line: its facts are reduced. -/
def settled (a : Application) : Application := { a with documents := a.documents.settled }

lemma toValue_settled (a : Application) : a.settled.toValue = a.toValue.plain := by
  have hplain : a.toValue.plain = .record (a.fields.map fun f => (f.1, f.2.plain)) :=
    Value.plain_record _
  rw [hplain, fields]
  simp only [List.map_cons, List.map_nil, Value.plain_ofText?, ← Documents.toValue_settled]
  rfl

lemma isDecoded_toValue {a : Application} (h : a.documents.HasDecodedFacts) :
    a.toValue.IsDecoded := by
  refine Value.isDecoded_record (by simp) ?_
  intro f hf
  simp only [List.mem_cons, List.not_mem_nil, or_false] at hf
  rcases hf with rfl | rfl | rfl | rfl | rfl | rfl | rfl
  · exact .text _
  · exact .ofText? _
  · exact .text _
  · exact Documents.isDecoded_toValue h
  · exact .text _
  · exact .ofText? _
  · exact .text _

end Application

/-! ## Submissions -/

namespace Submission

/-- The members of a submission. -/
def fields (s : Submission) : List (String × Value) :=
  [("applicant_id", .ofText? s.applicantId), ("vacancy_id", .text s.vacancyId.text),
    ("documents", s.documents.toValue)]

lemma toValue_eq (s : Submission) :
    s.toValue = .mapping (s.fields.map fun f => (.name f.1, f.2)) := rfl

lemma read_toValue (s : Submission) : read s.toValue = .accepted s := by
  have hget (name : String) : Entries.get? (s.fields.map fun f => (.name f.1, f.2)) name
      = (s.fields.find? fun f => f.1 = name).map (·.2) := Entries.get?_map _ _
  rw [toValue_eq, read, Check.entries, Check.andThen_accepted,
    Check.optional_eq (hget "applicant_id") (Check.textOrNull_ofText? _),
    Check.required_eq (hget "vacancy_id") (FilledText.read_text _),
    Check.optional_eq (hget "documents") (Documents.read_toValue _)]
  exact Check.closed_map (by simp [fields]) s

lemma isDecoded_toValue {s : Submission} (h : s.documents.HasDecodedFacts) :
    s.toValue.IsDecoded := by
  refine Value.isDecoded_record (by simp) ?_
  intro f hf
  simp only [List.mem_cons, List.not_mem_nil, or_false] at hf
  rcases hf with rfl | rfl | rfl
  · exact .ofText? _
  · exact .text _
  · exact Documents.isDecoded_toValue h

end Submission

/-! ## What was handed in -/

/-- The value under a name, if there is one. -/
def Value.member? (v : Value) (name : String) : Option Value :=
  match v with
  | .mapping es => Entries.get? es name
  | _ => none

lemma Value.member?_record (fields : List (String × Value)) (name : String) :
    (Value.record fields).member? name = (fields.find? fun f => f.1 = name).map (·.2) :=
  Entries.get?_map fields name

/-- A text is kept as it was handed in: as a text or as the bytes of one.  Null and nothing at all
are no text. -/
def IsKept : Option Value → Option Text → Prop
  | some (.text t), kept => kept = some t
  | some (.bytes content), kept =>
    (Text.decodeUtf8 content).fault = none
      ∧ kept = some (.ofChars (Text.decodeUtf8 content).chars)
  | some .null, kept => kept = none
  | none, kept => kept = none
  | some _, _ => False

lemma isKept_of_text {v : Value} {t : Text} (h : Check.text v = .accepted t) :
    IsKept (some v) (some t) := by
  cases v with
  | text t' =>
    cases h
    rfl
  | bytes content =>
    simp only [Check.text] at h
    split at h
    · rename_i hfault
      cases h
      exact ⟨Option.isNone_iff_eq_none.1 hfault, rfl⟩
    · cases h
  | _ => cases h

lemma isKept_of_textOrNull {es : Entries} {name : String} {t : Option Text}
    (h : Check.optional es name none Check.textOrNull = .accepted t) :
    IsKept (es.get? name) t := by
  rcases Check.optional_eq_accepted.1 h with ⟨hget, rfl⟩ | ⟨v, hget, hv⟩
  · rw [hget]
    rfl
  · rw [hget]
    unfold Check.textOrNull Check.orNull at hv
    split at hv
    · cases hv
      rfl
    · obtain ⟨t', ht', rfl⟩ := Check.map_eq_accepted.1 hv
      exact isKept_of_text ht'

/-- The text of an address, if there is one. -/
def addressText (a : Option WebAddress) : Option Text := a.map fun a => .ofString a.text

lemma WebAddress.isKept_of_read {es : Entries} {name : String} {a : Option WebAddress}
    (h : Check.optional es name none (Check.orNull WebAddress.read) = .accepted a) :
    IsKept (es.get? name) (addressText a) := by
  rcases Check.optional_eq_accepted.1 h with ⟨hget, rfl⟩ | ⟨v, hget, hv⟩
  · rw [hget]
    rfl
  · rw [hget]
    unfold Check.orNull at hv
    split at hv
    · cases hv
      rfl
    · obtain ⟨a', ha', rfl⟩ := Check.map_eq_accepted.1 hv
      obtain ⟨t, ht, hread⟩ := Check.andThen_eq_accepted.1 ha'
      split at hread
      · rename_i string hstring
        split at hread
        · cases hread
          rw [Text.eq_ofString hstring] at ht
          exact isKept_of_text ht
        · cases hread
      · cases hread

lemma FilledText.isKept_of_read {v : Value} {t : FilledText} (h : FilledText.read v = .accepted t) :
    IsKept (some v) (some (.ofString t.text)) := by
  obtain ⟨t', ht', h⟩ := Check.andThen_eq_accepted.1 h
  obtain ⟨s, hs, h⟩ := Check.andThen_eq_accepted.1 h
  unfold Check.characters at hs
  split at hs
  · rename_i hstring
    cases hs
    split at h
    · cases h
      rw [Text.eq_ofString hstring] at ht'
      exact isKept_of_text ht'
    · cases h
  · cases hs

lemma Documents.isKept_of_read {v : Value} {d : Documents} (h : Documents.read v = .accepted d) :
    IsKept (v.member? "cv_url") (addressText d.cv)
      ∧ IsKept (v.member? "diploma_url") (addressText d.diploma)
      ∧ IsKept (v.member? "id_card_url") (addressText d.idCard) := by
  obtain ⟨es, hes, h⟩ := Check.andThen_eq_accepted.1 h
  obtain rfl := Check.entries_eq_accepted.1 hes
  obtain ⟨ofIdCard, facts, hfirst, -, rfl⟩ :=
    Check.seq_eq_accepted.1 (Check.eq_accepted_of_closed h)
  obtain ⟨ofDiploma, idCard, haddresses, hidCard, rfl⟩ := Check.seq_eq_accepted.1 hfirst
  obtain ⟨ofCv, diploma, hmk, hdiploma, rfl⟩ := Check.seq_eq_accepted.1 haddresses
  obtain ⟨cv, hcv, rfl⟩ := Check.map_eq_accepted.1 hmk
  exact ⟨WebAddress.isKept_of_read hcv, WebAddress.isKept_of_read hdiploma,
    WebAddress.isKept_of_read hidCard⟩

/-- The addresses of documents that need not be there. -/
lemma Documents.isKept_of_optional {es : Entries} {d : Documents}
    (h : Check.optional es "documents" {} read = .accepted d) :
    IsKept ((es.get? "documents").bind (·.member? "cv_url")) (addressText d.cv)
      ∧ IsKept ((es.get? "documents").bind (·.member? "diploma_url")) (addressText d.diploma)
      ∧ IsKept ((es.get? "documents").bind (·.member? "id_card_url")) (addressText d.idCard) := by
  rcases Check.optional_eq_accepted.1 h with ⟨hget, rfl⟩ | ⟨v, hget, hv⟩
  · rw [hget]
    exact ⟨rfl, rfl, rfl⟩
  · rw [hget]
    exact isKept_of_read hv

/-- The facts in a document that a JSON text can say are such values, too. -/
lemma Facts.isDecoded_of_read {v : Value} {facts : Facts} (hv : v.IsDecoded)
    (h : read v = .accepted facts) : facts.IsDecoded := by
  obtain ⟨es, hes, h⟩ := Check.andThen_eq_accepted.1 h
  obtain rfl := Check.entries_eq_accepted.1 hes
  have hfact {name : String} {fact : Value}
      (hfact : Check.optional es name .null Check.anything = .accepted fact) : fact.IsDecoded := by
    rcases Check.optional_eq_accepted.1 hfact with ⟨-, rfl⟩ | ⟨w, hget, hw⟩
    · exact .null
    · cases hw
      exact hv.get? hget
  obtain ⟨ofDate, graduationDate, hages, hdate, rfl⟩ :=
    Check.seq_eq_accepted.1 (Check.eq_accepted_of_closed h)
  obtain ⟨ofAge, age, hinstitutions, hage, rfl⟩ := Check.seq_eq_accepted.1 hages
  obtain ⟨ofInstitution, institution, hgpas, hinstitution, rfl⟩ :=
    Check.seq_eq_accepted.1 hinstitutions
  obtain ⟨ofGpa, gpa, hdegrees, hgpa, rfl⟩ := Check.seq_eq_accepted.1 hgpas
  obtain ⟨degree, hdegree, rfl⟩ := Check.map_eq_accepted.1 hdegrees
  intro field
  cases field with
  | degree => exact hfact hdegree
  | gpa => exact hfact hgpa
  | institution => exact hfact hinstitution
  | age => exact hfact hage
  | graduationDate => exact hfact hdate

lemma Documents.hasDecodedFacts_of_read {v : Value} {d : Documents} (hv : v.IsDecoded)
    (h : read v = .accepted d) : d.HasDecodedFacts := by
  obtain ⟨es, hes, h⟩ := Check.andThen_eq_accepted.1 h
  obtain rfl := Check.entries_eq_accepted.1 hes
  obtain ⟨ofIdCard, facts, hfirst, hfacts, rfl⟩ :=
    Check.seq_eq_accepted.1 (Check.eq_accepted_of_closed h)
  obtain ⟨ofDiploma, idCard, haddresses, -, rfl⟩ := Check.seq_eq_accepted.1 hfirst
  obtain ⟨ofCv, diploma, hmk, -, rfl⟩ := Check.seq_eq_accepted.1 haddresses
  obtain ⟨cv, -, rfl⟩ := Check.map_eq_accepted.1 hmk
  rintro known rfl
  rcases Check.optional_eq_accepted.1 hfacts with ⟨-, hnone⟩ | ⟨w, hget, hw⟩
  · cases hnone
  · unfold Check.orNull at hw
    split at hw
    · cases hw
    · obtain ⟨known', hread, hknown⟩ := Check.map_eq_accepted.1 hw
      cases hknown
      exact Facts.isDecoded_of_read (hv.get? hget) hread

/-- Documents that need not be there, in a mapping that a JSON text can say. -/
lemma Documents.hasDecodedFacts_of_optional {es : Entries} {d : Documents}
    (hes : (Value.mapping es).IsDecoded)
    (h : Check.optional es "documents" {} read = .accepted d) : d.HasDecodedFacts := by
  rcases Check.optional_eq_accepted.1 h with ⟨-, rfl⟩ | ⟨v, hget, hv⟩
  · intro facts hfacts
    cases hfacts
  · exact hasDecodedFacts_of_read (hes.get? hget) hv

lemma Submission.hasDecodedFacts_of_read {v : Value} {s : Submission} (hv : v.IsDecoded)
    (h : read v = .accepted s) : s.documents.HasDecodedFacts := by
  obtain ⟨es, hes, h⟩ := Check.andThen_eq_accepted.1 h
  obtain rfl := Check.entries_eq_accepted.1 hes
  obtain ⟨ofDocuments, documents, hids, hdocuments, rfl⟩ :=
    Check.seq_eq_accepted.1 (Check.eq_accepted_of_closed h)
  obtain ⟨ofVacancy, vacancyId, hmk, -, rfl⟩ := Check.seq_eq_accepted.1 hids
  obtain ⟨applicantId, -, rfl⟩ := Check.map_eq_accepted.1 hmk
  exact Documents.hasDecodedFacts_of_optional hv hdocuments

end Shortlist
