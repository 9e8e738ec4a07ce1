import RecordSearch.Proofs.Transcript
import RecordSearch.Proofs.Write.EnsuredIndex

namespace RecordSearch

/-!
# Making sure of an index

For an index with a name, and a schema that is given or missing, all that creating the index and
making sure of it can do is told by the answers of the backend alone.

* `IsSchema`: the descriptors of fields, or nothing;
* `Index.Creation`: the transcripts of creating an index (`Index.creation_of_hasTranscript`);
* `Index.Ensuring`: those of making sure of one (`Index.ensuring_of_hasTranscript`).
-/

/-- Descriptors of fields by their names, or nothing. -/
def IsSchema (properties : Value) : Prop :=
  properties = .null ∨ ∃ descriptors, properties = .mapping descriptors

namespace Index

/-- **What creating an index does.** There is one request, with the body of the schema. It creates
    the index, or the index was there already, or it fails. -/
inductive Creation (name : String) (body : Option Value) :
    List Exchange → Except Error Bool → Prop where
  | created (v : Value) : Creation name body [(.createIndex name body, .ok v)] (.ok true)
  | alreadyThere {failure : Failure} (hthere : failure.isAlreadyExists = .ok true) :
      Creation name body [(.createIndex name body, .error failure)] (.ok false)
  | failed {failure : Failure} (hnot : failure.isAlreadyExists ≠ .ok true) (error : Error) :
      Creation name body [(.createIndex name body, .error failure)] (.error error)

/-- **What making sure of an index does.** The backend is asked for the index once. Only if it does
    not find it the index is created. -/
inductive Ensuring (name : String) (body : Option Value) :
    List Exchange → Except Error Bool → Prop where
  | found (v : Value) : Ensuring name body [(.getIndex (.str name), .ok v)] (.ok false)
  | missing {failure : Failure} {exchanges : List Exchange} {outcome : Except Error Bool}
      (hmissing : failure.isNotFound = true) (hcreate : Creation name body exchanges outcome) :
      Ensuring name body ((.getIndex (.str name), .error failure) :: exchanges) outcome
  | failed {failure : Failure} (hfailed : failure.isNotFound = false) (error : Error) :
      Ensuring name body [(.getIndex (.str name), .error failure)] (.error error)

/-- A name that is not empty and a schema make the definition of an index. -/
theorem exists_check_eq_valid {name : String} {properties : Value} (hname : name ≠ "")
    (hschema : IsSchema properties) :
    ∃ schema, IndexSchema.check (some (.str name)) (some properties) = .valid schema
      ∧ schema.name = name ∧ schema.body? = creationBody properties := by
  have hchecked : ∃ checked, Checked.optional Checked.mapping properties = .valid checked := by
    rcases hschema with rfl | ⟨descriptors, rfl⟩
    · exact ⟨none, rfl⟩
    · exact ⟨some descriptors, rfl⟩
  obtain ⟨checked, hchecked⟩ := hchecked
  have hnamed : Checked.nonemptyText (.str name) = .valid name := by
    have hnonempty : name.isEmpty = false := by simpa using hname
    simp [Checked.nonemptyText, Checked.andThen, hnonempty]
  refine ⟨⟨name, checked⟩, ?_, rfl, body?_of_optional_mapping name hchecked⟩
  simp [IndexSchema.check, Checked.field, hnamed, hchecked]

/-- Every transcript of creating an index is of this kind. -/
theorem creation_of_hasTranscript {name : String} {properties : Value} (hname : name ≠ "")
    (hschema : IsSchema properties) {exchanges : List Exchange} {outcome : Except Error Bool}
    (h : (create (.str name) properties).HasTranscript exchanges outcome) :
    Creation name (creationBody properties) exchanges outcome := by
  obtain ⟨schema, hcheck, hschemaName, hbody⟩ := exists_check_eq_valid hname hschema
  rw [create, hcheck] at h
  change (createFrom schema).HasTranscript exchanges outcome at h
  rw [createFrom, hschemaName, hbody] at h
  cases h with
  | ask answer hnext =>
    cases answer with
    | ok v =>
      cases hnext with
      | tell hdone =>
        cases hdone
        exact .created v
    | error failure =>
      dsimp only at hnext
      -- The failure is taken apart by whether it says that the index is there.
      cases hthere : failure.isAlreadyExists with
      | error problem =>
        rw [hthere] at hnext
        cases hnext
        exact .failed (by simp [hthere]) _
      | ok there =>
        rw [hthere] at hnext
        cases there with
        | true =>
          cases hnext with
          | tell hdone =>
            cases hdone
            exact .alreadyThere hthere
        | false =>
          obtain ⟨rfl, error, rfl⟩ := Program.hasTranscript_failWith hnext
          exact .failed (by simp [hthere]) error

/-- Every transcript of making sure of an index is of this kind. -/
theorem ensuring_of_hasTranscript {name : String} {properties : Value} (hname : name ≠ "")
    (hschema : IsSchema properties) {exchanges : List Exchange} {outcome : Except Error Bool}
    (h : (ensure (.str name) properties).HasTranscript exchanges outcome) :
    Ensuring name (creationBody properties) exchanges outcome := by
  rw [ensure] at h
  cases h with
  | ask answer hnext =>
    cases answer with
    | ok v =>
      cases hnext
      exact .found v
    | error failure =>
      dsimp only at hnext
      -- Only an index that is said to be missing is created.
      by_cases hmissing : failure.isNotFound = true
      · rw [if_pos hmissing] at hnext
        cases hnext with
        | tell hcreate => exact .missing hmissing (creation_of_hasTranscript hname hschema hcreate)
      · rw [if_neg hmissing] at hnext
        obtain ⟨rfl, error, rfl⟩ := Program.hasTranscript_failWith hnext
        exact .failed (by simpa using hmissing) error

end Index

end RecordSearch
