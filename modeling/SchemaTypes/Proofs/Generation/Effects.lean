import SchemaTypes.Proofs.FileSystem.Again
import SchemaTypes.Proofs.Generation.Delivery
import SchemaTypes.Proofs.Text.Utf8

/-!
# What a generation leaves behind

A generation touches files in its last step only, and there only if it is not dry. So a run that
is dry, and a run that fails before that step, leaves everything as it was; a run that fails in it
may have made directories, but it has changed no file; and a run that returns has changed the one
file that was asked for, which holds the text that it returns (`Contained`).

The queries of a run and the text depend on the database and the name of the schema alone, not on
files, nor on whether the run is dry. And since a text that was written is there, a run that has
returned can be repeated with the very same outcome (`run_again`).
-/

namespace SchemaTypes
namespace Generation

/-- The request for an output that is named by a text. -/
def requestFor (output : String) (schemaName : Value) (isDryRun : Bool) : Request :=
  ⟨Path.ofText output, schemaName, isDryRun⟩

/-- What a run may have done to files, and what it returns. -/
structure Contained (executor : Introspection.Executor) (files : FileSystem) (request : Request)
    (outcome : Outcome) : Prop where
  /-- A dry run changes nothing. -/
  dry : request.isDryRun = true → outcome.files = files
  /-- A run that fails before it writes changes nothing. -/
  early : ∀ error, outcome.result = .error error → (∀ fault, error ≠ .file fault) →
    outcome.files = files
  /-- A run that fails to write changes no file. -/
  refused : ∀ fault, outcome.result = .error (.file fault) → outcome.files.SameFiles files
  /-- A run that returns, and is not dry, has changed the file that was asked for and no other one.
  The bytes of this file are read as the text that is returned. -/
  written : ∀ result, outcome.result = .ok result → request.isDryRun = false →
    FileSystem.OnlyWritten files request.output (Text.Utf8.encode result.content) outcome.files ∧
      Text.Utf8.decode (Text.Utf8.encode result.content) = .ok result.content.toList
  /-- A run returns if the schema is read and has declarations, and if their text can be written
  unless it is not to be. -/
  returns : (∃ result, outcome.result = .ok result) ↔ ∃ schema content,
    (introspect executor request.schemaName).result = .ok schema ∧
      schema.generate = .ok content ∧
      (request.isDryRun = false → (files.writeText request.output content).2 = .ok ())
  /-- The text that is returned is that of the declarations of the schema, and they are counted. -/
  counted : ∀ result, outcome.result = .ok result → ∃ schema file,
    (introspect executor request.schemaName).result = .ok schema ∧
      schema.build.outcome = .ok file ∧ result.content = TypeScript.renderFile file ∧
      result.tableCount = file.interfaces.length ∧ result.enumCount = file.unions.length

section Runs

variable {executor : Introspection.Executor} {files : FileSystem} {request : Request}
  {schema : DatabaseSchema} {file : DeclarationFile} {result : Result}

/-! ## Runs that return -/

/-- A run that finds a schema and builds its declarations goes on to deliver them. -/
theorem run_eq_delivering (hschema : (introspect executor request.schemaName).result = .ok schema)
    (hbuilt : schema.build.outcome = .ok file) :
    run executor files request = delivering executor files request schema file := by
  cases course_run executor files request with
  | unread herror =>
    rw [hschema] at herror
    cases herror
  | unbuilt hschema' hclash =>
    rw [hschema] at hschema'
    cases hschema'
    rw [hbuilt] at hclash
    cases hclash
  | built hschema' hbuilt' houtcome =>
    rw [hschema] at hschema'
    cases hschema'
    rw [hbuilt] at hbuilt'
    cases hbuilt'
    exact houtcome

/-- A run that returns has read a schema, built its declarations and delivered their text. -/
theorem delivered_of_result (h : (run executor files request).result = .ok result) :
    ∃ schema file left log, (introspect executor request.schemaName).result = .ok schema ∧
      schema.build.outcome = .ok file ∧
      deliver files request (TypeScript.renderFile file) = (left, .ok (), log) ∧
      (run executor files request).files = left ∧
      result = resultOf request schema (TypeScript.renderFile file) := by
  cases course_run executor files request with
  | unread _ hresult =>
    rw [hresult] at h
    cases h
  | unbuilt _ _ hresult =>
    rw [hresult] at h
    cases h
  | built hschema hbuilt houtcome =>
    rename_i schema file
    rw [houtcome, delivering] at h ⊢
    dsimp only at h ⊢
    cases hdeliver : deliver files request (TypeScript.renderFile file) with
    | mk left delivered =>
      obtain ⟨delivered, log⟩ := delivered
      rw [hdeliver] at h
      cases delivered with
      | error fault => cases h
      | ok _ =>
        exact ⟨schema, file, left, log, hschema, hbuilt, hdeliver, rfl, (Except.ok.inj h).symm⟩

/-- The declarations of a schema are one interface for each table and one union for each enum. -/
theorem length_declarations (h : schema.build.outcome = .ok file) :
    file.interfaces.length = schema.tables.length ∧ file.unions.length = schema.enums.length := by
  unfold DatabaseSchema.build at h
  split at h
  · cases h
  · rw [← Except.ok.inj h]
    exact ⟨List.length_map _, List.length_map _⟩

/-! ## Files -/

/-- A run that fails before it writes changes nothing. -/
theorem files_of_early {error : Error} (h : (run executor files request).result = .error error)
    (herror : ∀ fault, error ≠ .file fault) : (run executor files request).files = files := by
  cases course_run executor files request with
  | unread _ _ hfiles => exact hfiles
  | unbuilt _ _ _ hfiles => exact hfiles
  | built hschema hbuilt houtcome =>
    rename_i schema file
    rw [houtcome, delivering] at h
    dsimp only at h
    generalize deliver files request (TypeScript.renderFile file) = delivery at h
    obtain ⟨left, delivered, log⟩ := delivery
    cases delivered with
    | error fault => exact absurd (Except.error.inj h).symm (herror fault)
    | ok _ => cases h

theorem files_of_dry (h : request.isDryRun = true) :
    (run executor files request).files = files := by
  cases course_run executor files request with
  | unread _ _ hfiles => exact hfiles
  | unbuilt _ _ _ hfiles => exact hfiles
  | built _ _ houtcome =>
    rw [houtcome, delivering, deliver, if_pos h]

theorem contained_run (executor : Introspection.Executor) (files : FileSystem)
    (request : Request) : Contained executor files request (run executor files request) := by
  have hfollows := follows_run executor files request
  exact {
    dry := files_of_dry
    early := fun error hresult herror => files_of_early hresult herror
    refused := by
      intro fault hresult
      rw [hfollows.result] at hresult
      cases hverdict : verdict executor files request with
      | error error => exact hfollows.unchanged error hverdict
      | ok found =>
        rw [hverdict] at hresult
        cases hresult
    written := by
      intro result hresult hdry
      refine ⟨?_, Text.Utf8.decode_encode _⟩
      rw [hfollows.result] at hresult
      cases hverdict : verdict executor files request with
      | error error =>
        rw [hverdict] at hresult
        cases hresult
      | ok found =>
        rw [hverdict] at hresult
        cases hresult
        exact hfollows.changed found hverdict hdry
    returns := by
      rw [hfollows.result]
      constructor
      · rintro ⟨result, hresult⟩
        cases hverdict : verdict executor files request with
        | error error =>
          rw [hverdict] at hresult
          cases hresult
        | ok found =>
          obtain ⟨hschema, hcontent, hwritten⟩ := verdict_eq_ok_iff.mp hverdict
          exact ⟨found.1, found.2, hschema, hcontent, written_eq_ok_iff.mp hwritten⟩
      · rintro ⟨schema, content, hschema, hcontent, hwritten⟩
        have hverdict := verdict_eq_ok_iff.mpr
          ⟨hschema, hcontent, written_eq_ok_iff.mpr hwritten⟩
        exact ⟨resultOf request schema content, by rw [hverdict]; rfl⟩
    counted := by
      intro result hresult
      obtain ⟨schema, file, -, -, hschema, hbuilt, -, -, rfl⟩ := delivered_of_result hresult
      obtain ⟨htables, henums⟩ := length_declarations hbuilt
      exact ⟨schema, file, hschema, hbuilt, rfl, htables.symm, henums.symm⟩ }

/-! ## Several runs -/

/-- Runs that ask for the same schema return the same text and the same counts, if they return. -/
theorem content_eq_of_schemaName_eq {other : Request} {others : FileSystem} {result' : Result}
    (hname : other.schemaName = request.schemaName)
    (h : (run executor files request).result = .ok result)
    (h' : (run executor others other).result = .ok result') :
    result'.content = result.content ∧ result'.tableCount = result.tableCount ∧
      result'.enumCount = result.enumCount := by
  obtain ⟨schema, file, -, -, hschema, hbuilt, -, -, rfl⟩ := delivered_of_result h
  obtain ⟨schema', file', -, -, hschema', hbuilt', -, -, rfl⟩ := delivered_of_result h'
  rw [hname, hschema] at hschema'
  cases hschema'
  rw [hbuilt] at hbuilt'
  cases hbuilt'
  exact ⟨rfl, rfl, rfl⟩

/-- A text that was delivered is delivered once more in the same way. -/
theorem deliver_again (hplain : request.output.Plain) {content : String} {left : FileSystem}
    {log : List Log.Entry} (h : deliver files request content = (left, .ok (), log)) :
    deliver left request content = (left, .ok (), log) := by
  unfold deliver at h ⊢
  by_cases hdry : request.isDryRun
  · rw [if_pos hdry] at h ⊢
    cases h
    rfl
  · rw [if_neg hdry] at h ⊢
    cases hwrite : files.writeText request.output content with
    | mk written outcome =>
      rw [hwrite] at h
      cases outcome with
      | error fault => cases h
      | ok _ =>
        cases h
        rw [FileSystem.writeText_again hplain hwrite]

/-- **A run that has returned can be repeated**, and its outcome is the same in all respects. -/
theorem run_again (hplain : request.output.Plain)
    (h : (run executor files request).result = .ok result) :
    run executor (run executor files request).files request = run executor files request := by
  obtain ⟨schema, file, left, log, hschema, hbuilt, hdeliver, hfiles, -⟩ := delivered_of_result h
  rw [hfiles, run_eq_delivering hschema hbuilt, run_eq_delivering hschema hbuilt, delivering,
    delivering, hdeliver, deliver_again hplain hdeliver]

end Runs

/-- **A run leaves files alone unless it returns a text that it has written.** Besides, runs for the
same schema, dry or not and whatever files there are, issue the same queries in the same order and
return the same text and counts if they return; and a run that has returned leaves the files as it
has left them if it is repeated, and returns the same. -/
theorem files_and_repetition (executor : Introspection.Executor) (files : FileSystem)
    (output : String) (schemaName : Value) (isDryRun : Bool) :
    Contained executor files (requestFor output schemaName isDryRun)
      (run executor files (requestFor output schemaName isDryRun)) ∧
    (∀ (others : FileSystem) (other : Request), other.schemaName = schemaName →
      (run executor others other).queries
        = (run executor files (requestFor output schemaName isDryRun)).queries ∧
      ∀ result result', (run executor files (requestFor output schemaName isDryRun)).result
          = .ok result → (run executor others other).result = .ok result' →
        result'.content = result.content ∧ result'.tableCount = result.tableCount ∧
          result'.enumCount = result.enumCount) ∧
    (∀ result, (run executor files (requestFor output schemaName isDryRun)).result = .ok result →
      run executor (run executor files (requestFor output schemaName isDryRun)).files
          (requestFor output schemaName isDryRun)
        = run executor files (requestFor output schemaName isDryRun)) := by
  refine ⟨contained_run _ _ _, fun others other hname => ⟨?_, fun result result' h h' => ?_⟩,
    fun result h => run_again (Path.plain_ofText output) h⟩
  · rw [queries_run, queries_run, hname]
    rfl
  · exact content_eq_of_schemaName_eq hname h h'

end Generation
end SchemaTypes
