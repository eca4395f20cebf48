import SchemaTypes.Generation
import SchemaTypes.Proofs.FileSystem.Contents

/-!
# What a generation comes to

A generation has three stages: the schema is introspected, its declarations are written as a text,
and the text is put into a file unless the run is dry. `verdict` is the first of them that fails or
what they came to, without the reports and queries on the way. The result of a run is just that,
and the files that it leaves behind depend on it in three ways: a run that fails changes no file, a
dry run changes nothing at all, and any other run changes the file that was asked for and no other
one (`follows_run`).
-/

namespace SchemaTypes
namespace Generation

variable (executor : Introspection.Executor) (files : FileSystem) (request : Request)

/-- The stage in which a text is put into its file. -/
def written (content : String) : Except FileFault Unit :=
  if request.isDryRun then .ok () else (files.writeText request.output content).2

/-- The schema and its text if all stages succeed, and otherwise the error of the first that
fails. -/
def verdict : Except Error (DatabaseSchema × String) := do
  let schema ← (introspect executor request.schemaName).result.mapError .introspection
  let content ← schema.generate.mapError .collision
  (written files request content).mapError .file
  return (schema, content)

/-- The queries of a run are those of its introspection. -/
theorem queries_run :
    (run executor files request).queries = (introspect executor request.schemaName).queries := by
  unfold run
  dsimp only
  split
  · rfl
  · split
    · rfl
    · split <;> rfl

/-- What holds of a run: its result is the verdict of its stages, and it changes no file if that
is an error, nothing if it is dry, and otherwise the file that was asked for. -/
structure Follows (outcome : Outcome) : Prop where
  result : outcome.result =
    (verdict executor files request).map fun found => resultOf request found.1 found.2
  unchanged : ∀ error, verdict executor files request = .error error →
    outcome.files.SameFiles files
  dry : ∀ found, verdict executor files request = .ok found → request.isDryRun = true →
    outcome.files = files
  changed : ∀ found, verdict executor files request = .ok found → request.isDryRun = false →
    FileSystem.OnlyWritten files request.output (Text.Utf8.encode found.2) outcome.files

section Stages

variable {executor files request}

theorem follows_of_error {outcome : Outcome} {error : Error}
    (hverdict : verdict executor files request = .error error)
    (hresult : outcome.result = .error error) (hfiles : outcome.files.SameFiles files) :
    Follows executor files request outcome where
  result := by
    rw [hverdict, hresult]
    rfl
  unchanged _ _ := hfiles
  dry _ h := by
    rw [hverdict] at h
    cases h
  changed _ h := by
    rw [hverdict] at h
    cases h

/-- Putting a text into its file succeeds in a dry run, and otherwise if writing it does. -/
theorem written_eq_ok_iff {content : String} :
    written files request content = .ok () ↔
      (request.isDryRun = false → (files.writeText request.output content).2 = .ok ()) := by
  unfold written
  cases request.isDryRun with
  | true => exact iff_of_true rfl nofun
  | false => exact ⟨fun h _ => h, fun h => h rfl⟩

/-- The verdict is a schema and a text if all stages succeed with them. -/
theorem verdict_eq_ok_iff {schema : DatabaseSchema} {content : String} :
    verdict executor files request = .ok (schema, content) ↔
      (introspect executor request.schemaName).result = .ok schema ∧
        schema.generate = .ok content ∧ written files request content = .ok () := by
  simp only [verdict, bind_eq_ok_iff, mapError_eq_ok_iff]
  constructor
  · rintro ⟨_, hschema, _, hcontent, _, hwritten, h⟩
    cases h
    exact ⟨hschema, hcontent, hwritten⟩
  · rintro ⟨hschema, hcontent, hwritten⟩
    exact ⟨schema, hschema, content, hcontent, (), hwritten, rfl⟩

/-- Putting a text into its file fails if the run is not dry and writing it fails. -/
theorem written_eq_error_iff {content : String} {fault : FileFault} :
    written files request content = .error fault ↔
      request.isDryRun = false ∧ (files.writeText request.output content).2 = .error fault := by
  unfold written
  cases request.isDryRun with
  | true => exact iff_of_false nofun nofun
  | false => exact ⟨fun h => ⟨rfl, h⟩, fun h => h.2⟩

/-- The verdict is an error if a stage fails, and those before it do not. -/
theorem verdict_eq_error_iff {error : Error} :
    verdict executor files request = .error error ↔
      (∃ own, (introspect executor request.schemaName).result = .error own ∧
        .introspection own = error) ∨
      ∃ schema, (introspect executor request.schemaName).result = .ok schema ∧
        ((∃ collision, schema.generate = .error collision ∧ .collision collision = error) ∨
        ∃ content, schema.generate = .ok content ∧
          ∃ fault, written files request content = .error fault ∧ .file fault = error) := by
  have hreturn : ∀ (found : DatabaseSchema × String),
      (return found : Except Error (DatabaseSchema × String)) ≠ .error error := nofun
  simp only [verdict, bind_eq_error_iff, mapError_eq_error_iff, mapError_eq_ok_iff, hreturn,
    and_false, exists_false, or_false]

variable {schema : DatabaseSchema}

theorem verdict_of_introspection {error : Introspection.Error}
    (h : (introspect executor request.schemaName).result = .error error) :
    verdict executor files request = .error (.introspection error) := by
  rw [verdict, h]
  rfl

/-- With a schema the verdict is that of the two stages left. -/
theorem verdict_of_schema (h : (introspect executor request.schemaName).result = .ok schema) :
    verdict executor files request = schema.generate.mapError .collision >>= fun content =>
      (written files request content).mapError .file >>= fun _ => .ok (schema, content) := by
  rw [verdict, h]
  rfl

/-- With a text the verdict is that of delivering it. -/
theorem verdict_of_content {content : String}
    (h : (introspect executor request.schemaName).result = .ok schema)
    (hcontent : schema.generate = .ok content) :
    verdict executor files request =
      (written files request content).mapError .file >>= fun _ => .ok (schema, content) := by
  rw [verdict_of_schema h, hcontent]
  rfl

end Stages

/-- Delivering a text fails and changes no file, or it changes nothing because it is not to, or
it changes the file that was asked for. -/
theorem deliver_cases (content : String) :
    (∃ made fault, deliver files request content = (made, .error fault, []) ∧
      written files request content = .error fault ∧ made.SameFiles files) ∨
    (∃ left log, deliver files request content = (left, .ok (), log) ∧
      written files request content = .ok () ∧
      (request.isDryRun = true → left = files) ∧
      (request.isDryRun = false →
        FileSystem.OnlyWritten files request.output (Text.Utf8.encode content) left)) := by
  unfold deliver written
  by_cases hdry : request.isDryRun
  · rw [if_pos hdry, if_pos hdry]
    exact .inr ⟨files, _, rfl, rfl, fun _ => rfl, fun h => absurd (hdry.symm.trans h) nofun⟩
  · rw [if_neg hdry, if_neg hdry]
    rcases files.writeText_cases request.output content with
      ⟨left, hwrite, honly⟩ | ⟨made, fault, hwrite, hsame⟩
    · rw [hwrite]
      exact .inr ⟨left, _, rfl, rfl, fun h => absurd h hdry, fun _ => honly⟩
    · rw [hwrite]
      exact .inl ⟨made, fault, rfl, rfl, hsame⟩

/-! ## Runs -/

/-- What a run leaves behind that has found a schema and built its declarations. -/
def delivering (schema : DatabaseSchema) (file : DeclarationFile) : Outcome :=
  let found := introspect executor request.schemaName
  let content := TypeScript.renderFile file
  let (left, delivered, delivery) := deliver files request content
  { result := (delivered.mapError .file).map fun _ => resultOf request schema content
    files := left
    queries := found.queries
    log := found.log ++ schema.build.log ++ countReports schema ++ delivery }

/-- How a run can go: the schema is not read, or it has no declarations, or they are delivered. -/
inductive Course (outcome : Outcome) : Prop
  | unread {error : Introspection.Error} :
    (introspect executor request.schemaName).result = .error error →
      outcome.result = .error (.introspection error) → outcome.files = files → Course outcome
  | unbuilt {schema : DatabaseSchema} {clash : Collision} :
    (introspect executor request.schemaName).result = .ok schema →
      schema.build.outcome = .error clash → outcome.result = .error (.collision clash) →
        outcome.files = files → Course outcome
  | built {schema : DatabaseSchema} {file : DeclarationFile} :
    (introspect executor request.schemaName).result = .ok schema →
      schema.build.outcome = .ok file →
        outcome = delivering executor files request schema file → Course outcome

/-- **What a run does** is one of three things. -/
theorem course_run : Course executor files request (run executor files request) := by
  unfold run
  dsimp only
  split
  · rename_i error herror
    exact .unread herror rfl rfl
  · rename_i schema hschema
    split
    · rename_i clash hbuilt
      exact .unbuilt hschema hbuilt rfl rfl
    · rename_i file hbuilt
      refine .built hschema hbuilt ?_
      unfold delivering
      dsimp only
      generalize deliver files request (TypeScript.renderFile file) = delivery
      obtain ⟨left, delivered, log⟩ := delivery
      cases delivered <;> rfl

/-- **A run follows its stages**, and changes one file or none. -/
theorem follows_run : Follows executor files request (run executor files request) := by
  have hsame := FileSystem.SameFiles.refl files
  cases course_run executor files request with
  | unread herror hresult hfiles =>
    refine follows_of_error (verdict_of_introspection herror) hresult ?_
    rw [hfiles]
    exact hsame
  | unbuilt hschema hbuilt hresult hfiles =>
    rename_i schema clash
    have hclash : schema.generate = .error clash := by
      rw [DatabaseSchema.generate, hbuilt]
      rfl
    refine follows_of_error ?_ hresult ?_
    · rw [verdict_of_schema hschema, hclash]
      rfl
    · rw [hfiles]
      exact hsame
  | built hschema hbuilt houtcome =>
    rename_i schema file
    have hcontent : schema.generate = .ok (TypeScript.renderFile file) := by
      rw [DatabaseSchema.generate, hbuilt]
      rfl
    rw [houtcome, delivering]
    rcases deliver_cases files request (TypeScript.renderFile file) with
      ⟨made, fault, hdeliver, hwritten, hmade⟩ | ⟨left, log, hdeliver, hwritten, hdry, honly⟩
    · rw [hdeliver]
      refine follows_of_error ?_ rfl hmade
      rw [verdict_of_content hschema hcontent, hwritten]
      rfl
    · rw [hdeliver]
      have hverdict : verdict executor files request
          = .ok (schema, TypeScript.renderFile file) := by
        rw [verdict_of_content hschema hcontent, hwritten]
        rfl
      refine ⟨by rw [hverdict]; rfl, fun error h => ?_, fun found h => hdry, fun found h => ?_⟩
      · rw [hverdict] at h
        cases h
      · rw [hverdict] at h
        rw [← Except.ok.inj h]
        exact honly

end Generation
end SchemaTypes
