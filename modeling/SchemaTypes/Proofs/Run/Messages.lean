import SchemaTypes.Proofs.Introspection.Failures
import SchemaTypes.Proofs.Settings.Accepted
import SchemaTypes.Settings.Source

/-!
# What is said of a failure

A failure of one of the stages of a run has a text. For each kind of failure the text is spelled
out here from what the failure holds: the fault of a file, an error of loading settings, a map that
holds no settings, a query that fails, and a record that is refused. Each of these relations has
exactly one text for each failure, and it is the one that the failure has (`FileFault.says_iff` and
the like).

What is passed on from elsewhere is not spelled out: the text of a failure of the database, what is
said about a document that cannot be read or a scalar without a value, and the problem that a check
finds with a value.
-/

namespace SchemaTypes

/-! ## Files -/

/-- The number and the words that an error of the file system has. -/
inductive FileError.Numbered : FileError → Nat → String → Prop
  | notFound : Numbered .notFound 2 "No such file or directory"
  | occupied : Numbered .occupied 17 "File exists"
  | notADirectory : Numbered .notADirectory 20 "Not a directory"
  | isADirectory : Numbered .isADirectory 21 "Is a directory"
  | nameTooLong : Numbered .nameTooLong 36 "File name too long"
  | refused (refusal : Refusal) : Numbered (.refused refusal) refusal.number refusal.words

/-- The text of a failed operation on files: an error with a number shows it, its words and the
path, and the two others have texts of their own. -/
inductive FileFault.Says : FileFault → String → Prop
  | numbered {error : FileError} {number : Nat} {words path : String} :
    error.Numbered number words →
      Says ⟨error, path⟩ ("[Errno " ++ number.repr ++ "] " ++ words ++ ": " ++ Text.display path)
  | nullCharacter {path : String} : Says ⟨.nullCharacter, path⟩ "embedded null byte"
  | tooDeep {path : String} :
    Says ⟨.tooDeep, path⟩ "maximum recursion depth exceeded while calling a Python object"

theorem FileError.Numbered.description_eq {error : FileError} {number : Nat} {words : String}
    (h : error.Numbered number words) :
    error.description = "[Errno " ++ number.repr ++ "] " ++ words ∧ error.namesPath = true := by
  cases h with
  | refused refusal => exact ⟨rfl, rfl⟩
  | _ => exact ⟨by decide, rfl⟩

/-- The words for an error that names no path stand alone. -/
theorem FileFault.message_of_namesPath_eq_false {error : FileError} (path : String)
    (h : error.namesPath = false) : FileFault.message ⟨error, path⟩ = error.description := by
  rw [FileFault.message, h, if_neg Bool.false_ne_true, String.append_empty]

theorem FileFault.message_of_numbered {error : FileError} {number : Nat} {words : String}
    (path : String) (h : error.Numbered number words) :
    FileFault.message ⟨error, path⟩ =
      "[Errno " ++ number.repr ++ "] " ++ words ++ ": " ++ Text.display path := by
  obtain ⟨hdescription, hpath⟩ := h.description_eq
  rw [FileFault.message, hdescription, hpath, if_pos rfl, ← String.append_assoc]

theorem FileFault.says_iff {fault : FileFault} {text : String} :
    fault.Says text ↔ fault.message = text := by
  constructor
  · intro h
    cases h with
    | numbered h => exact message_of_numbered _ h
    | nullCharacter => exact message_of_namesPath_eq_false _ rfl
    | tooDeep => exact message_of_namesPath_eq_false _ rfl
  · rintro rfl
    obtain ⟨error, path⟩ := fault
    cases error with
    | nullCharacter =>
      rw [message_of_namesPath_eq_false path rfl]
      exact .nullCharacter
    | tooDeep =>
      rw [message_of_namesPath_eq_false path rfl]
      exact .tooDeep
    | _ =>
      rw [message_of_numbered path (by constructor)]
      exact .numbered (by constructor)

/-! ## Loading settings -/

/-- The text about bytes that are no text shows a single byte and its place, or the places of the
first and the last byte. -/
inductive Text.Utf8.Fault.Says : Fault → String → Prop
  | byte {byte : UInt8} {position : Nat} {reason : Reason} :
    Says ⟨[byte], position, reason⟩ ("'utf-8' codec can't decode "
      ++ ("byte 0x" ++ String.ofList (hexPadded 2 byte.toNat) ++ " in position " ++ position.repr)
      ++ ": " ++ reason.text)
  | bytes {bytes : List UInt8} {position : Nat} {reason : Reason} : bytes.length ≠ 1 →
    Says ⟨bytes, position, reason⟩ ("'utf-8' codec can't decode "
      ++ ("bytes in position " ++ position.repr ++ "-" ++ (position + bytes.length - 1).repr)
      ++ ": " ++ reason.text)

theorem Text.Utf8.Fault.says_iff {fault : Fault} {text : String} :
    fault.Says text ↔ fault.message = text := by
  obtain ⟨bytes, position, reason⟩ := fault
  unfold Fault.message
  dsimp only
  split
  · constructor
    · intro h
      cases h with
      | byte => rfl
      | bytes hlength => exact absurd rfl hlength
    · rintro rfl
      exact .byte
  · rename_i hbytes
    constructor
    · intro h
      cases h with
      | byte => exact absurd rfl (hbytes _)
      | bytes => rfl
    · rintro rfl
      refine .bytes fun hlength => ?_
      obtain ⟨byte, rfl⟩ := List.length_eq_one_iff.mp hlength
      exact hbytes byte rfl

/-- The text of an error of loading settings. -/
inductive Settings.LoadError.Says : LoadError → String → Prop
  | noHome : Says .noHome "Could not determine home directory."
  | unknown {fault : FileFault} {text : String} : fault.Says text → Says (.unknown fault) text
  | notFound {path : String} : Says (.notFound path) ("Configuration file not found: " ++ path)
  | unreadable {path text : String} {fault : FileFault} : fault.Says text →
    Says (.unreadable path fault) ("Error reading configuration file: " ++ path ++ "\n" ++ text)
  | malformed {path report : String} :
    Says (.malformed path report) ("Invalid YAML configuration: " ++ path ++ "\n" ++ report)
  | notAMap {path : String} :
    Says (.notAMap path) ("Configuration file must contain a YAML dictionary: " ++ path)
  | encoding {fault : Text.Utf8.Fault} {text : String} : fault.Says text →
    Says (.encoding fault) text
  | tooDeep : Says .tooDeep "maximum recursion depth exceeded"
  | scalar {fault : Yaml.ScalarFault} : Says (.scalar fault) fault.message

theorem Settings.LoadError.says_iff {error : LoadError} {text : String} :
    error.Says text ↔ error.message = text := by
  constructor
  · intro h
    cases h with
    | unknown h =>
      rw [← FileFault.says_iff.mp h]
      rfl
    | unreadable h =>
      rw [← FileFault.says_iff.mp h]
      rfl
    | encoding h =>
      rw [← Text.Utf8.Fault.says_iff.mp h]
      rfl
    | _ => rfl
  · rintro rfl
    cases error with
    | unknown fault =>
      have hmessage : (LoadError.unknown fault).message = fault.message := rfl
      rw [hmessage]
      exact .unknown (FileFault.says_iff.mpr rfl)
    | unreadable path fault => exact .unreadable (FileFault.says_iff.mpr rfl)
    | encoding fault =>
      have hmessage : (LoadError.encoding fault).message = fault.message := rfl
      rw [hmessage]
      exact .encoding (Text.Utf8.Fault.says_iff.mpr rfl)
    | _ => constructor

/-! ## Settings -/

/-- A list whose members are those of another one that have a property, in its order, is what is
left of it by this property. -/
theorem eq_filter_of_sublist {α : Type} {names all : List α} {p : α → Bool} (hall : all.Nodup)
    (h : names.Sublist all) (hmem : ∀ name ∈ all, name ∈ names ↔ p name = true) :
    names = all.filter p := by
  induction h with
  | slnil => rfl
  | cons name h ih =>
    rw [List.nodup_cons] at hall
    have hout : ¬ p name = true := fun hp =>
      hall.1 (h.subset ((hmem name List.mem_cons_self).mpr hp))
    rw [List.filter_cons_of_neg hout]
    exact ih hall.2 fun other hother => hmem other (List.mem_cons_of_mem _ hother)
  | cons_cons name h ih =>
    rw [List.nodup_cons] at hall
    rw [List.filter_cons_of_pos ((hmem name List.mem_cons_self).mp List.mem_cons_self)]
    refine congrArg _ (ih hall.2 fun other hother => ?_)
    have hne : other ≠ name := by
      rintro rfl
      exact hall.1 hother
    rw [← hmem other (List.mem_cons_of_mem _ hother), List.mem_cons, or_iff_right hne]

/-- Lists that belong together item by item, where the items of the first have a property and
determine those of the second. -/
theorem forall₂_iff_map {α β : Type} {R : α → β → Prop} {p : α → Prop} {f : α → β}
    (h : ∀ a b, R a b ↔ p a ∧ b = f a) {as : List α} {bs : List β} :
    List.Forall₂ R as bs ↔ (∀ a ∈ as, p a) ∧ bs = as.map f := by
  induction as generalizing bs with
  | nil => simp [List.forall₂_nil_left_iff]
  | cons a as ih =>
    rw [List.forall₂_cons_left_iff, List.forall_mem_cons, List.map_cons]
    constructor
    · rintro ⟨b, rest, hfirst, hrest, rfl⟩
      obtain ⟨ha, rfl⟩ := (h _ _).mp hfirst
      obtain ⟨has, rfl⟩ := ih.mp hrest
      exact ⟨⟨ha, has⟩, rfl⟩
    · rintro ⟨⟨ha, has⟩, rfl⟩
      exact ⟨_, _, (h _ _).mpr ⟨ha, rfl⟩, ih.mpr ⟨has, rfl⟩, rfl⟩

namespace Settings

section Complaints

variable {entries : List (Value × Value)} {names : List String} {issues : List Issue}
  {text : String}

/-- A line about an issue names the field and tells the problem. -/
def IsLineFor (issue : Issue) (line : String) : Prop :=
  ∃ name, issue.location = [.field name] ∧ line = name ++ ": " ++ issue.problem.message

/-- The text about a map that holds no settings: the required fields that it lacks, or a line on
each issue that the check of its fields has found. -/
inductive Complains (entries : List (Value × Value)) : String → Prop
  | missing {names : List String} : ListsMissing entries names →
    Complains entries ("Missing required connection parameters: " ++ ", ".intercalate names
      ++ ". Provide via --conn-file, ~/.pgtsgen/postgres.yaml or DB_* environment variables")
  | invalid {issues : List Issue} {lines : List String} :
    (∀ name ∈ requiredNames, ¬ Lacks entries name) → check entries = .invalid issues →
    List.Forall₂ IsLineFor issues lines →
      Complains entries ("Database configuration validation failed:\n" ++ "\n".intercalate lines)

theorem ListsMissing.eq_missingNames (h : ListsMissing entries names) :
    names = missingNames entries := by
  refine eq_filter_of_sublist (by decide) h.ordered fun name hname => ?_
  rw [h.mem_iff, lacks_iff]
  exact and_iff_right hname

theorem missingNames_eq_nil_iff :
    missingNames entries = [] ↔ ∀ name ∈ requiredNames, ¬ Lacks entries name := by
  rw [List.eq_nil_iff_forall_not_mem]
  simp only [mem_missingNames_iff, not_and]

theorem OneProblemAt.location_eq {α : Type} {location : List Step} {checked : Checked α}
    (h : OneProblemAt location checked) : ∀ issue ∈ checked.issues, issue.location = location := by
  cases h with
  | accepted a => exact fun _ hissue => absurd hissue List.not_mem_nil
  | refused hproblem =>
    intro issue hissue
    rw [List.mem_singleton.mp hissue]

/-- Every issue of the check is with a field. -/
theorem exists_location_of_check (h : check entries = .invalid issues) :
    ∀ issue ∈ issues, ∃ name, issue.location = [.field name] := by
  have hissues : issues = fieldNames.flatMap (issuesAt entries) := by
    rw [← issues_check, h]
    rfl
  intro issue hissue
  rw [hissues, List.mem_flatMap] at hissue
  obtain ⟨name, -, hissue⟩ := hissue
  rw [issuesAt] at hissue
  split at hissue
  · exact ⟨_, (oneProblemAt_withDefault entries "port" defaultPort).location_eq issue hissue⟩
  · exact ⟨_, (oneProblemAt_required entries name).location_eq issue hissue⟩

theorem isLineFor_iff (issue : Issue) (line : String) :
    IsLineFor issue line ↔ (∃ name, issue.location = [.field name]) ∧ line = issueLine issue := by
  obtain ⟨location, problem⟩ := issue
  constructor
  · rintro ⟨name, rfl, rfl⟩
    exact ⟨⟨name, rfl⟩, rfl⟩
  · rintro ⟨⟨name, rfl⟩, rfl⟩
    exact ⟨name, rfl, rfl⟩

theorem forall₂_isLineFor_iff {lines : List String} :
    List.Forall₂ IsLineFor issues lines ↔
      (∀ issue ∈ issues, ∃ name, issue.location = [.field name]) ∧ lines = issues.map issueLine :=
  forall₂_iff_map isLineFor_iff

/-- **The text about a map is that of the error**, and there is one if the map holds no settings. -/
theorem complains_iff :
    Complains entries text ↔ ∃ error, ofEntries entries = .error error ∧ error.message = text := by
  constructor
  · intro h
    cases h with
    | missing hnames =>
      have hmissing := hnames.eq_missingNames
      refine ⟨_, ofEntries_of_missing (hmissing ▸ hnames.ne_nil), ?_⟩
      rw [← hmissing]
      rfl
    | invalid hlacks hcheck hlines =>
      refine ⟨_, by rw [ofEntries_of_not_missing (missingNames_eq_nil_iff.mpr hlacks), hcheck]; rfl,
        ?_⟩
      rw [(forall₂_isLineFor_iff.mp hlines).2]
      rfl
  · rintro ⟨error, herror, rfl⟩
    by_cases hmissing : missingNames entries = []
    · rw [ofEntries_of_not_missing hmissing] at herror
      cases hcheck : check entries with
      | valid settings =>
        rw [hcheck] at herror
        cases herror
      | invalid issues =>
        rw [hcheck] at herror
        cases herror
        have hlines := forall₂_isLineFor_iff.mpr ⟨exists_location_of_check hcheck, rfl⟩
        exact .invalid (missingNames_eq_nil_iff.mp hmissing) hcheck hlines
    · rw [ofEntries_of_missing hmissing] at herror
      cases herror
      exact .missing ⟨List.filter_sublist, fun _ => mem_missingNames_iff, hmissing⟩

end Complaints

end Settings

/-! ## Introspection -/

namespace Introspection

/-- The text of a query that fails names its kind and what it was about, a schema or a table in it,
and ends with the text of the failure. -/
inductive Query.Says (failure : Failure) : Query → String → Prop
  | tables {schemaName : Value} : Says failure (.tables schemaName)
    ("tables query failed for " ++ schemaName.toText ++ ": " ++ failure.message)
  | columns {tableName schemaName : Value} : ¬ tableName.Falsy →
    Says failure (.columns tableName schemaName) ("columns query failed for "
      ++ (schemaName.toText ++ "." ++ tableName.toText) ++ ": " ++ failure.message)
  | unnamed {tableName schemaName : Value} : tableName.Falsy →
    Says failure (.columns tableName schemaName)
      ("columns query failed for " ++ schemaName.toText ++ ": " ++ failure.message)
  | enums {schemaName : Value} : Says failure (.enums schemaName)
    ("enums query failed for " ++ schemaName.toText ++ ": " ++ failure.message)

/-- The paragraph about an issue names the field, tells the problem, shows the value, and says where
to read more. -/
def IsParagraphOn (input : List (String × Value)) (issue : Issue) (paragraph : String) : Prop :=
  ∃ name value, issue.location = [.field name] ∧ input.lookup name = some value ∧
    paragraph = name ++ "\n  " ++ issue.problem.message ++ " [type=" ++ issue.problem.code
      ++ ", input_value=" ++ shortened value.display ++ ", input_type=" ++ value.kindName
      ++ "]\n    For further information visit " ++ explanationOf issue.problem

/-- The text of a record that is refused: a line with the number of issues, and a paragraph on each
of them. -/
inductive RecordError.Says (error : RecordError) : String → Prop
  | one {issue : Issue} {paragraph : String} : error.issues = [issue] →
    IsParagraphOn error.input issue paragraph →
      Says error ("1 validation error for " ++ error.record ++ "\n" ++ paragraph)
  | several {paragraphs : List String} : 2 ≤ error.issues.length →
    List.Forall₂ (IsParagraphOn error.input) error.issues paragraphs →
      Says error (error.issues.length.repr ++ " validation errors for " ++ error.record ++ "\n"
        ++ "\n".intercalate paragraphs)

section Texts

variable {query : Query} {failure : Failure} {text : String} {error : RecordError}

theorem Query.exists_says (query : Query) (failure : Failure) :
    ∃ text, query.Says failure text := by
  cases query with
  | tables schemaName => exact ⟨_, .tables⟩
  | columns tableName schemaName =>
    by_cases hname : tableName.Falsy
    · exact ⟨_, .unnamed hname⟩
    · exact ⟨_, .columns hname⟩
  | enums schemaName => exact ⟨_, .enums⟩

/-- The text of a query about a table that has a name. -/
theorem message_of_named (stage : Stage) (schemaName : Value) {tableName : Value}
    (failure : Failure) (h : ¬ tableName.Falsy) :
    QueryError.message ⟨stage, schemaName, tableName, some failure⟩ =
      stage.word ++ " query failed for " ++ (schemaName.toText ++ "." ++ tableName.toText)
        ++ ": " ++ failure.message := by
  rw [← Value.isEmpty_iff_falsy] at h
  rw [QueryError.message]
  dsimp only
  rw [if_neg h]
  exact String.append_assoc.symm

/-- The text of a query about a whole schema, or about a table without a name. -/
theorem message_of_unnamed (stage : Stage) (schemaName : Value) {tableName : Value}
    (failure : Failure) (h : tableName.Falsy) :
    QueryError.message ⟨stage, schemaName, tableName, some failure⟩ =
      stage.word ++ " query failed for " ++ schemaName.toText ++ ": " ++ failure.message := by
  rw [← Value.isEmpty_iff_falsy] at h
  rw [QueryError.message]
  dsimp only
  rw [if_pos h]
  exact String.append_assoc.symm

theorem Query.Says.message_eq (h : query.Says failure text) :
    QueryError.message ⟨query.stage, query.schemaName, query.tableName, some failure⟩ = text := by
  have htables : Stage.tables.word ++ " query failed for " = "tables query failed for " := by decide
  have hcolumns : Stage.columns.word ++ " query failed for " = "columns query failed for " := by
    decide
  have henums : Stage.enums.word ++ " query failed for " = "enums query failed for " := by decide
  cases h with
  | tables =>
    rw [← htables]
    exact message_of_unnamed .tables _ failure .null
  | columns hname =>
    rw [← hcolumns]
    exact message_of_named .columns _ failure hname
  | unnamed hname =>
    rw [← hcolumns]
    exact message_of_unnamed .columns _ failure hname
  | enums =>
    rw [← henums]
    exact message_of_unnamed .enums _ failure .null

theorem Query.says_iff :
    query.Says failure text ↔
      QueryError.message ⟨query.stage, query.schemaName, query.tableName, some failure⟩ = text := by
  constructor
  · exact Says.message_eq
  · rintro rfl
    obtain ⟨text, h⟩ := query.exists_says failure
    rwa [h.message_eq]

theorem issueText_of_lookup {name : String} {value : Value} (problem : Problem)
    (h : error.input.lookup name = some value) :
    error.issueText ⟨[.field name], problem⟩ =
      name ++ "\n  " ++ problem.message ++ " [type=" ++ problem.code ++ ", input_value="
        ++ shortened value.display ++ ", input_type=" ++ value.kindName
        ++ "]\n    For further information visit " ++ explanationOf problem := by
  have hvalue : error.valueAt ⟨[.field name], problem⟩ = value :=
    congrArg (·.getD .null) h
  rw [RecordError.issueText, hvalue]
  rfl

theorem isParagraphOn_iff (issue : Issue) (paragraph : String) :
    IsParagraphOn error.input issue paragraph ↔
      (∃ name value, issue.location = [.field name] ∧ error.input.lookup name = some value) ∧
        paragraph = error.issueText issue := by
  obtain ⟨location, problem⟩ := issue
  constructor
  · rintro ⟨name, value, rfl, hlookup, rfl⟩
    exact ⟨⟨name, value, rfl, hlookup⟩, (issueText_of_lookup problem hlookup).symm⟩
  · rintro ⟨⟨name, value, rfl, hlookup⟩, rfl⟩
    exact ⟨name, value, rfl, hlookup, issueText_of_lookup problem hlookup⟩

theorem forall₂_isParagraphOn_iff {issues : List Issue} {paragraphs : List String} :
    List.Forall₂ (IsParagraphOn error.input) issues paragraphs ↔
      (∀ issue ∈ issues, ∃ name value, issue.location = [.field name] ∧
        error.input.lookup name = some value) ∧ paragraphs = issues.map error.issueText :=
  forall₂_iff_map isParagraphOn_iff

theorem RecordError.Says.message_eq (h : error.Says text) : error.message = text := by
  rw [RecordError.message]
  cases h with
  | one hissues hparagraph =>
    have hheading : (1).repr ++ " validation error" ++ "" ++ " for "
        = "1 validation error for " := by decide
    rw [hissues, ((isParagraphOn_iff _ _).mp hparagraph).2, ← hheading]
    rfl
  | several hlength hparagraphs =>
    have hheading : " validation errors for " = " validation error" ++ "s" ++ " for " := by decide
    rw [(forall₂_isParagraphOn_iff.mp hparagraphs).2, if_neg (by omega), hheading]
    simp only [String.append_assoc]

/-- A record that is refused because of values that are no texts has a text. -/
theorem RecordError.exists_says (hsome : error.issues ≠ [])
    (h : ∀ issue ∈ error.issues, WithNoText error.input issue) : ∃ text, error.Says text := by
  have hlocated : ∀ issue ∈ error.issues, ∃ name value, issue.location = [.field name] ∧
      error.input.lookup name = some value := by
    intro issue hissue
    obtain ⟨name, value, hlocation, hlookup, -⟩ := h issue hissue
    exact ⟨name, value, hlocation, hlookup⟩
  have hparagraphs := forall₂_isParagraphOn_iff.mpr ⟨hlocated, rfl⟩
  cases hissues : error.issues with
  | nil => exact absurd hissues hsome
  | cons issue rest =>
    cases rest with
    | nil =>
      have hparagraph := (isParagraphOn_iff _ _).mpr
        ⟨hlocated issue (by rw [hissues]; exact List.mem_singleton_self issue), rfl⟩
      exact ⟨_, .one hissues hparagraph⟩
    | cons other rest => exact ⟨_, .several (by rw [hissues]; simp) hparagraphs⟩

theorem RecordError.says_iff (hsome : error.issues ≠ [])
    (h : ∀ issue ∈ error.issues, WithNoText error.input issue) :
    error.Says text ↔ error.message = text := by
  constructor
  · exact Says.message_eq
  · rintro rfl
    obtain ⟨text, htext⟩ := exists_says hsome h
    rwa [htext.message_eq]

end Texts

end Introspection

end SchemaTypes
