import Mathlib.Data.List.Forall2
import SchemaTypes.Proofs.Validation.Checks
import SchemaTypes.Proofs.Value.Entry
import SchemaTypes.Settings

/-!
# Which maps hold settings

A configuration is a map with different keys. Its values may be of any kind that a configuration
file can write down: null, truth values, integers, floats, texts, dates, lists and maps. Bytes and
broken texts are left out (`IsConfiguration`).

A configuration holds settings (`Describes`) if there is a text that is not empty under each of the
four required names, and either nothing under the name of the port, or something that is read as an
integer from 1 to 65535. What is read as an integer is a matter of `Check.integer` and not of this
module.

Otherwise the message says what is wrong (`Explains`), and it does so in one of two ways. As long as
a required field is absent or falsy, it names just these fields. A falsy value need not be a text: a
zero and an empty list are taken for a text that is missing, while a one and a list with an item are
not, and are of the wrong kind. When no required field is missing, every field that is wrong has a
line of its own.

Nothing but the entries under the five names counts, and not their order
(`settings_of_configuration`).
-/

namespace SchemaTypes

/-! ## Falsy values -/

namespace Value

/-- Null, false, a zero, and what has no content. -/
inductive Falsy : Value → Prop
  | null : Falsy .null
  | no : Falsy (.bool false)
  | zero : Falsy (.int 0)
  | floatZero (negative : Bool) (exponent : Int) : Falsy (.float (.finite negative 0 exponent))
  | noText : Falsy (.text "")
  | noPoints : Falsy (.brokenText [])
  | noBytes : Falsy (.bytes [])
  | noItems : Falsy (.list [])
  | noEntries : Falsy (.map [])

theorem isEmpty_iff_falsy {value : Value} : value.isEmpty = true ↔ Falsy value := by
  constructor
  · intro h
    cases value with
    | null => exact .null
    | bool b =>
      cases b with
      | false => exact .no
      | true => cases h
    | int n =>
      cases beq_iff_eq.mp h
      exact .zero
    | float x =>
      cases x with
      | finite negative significand exponent =>
        cases beq_iff_eq.mp h
        exact .floatZero negative exponent
      | _ => cases h
    | text s =>
      cases String.isEmpty_iff.mp h
      exact .noText
    | brokenText points =>
      cases List.isEmpty_iff.mp h
      exact .noPoints
    | bytes content =>
      cases List.isEmpty_iff.mp h
      exact .noBytes
    | moment m => cases h
    | list items =>
      cases List.isEmpty_iff.mp h
      exact .noItems
    | map entries =>
      cases List.isEmpty_iff.mp h
      exact .noEntries
  · intro h
    cases h <;> rfl

/-- The kinds of values that are neither bytes nor broken texts. -/
def IsPlain : Value → Prop
  | .bytes _ => False
  | .brokenText _ => False
  | _ => True

end Value

namespace Settings

/-! ## What is to be said of a configuration -/

/-- A map with different keys and with plain values. -/
structure IsConfiguration (entries : List (Value × Value)) : Prop where
  distinct : Value.DistinctKeys entries
  plain : ∀ entry ∈ entries, entry.2.IsPlain

section Spec

variable (entries : List (Value × Value))

/-- A field with a text that is not empty. -/
def HoldsText (name s : String) : Prop :=
  Value.field? entries name = some (.text s) ∧ s ≠ ""

/-- The port that a map means: the usual one if none is there, or an integer in the range of
ports. -/
def HoldsPort (n : Int) : Prop :=
  (Value.field? entries "port" = none ∧ n = 5432) ∨
    ∃ value, Value.field? entries "port" = some value ∧ Check.integer value = .valid n ∧
      1 ≤ n ∧ n ≤ 65535

/-- The settings that a map holds. -/
structure Describes (settings : Settings) : Prop where
  host : HoldsText entries "host" settings.host
  port : HoldsPort entries settings.port
  user : HoldsText entries "user" settings.user
  password : HoldsText entries "password" settings.password
  database : HoldsText entries "database" settings.database

/-- A field that is not there, or has a falsy value. -/
def Lacks (name : String) : Prop :=
  ∀ value, Value.field? entries name = some value → value.Falsy

/-- A field that is wrong. -/
inductive Offends : String → Prop
  | text {name : String} : name ∈ requiredNames → (¬ ∃ s, HoldsText entries name s) → Offends name
  | port : (¬ ∃ n, HoldsPort entries n) → Offends "port"

/-- The required fields that a map lacks, in the order of the fields. -/
structure ListsMissing (names : List String) : Prop where
  ordered : names.Sublist ["host", "user", "password", "database"]
  mem_iff : ∀ name, name ∈ names ↔ name ∈ requiredNames ∧ Lacks entries name
  ne_nil : names ≠ []

/-- The fields that are wrong, in the order of the fields. -/
structure ListsOffending (names : List String) : Prop where
  ordered : names.Sublist ["host", "port", "user", "password", "database"]
  mem_iff : ∀ name, name ∈ names ↔ Offends entries name
  ne_nil : names ≠ []

/-- A line about a field. -/
def IsLineOn (name line : String) : Prop :=
  '\n' ∉ line.toList ∧ ∃ problem, line = name ++ ": " ++ problem

/-- The message that a map without settings gets: the names of all required fields that it lacks,
and if it lacks none, a line on each field that is wrong, behind a line that comes first. -/
inductive Explains : String → Prop
  | missing {names : List String} : ListsMissing entries names →
    Explains ("Missing required connection parameters: " ++ ", ".intercalate names
      ++ ". Provide via --conn-file, ~/.pgtsgen/postgres.yaml or DB_* environment variables")
  | offending {names lines : List String} : (∀ name ∈ requiredNames, ¬ Lacks entries name) →
    ListsOffending entries names → List.Forall₂ IsLineOn names lines →
    Explains ("\n".intercalate ("Database configuration validation failed:" :: lines))

end Spec

/-! ## Fields -/

section Fields

variable {entries : List (Value × Value)} {value : Value} {name s : String} {n : Int}

/-- A problem that is not that of a record in the place of a field. -/
def OfScalar (problem : Problem) : Prop :=
  ∀ record, problem ≠ .notRecord record

/-- A check that accepts, or finds one problem at a place. -/
inductive OneProblemAt {α : Type} (location : List Step) : Checked α → Prop
  | accepted (a : α) : OneProblemAt location (.valid a)
  | refused {problem : Problem} (h : OfScalar problem) :
    OneProblemAt location (.invalid [⟨location, problem⟩])

theorem OneProblemAt.under {α : Type} {location : List Step} {checked : Checked α}
    (h : OneProblemAt location checked) (step : Step) :
    OneProblemAt (step :: location) (checked.under step) := by
  cases h with
  | accepted a => exact .accepted a
  | refused hproblem => exact .refused hproblem

theorem oneProblemAt_text (value : Value) : OneProblemAt [] (Check.text value) := by
  cases value with
  | text s => exact .accepted s
  | bytes content =>
    rw [Check.text]
    split
    · exact .accepted _
    · exact .refused nofun
  | _ => exact .refused nofun

theorem oneProblemAt_nonEmptyText (value : Value) :
    OneProblemAt [] (Check.nonEmptyText value) := by
  have htext := oneProblemAt_text value
  rw [Check.nonEmptyText]
  generalize Check.text value = checked at htext ⊢
  cases htext with
  | accepted s =>
    dsimp only
    split
    · exact .refused nofun
    · exact .accepted s
  | refused h => exact .refused h

theorem oneProblemAt_integerOfText (s : String) : OneProblemAt [] (Check.integerOfText s) := by
  rw [Check.integerOfText]
  split
  · exact .accepted _
  · exact .refused nofun
  · exact .refused nofun

theorem oneProblemAt_integer (value : Value) : OneProblemAt [] (Check.integer value) := by
  cases value with
  | int n => exact .accepted n
  | bool b => exact .accepted _
  | float x =>
    rw [Check.integer]
    split
    · exact .refused nofun
    · split
      · exact .refused nofun
      · split
        · exact .accepted _
        · exact .refused nofun
  | text s => exact oneProblemAt_integerOfText s
  | bytes content =>
    rw [Check.integer]
    split
    · exact oneProblemAt_integerOfText _
    · exact .refused nofun
  | _ => exact .refused nofun

theorem oneProblemAt_checkPort (value : Value) : OneProblemAt [] (checkPort value) := by
  have hinteger := oneProblemAt_integer value
  rw [checkPort]
  generalize Check.integer value = checked at hinteger ⊢
  cases hinteger with
  | accepted n =>
    dsimp only
    split
    · exact .accepted n
    · exact .refused nofun
  | refused h => exact .refused h

theorem oneProblemAt_required (entries : List (Value × Value)) (name : String) :
    OneProblemAt [.field name] (Check.required entries name Check.nonEmptyText) := by
  rw [Check.required]
  split
  · exact (oneProblemAt_nonEmptyText _).under _
  · refine .refused ?_
    rintro record ⟨⟩

theorem oneProblemAt_withDefault (entries : List (Value × Value)) (name : String) (n : Int) :
    OneProblemAt [.field name] (Check.withDefault entries name n checkPort) := by
  rw [Check.withDefault]
  split
  · exact (oneProblemAt_checkPort _).under _
  · exact .accepted n

/-- A plain value is accepted as a text if it is one and not empty. -/
theorem nonEmptyText_eq_valid_iff (h : value.IsPlain) :
    Check.nonEmptyText value = .valid s ↔ value = .text s ∧ s ≠ "" := by
  cases value with
  | text t =>
    rw [Check.nonEmptyText, Check.text]
    dsimp only
    split
    · rename_i hempty
      refine iff_of_false nofun ?_
      rintro ⟨⟨⟩, hne⟩
      exact hne (String.isEmpty_iff.mp hempty)
    · rename_i hne
      constructor
      · rintro ⟨⟩
        exact ⟨rfl, fun heq => hne (String.isEmpty_iff.mpr heq)⟩
      · rintro ⟨⟨⟩, -⟩
        rfl
  | bytes content => exact h.elim
  | brokenText points => exact h.elim
  | _ => exact iff_of_false nofun nofun

theorem checkPort_eq_valid_iff :
    checkPort value = .valid n ↔ Check.integer value = .valid n ∧ 1 ≤ n ∧ n ≤ 65535 := by
  rw [checkPort]
  cases Check.integer value with
  | valid m =>
    dsimp only
    split
    · constructor
      · rintro ⟨⟩
        exact ⟨rfl, by omega⟩
      · rintro ⟨⟨⟩, -⟩
        rfl
    · refine iff_of_false nofun ?_
      rintro ⟨⟨⟩, hrange⟩
      omega
  | invalid issues => exact iff_of_false nofun nofun

theorem mem_of_field? (h : Value.field? entries name = some value) :
    ∃ entry ∈ entries, entry.2 = value := by
  obtain ⟨entry, hfind, hvalue⟩ := Option.map_eq_some_iff.mp h
  exact ⟨entry, List.mem_of_find?_eq_some hfind, hvalue⟩

theorem required_eq_valid_iff_holdsText (h : ∀ entry ∈ entries, entry.2.IsPlain) :
    Check.required entries name Check.nonEmptyText = .valid s ↔ HoldsText entries name s := by
  rw [Check.required_eq_valid_iff]
  constructor
  · rintro ⟨value, hvalue, hvalid⟩
    obtain ⟨entry, hmem, rfl⟩ := mem_of_field? hvalue
    obtain ⟨heq, hne⟩ := (nonEmptyText_eq_valid_iff (h entry hmem)).mp hvalid
    exact ⟨heq ▸ hvalue, hne⟩
  · rintro ⟨hvalue, hne⟩
    have hplain : (Value.text s).IsPlain := trivial
    exact ⟨_, hvalue, (nonEmptyText_eq_valid_iff hplain).mpr ⟨rfl, hne⟩⟩

theorem withDefault_eq_valid_iff_holdsPort :
    Check.withDefault entries "port" defaultPort checkPort = .valid n ↔ HoldsPort entries n := by
  rw [Check.withDefault_eq_valid_iff, HoldsPort, defaultPort]
  simp only [checkPort_eq_valid_iff]

end Fields

/-! ## All fields -/

section Configurations

variable {entries others : List (Value × Value)} {name : String}

/-- Settings are accepted if each of their fields is. -/
theorem check_eq_valid_iff_forall {settings : Settings} :
    check entries = .valid settings ↔
      Check.required entries "host" Check.nonEmptyText = .valid settings.host ∧
      Check.withDefault entries "port" defaultPort checkPort = .valid settings.port ∧
      Check.required entries "user" Check.nonEmptyText = .valid settings.user ∧
      Check.required entries "password" Check.nonEmptyText = .valid settings.password ∧
      Check.required entries "database" Check.nonEmptyText = .valid settings.database := by
  simp only [check, Checked.seq_eq_valid_iff, Checked.map_eq_valid_iff]
  constructor
  · rintro ⟨_, database, ⟨_, password, ⟨_, user, ⟨_, port, ⟨host, hhost, rfl⟩, hport, rfl⟩, huser,
      rfl⟩, hpassword, rfl⟩, hdatabase, rfl⟩
    exact ⟨hhost, hport, huser, hpassword, hdatabase⟩
  · rintro ⟨hhost, hport, huser, hpassword, hdatabase⟩
    exact ⟨_, _, ⟨_, _, ⟨_, _, ⟨_, _, ⟨_, hhost, rfl⟩, hport, rfl⟩, huser, rfl⟩, hpassword, rfl⟩,
      hdatabase, rfl⟩

theorem check_eq_valid_iff (h : ∀ entry ∈ entries, entry.2.IsPlain) {settings : Settings} :
    check entries = .valid settings ↔ Describes entries settings := by
  rw [check_eq_valid_iff_forall, required_eq_valid_iff_holdsText h,
    withDefault_eq_valid_iff_holdsPort, required_eq_valid_iff_holdsText h,
    required_eq_valid_iff_holdsText h, required_eq_valid_iff_holdsText h]
  constructor
  · rintro ⟨hhost, hport, huser, hpassword, hdatabase⟩
    exact ⟨hhost, hport, huser, hpassword, hdatabase⟩
  · rintro ⟨hhost, hport, huser, hpassword, hdatabase⟩
    exact ⟨hhost, hport, huser, hpassword, hdatabase⟩

/-- The issues with a field. -/
def issuesAt (entries : List (Value × Value)) (name : String) : List Issue :=
  if name = "port" then (Check.withDefault entries "port" defaultPort checkPort).issues
  else (Check.required entries name Check.nonEmptyText).issues

theorem issues_check (entries : List (Value × Value)) :
    (check entries).issues = fieldNames.flatMap (issuesAt entries) := by
  simp [check, Checked.issues_seq, Checked.issues_map, fieldNames, issuesAt]

theorem offends_iff (h : name ∈ requiredNames) :
    Offends entries name ↔ ¬ ∃ s, HoldsText entries name s := by
  constructor
  · rintro (⟨-, hnone⟩ | -)
    · exact hnone
    · exact absurd h (by decide)
  · exact .text h

theorem offends_port_iff : Offends entries "port" ↔ ¬ ∃ n, HoldsPort entries n := by
  constructor
  · rintro (⟨hmem, -⟩ | hnone)
    · exact absurd hmem (by decide)
    · exact hnone
  · exact .port

/-- A field has an issue just if it is wrong, and then it has one. -/
theorem issuesAt_cases (h : ∀ entry ∈ entries, entry.2.IsPlain) (hname : name ∈ fieldNames) :
    (¬ Offends entries name ∧ issuesAt entries name = []) ∨
      (Offends entries name ∧
        ∃ problem, OfScalar problem ∧ issuesAt entries name = [⟨[.field name], problem⟩]) := by
  by_cases hport : name = "port"
  · subst hport
    rw [issuesAt, if_pos rfl, offends_port_iff]
    simp only [← withDefault_eq_valid_iff_holdsPort]
    have hone := oneProblemAt_withDefault entries "port" defaultPort
    generalize Check.withDefault entries "port" defaultPort checkPort = checked at hone ⊢
    cases hone with
    | accepted n => exact .inl ⟨not_not_intro ⟨n, rfl⟩, rfl⟩
    | refused hproblem => exact .inr ⟨nofun, _, hproblem, rfl⟩
  · have hrequired : name ∈ requiredNames := by
      simpa [fieldNames, requiredNames, hport] using hname
    rw [issuesAt, if_neg hport, offends_iff hrequired]
    simp only [← required_eq_valid_iff_holdsText h]
    have hone := oneProblemAt_required entries name
    generalize Check.required entries name Check.nonEmptyText = checked at hone ⊢
    cases hone with
    | accepted s => exact .inl ⟨not_not_intro ⟨s, rfl⟩, rfl⟩
    | refused hproblem => exact .inr ⟨nofun, _, hproblem, rfl⟩

/-! ## Lines -/

theorem lineFeed_notMem_message {problem : Problem} (h : OfScalar problem) :
    '\n' ∉ problem.message.toList := by
  delta Problem.message
  cases problem with
  | notRecord record => exact absurd rfl (h record)
  | _ => simp

theorem lineFeed_notMem_fieldName (h : name ∈ fieldNames) : '\n' ∉ name.toList := by
  simp only [fieldNames, List.mem_cons, List.not_mem_nil, or_false] at h
  rcases h with rfl | rfl | rfl | rfl | rfl <;> simp

theorem isLineOn_issueLine {problem : Problem} (hname : name ∈ fieldNames)
    (h : OfScalar problem) : IsLineOn name (issueLine ⟨[.field name], problem⟩) := by
  have hline : issueLine ⟨[.field name], problem⟩ = name ++ ": " ++ problem.message := rfl
  refine ⟨?_, problem.message, hline⟩
  rw [hline]
  simp [lineFeed_notMem_fieldName hname, lineFeed_notMem_message h]

open Classical in
/-- The lines on some fields are lines on those of them that are wrong. -/
theorem forall₂_lines (h : ∀ entry ∈ entries, entry.2.IsPlain) (fields : List String)
    (hfields : ∀ name ∈ fields, name ∈ fieldNames) :
    List.Forall₂ IsLineOn (fields.filter (Offends entries))
      ((fields.flatMap (issuesAt entries)).map issueLine) := by
  induction fields with
  | nil => exact .nil
  | cons name fields ih =>
    have hname := hfields name List.mem_cons_self
    have hrest := ih fun other hother => hfields other (List.mem_cons_of_mem _ hother)
    rw [List.flatMap_cons, List.map_append]
    rcases issuesAt_cases h hname with ⟨hnot, hissues⟩ | ⟨hoffends, problem, hproblem, hissues⟩
    · rw [hissues, List.filter_cons_of_neg (by simpa using hnot)]
      exact hrest
    · rw [hissues, List.filter_cons_of_pos (by simpa using hoffends)]
      exact .cons (isLineOn_issueLine hname hproblem) hrest

/-! ## Missing fields -/

theorem lacks_iff :
    (Value.field? entries name).all (·.isEmpty) = true ↔ Lacks entries name := by
  rw [Lacks]
  cases Value.field? entries name with
  | none => exact iff_of_true rfl nofun
  | some value =>
    simp only [Option.all_some, Value.isEmpty_iff_falsy, Option.some.injEq, forall_eq']

theorem mem_missingNames_iff :
    name ∈ missingNames entries ↔ name ∈ requiredNames ∧ Lacks entries name := by
  rw [missingNames, List.mem_filter, lacks_iff]

theorem not_lacks_of_holdsText {s : String} (h : HoldsText entries name s) :
    ¬ Lacks entries name := by
  intro hlacks
  have hfalsy := hlacks _ h.1
  cases hfalsy
  exact h.2 rfl

theorem missingNames_of_describes {settings : Settings} (h : Describes entries settings) :
    missingNames entries = [] := by
  rw [List.eq_nil_iff_forall_not_mem]
  intro name hmem
  obtain ⟨hname, hlacks⟩ := mem_missingNames_iff.mp hmem
  simp only [requiredNames, List.mem_cons, List.not_mem_nil, or_false] at hname
  rcases hname with rfl | rfl | rfl | rfl
  · exact not_lacks_of_holdsText h.host hlacks
  · exact not_lacks_of_holdsText h.user hlacks
  · exact not_lacks_of_holdsText h.password hlacks
  · exact not_lacks_of_holdsText h.database hlacks

/-! ## The outcome -/

theorem ofEntries_of_missing (h : missingNames entries ≠ []) :
    ofEntries entries = .error (.missing (missingNames entries)) := by
  rw [ofEntries]
  cases hmissing : missingNames entries with
  | nil => exact absurd hmissing h
  | cons name names => rfl

theorem ofEntries_of_not_missing (h : missingNames entries = []) :
    ofEntries entries = (check entries).toExcept.mapError .invalid := by
  rw [ofEntries, h]

theorem ofEntries_eq_ok_iff (h : ∀ entry ∈ entries, entry.2.IsPlain) (settings : Settings) :
    ofEntries entries = .ok settings ↔ Describes entries settings := by
  by_cases hmissing : missingNames entries = []
  · rw [ofEntries_of_not_missing hmissing, ← check_eq_valid_iff h]
    cases check entries with
    | valid found => exact ⟨fun hok => congrArg _ (Except.ok.inj hok),
        fun hvalid => congrArg _ (Checked.valid.inj hvalid)⟩
    | invalid issues => exact iff_of_false nofun nofun
  · rw [ofEntries_of_missing hmissing]
    exact iff_of_false nofun fun hdescribes => hmissing (missingNames_of_describes hdescribes)

/-- If no field is wrong, there are settings. -/
theorem exists_describes (h : ∀ name, ¬ Offends entries name) :
    ∃ settings, Describes entries settings := by
  have htext : ∀ name ∈ requiredNames, ∃ s, HoldsText entries name s := fun name hname =>
    Classical.byContradiction fun hnone => h name (.text hname hnone)
  obtain ⟨host, hhost⟩ := htext "host" (by decide)
  obtain ⟨user, huser⟩ := htext "user" (by decide)
  obtain ⟨password, hpassword⟩ := htext "password" (by decide)
  obtain ⟨database, hdatabase⟩ := htext "database" (by decide)
  obtain ⟨port, hport⟩ := Classical.byContradiction fun hnone => h "port" (.port hnone)
  exact ⟨⟨host, port, user, password, database⟩, hhost, hport, huser, hpassword, hdatabase⟩

theorem mem_fieldNames_of_offends (h : Offends entries name) : name ∈ fieldNames := by
  cases h with
  | text hname _ =>
    have hsubset : requiredNames ⊆ fieldNames := by decide
    exact hsubset hname
  | port _ => decide

/-- The first line of a message about issues, and the lines behind it. -/
theorem message_invalid {issues : List Issue} (h : issues ≠ []) :
    (Error.invalid issues).message
      = "\n".intercalate ("Database configuration validation failed:" :: issues.map issueLine) := by
  cases issues with
  | nil => exact absurd rfl h
  | cons issue issues =>
    have hmessage : (Error.invalid (issue :: issues)).message
        = "Database configuration validation failed:\n"
          ++ "\n".intercalate ((issue :: issues).map issueLine) := rfl
    have hheading : "Database configuration validation failed:\n"
        = "Database configuration validation failed:" ++ "\n" := by decide
    rw [hmessage, hheading, List.map_cons, String.intercalate_cons_cons]

/-- What is found is told: if no required field is missing, a line for each field that is wrong. -/
theorem explains_invalid (h : ∀ entry ∈ entries, entry.2.IsPlain)
    (hmissing : missingNames entries = []) {issues : List Issue}
    (hcheck : check entries = .invalid issues) :
    Explains entries (Error.invalid issues).message := by
  classical
  have hissues : issues = fieldNames.flatMap (issuesAt entries) := by
    rw [← issues_check, hcheck]
    rfl
  have hlines := forall₂_lines h fieldNames fun _ hname => hname
  rw [← hissues] at hlines
  have hlacks : ∀ name ∈ requiredNames, ¬ Lacks entries name := fun name hname hlacks => by
    have hmem := mem_missingNames_iff.mpr ⟨hname, hlacks⟩
    rw [hmissing] at hmem
    exact List.not_mem_nil hmem
  have hmem : ∀ name, name ∈ fieldNames.filter (Offends entries) ↔ Offends entries name := by
    intro name
    rw [List.mem_filter, decide_eq_true_eq]
    exact ⟨And.right, fun hoffends => ⟨mem_fieldNames_of_offends hoffends, hoffends⟩⟩
  have hsome : fieldNames.filter (Offends entries) ≠ [] := by
    intro hnil
    have hnone : ∀ name, ¬ Offends entries name := by
      intro name hoffends
      have hname := (hmem name).mpr hoffends
      rw [hnil] at hname
      exact List.not_mem_nil hname
    obtain ⟨settings, hdescribes⟩ := exists_describes hnone
    rw [(check_eq_valid_iff h).mpr hdescribes] at hcheck
    cases hcheck
  have hne : issues ≠ [] := by
    rintro rfl
    exact hsome (List.forall₂_nil_right_iff.mp hlines)
  rw [message_invalid hne]
  exact .offending hlacks ⟨List.filter_sublist, hmem, hsome⟩ hlines

theorem explains_of_error (h : ∀ entry ∈ entries, entry.2.IsPlain) {error : Error}
    (herror : ofEntries entries = .error error) : Explains entries error.message := by
  by_cases hmissing : missingNames entries = []
  · rw [ofEntries_of_not_missing hmissing] at herror
    cases hcheck : check entries with
    | valid settings =>
      rw [hcheck] at herror
      cases herror
    | invalid issues =>
      rw [hcheck] at herror
      cases herror
      exact explains_invalid h hmissing hcheck
  · rw [ofEntries_of_missing hmissing] at herror
    cases herror
    exact .missing ⟨List.filter_sublist, fun _ => mem_missingNames_iff, hmissing⟩

/-- Settings are made of what is under the five names. -/
theorem ofEntries_congr
    (h : ∀ name ∈ fieldNames, Value.field? others name = Value.field? entries name) :
    ofEntries others = ofEntries entries := by
  have hmissing : missingNames others = missingNames entries := by
    refine List.filter_congr fun name hname => ?_
    have hsubset : requiredNames ⊆ fieldNames := by decide
    rw [h name (hsubset hname)]
  have hrequired : ∀ name ∈ fieldNames, Check.required others name Check.nonEmptyText
      = Check.required entries name Check.nonEmptyText := by
    intro name hname
    rw [Check.required, Check.required, h name hname]
  have hport : Check.withDefault others "port" defaultPort checkPort
      = Check.withDefault entries "port" defaultPort checkPort := by
    rw [Check.withDefault, Check.withDefault, h "port" (by decide)]
  have hcheck : check others = check entries := by
    rw [check, check, hrequired "host" (by decide), hport, hrequired "user" (by decide),
      hrequired "password" (by decide), hrequired "database" (by decide)]
  rw [ofEntries, ofEntries, hmissing, hcheck]

/-- **The check of settings is exact.** A configuration is accepted just if it describes settings,
and as these; otherwise its message explains what is wrong; and nothing counts but what is under the
five names, in whatever order. -/
theorem settings_of_configuration (h : IsConfiguration entries) :
    (∀ settings, ofEntries entries = .ok settings ↔ Describes entries settings) ∧
    (∀ error, ofEntries entries = .error error → Explains entries error.message) ∧
    ∀ others, IsConfiguration others →
      (∀ name ∈ fieldNames, ∀ value,
        (.text name, value) ∈ others ↔ (.text name, value) ∈ entries) →
      ofEntries others = ofEntries entries := by
  refine ⟨ofEntries_eq_ok_iff h.plain, fun error => explains_of_error h.plain, ?_⟩
  intro others hothers hsame
  refine ofEntries_congr fun name hname => Option.ext fun value => ?_
  rw [Value.field?_eq_some_iff_mem hothers.distinct, Value.field?_eq_some_iff_mem h.distinct]
  exact hsame name hname value

end Configurations

/-- A configuration in which the port is a truth value and there is another key. -/
def flagAsPort : List (Value × Value) := [
  (.text "port", .bool true), (.text "database", .text "d"), (.text "sslmode", .null),
  (.text "user", .text "u"), (.text "password", .text "p"), (.text "host", .text "h")]

/-- The same settings in the order of the fields. -/
def flagAsPortInOrder : List (Value × Value) := [
  (.text "host", .text "h"), (.text "port", .bool true), (.text "user", .text "u"),
  (.text "password", .text "p"), (.text "database", .text "d")]

/-- A configuration in which every field but perhaps the host is wrong, and none of these is
missing. -/
def wrongFields (host : Value) : List (Value × Value) := [
  (.text "host", host), (.text "port", .null), (.text "user", .int 1),
  (.text "password", .list [.null]), (.text "database", .bool true)]

/-- What is wrong with all of them if the host is a one, which is not missing as a zero would be. -/
def wrongIssues : List Issue := [
  ⟨[.field "host"], .notText⟩, ⟨[.field "port"], .notInteger⟩, ⟨[.field "user"], .notText⟩,
  ⟨[.field "password"], .notText⟩, ⟨[.field "database"], .notText⟩]

theorem isConfiguration_wrongFields {host : Value} (h : host.IsPlain) :
    IsConfiguration (wrongFields host) := by
  refine ⟨?_, ?_⟩
  · simp [Value.DistinctKeys, wrongFields, Value.sameKey_text, Value.isText]
  · rw [wrongFields]
    refine List.forall_mem_cons.mpr ⟨h, ?_⟩
    simp [Value.IsPlain]

theorem settings_of_flagAsPort :
    ofEntries flagAsPort = .ok ⟨"h", 1, "u", "p", "d"⟩ ∧
      ofEntries flagAsPortInOrder = ofEntries flagAsPort ∧
      Explains (wrongFields (.int 0)) (Error.missing ["host"]).message ∧
      Explains (wrongFields (.int 1)) (Error.invalid wrongIssues).message := by
  have hflag : IsConfiguration flagAsPort := by
    refine ⟨?_, ?_⟩
    · simp [Value.DistinctKeys, flagAsPort, Value.sameKey_text, Value.isText]
    · simp [flagAsPort, Value.IsPlain]
  have horder : IsConfiguration flagAsPortInOrder := by
    refine ⟨?_, ?_⟩
    · simp [Value.DistinctKeys, flagAsPortInOrder, Value.sameKey_text, Value.isText]
    · simp [flagAsPortInOrder, Value.IsPlain]
  have hzero := isConfiguration_wrongFields (show (Value.int 0).IsPlain from trivial)
  have hone := isConfiguration_wrongFields (show (Value.int 1).IsPlain from trivial)
  obtain ⟨haccepts, -, hsame⟩ := settings_of_configuration hflag
  refine ⟨(haccepts _).mpr ⟨⟨rfl, by decide⟩, .inr ⟨_, rfl, rfl, by decide, by decide⟩,
    ⟨rfl, by decide⟩, ⟨rfl, by decide⟩, ⟨rfl, by decide⟩⟩, hsame _ horder ?_,
    (settings_of_configuration hzero).2.1 _ rfl, (settings_of_configuration hone).2.1 _ rfl⟩
  simp [fieldNames, flagAsPort, flagAsPortInOrder]

end Settings
end SchemaTypes
