import SchemaTypes.Proofs.Declaration.Content
import SchemaTypes.Proofs.TypeScript.WrittenLiterals

/-!
# What keys denote

A key stands in front of a colon and is one token there: an identifier, which denotes itself, or a
literal, which denotes its value. White space and ends of lines around the token mean nothing, and
this is where one kind of name is lost. The test for identifiers forgives a line feed at the end of
a name, so an identifier with a line feed behind it is written bare; the line feed then stands
between two tokens, and the key denotes the identifier alone.

No other name is lost. Every key denotes one name, and it is the name it was made for, without a
line terminator in the text, just if the name is no such identifier with a line feed. So the members
of an interface, and the entries of the registry, are different properties just if no two of their
names differ in such a line feed (`keys_iff`). The check for collisions compares the names as they
are and lets both in (`lineFeed_accepted_not_apart`).
-/

namespace SchemaTypes
namespace TypeScript

variable {alphabet : Alphabet} {name : String} {names : List String}

/-! ## Keys and the names they denote -/

/-- The name for which a token stands as a key. -/
def Token.keyName? : Token → Option String
  | .word name => some name
  | .literal value => some value
  | .mark _ => none
  | .fault => none

/-- A key denotes a name if in front of a colon it reads as one token that stands for the name,
whatever stands behind the colon. -/
def Denotes (alphabet : Alphabet) (key name : String) : Prop :=
  ∃ token : Token, token.keyName? = some name ∧
    Reads alphabet (key.toList ++ [':']) [token, .mark ':']

/-- Two keys denote no name in common. -/
def DifferentKeys (alphabet : Alphabet) (key other : String) : Prop :=
  ∀ name, Denotes alphabet key name → ¬ Denotes alphabet other name

/-- An identifier with a line feed behind it. -/
def EndsInLineFeed (name : String) : Prop :=
  ∃ identifier : String, isIdentifier identifier.toList = true ∧ name = identifier ++ "\n"

/-- No name is an identifier of which there is another one with a line feed behind it. -/
def LineFeedsApart (names : List String) : Prop :=
  ∀ name ∈ names, isIdentifier name.toList = true → name ++ "\n" ∉ names

/-- The name that the key of a name denotes. -/
def memberName (name : String) : String :=
  if isBareKey name.toList then bareName name else name

theorem keyName?_keyToken (name : String) : (keyToken name).keyName? = some (memberName name) := by
  rw [keyToken, memberName]
  split
  · rfl
  · rfl

/-- **A key denotes one name.** -/
theorem denotes_propertyKey_iff {member : String} :
    Denotes alphabet (propertyKey name) member ↔ memberName name = member := by
  constructor
  · rintro ⟨token, htoken, hreads⟩
    have htokens : [keyToken name, .mark ':'] = [token, .mark ':'] :=
      (reads_propertyKey name).tokens_eq.symm.trans hreads.tokens_eq
    rw [← (List.cons.inj htokens).1, keyName?_keyToken] at htoken
    exact Option.some.inj htoken
  · rintro rfl
    exact ⟨keyToken name, keyName?_keyToken name, reads_propertyKey name⟩

theorem differentKeys_iff {other : String} :
    DifferentKeys alphabet (propertyKey name) (propertyKey other) ↔
      memberName name ≠ memberName other := by
  simp only [DifferentKeys, denotes_propertyKey_iff]
  constructor
  · intro h heq
    exact h _ rfl heq.symm
  · rintro h _ rfl heq
    exact h heq.symm

/-! ## Names that are lost -/

theorem memberName_of_isIdentifier (h : isIdentifier name.toList = true) :
    memberName name = name := by
  have hbare : isBareKey name.toList = true := isBareKey_iff.mpr ⟨_, h, Or.inl rfl⟩
  rw [memberName, if_pos hbare, bareName, if_pos h]

theorem memberName_lineFeed (h : isIdentifier name.toList = true) :
    memberName (name ++ "\n") = name := by
  have htext : (name ++ "\n").toList = name.toList ++ ['\n'] := by simp
  have hbare : isBareKey (name ++ "\n").toList = true :=
    isBareKey_iff.mpr ⟨_, h, Or.inr htext⟩
  have hnot : ¬ isIdentifier (name ++ "\n").toList = true := fun hidentifier =>
    notMem_of_isIdentifier (c := '\n') hidentifier (by decide) (by simp)
  rw [memberName, if_pos hbare, bareName, if_neg hnot, htext, List.dropLast_concat,
    String.ofList_toList]

/-- A name that is written bare is an identifier or one with a line feed behind it. -/
theorem isBareKey_iff_or :
    isBareKey name.toList = true ↔ isIdentifier name.toList = true ∨ EndsInLineFeed name := by
  rw [isBareKey_iff]
  constructor
  · rintro ⟨front, hfront, hname | hname⟩
    · exact Or.inl (hname ▸ hfront)
    · refine Or.inr ⟨String.ofList front, by rwa [String.toList_ofList], ?_⟩
      rw [← String.toList_inj, hname]
      simp
  · rintro (h | ⟨identifier, hidentifier, rfl⟩)
    · exact ⟨_, h, Or.inl rfl⟩
    · exact ⟨_, hidentifier, Or.inr (by simp)⟩

/-- A name is kept, or it is an identifier with a line feed behind it and loses the line feed. -/
theorem memberName_cases (name : String) :
    (¬ EndsInLineFeed name ∧ memberName name = name) ∨
      isIdentifier (memberName name).toList = true ∧ name = memberName name ++ "\n" := by
  by_cases hends : EndsInLineFeed name
  · obtain ⟨identifier, hidentifier, rfl⟩ := hends
    rw [memberName_lineFeed hidentifier]
    exact Or.inr ⟨hidentifier, rfl⟩
  · refine Or.inl ⟨hends, ?_⟩
    by_cases hidentifier : isIdentifier name.toList = true
    · exact memberName_of_isIdentifier hidentifier
    · have hnot : ¬ isBareKey name.toList = true := fun hbare =>
        (isBareKey_iff_or.mp hbare).elim hidentifier hends
      rw [memberName, if_neg hnot]

theorem ne_append_lineFeed (name : String) : name ≠ name ++ "\n" := by
  intro h
  have hlength := congrArg (fun s : String => s.toList.length) h
  simp at hlength

/-- Exactly the identifiers with a line feed behind them are lost. -/
theorem memberName_eq_self_iff : memberName name = name ↔ ¬ EndsInLineFeed name := by
  rcases memberName_cases name with ⟨hnot, heq⟩ | ⟨hidentifier, heq⟩
  · exact iff_of_true heq hnot
  · refine iff_of_false (fun hself => ?_) (fun hnot => hnot ⟨_, hidentifier, heq⟩)
    rw [hself] at heq
    exact ne_append_lineFeed name heq

/-! ## Line terminators -/

/-- No escape holds a line terminator, and no character that stands for itself is one. -/
theorem isLineTerminator_of_mem_escape {c d : Char} (h : d ∈ escape c) :
    isLineTerminator d = false := by
  rw [escape_eq_lookup] at h
  cases hlookup : escapeTurns.lookup c with
  | some text =>
    rw [hlookup, Option.getD_some] at h
    have hturns : (escapeTurns.all fun turn => turn.2.all fun d => !isLineTerminator d) = true := by
      decide
    obtain ⟨before, after, heq, -⟩ := List.lookup_eq_some_iff.mp hlookup
    have hmem : (c, text) ∈ escapeTurns := by simp [heq]
    have htext := List.all_eq_true.mp hturns _ hmem
    simpa using List.all_eq_true.mp htext d h
  | none =>
    rw [hlookup, Option.getD_none, List.mem_singleton] at h
    simp only [List.lookup_eq_none_iff, escapeTurns, List.forall_mem_cons, bne_iff_ne] at hlookup
    obtain ⟨-, -, hline, hreturn, hseparator, hparagraph, -⟩ := hlookup
    rw [h, isLineTerminator]
    simp only [Bool.or_eq_false_iff, beq_eq_false_iff_ne]
    exact ⟨⟨⟨hline, hreturn⟩, hseparator⟩, hparagraph⟩

/-- A literal stands on one line. -/
theorem isLineTerminator_of_mem_literal {c : Char} (h : c ∈ (literal name).toList) :
    isLineTerminator c = false := by
  rw [toList_literal, List.cons_append, List.mem_cons, List.mem_append, List.mem_singleton] at h
  rcases h with rfl | h | rfl
  · decide
  · obtain ⟨d, -, hd⟩ := List.mem_flatMap.mp h
    exact isLineTerminator_of_mem_escape hd
  · decide

theorem isLineTerminator_of_isIdentifierPart {c : Char} (h : isIdentifierPart c = true) :
    isLineTerminator c = false := by
  have hne : ∀ d, isIdentifierPart d = false → c ≠ d := by
    rintro d hd rfl
    rw [h] at hd
    cases hd
  simp only [isLineTerminator, Bool.or_eq_false_iff, beq_eq_false_iff_ne]
  exact ⟨⟨⟨hne _ (by decide), hne _ (by decide)⟩, hne _ (by decide)⟩, hne _ (by decide)⟩

/-- A key stands on one line unless its name is an identifier with a line feed behind it. -/
theorem propertyKey_on_one_line_iff :
    (∀ c ∈ (propertyKey name).toList, isLineTerminator c = false) ↔ ¬ EndsInLineFeed name := by
  by_cases hbare : isBareKey name.toList = true
  · rw [propertyKey_of_isBareKey hbare]
    constructor
    · rintro h ⟨identifier, -, rfl⟩
      exact absurd (h '\n' (by simp)) (by decide)
    · intro hnot c hc
      have hidentifier := (isBareKey_iff_or.mp hbare).resolve_right hnot
      exact isLineTerminator_of_isIdentifierPart (isIdentifierPart_of_mem hidentifier hc)
  · rw [propertyKey_of_not_isBareKey hbare]
    exact iff_of_true (fun _ => isLineTerminator_of_mem_literal)
      fun hends => hbare (isBareKey_iff_or.mpr (Or.inr hends))

/-! ## Keys of one declaration -/

/-- Different names denote different members just if no two differ in a line feed that is lost. -/
theorem nodup_map_memberName_iff (h : names.Nodup) :
    (names.map memberName).Nodup ↔ LineFeedsApart names := by
  constructor
  · intro hnodup name hname hidentifier hmem
    have hsame : memberName name = memberName (name ++ "\n") := by
      rw [memberName_of_isIdentifier hidentifier, memberName_lineFeed hidentifier]
    exact ne_append_lineFeed name (List.inj_on_of_nodup_map hnodup hname hmem hsame)
  · intro hapart
    refine h.map_on fun a ha b hb heq => ?_
    rcases memberName_cases a with ⟨-, hself⟩ | ⟨hidentifier, hlost⟩
    · rcases memberName_cases b with ⟨-, hself'⟩ | ⟨hidentifier, hlost⟩
      · rw [← hself, heq, hself']
      · rw [← heq, hself] at hidentifier hlost
        exact absurd (hlost ▸ hb) (hapart a ha hidentifier)
    · rcases memberName_cases b with ⟨-, hself⟩ | ⟨-, hlost'⟩
      · rw [heq, hself] at hidentifier hlost
        exact absurd (hlost ▸ ha) (hapart b hb hidentifier)
      · rw [hlost, heq, ← hlost']

/-- Items with different names have different keys just if no two names differ in a line feed that
is lost. -/
theorem pairwise_differentKeys_iff {α : Type} {nameOf : α → String} {items : List α}
    (h : (items.map nameOf).Nodup) :
    items.Pairwise (fun a b =>
        DifferentKeys alphabet (propertyKey (nameOf a)) (propertyKey (nameOf b))) ↔
      LineFeedsApart (items.map nameOf) := by
  rw [← nodup_map_memberName_iff h, List.map_map, List.Nodup, List.pairwise_map]
  simp only [differentKeys_iff, Function.comp_apply]

/-- **A line feed at the end of an identifier is lost, and nothing else.** The key of a name denotes
one name. It is the name itself, and it is so on one line, just if the name is no identifier with a
line feed behind it. In a file that is built, the members of an interface and the entries of the
registry are different properties just if none of their names differ in such a line feed. -/
theorem keys_iff {schema : DatabaseSchema} {file : DeclarationFile}
    (h : schema.build.outcome = .ok file) (alphabet : Alphabet) :
    (∀ name, ∃! member, Denotes alphabet (propertyKey name) member) ∧
      (∀ name, Denotes alphabet (propertyKey name) name ↔ ¬ EndsInLineFeed name) ∧
      (∀ name, (∀ c ∈ (propertyKey name).toList, isLineTerminator c = false) ↔
        ¬ EndsInLineFeed name) ∧
      (∀ interface ∈ file.interfaces,
        (interface.properties.Pairwise (fun a b =>
            DifferentKeys alphabet (propertyKey a.name) (propertyKey b.name)) ↔
          LineFeedsApart (interface.properties.map (·.name)))) ∧
      (file.registry.entries.Pairwise (fun a b =>
          DifferentKeys alphabet (propertyKey a.tableName) (propertyKey b.tableName)) ↔
        LineFeedsApart (file.registry.entries.map (·.tableName))) := by
  obtain ⟨happart, rfl⟩ := DatabaseSchema.outcome_build_eq_ok_iff.mp h
  have hproperties := (DatabaseSchema.namesApart_iff.mp happart).2
  have hentries : (schema.declarationFile.registry.entries.map (·.tableName)).Nodup := by
    have htables := happart.tables
    simpa [DatabaseSchema.declarationFile, Registry.ofEntries, Table.registryEntry,
      DatabaseSchema.tableNames, Function.comp_def] using htables
  refine ⟨fun name => ?_, fun name => ?_, fun name => propertyKey_on_one_line_iff,
    fun interface hinterface => pairwise_differentKeys_iff (hproperties interface hinterface),
    pairwise_differentKeys_iff hentries⟩
  · exact ⟨memberName name, denotes_propertyKey_iff.mpr rfl,
      fun _ hmember => (denotes_propertyKey_iff.mp hmember).symm⟩
  · rw [denotes_propertyKey_iff, memberName_eq_self_iff]

/-- A trip has two columns, one of which is no identifier. -/
def trips : DatabaseSchema where
  schemaName := "public"
  tables := [⟨"trip", "public",
    [⟨"id", "int4", false, none, none⟩, ⟨"first\nstop", "text", true, none, none⟩]⟩]
  enums := []

theorem namesApart_trips : trips.NamesApart :=
  ⟨by decide, by decide, by simp [trips, DatabaseSchema.enumNames],
    by simp [trips, Table.ColumnsApart]⟩

theorem keys_trips :
    trips.build.outcome = .ok trips.declarationFile ∧
      Denotes .ascii (propertyKey "id") "id" ∧
      ∀ interface ∈ trips.declarationFile.interfaces, interface.properties.Pairwise fun a b =>
        DifferentKeys .ascii (propertyKey a.name) (propertyKey b.name) := by
  have hbuild : trips.build.outcome = .ok trips.declarationFile :=
    DatabaseSchema.outcome_build_eq_ok_iff.mpr ⟨namesApart_trips, rfl⟩
  obtain ⟨-, hdenotes, -, hmembers, -⟩ := keys_iff hbuild .ascii
  refine ⟨hbuild, (hdenotes "id").mpr ?_, fun interface hinterface =>
    (hmembers interface hinterface).mpr ?_⟩
  · rw [← memberName_eq_self_iff]
    exact memberName_of_isIdentifier (by decide)
  · rw [List.mem_singleton.mp hinterface]
    unfold LineFeedsApart
    decide

/-- Two columns whose names differ in a line feed at the end. -/
def lineFeeds : DatabaseSchema where
  schemaName := "public"
  tables := [⟨"trip", "public",
    [⟨"id", "int4", false, none, none⟩, ⟨"id\n", "text", true, none, none⟩]⟩]
  enums := []

/-- **Two columns can become one member.** The schema is accepted, the key of the second column holds
a raw line feed, and both keys denote the first column. -/
theorem lineFeed_accepted_not_apart :
    lineFeeds.build.outcome = .ok lineFeeds.declarationFile ∧
      lineFeeds.declarationFile.interfaces.map (fun interface =>
        interface.properties.map fun property => propertyKey property.name) = [["id", "id\n"]] ∧
      Denotes .ascii (propertyKey "id") "id" ∧ Denotes .ascii (propertyKey "id\n") "id" ∧
      ¬ Denotes .ascii (propertyKey "id\n") "id\n" := by
  have hapart : lineFeeds.NamesApart :=
    ⟨by decide, by decide, by simp [lineFeeds, DatabaseSchema.enumNames],
      by simp [lineFeeds, Table.ColumnsApart]⟩
  have hidentifier : isIdentifier "id".toList = true := by decide
  have hlost : memberName "id\n" = "id" := memberName_lineFeed hidentifier
  refine ⟨DatabaseSchema.outcome_build_eq_ok_iff.mpr ⟨hapart, rfl⟩, by decide,
    denotes_propertyKey_iff.mpr (memberName_of_isIdentifier hidentifier),
    denotes_propertyKey_iff.mpr hlost, fun h => ?_⟩
  rw [denotes_propertyKey_iff, hlost] at h
  exact absurd h (by decide)

end TypeScript
end SchemaTypes
