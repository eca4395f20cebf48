import SchemaTypes.Proofs.FileSystem.ReadBack
import SchemaTypes.Proofs.Generation.Outline
import SchemaTypes.Proofs.TypeScript.Spacing

/-!
# Line ends of a generated text

The lines of a generated text end in line feeds and in nothing else, whatever labels, names of
columns, comments and defaults hold. There is one line feed at the end of the text and there are at
most two in a row, so a reader sees single empty rows, between paragraphs and nowhere else. A text
like this is the same text when it was written to a file and is read back, with the line ends of all
systems made line feeds (`generated_text_is_spaced`).

The names of enums and tables have to be identifiers, since they are written as they are.
-/

namespace SchemaTypes

namespace TypeScript

/-- A spaced text holds no line terminator but line feeds. -/
theorem Spaced.ne_of_mem {limit : Nat} {text : List Char} (h : Spaced limit text) {c : Char}
    (hc : c ∈ text) : c ≠ '\r' ∧ c ≠ '\u2028' ∧ c ≠ '\u2029' := by
  have hne : ∀ d, isLineTerminator d = true → d ≠ '\n' → c ≠ d := by
    rintro d hd hline rfl
    exact hline (h.onlyLineFeeds c hc hd)
  exact ⟨hne _ (by decide) (by decide), hne _ (by decide) (by decide),
    hne _ (by decide) (by decide)⟩

/-- A line feed behind a spaced text is the only one at its end. -/
theorem Spaced.not_infix_concat {text : List Char} (h : Spaced 2 text) :
    ¬ ['\n', '\n', '\n'] <:+: text ++ ['\n'] := by
  intro hfound
  obtain ⟨front, last, rfl, hlast⟩ := h.ends
  rw [List.append_assoc] at hfound
  rcases infix_of_infix_append_cons (notMem_lineFeeds hlast 3) hfound with hfound | hfound
  · exact h.apart (hfound.trans (List.prefix_append front [last]).isInfix)
  · exact absurd hfound.length_le (by decide)

end TypeScript

namespace DatabaseSchema

variable {schema : DatabaseSchema} {file : DeclarationFile}

theorem paragraphs_ne_nil (file : DeclarationFile) : TypeScript.paragraphs file ≠ [] :=
  List.cons_ne_nil _ _

/-- **A generated text has single empty rows**, whatever the schema holds besides the names of its
enums and tables. It is made of paragraphs, with an empty row between any two of them and a line
feed at the end. No other line terminator is in it, so whatever path it is written to, it is read
back as it is. -/
theorem generated_text_is_spaced (hnames : schema.HasIdentifierNames)
    (h : schema.build.outcome = .ok file) :
    ∃ text, schema.generate = .ok text ∧
      (∀ c ∈ text.toList, c ≠ '\r' ∧ c ≠ '\u2028' ∧ c ≠ '\u2029') ∧
      (∃ front last, text.toList = front ++ [last, '\n'] ∧ last ≠ '\n') ∧
      ¬ ['\n', '\n', '\n'] <:+: text.toList ∧
      (text = TypeScript.joinBlocks (TypeScript.paragraphs file) ++ "\n" ∧
        ∀ paragraph ∈ TypeScript.paragraphs file, TypeScript.Spaced 1 paragraph.toList) ∧
      ∀ (files written : FileSystem) (s : String),
        files.writeText (Path.ofText s) text = (written, .ok ()) →
          ∃ bytes, written.read (Path.ofText s).text = .ok bytes ∧
            (Text.Utf8.decode bytes).map Text.unifyLineFeeds = .ok text.toList := by
  obtain ⟨-, rfl⟩ := outcome_build_eq_ok_iff.mp h
  have hparagraphs := TypeScript.spaced_of_mem_paragraphs hnames.enums hnames.tables
  have hspaced := TypeScript.spaced_joinBlocks (paragraphs_ne_nil _) hparagraphs
  have htext : (TypeScript.renderFile schema.declarationFile).toList
      = (TypeScript.joinBlocks (TypeScript.paragraphs schema.declarationFile)).toList
        ++ ['\n'] := by
    rw [TypeScript.renderFile_eq_paragraphs, String.toList_append]
    simp
  have hends : ∀ c ∈ (TypeScript.renderFile schema.declarationFile).toList,
      c ≠ '\r' ∧ c ≠ '\u2028' ∧ c ≠ '\u2029' := by
    rw [htext]
    exact List.forall_mem_append.mpr
      ⟨fun c hc => hspaced.ne_of_mem hc, List.forall_mem_singleton.mpr (by decide)⟩
  refine ⟨TypeScript.renderFile schema.declarationFile, ?_, hends, ?_, ?_,
    ⟨TypeScript.renderFile_eq_paragraphs _, hparagraphs⟩, fun files written s hwritten =>
      FileSystem.readBack (fun hreturn => (hends _ hreturn).1 rfl) hwritten⟩
  · rw [generate, h]
    rfl
  · obtain ⟨front, last, hfront, hlast⟩ := hspaced.ends
    exact ⟨front, last, by rw [htext, hfront, List.append_assoc]; rfl, hlast⟩
  · rw [htext]
    exact hspaced.not_infix_concat

/-- Line ends of all kinds stand in a label, in a comment and in a default, and a line feed behind
the name of a column. -/
def ragged : DatabaseSchema where
  schemaName := "public"
  tables := [⟨"note", "public", [⟨"id\n", "int4", false, some "1\r\n\n\n+ 1", none⟩,
    ⟨"state", "state", true, none, some "\u2028\n\n\nOpen or closed.\n\n"⟩]⟩,
    ⟨"empty", "public", []⟩]
  enums := [⟨"state", "public", ["open\n\n\n", "closed\r"]⟩]

theorem generated_text_is_spaced_ragged :
    ∃ text, ragged.generate = .ok text ∧ ¬ ['\n', '\n', '\n'] <:+: text.toList ∧
      ∃ files written bytes, FileSystem.writeText files (Path.ofText "types/db.ts") text
          = (written, .ok ()) ∧
        written.read (Path.ofText "types/db.ts").text = .ok bytes ∧
        (Text.Utf8.decode bytes).map Text.unifyLineFeeds = .ok text.toList := by
  have hnames : ragged.HasIdentifierNames := ⟨by decide, by decide⟩
  obtain ⟨text, htext, -, -, hspaced, -, hread⟩ :=
    generated_text_is_spaced hnames (outcome_build_eq_ok_iff.mpr ⟨by decide, rfl⟩)
  have hwritten :
      FileSystem.writeText { entries := [], current := [] } (Path.ofText "types/db.ts") text
        = (⟨[(["types"], .directory), (["types", "db.ts"], .file (Text.Utf8.encode text))], [],
          fun _ _ => none⟩, .ok ()) := rfl
  obtain ⟨bytes, hbytes, hdecoded⟩ := hread _ _ _ hwritten
  exact ⟨text, htext, hspaced, _, _, bytes, hwritten, hbytes, hdecoded⟩

end DatabaseSchema
end SchemaTypes
