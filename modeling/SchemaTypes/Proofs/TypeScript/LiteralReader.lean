import SchemaTypes.Proofs.Text.SelfDelimiting
import SchemaTypes.Text.Character
import SchemaTypes.TypeScript.Render

/-!
# Reading string literals

A reader of literals in single quotes, by the rules of the language and not by those of the writer:
it knows the escapes of one letter and those of four hexadecimal digits, whoever wrote them, ends
at the first quote that is not escaped, and refuses a raw line terminator.

What `literal` writes is read back with its exact value, and what stands behind it is left alone
(`readLiteral_literal`). So literals delimit themselves (`selfDelimiting_literal`).
-/

namespace SchemaTypes
namespace TypeScript

/-- The characters that end a line of the language. -/
def isLineTerminator (c : Char) : Bool :=
  c == '\n' || c == '\r' || c == '\u2028' || c == '\u2029'

/-- The character that an escape of one letter means. -/
def letterEscape? : Char → Option Char
  | '\\' => some '\\'
  | '\'' => some '\''
  | 'n' => some '\n'
  | 'r' => some '\r'
  | _ => none

/-- The character that four hexadecimal digits name, if it is one. -/
def hexEscape? (digits : List Char) : Option Char := do
  let values ← digits.mapM Text.hexDigit?
  let point := values.foldl (fun n digit => 16 * n + digit) 0
  if Text.isSurrogate point then none else some (Char.ofNat point)

/-- A character in front of what was read. -/
def consValue (c : Char) (read : List Char × List Char) : List Char × List Char :=
  (c :: read.1, read.2)

/-- Reads the inside of a literal: its value, and what stands behind the closing quote. -/
def readBody : List Char → Option (List Char × List Char)
  | [] => none
  | '\'' :: rest => some ([], rest)
  | '\\' :: 'u' :: d₁ :: d₂ :: d₃ :: d₄ :: rest =>
    (hexEscape? [d₁, d₂, d₃, d₄]).bind fun value => (readBody rest).map (consValue value)
  | '\\' :: letter :: rest =>
    (letterEscape? letter).bind fun value => (readBody rest).map (consValue value)
  | c :: rest =>
    if c = '\\' ∨ isLineTerminator c then none else (readBody rest).map (consValue c)

/-- Reads a literal: its value, and what stands behind it. -/
def readLiteral : List Char → Option (List Char × List Char)
  | '\'' :: rest => readBody rest
  | _ => none

/-- What the writer makes of one character, the reader takes as this character. -/
theorem readBody_escape_append (c : Char) (rest : List Char) :
    readBody (escape c ++ rest) = (readBody rest).map (consValue c) := by
  unfold escape
  split
  · simp [readBody, letterEscape?]
  · simp [readBody, letterEscape?]
  · simp [readBody, letterEscape?]
  · simp [readBody, letterEscape?]
  · have hpoint : hexEscape? ['2', '0', '2', '8'] = some '\u2028' := by decide
    simp [readBody, hpoint]
  · have hpoint : hexEscape? ['2', '0', '2', '9'] = some '\u2029' := by decide
    simp [readBody, hpoint]
  · rename_i hslash hquote hline hreturn hseparator hparagraph
    have hterminator : isLineTerminator c = false := by
      simp only [isLineTerminator, Bool.or_eq_false_iff, beq_eq_false_iff_ne]
      exact ⟨⟨⟨hline, hreturn⟩, hseparator⟩, hparagraph⟩
    rw [List.singleton_append, readBody.eq_def]
    split <;> simp_all

theorem readBody_literalBody_append (cs rest : List Char) :
    readBody (literalBody cs ++ '\'' :: rest) = some (cs, rest) := by
  induction cs with
  | nil => rfl
  | cons c cs ih =>
    rw [literalBody_cons, List.append_assoc, readBody_escape_append, ih]
    rfl

theorem toList_literal (s : String) :
    (literal s).toList = '\'' :: literalBody s.toList ++ ['\''] :=
  String.toList_ofList

/-- **A literal is read back** with its value and without a character of what stands behind it. -/
theorem readLiteral_literal_append (s : String) (rest : List Char) :
    readLiteral ((literal s).toList ++ rest) = some (s.toList, rest) := by
  rw [toList_literal, List.append_assoc, List.cons_append, readLiteral, List.singleton_append,
    readBody_literalBody_append]

/-- Literals delimit themselves and show their value. -/
theorem selfDelimiting_literal :
    Text.SelfDelimiting (fun _ => True) (fun s => (literal s).toList) (id : String → String) := by
  intro a b _ _ r s h
  have hread := readLiteral_literal_append a r
  rw [h, readLiteral_literal_append, Option.some_inj, Prod.mk.injEq] at hread
  exact ⟨String.toList_inj.mp hread.1.symm, hread.2.symm⟩

end TypeScript
end SchemaTypes
