import SchemaTypes.Proofs.Text.SelfDelimiting
import SchemaTypes.Proofs.TypeScript.Token

/-!
# Reading texts piece by piece

A piece of text `Reads` as some tokens if it does so whatever stands behind it. Pieces in a row read
as their tokens in a row, so a long text is read by reading its pieces.

Not every text is such a piece. A word goes on as long as there are characters of identifiers, so
what is behind a word decides what it is: a word is read together with the piece behind it
(`Reads.word`). A comment up to the end of its line needs a line to end (`tokens_lineComment`).
-/

namespace SchemaTypes
namespace TypeScript

variable {alphabet : Alphabet}

/-! ## One item -/

theorem readItem_space {c : Char} (h : isSpace c = true) (rest : List Char) :
    readItem alphabet (c :: rest) = some (none, rest) := by
  have hne : ∀ d, isSpace d = false → c ≠ d := by
    rintro d hd rfl
    rw [h] at hd
    cases hd
  rw [readItem, if_neg (hne '/' (by decide)), if_neg (hne '\'' (by decide)), if_pos h]

theorem readItem_mark {c : Char} (h : c ∈ marks) (rest : List Char) :
    readItem alphabet (c :: rest) = some (some (.mark c), rest) := by
  have hmarks : ∀ c ∈ marks, c ≠ '/' ∧ c ≠ '\'' ∧ isSpace c = false :=
    List.forall_iff_forall_mem.mp (by decide)
  obtain ⟨hslash, hquote, hspace⟩ := hmarks c h
  have hstart := alphabet.isStart_eq_false (alphabet.isPart_of_mem_marks h)
  rw [readItem, if_neg hslash, if_neg hquote, hspace, hstart, if_neg (by decide),
    if_neg (by decide), if_pos h]

/-- An identifier is read as a word if the text behind it does not carry it on. -/
theorem readItem_word {name : List Char} (hname : alphabet.isIdentifier name = true) {c : Char}
    (hc : alphabet.isPart c = false) (rest : List Char) :
    readItem alphabet (name ++ c :: rest) =
      some (some (.word (String.ofList name)), c :: rest) := by
  cases name with
  | nil => cases hname
  | cons first others =>
    rw [Alphabet.isIdentifier, Bool.and_eq_true, List.all_eq_true] at hname
    have hpart := alphabet.isPart_of_isStart first hname.1
    have hslash : first ≠ '/' := alphabet.ne_of_isPart hpart (by decide) (by decide)
    have hquote : first ≠ '\'' := alphabet.ne_of_isPart hpart (by decide) (by decide)
    rw [List.cons_append, readItem, if_neg hslash, if_neg hquote,
      alphabet.isSpace_of_isPart first hpart, if_neg (by decide), if_pos hname.1,
      List.takeWhile_append_of_pos hname.2, List.dropWhile_append_of_pos hname.2,
      List.takeWhile_cons_of_neg (by simp [hc]), List.dropWhile_cons_of_neg (by simp [hc]),
      List.append_nil]

theorem readItem_literal_append (s : String) (rest : List Char) :
    readItem alphabet ((literal s).toList ++ rest) = some (some (.literal s), rest) := by
  rw [toList_literal, List.append_assoc, List.cons_append, List.singleton_append, readItem,
    if_neg (by decide), if_pos rfl, readBody_literalBody_append, Option.map_some,
    String.ofList_toList]

/-- A comment up to the end of its line is passed over. -/
theorem tokens_lineComment {comment rest : List Char}
    (hcomment : ∀ c ∈ comment, isLineTerminator c = false)
    (hrest : ∀ c ∈ rest.head?, isLineTerminator c = true) :
    tokens alphabet ('/' :: '/' :: comment ++ rest) = tokens alphabet rest := by
  have hitem : readItem alphabet ('/' :: '/' :: comment ++ rest) = some (none, rest) := by
    rw [List.cons_append, List.cons_append, readItem, if_pos rfl, skipComment,
      List.dropWhile_append_of_pos (by simpa using hcomment)]
    cases rest with
    | nil => rfl
    | cons c rest =>
      rw [List.dropWhile_cons_of_neg (by simp [hrest c rfl])]
      rfl
  rw [tokens_of_readItem hitem]
  rfl

/-! ## Pieces of text -/

/-- A function that maps pieces by themselves, whatever stands behind them, also maps a list of them
piece by piece. -/
theorem flatMap_append_eq {α β γ : Type} {f : List β → List γ} {write : α → List β}
    {item : α → List γ} {as : List α} (h : ∀ a ∈ as, ∀ rest, f (write a ++ rest) = item a ++ f rest)
    (rest : List β) : f (as.flatMap write ++ rest) = as.flatMap item ++ f rest := by
  induction as with
  | nil => rfl
  | cons a as ih =>
    rw [List.forall_mem_cons] at h
    rw [List.flatMap_cons, List.flatMap_cons, List.append_assoc, h.1, ih h.2, List.append_assoc]

/-- A text reads as some tokens, whatever stands behind it. -/
def Reads (alphabet : Alphabet) (text : List Char) (read : List Token) : Prop :=
  ∀ rest, tokens alphabet (text ++ rest) = read ++ tokens alphabet rest

namespace Reads

variable {text more : List Char} {read readMore : List Token}

theorem nil : Reads alphabet [] [] :=
  fun _ => rfl

/-- Pieces in a row. -/
theorem append (h : Reads alphabet text read) (hmore : Reads alphabet more readMore) :
    Reads alphabet (text ++ more) (read ++ readMore) := by
  intro rest
  rw [List.append_assoc, h, hmore, List.append_assoc]

/-- A piece is read by itself as it is in front of others. -/
theorem tokens_eq (h : Reads alphabet text read) : tokens alphabet text = read := by
  simpa [tokens] using h []

theorem space {c : Char} (hc : isSpace c = true) (h : Reads alphabet text read) :
    Reads alphabet (c :: text) read := by
  intro rest
  rw [List.cons_append, tokens_of_readItem (readItem_space hc _)]
  exact h rest

theorem spaces {s : List Char} (hs : s.all isSpace = true) (h : Reads alphabet text read) :
    Reads alphabet (s ++ text) read := by
  induction s with
  | nil => exact h
  | cons c s ih =>
    rw [List.all_cons, Bool.and_eq_true] at hs
    exact (ih hs.2).space hs.1

theorem mark {c : Char} (hc : c ∈ marks) (h : Reads alphabet text read) :
    Reads alphabet (c :: text) (.mark c :: read) := by
  intro rest
  rw [List.cons_append, tokens_of_readItem (readItem_mark hc _), h]
  rfl

theorem literal (s : String) : Reads alphabet (TypeScript.literal s).toList [.literal s] :=
  fun _ => tokens_of_readItem (readItem_literal_append s _)

/-- A word is read with what stands behind it. -/
theorem word {name : String} (hname : alphabet.isIdentifier name.toList = true) {c : Char}
    (hc : alphabet.isPart c = false) (h : Reads alphabet (c :: text) read) :
    Reads alphabet (name.toList ++ c :: text) (.word name :: read) := by
  intro rest
  have hitem := readItem_word hname hc (text ++ rest)
  rw [String.ofList_toList] at hitem
  rw [List.append_assoc, List.cons_append, tokens_of_readItem hitem, ← List.cons_append, h]
  rfl

theorem word_space {name : String} (hname : alphabet.isIdentifier name.toList = true)
    (h : Reads alphabet text read) :
    Reads alphabet (name.toList ++ ' ' :: text) (.word name :: read) :=
  word hname (alphabet.isPart_of_isSpace (by decide)) (h.space (by decide))

theorem word_mark {name : String} (hname : alphabet.isIdentifier name.toList = true) {c : Char}
    (hc : c ∈ marks) (h : Reads alphabet text read) :
    Reads alphabet (name.toList ++ c :: text) (.word name :: .mark c :: read) :=
  word hname (alphabet.isPart_of_mem_marks hc) (h.mark hc)

/-- A list of pieces in a row. -/
theorem flatMap {α : Type} {write : α → List Char} {item : α → List Token} {as : List α}
    (h : ∀ a ∈ as, Reads alphabet (write a) (item a)) :
    Reads alphabet (as.flatMap write) (as.flatMap item) :=
  flatMap_append_eq h

/-- A documentation comment means nothing, whatever it documents. -/
theorem docText (comment defaultValue : Option String) :
    Reads alphabet (TypeScript.docText comment defaultValue) [] := by
  obtain ⟨inside, htext, hinside⟩ := exists_inside_docText comment defaultValue
  have hcomment : Reads alphabet ("/*".toList ++ inside ++ "*/".toList) [] := by
    intro rest
    have hafter := afterComment_append hinside rest
    have hitem : readItem alphabet ("/*".toList ++ inside ++ "*/".toList ++ rest)
        = some (none, rest) := by
      simp [readItem, skipComment, hafter]
    rw [tokens_of_readItem hitem]
    rfl
  have hline : Reads alphabet ['\n'] [] := nil.space (by decide)
  have hall := (hcomment.append hline).spaces (s := [' ', ' ']) (by decide)
  rw [htext]
  simpa using hall

end Reads
end TypeScript
end SchemaTypes
