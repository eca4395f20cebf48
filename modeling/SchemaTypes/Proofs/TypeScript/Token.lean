import Mathlib.Data.List.TakeWhile
import SchemaTypes.Proofs.TypeScript.CommentEnd
import SchemaTypes.Proofs.TypeScript.Key
import SchemaTypes.Text.Character

/-!
# Tokens

How a text is read by the rules of the language: as words, literals and marks, with comments and
white space between them that mean nothing. The reader knows the tokens that declarations of types
are made of; at anything else it gives up with a fault, so a text that is read without one has no
hidden corners.

The language fixes the characters of identifiers in ASCII and leaves all others to Unicode, of
which there is one version after the other. An `Alphabet` is any choice of them that the language
allows, and what is said about tokens is said for all alphabets.

A piece of text `Reads` as some tokens if it does so whatever stands behind it. Such pieces can be
put one after another, and this is how whole files are read.
-/

namespace SchemaTypes
namespace TypeScript

/-! ## Characters -/

/-- White space between tokens, the ends of lines included. Besides the white space of Unicode the
language skips the zero width space and the byte order mark. -/
def isSpace (c : Char) : Bool :=
  Text.isWhite c || c == '\u200B' || c == '\uFEFF'

/-- The marks of type declarations. -/
def marks : List Char :=
  ['=', '|', ':', ';', '[', ']', '\x7b', '\x7d']

/-- The characters of identifiers: those that may begin one and those that may follow. -/
structure Alphabet where
  isStart : Char → Bool
  isPart : Char → Bool
  isPart_of_isStart : ∀ c, isStart c = true → isPart c = true
  isStart_ascii : ∀ c : Char, c.toNat < 128 → isStart c = isIdentifierStart c
  isPart_ascii : ∀ c : Char, c.toNat < 128 → isPart c = isIdentifierPart c
  isSpace_of_isPart : ∀ c, isPart c = true → isSpace c = false

/-- An identifier is one character that may begin it and then characters that may follow. -/
def Alphabet.isIdentifier (alphabet : Alphabet) : List Char → Bool
  | [] => false
  | c :: cs => alphabet.isStart c && cs.all alphabet.isPart

theorem toNat_of_isAlpha {c : Char} (h : c.isAlpha = true) :
    'A'.toNat ≤ c.toNat ∧ c.toNat ≤ 'z'.toNat := by
  rcases (Bool.or_eq_true ..).mp h with hupper | hlower
  · have hrange : 'A'.toNat ≤ c.toNat ∧ c.toNat ≤ 'Z'.toNat := of_decide_eq_true hupper
    exact ⟨hrange.1, Nat.le_trans hrange.2 (by decide)⟩
  · have hrange := (Bool.and_eq_true ..).mp hlower
    have hlow : 'a'.toNat ≤ c.toNat := of_decide_eq_true hrange.1
    exact ⟨Nat.le_trans (by decide) hlow, of_decide_eq_true hrange.2⟩

theorem toNat_of_isIdentifierPart {c : Char} (h : isIdentifierPart c = true) :
    36 ≤ c.toNat ∧ c.toNat < 128 := by
  simp only [isIdentifierPart, Char.isAlphanum, Bool.or_eq_true, beq_iff_eq] at h
  rcases h with ((halpha | hdigit) | rfl) | rfl
  · obtain ⟨hlow, hhigh⟩ := toNat_of_isAlpha halpha
    exact ⟨Nat.le_trans (by decide) hlow, Nat.lt_of_le_of_lt hhigh (by decide)⟩
  · obtain ⟨hlow, hhigh⟩ := Char.isDigit_iff_toNat.mp hdigit
    exact ⟨Nat.le_trans (by decide) hlow, Nat.lt_of_le_of_lt hhigh (by decide)⟩
  · decide
  · decide

theorem isSpace_of_isIdentifierPart {c : Char} (h : isIdentifierPart c = true) :
    isSpace c = false := by
  obtain ⟨hlow, hhigh⟩ := toNat_of_isIdentifierPart h
  have hne : ∀ d : Char, 128 ≤ d.toNat → c ≠ d := by
    rintro d hd rfl
    omega
  have hwhite : Text.isWhite c = false := by
    simp only [Text.isWhite, Bool.or_eq_false_iff, Bool.and_eq_false_iff, decide_eq_false_iff_not,
      beq_eq_false_iff_ne]
    omega
  rw [isSpace, hwhite, beq_false_of_ne (hne _ (by decide)), beq_false_of_ne (hne _ (by decide))]
  rfl

namespace Alphabet

/-- The smallest alphabet. -/
def ascii : Alphabet where
  isStart := isIdentifierStart
  isPart := isIdentifierPart
  isPart_of_isStart _ := isIdentifierPart_of_isIdentifierStart
  isStart_ascii _ _ := rfl
  isPart_ascii _ _ := rfl
  isSpace_of_isPart _ := isSpace_of_isIdentifierPart

variable (alphabet : Alphabet)

/-- What is an identifier by the smallest alphabet is one by all. -/
theorem isIdentifier_of_ascii {cs : List Char} (h : TypeScript.isIdentifier cs = true) :
    alphabet.isIdentifier cs = true := by
  have hascii : ∀ c, isIdentifierPart c = true → alphabet.isPart c = true := by
    intro c hc
    rw [alphabet.isPart_ascii c (toNat_of_isIdentifierPart hc).2, hc]
  cases cs with
  | nil => cases h
  | cons c cs =>
    rw [TypeScript.isIdentifier, Bool.and_eq_true, List.all_eq_true] at h
    have hlt := (toNat_of_isIdentifierPart (isIdentifierPart_of_isIdentifierStart h.1)).2
    rw [Alphabet.isIdentifier, Bool.and_eq_true, List.all_eq_true]
    exact ⟨by rw [alphabet.isStart_ascii c hlt, h.1], fun d hd => hascii d (h.2 d hd)⟩

theorem isStart_eq_false {c : Char} (h : alphabet.isPart c = false) :
    alphabet.isStart c = false := by
  rw [← Bool.not_eq_true] at h ⊢
  exact fun hstart => h (alphabet.isPart_of_isStart c hstart)

/-- A character of an identifier is none of the others in ASCII. -/
theorem ne_of_isPart {c d : Char} (h : alphabet.isPart c = true) (hlt : d.toNat < 128)
    (hd : isIdentifierPart d = false) : c ≠ d := by
  rintro rfl
  rw [alphabet.isPart_ascii c hlt, hd] at h
  cases h

/-- No mark belongs to an identifier. -/
theorem isPart_of_mem_marks {c : Char} (h : c ∈ marks) : alphabet.isPart c = false := by
  have hmarks : ∀ c ∈ marks, c.toNat < 128 ∧ isIdentifierPart c = false :=
    List.forall_iff_forall_mem.mp (by decide)
  rw [alphabet.isPart_ascii c (hmarks c h).1, (hmarks c h).2]

/-- No space belongs to an identifier. -/
theorem isPart_of_isSpace {c : Char} (h : isSpace c = true) : alphabet.isPart c = false := by
  rw [← Bool.not_eq_true]
  intro hpart
  rw [alphabet.isSpace_of_isPart c hpart] at h
  cases h

end Alphabet

/-! ## Reading tokens -/

/-- What a text is made of. -/
inductive Token where
  | word (name : String)
  | literal (value : String)
  | mark (c : Char)
  /-- Here is something that the reader does not know. -/
  | fault
deriving Repr, DecidableEq

/-- Passes over a comment of which one slash was read: up to the end of its line, or up to where it
is closed. -/
def skipComment : List Char → Option (List Char)
  | '/' :: rest => some (rest.dropWhile fun c => !isLineTerminator c)
  | '*' :: rest => some (afterComment rest)
  | _ => none

/-- Reads what a text begins with, which is a token or nothing that counts, and what stands
behind it. -/
def readItem (alphabet : Alphabet) : List Char → Option (Option Token × List Char)
  | [] => none
  | c :: rest =>
    if c = '/' then (skipComment rest).map fun behind => (none, behind)
    else if c = '\'' then
      (readBody rest).map fun read => (some (.literal (String.ofList read.1)), read.2)
    else if isSpace c then some (none, rest)
    else if alphabet.isStart c then
      some (some (.word (String.ofList (c :: rest.takeWhile alphabet.isPart))),
        rest.dropWhile alphabet.isPart)
    else if c ∈ marks then some (some (.mark c), rest)
    else none

theorem length_le_of_skipComment {cs rest : List Char} (h : skipComment cs = some rest) :
    rest.length ≤ cs.length := by
  revert h
  fun_cases skipComment cs with
  | case1 behind =>
    rintro ⟨⟩
    exact Nat.le_succ_of_le (List.length_dropWhile_le _ _)
  | case2 behind =>
    rintro ⟨⟩
    exact Nat.le_succ_of_le (length_afterComment_le _)
  | case3 => simp

/-- What is read of the inside of a literal is gone. -/
theorem length_lt_of_readBody {cs : List Char} {read : List Char × List Char}
    (h : readBody cs = some read) : read.2.length < cs.length := by
  fun_induction readBody cs generalizing read with
  | case1 | case5 => cases h
  | case2 =>
    cases h
    exact Nat.lt_succ_self _
  | case3 d₁ d₂ d₃ d₄ behind ih =>
    simp only [Option.bind_eq_some_iff, Option.map_eq_some_iff] at h
    obtain ⟨_, -, inner, hread, rfl⟩ := h
    have hlt := ih hread
    simp only [consValue, List.length_cons]
    omega
  | case4 letter behind _ ih =>
    simp only [Option.bind_eq_some_iff, Option.map_eq_some_iff] at h
    obtain ⟨_, -, inner, hread, rfl⟩ := h
    have hlt := ih hread
    simp only [consValue, List.length_cons]
    omega
  | case6 c behind _ _ _ _ ih =>
    rw [Option.map_eq_some_iff] at h
    obtain ⟨inner, hread, rfl⟩ := h
    have hlt := ih hread
    simp only [consValue, List.length_cons]
    omega

/-- What is read is gone. -/
theorem length_lt_of_readItem {alphabet : Alphabet} {cs rest : List Char} {token : Option Token}
    (h : readItem alphabet cs = some (token, rest)) : rest.length < cs.length := by
  revert h
  fun_cases readItem alphabet cs with
  | case1 => simp
  | case2 behind =>
    rw [Option.map_eq_some_iff]
    rintro ⟨_, hskip, ⟨⟩⟩
    exact Nat.lt_succ_of_le (length_le_of_skipComment hskip)
  | case3 behind =>
    rw [Option.map_eq_some_iff]
    rintro ⟨_, hread, ⟨⟩⟩
    exact Nat.lt_succ_of_lt (length_lt_of_readBody hread)
  | case4 | case6 =>
    rintro ⟨⟩
    exact Nat.lt_succ_self _
  | case5 c behind =>
    rintro ⟨⟩
    exact Nat.lt_succ_of_le (List.length_dropWhile_le _ _)
  | case7 => simp

/-- The tokens of a text. -/
def tokens (alphabet : Alphabet) : List Char → List Token
  | [] => []
  | c :: cs =>
    match _ : readItem alphabet (c :: cs) with
    | some (token, rest) => token.toList ++ tokens alphabet rest
    | none => [.fault]
termination_by cs => cs.length
decreasing_by exact length_lt_of_readItem ‹_›

variable {alphabet : Alphabet}

theorem tokens_of_readItem {cs rest : List Char} {token : Option Token}
    (h : readItem alphabet cs = some (token, rest)) :
    tokens alphabet cs = token.toList ++ tokens alphabet rest := by
  cases cs with
  | nil => cases h
  | cons c cs =>
    rw [tokens]
    split
    · rename_i hread
      rw [h] at hread
      cases hread
      rfl
    · rename_i hread
      rw [h] at hread
      cases hread

/-! ## Words -/

theorem isIdentifier_of_readItem {cs rest : List Char} {name : String}
    (h : readItem alphabet cs = some (some (.word name), rest)) :
    alphabet.isIdentifier name.toList = true := by
  revert h
  fun_cases readItem alphabet cs with
  | case5 c behind _ _ _ hstart =>
    rintro ⟨⟩
    rw [String.toList_ofList, Alphabet.isIdentifier, hstart, Bool.true_and]
    exact List.all_takeWhile
  -- nothing else that is read is a word
  | case1 | case2 | case3 | case4 | case6 | case7 => simp

/-- Every word of a text is an identifier. -/
theorem isIdentifier_of_mem_tokens {cs : List Char} {name : String}
    (h : Token.word name ∈ tokens alphabet cs) : alphabet.isIdentifier name.toList = true := by
  fun_induction tokens alphabet cs with
  | case1 => cases h
  | case2 c cs token rest hread ih =>
    rcases List.mem_append.mp h with h | h
    · rw [Option.mem_toList] at h
      exact isIdentifier_of_readItem (h ▸ hread)
    · exact ih h
  | case3 => simp at h

end TypeScript
end SchemaTypes
