/-!
# Lines of a text

A text is cut at every line boundary: line feed, carriage return, the two of them in this order as
one boundary, vertical tab, form feed, U+001C to U+001E, next line U+0085, and the line and
paragraph separators U+2028 and U+2029. A boundary ends a line, so a text that stops with one has
no empty line after it, and the empty text has no lines.
-/

namespace SchemaTypes
namespace Text

/-- The characters that end a line. -/
def isLineEnd (c : Char) : Bool :=
  let n := c.toNat
  (0x0A ≤ n && n ≤ 0x0D) || (0x1C ≤ n && n ≤ 0x1E) || n == 0x85 || n == 0x2028
    || n == 0x2029

/-- Puts a character in front of the first line. -/
def consFirst (c : Char) : List (List Char) → List (List Char)
  | [] => [[c]]
  | line :: rest => (c :: line) :: rest

/-- The lines of a text, without their ends. -/
def lines : List Char → List (List Char)
  | [] => []
  | '\r' :: '\n' :: cs => [] :: lines cs
  | c :: cs => if isLineEnd c then [] :: lines cs else consFirst c (lines cs)

/-- Writes every carriage return, with the line feed that may follow it, as one line feed. -/
def unifyLineFeeds : List Char → List Char
  | [] => []
  | '\r' :: '\n' :: cs => '\n' :: unifyLineFeeds cs
  | c :: cs => (if c == '\r' then '\n' else c) :: unifyLineFeeds cs

/-- No line holds a character that ends a line. -/
theorem isLineEnd_of_mem_lines {cs line : List Char} {c : Char}
    (hline : line ∈ lines cs) (hc : c ∈ line) : isLineEnd c = false := by
  induction cs using lines.induct generalizing line with
  | case1 => simp [lines] at hline
  | case2 cs ih =>
    rw [lines] at hline
    rcases List.mem_cons.mp hline with h | h
    · simp [h] at hc
    · exact ih h hc
  | case3 d cs hne hd ih =>
    rw [lines, if_pos hd] at hline
    · rcases List.mem_cons.mp hline with h | h
      · simp [h] at hc
      · exact ih h hc
    · exact hne
  | case4 d cs hne hd ih =>
    rw [lines, if_neg hd] at hline
    · cases hl : lines cs with
      | nil =>
        rw [hl] at hline
        simp only [consFirst, List.mem_singleton] at hline
        rw [hline, List.mem_singleton] at hc
        rw [hc]
        exact Bool.not_eq_true _ ▸ hd
      | cons first rest =>
        rw [hl] at hline
        simp only [consFirst, List.mem_cons] at hline
        rcases hline with h | h
        · rw [h] at hc
          rcases List.mem_cons.mp hc with h' | h'
          · rw [h']
            exact Bool.not_eq_true _ ▸ hd
          · exact ih (hl ▸ List.mem_cons_self) h'
        · exact ih (hl ▸ List.mem_cons_of_mem _ h) hc
    · exact hne

end Text
end SchemaTypes
