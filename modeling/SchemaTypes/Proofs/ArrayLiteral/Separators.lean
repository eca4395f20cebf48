import Mathlib.Data.List.Induction
import SchemaTypes.Proofs.ArrayLiteral.Written

/-!
# What the commas of an array literal separate

Array literals are scanned whatever they look like, so what a scan does is said here for every
text and not only for those that write a list of labels.

## The flags

Whether a character is escaped, and whether it stands inside quotes, can be seen from the text in
front of it. It is escaped if that text ends in an odd number of backslashes (`EndsEscaping`),
because each backslash that is not escaped itself takes the next character. It is inside quotes if
that text has an odd number of bare quotes, which are those that are not escaped (`EndsQuoted`). A
comma that is neither escaped nor inside quotes separates. The flags of a scan say just that of the
text read so far, and it has finished an item for each separating comma (`run_start`); one step
lemma carries this, by induction on what was read last.

## Composition

What a scan has finished takes no part in what it does next (`items_run_behind`). Behind a
separating comma it is therefore as if the text began there, and the labels of a text with such a
comma in it are those of its two parts (`labels_separated`). An empty part is the one label without
characters, although an empty body has no label.
-/

namespace SchemaTypes
namespace ArrayLiteral

/-! ## Places -/

/-- The number of the places of a text at which a predicate holds of the text in front and of the
character there. -/
def countPlaces (holds : List Char → Char → Bool) (cs : List Char) : Nat :=
  (List.range cs.length).countP fun i => cs[i]?.any (holds (cs.take i))

/-- A text after which a character is escaped. -/
def EndsEscaping (cs : List Char) : Prop :=
  (cs.reverse.takeWhile (· == '\\')).length % 2 = 1

instance (cs : List Char) : Decidable (EndsEscaping cs) :=
  inferInstanceAs (Decidable (_ = _))

/-- The number of quotes that are not escaped. -/
def bareQuotes (cs : List Char) : Nat :=
  countPlaces (fun front c => c = '"' ∧ ¬ EndsEscaping front) cs

/-- A text after which a character is inside quotes. -/
def EndsQuoted (cs : List Char) : Prop :=
  bareQuotes cs % 2 = 1

instance (cs : List Char) : Decidable (EndsQuoted cs) :=
  inferInstanceAs (Decidable (_ = _))

/-- The number of commas that are neither inside quotes nor escaped. -/
def separators (cs : List Char) : Nat :=
  countPlaces (fun front c => c = ',' ∧ ¬ EndsQuoted front ∧ ¬ EndsEscaping front) cs

/-- A further character adds a place, and the places in front of it are what they were. -/
theorem countPlaces_concat (holds : List Char → Char → Bool) (cs : List Char) (c : Char) :
    countPlaces holds (cs ++ [c]) = countPlaces holds cs + if holds cs c then 1 else 0 := by
  have hfront : (List.range cs.length).countP
        (fun i => (cs ++ [c])[i]?.any (holds ((cs ++ [c]).take i)))
      = (List.range cs.length).countP fun i => cs[i]?.any (holds (cs.take i)) := by
    refine List.countP_congr fun i hi => ?_
    have hlt : i < cs.length := List.mem_range.mp hi
    rw [List.getElem?_append_left hlt, List.take_append_of_le_length (Nat.le_of_lt hlt)]
  rw [countPlaces, List.length_append, List.length_singleton, List.range_succ, List.countP_append,
    hfront, List.countP_singleton, List.getElem?_concat_length, List.take_left]
  rfl

theorem endsEscaping_concat (cs : List Char) (c : Char) :
    EndsEscaping (cs ++ [c]) ↔ c = '\\' ∧ ¬ EndsEscaping cs := by
  rw [EndsEscaping, EndsEscaping, List.reverse_concat, List.takeWhile_cons]
  by_cases hc : c = '\\'
  · simp [hc]
    omega
  · simp [hc]

/-- A bare quote leads into quotes or out of them. -/
theorem endsQuoted_concat (cs : List Char) (c : Char) :
    EndsQuoted (cs ++ [c]) ↔ (EndsQuoted cs ↔ ¬ (c = '"' ∧ ¬ EndsEscaping cs)) := by
  rw [EndsQuoted, EndsQuoted, bareQuotes, countPlaces_concat, ← bareQuotes]
  by_cases hquote : c = '"' ∧ ¬ EndsEscaping cs
  · simp [hquote]
    omega
  · simp [hquote]

theorem separators_concat (cs : List Char) (c : Char) :
    separators (cs ++ [c]) =
      separators cs + if c = ',' ∧ ¬ EndsQuoted cs ∧ ¬ EndsEscaping cs then 1 else 0 := by
  rw [separators, countPlaces_concat, ← separators]
  simp only [decide_eq_true_eq]

namespace Scan

/-! ## What a scan knows -/

/-- What a scan can do at a character: take it because it is escaped, raise the flag for escapes,
turn the flag for quotes, finish an item, or take a character that is not special. -/
theorem step_cases {motive : Scan → Char → Scan → Prop}
    (escaped : ∀ done current inQuotes c,
      motive ⟨done, current, inQuotes, true⟩ c ⟨done, c :: current, inQuotes, false⟩)
    (backslash : ∀ done current inQuotes,
      motive ⟨done, current, inQuotes, false⟩ '\\' ⟨done, current, inQuotes, true⟩)
    (quote : ∀ done current inQuotes,
      motive ⟨done, current, inQuotes, false⟩ '"' ⟨done, current, !inQuotes, false⟩)
    (comma : ∀ done current,
      motive ⟨done, current, false, false⟩ ',' ⟨current.reverse :: done, [], false, false⟩)
    (plain : ∀ done current inQuotes c, ¬ IsSpecial inQuotes c →
      motive ⟨done, current, inQuotes, false⟩ c ⟨done, c :: current, inQuotes, false⟩)
    (scan : Scan) (c : Char) : motive scan c (scan.step c) := by
  obtain ⟨done, current, inQuotes, isEscaped⟩ := scan
  cases isEscaped with
  | true =>
    rw [step_escaped]
    exact escaped done current inQuotes c
  | false =>
    by_cases hspecial : IsSpecial inQuotes c
    · rcases hspecial with rfl | rfl | ⟨rfl, rfl⟩
      · rw [step_quote]
        exact quote done current inQuotes
      · rw [step_backslash]
        exact backslash done current inQuotes
      · rw [step_comma]
        exact comma done current
    · rw [step_plain _ _ _ hspecial]
      exact plain done current inQuotes c hspecial

/-- A scan that has read a text: the flags say how the text ends, and an item is finished for each
separating comma. -/
structure Knows (scan : Scan) (cs : List Char) : Prop where
  escaped_iff : scan.escaped = true ↔ EndsEscaping cs
  inQuotes_iff : scan.inQuotes = true ↔ EndsQuoted cs
  length_done : scan.done.length = separators cs

/-- One character keeps a scan informed. -/
theorem Knows.step {scan : Scan} {cs : List Char} (h : Knows scan cs) (c : Char) :
    Knows (scan.step c) (cs ++ [c]) := by
  revert h
  refine step_cases (motive := fun scan c next => Knows scan cs → Knows next (cs ++ [c]))
    ?_ ?_ ?_ ?_ ?_ scan c
  · rintro done current inQuotes c ⟨hescaped, hquoted, hdone⟩
    have hends : EndsEscaping cs := hescaped.mp rfl
    refine ⟨?_, ?_, ?_⟩
    · simp [endsEscaping_concat, hends]
    · simpa [endsQuoted_concat, hends] using hquoted
    · simpa [separators_concat, hends] using hdone
  · rintro done current inQuotes ⟨hescaped, hquoted, hdone⟩
    have hends : ¬ EndsEscaping cs := fun h => nomatch hescaped.mpr h
    refine ⟨?_, ?_, ?_⟩
    · simp [endsEscaping_concat, hends]
    · simpa [endsQuoted_concat] using hquoted
    · simpa [separators_concat] using hdone
  · rintro done current inQuotes ⟨hescaped, hquoted, hdone⟩
    have hends : ¬ EndsEscaping cs := fun h => nomatch hescaped.mpr h
    have hflips : inQuotes = false ↔ ¬ EndsQuoted cs := by
      rw [← Bool.not_eq_true, ← hquoted]
    refine ⟨?_, ?_, ?_⟩
    · simp [endsEscaping_concat]
    · simpa [endsQuoted_concat, hends] using hflips
    · simpa [separators_concat] using hdone
  · rintro done current ⟨hescaped, hquoted, hdone⟩
    have hends : ¬ EndsEscaping cs := fun h => nomatch hescaped.mpr h
    have hopen : ¬ EndsQuoted cs := fun h => nomatch hquoted.mpr h
    refine ⟨?_, ?_, ?_⟩
    · simp [endsEscaping_concat]
    · simp [endsQuoted_concat, hopen]
    · simpa [separators_concat, hopen, hends] using hdone
  · rintro done current inQuotes c hspecial ⟨hescaped, hquoted, hdone⟩
    simp only [IsSpecial, not_or, not_and] at hspecial
    obtain ⟨hquote, hbackslash, hcomma⟩ := hspecial
    have hinside : ¬ (c = ',' ∧ ¬ EndsQuoted cs ∧ ¬ EndsEscaping cs) :=
      fun h => h.2.1 (hquoted.mp (by simpa using hcomma h.1))
    refine ⟨?_, ?_, ?_⟩
    · simp [endsEscaping_concat, hbackslash]
    · simpa [endsQuoted_concat, hquote] using hquoted
    · rw [separators_concat, if_neg hinside]
      exact hdone

theorem knows_nil : Knows start [] :=
  ⟨by decide, by decide, rfl⟩

/-- **A scan knows how the text ends that it has read**, and how many commas in it separate. -/
theorem run_start (cs : List Char) : Knows (start.run cs) cs := by
  -- on the last character, since the text behind a place says nothing about the place
  induction cs using List.reverseRecOn with
  | nil => exact knows_nil
  | append_singleton cs c ih =>
    rw [run_append]
    exact ih.step c

/-! ## What a scan has finished -/

/-- The scan with items in front of those that it has finished. -/
def behind (front : List (List Char)) (scan : Scan) : Scan :=
  { scan with done := scan.done ++ front }

theorem step_behind (front : List (List Char)) (scan : Scan) (c : Char) :
    (behind front scan).step c = behind front (scan.step c) := by
  refine step_cases (motive := fun scan c next => (behind front scan).step c = behind front next)
    ?_ ?_ ?_ ?_ ?_ scan c
  · exact fun done current inQuotes c => step_escaped _ _ _ c
  · exact fun done current inQuotes => step_backslash _ _ _
  · exact fun done current inQuotes => step_quote _ _ _
  · exact fun done current => step_comma _ _
  · exact fun done current inQuotes c hplain => step_plain _ _ _ hplain

/-- Items that are finished take no part in a scan. -/
theorem run_behind (front : List (List Char)) (scan : Scan) (cs : List Char) :
    (behind front scan).run cs = behind front (scan.run cs) := by
  induction cs generalizing scan with
  | nil => rfl
  | cons c cs ih => rw [run_cons, run_cons, step_behind, ih]

theorem items_run_behind (front : List (List Char)) (scan : Scan) (cs : List Char) :
    ((behind front scan).run cs).items = front.reverse ++ (scan.run cs).items := by
  rw [run_behind]
  simp [items, behind]

end Scan

/-! ## Labels -/

/-- The labels of one part of a body. -/
def partLabels (part : List Char) : List String :=
  if part = [] then [""] else labels (.text (braced part))

theorem labels_braced (body : List Char) :
    labels (.text (braced body)) = (bodyItems body).map String.ofList :=
  textItems_braced body

theorem bodyItems_of_ne_nil {body : List Char} (h : body ≠ []) :
    bodyItems body = (Scan.start.run body).items := by
  rw [bodyItems, if_neg (by simpa using h)]

/-- What a scan from the beginning finds in a part, empty or not. -/
theorem partLabels_eq (part : List Char) :
    partLabels part = (Scan.start.run part).items.map String.ofList := by
  by_cases h : part = []
  · subst h
    rfl
  · rw [partLabels, if_neg h, labels_braced, bodyItems_of_ne_nil h]

/-- A comma read with both flags down puts the scan back to the start, behind the items so far. -/
theorem items_run_separated {a b : List Char} (hquotes : (Scan.start.run a).inQuotes = false)
    (hescaped : (Scan.start.run a).escaped = false) :
    (Scan.start.run (a ++ ',' :: b)).items
      = (Scan.start.run a).items ++ (Scan.start.run b).items := by
  rw [Scan.run_append, Scan.run_cons]
  generalize Scan.start.run a = scan at hquotes hescaped ⊢
  obtain ⟨done, current, inQuotes, escaped⟩ := scan
  dsimp only at hquotes hescaped
  subst hquotes hescaped
  have hstart : (⟨current.reverse :: done, [], false, false⟩ : Scan)
      = Scan.behind (current.reverse :: done) Scan.start := rfl
  rw [Scan.step_comma, hstart, Scan.items_run_behind]
  rfl

/-- **The scan of an array literal is compositional**, also where nothing is well formed. If a text
leaves both flags down, the labels of this text, a comma and another text are those of the two; and
there is one label more than there are commas neither inside quotes nor escaped. -/
theorem labels_separated :
    (∀ a b : List Char, (Scan.start.run a).inQuotes = false → (Scan.start.run a).escaped = false →
      labels (.text (braced (a ++ ',' :: b))) = partLabels a ++ partLabels b) ∧
    ∀ body : List Char, body ≠ [] →
      (labels (.text (braced body))).length = separators body + 1 := by
  constructor
  · intro a b hquotes hescaped
    have hne : a ++ ',' :: b ≠ [] := by simp
    rw [labels_braced, bodyItems_of_ne_nil hne, items_run_separated hquotes hescaped,
      List.map_append, partLabels_eq, partLabels_eq]
  · intro body hne
    have hknows := Scan.run_start body
    rw [labels_braced, bodyItems_of_ne_nil hne, List.length_map, Scan.items, List.length_reverse,
      List.length_cons, hknows.length_done]

/-- An item with a comma in quotes and an escaped one, in front of one whose quotes stay open and
that ends in a backslash. -/
theorem labels_separated_ragged :
    labels (.text (braced ['a', '"', ',', '"', '\\', ',', ',', '"', 'b', ',', '\\']))
        = ["a,,", "b,"] ∧
      (labels (.text (braced ['a', '"', ',', '"', '\\', ',', ',', '"', 'b', ',', '\\']))).length
        = 1 + 1 := by
  constructor
  · have hparts := labels_separated.1 ['a', '"', ',', '"', '\\', ','] ['"', 'b', ',', '\\']
      (by decide) (by decide)
    rw [partLabels_eq, partLabels_eq] at hparts
    exact hparts
  · exact labels_separated.2 _ (by decide)

end ArrayLiteral
end SchemaTypes
