import SchemaTypes.ArrayLiteral

/-!
# Written array literals

How a list of labels is written as an array literal, and that it is read back. Between the braces
stand the items with a comma between each two. An item is written inside quotes, where quotes and
backslashes need a backslash before them, or bare, where commas need one too; any other character
may have one. An empty item has to be quoted, and the list without items is a pair of braces.

One list has many literals, so this is a relation and not a function: `WrittenLiteral` holds of a
list and every text that writes it.

## Reading

The two flags of a scan are down wherever an item may begin. Inside an item the escape flag goes up
at a backslash and down at the next character, and the quote flag is up between the two quotes of
an item; apart from that the characters of the item pile up (`run_escaped`). So an item leaves the
flags down and itself as the item under way (`run_writtenItem`), and a comma, which is read with
both flags down, puts it away (`items_run_writtenItems`).

The braces keep blanks of a first or last item away from the ends of the text, so trimming the text
removes nothing.
-/

namespace SchemaTypes
namespace ArrayLiteral

/-! ## Literals -/

/-- A character that does not stand for itself: a quote, a backslash, or a comma outside quotes. -/
def IsSpecial (inQuotes : Bool) (c : Char) : Prop :=
  c = '"' ∨ c = '\\' ∨ (c = ',' ∧ inQuotes = false)

instance (inQuotes : Bool) (c : Char) : Decidable (IsSpecial inQuotes c) :=
  inferInstanceAs (Decidable (_ ∨ _ ∨ _))

/-- The characters of an item as they are written, inside quotes or outside: behind a backslash if
they are special, and otherwise with or without one. -/
inductive Escaped (inQuotes : Bool) : List Char → List Char → Prop
  | nil : Escaped inQuotes [] []
  | plain {c : Char} {item written : List Char} :
    ¬ IsSpecial inQuotes c → Escaped inQuotes item written →
      Escaped inQuotes (c :: item) (c :: written)
  | behind {c : Char} {item written : List Char} :
    Escaped inQuotes item written → Escaped inQuotes (c :: item) ('\\' :: c :: written)

/-- An item as it is written, in quotes or bare. -/
inductive WrittenItem : List Char → List Char → Prop
  | quoted {item written : List Char} :
    Escaped true item written → WrittenItem item ('"' :: written ++ ['"'])
  | bare {item written : List Char} :
    item ≠ [] → Escaped false item written → WrittenItem item written

/-- Items as they are written, one at least, with commas between them. -/
inductive WrittenItems : List (List Char) → List Char → Prop
  | last {item written : List Char} : WrittenItem item written → WrittenItems [item] written
  | cons {item written : List Char} {items : List (List Char)} {rest : List Char} :
    WrittenItem item written → WrittenItems items rest →
      WrittenItems (item :: items) (written ++ ',' :: rest)

/-- A text between braces. -/
def braced (body : List Char) : String :=
  String.ofList ('\x7b' :: body ++ ['\x7d'])

/-- A list of labels and a literal for it. -/
inductive WrittenLiteral : List String → String → Prop
  | empty : WrittenLiteral [] (braced [])
  | items {labels : List String} {body : List Char} :
    WrittenItems (labels.map String.toList) body → WrittenLiteral labels (braced body)

/-! ## One character -/

namespace Scan

variable (done : List (List Char)) (current : List Char) (inQuotes : Bool)

/-- Behind a backslash every character is taken as it is. -/
theorem step_escaped (c : Char) :
    step ⟨done, current, inQuotes, true⟩ c = ⟨done, c :: current, inQuotes, false⟩ :=
  if_pos rfl

theorem step_backslash :
    step ⟨done, current, inQuotes, false⟩ '\\' = ⟨done, current, inQuotes, true⟩ := by
  simp [step]

theorem step_quote :
    step ⟨done, current, inQuotes, false⟩ '"' = ⟨done, current, !inQuotes, false⟩ := by
  simp [step]

/-- A comma outside quotes ends the item under way. -/
theorem step_comma :
    step ⟨done, current, false, false⟩ ',' = ⟨current.reverse :: done, [], false, false⟩ := by
  simp [step]

/-- A character that is not special is taken. -/
theorem step_plain {c : Char} (h : ¬ IsSpecial inQuotes c) :
    step ⟨done, current, inQuotes, false⟩ c = ⟨done, c :: current, inQuotes, false⟩ := by
  simp only [IsSpecial, not_or] at h
  obtain ⟨hquote, hbackslash, hcomma⟩ := h
  simp [step, hquote, hbackslash, hcomma, take]

/-! ## Runs -/

@[simp] theorem run_cons (scan : Scan) (c : Char) (cs : List Char) :
    scan.run (c :: cs) = (scan.step c).run cs := rfl

theorem run_append (scan : Scan) (cs ds : List Char) :
    scan.run (cs ++ ds) = (scan.run cs).run ds :=
  List.foldl_append

/-- **The characters of an item pile up**, and both flags are afterwards what they were. -/
theorem run_escaped {item written : List Char} (h : Escaped inQuotes item written) :
    run ⟨done, current, inQuotes, false⟩ written
      = ⟨done, item.reverse ++ current, inQuotes, false⟩ := by
  induction h generalizing current with
  | nil => rfl
  | plain hplain _ ih =>
    rw [run_cons, step_plain _ _ _ hplain, ih, List.reverse_cons, List.append_assoc]
    rfl
  | behind _ ih =>
    rw [run_cons, step_backslash, run_cons, step_escaped, ih, List.reverse_cons,
      List.append_assoc]
    rfl

/-- An item is under way when it has been read, and the scan is as ready for a comma as it was for
the item. -/
theorem run_writtenItem {item written : List Char} (h : WrittenItem item written) :
    run ⟨done, [], false, false⟩ written = ⟨done, item.reverse, false, false⟩ := by
  cases h with
  | quoted h =>
    rw [List.cons_append, run_cons, step_quote, run_append, Bool.not_false,
      run_escaped _ _ _ h, List.append_nil, run_cons, step_quote]
    rfl
  | bare _ h => rw [run_escaped _ _ _ h, List.append_nil]

theorem items_eq (escaped : Bool) :
    items ⟨done, current, inQuotes, escaped⟩ = done.reverse ++ [current.reverse] :=
  List.reverse_cons

/-- Items join those that were finished before. -/
theorem items_run_writtenItems {items : List (List Char)} {written : List Char}
    (h : WrittenItems items written) :
    (run ⟨done, [], false, false⟩ written).items = done.reverse ++ items := by
  induction h generalizing done with
  | last h => rw [run_writtenItem _ h, items_eq, List.reverse_reverse]
  | cons h _ ih =>
    rw [run_append, run_writtenItem _ h, run_cons, step_comma, ih, List.reverse_cons,
      List.reverse_reverse, List.append_assoc]
    rfl

end Scan

/-! ## Whole literals -/

theorem ne_nil_of_escaped {inQuotes : Bool} {item written : List Char}
    (h : Escaped inQuotes item written) (hitem : item ≠ []) : written ≠ [] := by
  cases h with
  | nil => exact absurd rfl hitem
  | plain => exact List.cons_ne_nil _ _
  | behind => exact List.cons_ne_nil _ _

/-- No item leaves the body empty, because empty items are quoted. -/
theorem ne_nil_of_writtenItems {items : List (List Char)} {written : List Char}
    (h : WrittenItems items written) : written ≠ [] := by
  cases h with
  | last h =>
    cases h with
    | quoted => exact List.cons_ne_nil _ _
    | bare hitem h => exact ne_nil_of_escaped h hitem
  | cons => simp

theorem bodyItems_of_writtenItems {items : List (List Char)} {body : List Char}
    (h : WrittenItems items body) : bodyItems body = items := by
  have hempty : body.isEmpty = false := List.isEmpty_eq_false_iff.mpr (ne_nil_of_writtenItems h)
  rw [bodyItems, hempty, if_neg (by decide), Scan.start, Scan.items_run_writtenItems _ h]
  rfl

/-- Braces are no blanks, so nothing is trimmed off a text in braces. -/
theorem trim_braced (body : List Char) :
    Text.trim Text.isBlank (braced body).toList = '\x7b' :: body ++ ['\x7d'] := by
  rw [braced, String.toList_ofList, Text.trim, List.cons_append,
    List.dropWhile_cons_of_neg (by decide), Text.trimEnd, ← List.cons_append, List.reverse_append,
    List.reverse_singleton, List.singleton_append, List.dropWhile_cons_of_neg (by decide),
    List.reverse_cons, List.reverse_reverse]

theorem dropBraces_braced (body : List Char) :
    dropBraces ('\x7b' :: body ++ ['\x7d']) = body := by
  rw [dropBraces, List.getLast?_concat, List.cons_append, List.head?_cons, if_pos (by decide),
    List.tail_cons, List.dropLast_concat]

/-- A text in braces has the items of its body. -/
theorem textItems_braced (body : List Char) :
    textItems (braced body) = (bodyItems body).map String.ofList := by
  rw [textItems, trim_braced, dropBraces_braced]

/-- **A literal is read as the list that it was written for.** -/
theorem textItems_of_writtenLiteral {labels : List String} {text : String}
    (h : WrittenLiteral labels text) : textItems text = labels := by
  cases h with
  | empty => rw [textItems_braced]; rfl
  | items h =>
    rw [textItems_braced, bodyItems_of_writtenItems h, List.map_map]
    exact List.map_id'' (fun label => String.ofList_toList) labels

/-- A list of texts has these texts as its labels. -/
theorem labels_list (labels : List String) :
    ArrayLiteral.labels (.list (labels.map .text)) = labels := by
  rw [ArrayLiteral.labels, List.map_map]
  exact List.map_id'' (fun _ => rfl) labels

end ArrayLiteral
end SchemaTypes
