/-!
# Texts that delimit themselves

A format is uniquely readable when each of its pieces says by itself where it ends. `SelfDelimiting`
states this without a reader: if two written pieces, each with something behind it, are the same
text, then the pieces show the same `view` of what was written and the same text stands behind
them. What a piece does not let through, a comment for instance, is left out of its view.

The lemmas below follow the ways in which a format is put together: `append` for pieces in a row,
`terminated` for a piece that ends at the first occurrence of a character, `eq_of_flatMap` for
pieces one after another until something comes that is no piece, and `separated` for a list that
has an opening of its own when it is empty.
-/

namespace SchemaTypes
namespace Text

variable {α β γ : Type}

/-- Texts written from what satisfies `ok` show `view` of it and where they end, whatever stands
behind them. -/
def SelfDelimiting (ok : α → Prop) (write : α → List Char) (view : α → β) : Prop :=
  ∀ ⦃a b : α⦄, ok a → ok b → ∀ ⦃r s : List Char⦄,
    write a ++ r = write b ++ s → view a = view b ∧ r = s

namespace SelfDelimiting

variable {ok : α → Prop} {f g : α → List Char} {u : α → β} {v : α → γ}

/-- A text that is always the same shows nothing, but it does end. -/
theorem const (ok : α → Prop) (text : List Char) :
    SelfDelimiting ok (fun _ => text) fun _ => () := by
  intro a b _ _ r s h
  exact ⟨rfl, List.append_cancel_left h⟩

/-- A piece behind another one. -/
theorem append (hf : SelfDelimiting ok f u) (hg : SelfDelimiting ok g v) :
    SelfDelimiting ok (fun a => f a ++ g a) fun a => (u a, v a) := by
  intro a b ha hb r s h
  rw [List.append_assoc, List.append_assoc] at h
  obtain ⟨hu, h⟩ := hf ha hb h
  obtain ⟨hv, h⟩ := hg ha hb h
  exact ⟨Prod.ext hu hv, h⟩

/-- What is seen may be cut down to what follows from it. -/
theorem map_view (hf : SelfDelimiting ok f u)
    (huv : ∀ a b, ok a → ok b → u a = u b → v a = v b) : SelfDelimiting ok f v := by
  intro a b ha hb r s h
  obtain ⟨hu, h⟩ := hf ha hb h
  exact ⟨huv a b ha hb hu, h⟩

/-- What is written may be a part of something else. -/
theorem comap (hf : SelfDelimiting ok f u) (ok' : γ → Prop) (part : γ → α)
    (hpart : ∀ c, ok' c → ok (part c)) :
    SelfDelimiting ok' (fun c => f (part c)) fun c => u (part c) := by
  intro a b ha hb r s h
  exact hf (hpart a ha) (hpart b hb) h

/-- A piece between two fixed texts. -/
theorem between (before : List Char) (hf : SelfDelimiting ok f u) (after : List Char) :
    SelfDelimiting ok (fun a => before ++ f a ++ after) u :=
  ((const ok before).append hf |>.append (const ok after)).map_view
    fun _ _ _ _ h => congrArg (·.1.2) h

/-- A text that ends at the first occurrence of a character. -/
theorem terminated (stop : Char) :
    SelfDelimiting (fun cs : List Char => stop ∉ cs) (fun cs => cs ++ [stop]) id := by
  intro a b ha hb r s h
  rw [List.append_assoc, List.append_assoc, List.singleton_append, List.singleton_append] at h
  -- if one text went on where the other stops, it would hold the stop
  rcases List.append_eq_append_iff.mp h with ⟨t, rfl, hr⟩ | ⟨t, rfl, hs⟩
  · cases t with
    | nil => exact ⟨(List.append_nil a).symm, (List.cons.inj hr).2⟩
    | cons c t => exact absurd ((List.cons.inj hr).1 ▸ by simp) hb
  · cases t with
    | nil => exact ⟨List.append_nil b, (List.cons.inj hs).2.symm⟩
    | cons c t => exact absurd ((List.cons.inj hs).1 ▸ by simp) ha

/-- Pieces one after another are known up to the point where no further piece begins. -/
theorem eq_of_flatMap (hf : SelfDelimiting ok f u) {as bs : List α} (has : ∀ a ∈ as, ok a)
    (hbs : ∀ b ∈ bs, ok b) {x y : List Char} (hx : ∀ a, ok a → ¬ f a <+: x)
    (hy : ∀ a, ok a → ¬ f a <+: y) (h : as.flatMap f ++ x = bs.flatMap f ++ y) :
    as.map u = bs.map u ∧ x = y := by
  induction as generalizing bs with
  | nil =>
    cases bs with
    | nil => exact ⟨rfl, h⟩
    | cons b bs =>
      rw [List.flatMap_nil, List.nil_append, List.flatMap_cons, List.append_assoc] at h
      exact absurd ⟨_, h.symm⟩ (hx b (hbs b List.mem_cons_self))
  | cons a as ih =>
    rw [List.forall_mem_cons] at has
    cases bs with
    | nil =>
      rw [List.flatMap_nil, List.nil_append, List.flatMap_cons, List.append_assoc] at h
      exact absurd ⟨_, h⟩ (hy a has.1)
    | cons b bs =>
      rw [List.forall_mem_cons] at hbs
      rw [List.flatMap_cons, List.flatMap_cons, List.append_assoc, List.append_assoc] at h
      obtain ⟨hab, h⟩ := hf has.1 hbs.1 h
      obtain ⟨hrest, hxy⟩ := ih has.2 hbs.2 h
      exact ⟨by rw [List.map_cons, List.map_cons, hab, hrest], hxy⟩

/-- A list with a separator between two pieces and a text at the end, or with a text of its own if
it is empty. -/
def writeSeparated (f : α → List Char) (separator stop empty : List Char) : List α → List Char
  | [] => empty
  | a :: as => f a ++ as.flatMap (fun b => separator ++ f b) ++ stop

/-- A written list shows what each of its pieces shows, if neither its separator looks like its
end nor a first piece like the text of the empty list. -/
theorem separated (hf : SelfDelimiting ok f u) (separator stop empty : List Char)
    (hstop : ∀ r s, separator ++ r ≠ stop ++ s)
    (hempty : ∀ a, ok a → ∀ r s, f a ++ r ≠ empty ++ s) :
    SelfDelimiting (fun as : List α => ∀ a ∈ as, ok a) (writeSeparated f separator stop empty)
      fun as => as.map u := by
  intro as bs has hbs r s h
  cases as with
  | nil =>
    cases bs with
    | nil => exact ⟨rfl, List.append_cancel_left h⟩
    | cons b bs =>
      rw [writeSeparated, writeSeparated, List.append_assoc, List.append_assoc] at h
      exact absurd h.symm (hempty b (hbs b List.mem_cons_self) _ _)
  | cons a as =>
    rw [List.forall_mem_cons] at has
    cases bs with
    | nil =>
      rw [writeSeparated, writeSeparated, List.append_assoc, List.append_assoc] at h
      exact absurd h (hempty a has.1 _ _)
    | cons b bs =>
      rw [List.forall_mem_cons] at hbs
      simp only [writeSeparated, List.append_assoc] at h
      obtain ⟨hab, h⟩ := hf has.1 hbs.1 h
      have hpiece : SelfDelimiting ok (fun a => separator ++ f a) u :=
        ((const ok separator).append hf).map_view fun _ _ _ _ h => congrArg (·.2) h
      have hend : ∀ r, ∀ a, ok a → ¬ separator ++ f a <+: stop ++ r := by
        rintro r a - ⟨t, ht⟩
        rw [List.append_assoc] at ht
        exact hstop _ _ ht
      obtain ⟨hrest, h⟩ := hpiece.eq_of_flatMap has.2 hbs.2 (hend r) (hend s) h
      refine ⟨?_, List.append_cancel_left h⟩
      show u a :: as.map u = u b :: bs.map u
      rw [hab, hrest]

end SelfDelimiting
end Text
end SchemaTypes
