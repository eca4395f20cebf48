import SchemaTypes.Proofs.FileSystem.Again
import SchemaTypes.Proofs.Text.Utf8
import SchemaTypes.Text.Line

/-!
# Reading back

A text is written to a path and read back at the text of the path. The writer follows the names of
the path. The reader is given a text, cuts it at its slashes and follows the parts, the empty ones
too. The parts are the names of the path behind one empty part for each slash that it begins with
(`splitSlashes_text`), as long as no name holds a slash, and the empty parts lead nowhere. So the
reader comes to the place of the writer and finds the bytes that were put there (`read_written`).

Read as text, these bytes are the characters they were made of, but for line ends: a carriage return
becomes a line feed or is dropped before one. A text without carriage returns is read back as it is
(`readBack`).
-/

namespace SchemaTypes

/-! ## Parts and line ends of a text -/

namespace Text

theorem notMem_of_mem_splitOn {α : Type} [BEq α] [LawfulBEq α] {separator : α} {cs part : List α}
    (h : part ∈ cs.splitOn separator) : separator ∉ part := by
  induction cs generalizing part with
  | nil =>
    rw [List.mem_singleton.mp h]
    exact List.not_mem_nil
  | cons c cs ih =>
    rw [List.splitOn_cons_eq_if_modifyHead] at h
    split at h
    · rcases List.mem_cons.mp h with rfl | h
      · exact List.not_mem_nil
      · exact ih h
    · rename_i hne
      cases hparts : cs.splitOn separator with
      | nil => exact absurd hparts (List.splitOn_ne_nil _ _)
      | cons first parts =>
        rw [hparts] at h ih
        rcases List.mem_cons.mp h with rfl | h
        · rw [List.mem_cons, not_or]
          exact ⟨fun heq => hne (beq_iff_eq.mpr heq.symm), ih List.mem_cons_self⟩
        · exact ih (List.mem_cons_of_mem _ h)

theorem mem_of_mem_intercalate {α : Type} {separator : List α} {parts : List (List α)} {c : α}
    (h : c ∈ separator.intercalate parts) : c ∈ separator ∨ ∃ part ∈ parts, c ∈ part := by
  induction parts with
  | nil => cases h
  | cons part rest ih =>
    cases rest with
    | nil =>
      rw [List.intercalate_singleton] at h
      exact Or.inr ⟨part, List.mem_cons_self, h⟩
    | cons next rest =>
      rw [List.intercalate_cons_cons, List.mem_append, List.mem_append] at h
      rcases h with (h | h) | h
      · exact Or.inr ⟨part, List.mem_cons_self, h⟩
      · exact Or.inl h
      · refine (ih h).imp_right ?_
        rintro ⟨other, hother, hmem⟩
        exact ⟨other, List.mem_cons_of_mem _ hother, hmem⟩

/-- Without carriage returns the line ends of a text are what they should be. -/
theorem unifyLineFeeds_eq_self {cs : List Char} (h : '\r' ∉ cs) : unifyLineFeeds cs = cs := by
  fun_induction unifyLineFeeds cs with
  | case1 => rfl
  | case2 cs ih => exact absurd List.mem_cons_self h
  | case3 c cs hne ih =>
    rw [List.mem_cons, not_or] at h
    have hc : ¬ (c == '\r') = true := fun heq => h.1 (beq_iff_eq.mp heq).symm
    rw [if_neg hc, ih h.2]

end Text

/-! ## The text of a path -/

namespace Path

variable {path : Path}

/-- A path whose names hold no slashes. -/
def NoSlashes (path : Path) : Prop :=
  ∀ name ∈ path.names, '/' ∉ name.toList

theorem noSlashes_ofText (s : String) : (Path.ofText s).NoSlashes := by
  intro name hname
  obtain ⟨part, hpart, rfl⟩ := List.mem_map.mp (List.mem_filter.mp hname).1
  rw [String.toList_ofList]
  exact Text.notMem_of_mem_splitOn hpart

/-- The text of a path is its names, and an empty one for each slash before them, joined by
slashes. -/
theorem toList_text (h : path.names ≠ []) :
    path.text.toList = ['/'].intercalate
      (List.replicate path.slashes [] ++ path.names.map String.toList) := by
  obtain ⟨slashes, names⟩ := path
  rw [text, if_neg fun hempty => h hempty.2, String.toList_append, String.toList_ofList,
    String.toList_intercalate]
  dsimp only at h ⊢
  have hnames : names.map String.toList ≠ [] := by simpa using h
  induction slashes with
  | zero => rfl
  | succ slashes ih =>
    rw [List.replicate_succ, List.replicate_succ, List.cons_append, List.cons_append,
      List.intercalate_cons_of_ne_nil (List.append_ne_nil_of_right_ne_nil _ hnames), ← ih]
    rfl

/-- Cut at its slashes, the text of a path falls into its names and empty ones before them. -/
theorem splitSlashes_text (h : path.names ≠ []) (hslashes : path.NoSlashes) :
    splitSlashes path.text = List.replicate path.slashes "" ++ path.names := by
  have hparts : ∀ part ∈ List.replicate path.slashes [] ++ path.names.map String.toList,
      '/' ∉ part := by
    refine List.forall_mem_append.mpr ⟨fun part hpart => ?_, List.forall_mem_map.mpr hslashes⟩
    rw [List.eq_of_mem_replicate hpart]
    exact List.not_mem_nil
  rw [splitSlashes, toList_text h, List.splitOn_intercalate _ hparts
    (List.append_ne_nil_of_right_ne_nil _ (by simpa using h)), List.map_append,
    List.map_replicate, List.map_map]
  simp

theorem leadingSlashes_eq_zero_iff (s : String) :
    leadingSlashes s = 0 ↔ s.toList.head? ≠ some '/' := by
  rw [leadingSlashes]
  cases s.toList with
  | nil => exact iff_of_true rfl nofun
  | cons c cs =>
    by_cases hc : c = '/'
    · obtain rfl := hc
      rw [List.takeWhile_cons_of_pos (by decide), List.head?_cons]
      refine iff_of_false (fun hzero => ?_) (fun hne => hne rfl)
      dsimp only [List.length_cons] at hzero
      split at hzero
      · cases hzero
      · cases hzero
    · rw [List.takeWhile_cons_of_neg (by rwa [beq_iff_eq]), List.head?_cons]
      exact iff_of_true rfl fun heq => hc (Option.some.inj heq)

/-- The text of a path begins with a slash just if the path does. -/
theorem leadingSlashes_text_eq_zero_iff (h : path.names ≠ []) (hplain : path.Plain)
    (hslashes : path.NoSlashes) : leadingSlashes path.text = 0 ↔ path.slashes = 0 := by
  rw [leadingSlashes_eq_zero_iff, toList_text h]
  obtain ⟨slashes, names⟩ := path
  cases slashes with
  | zero =>
    refine iff_of_true (fun hhead => ?_) rfl
    cases names with
    | nil => exact absurd rfl h
    | cons name rest =>
      have hne : name.toList ≠ [] := fun hempty =>
        (hplain name List.mem_cons_self).1 (String.toList_eq_nil_iff.mp hempty)
      obtain ⟨c, cs, hname⟩ := List.exists_cons_of_ne_nil hne
      have hc : c ≠ '/' := by
        rintro rfl
        exact hslashes name List.mem_cons_self (hname ▸ List.mem_cons_self)
      cases rest with
      | nil => simp [hname, hc] at hhead
      | cons next rest => simp [hname, hc] at hhead
  | succ slashes =>
    have hrest : List.replicate slashes [] ++ names.map String.toList ≠ [] :=
      List.append_ne_nil_of_right_ne_nil _ (by simpa using h)
    rw [List.replicate_succ, List.cons_append, List.intercalate_cons_of_ne_nil hrest]
    exact iff_of_false (fun hne => hne rfl) (Nat.succ_ne_zero _)

theorem null_notMem_text (h : path.names ≠ []) (hnull : path.hasNull = false) :
    '\x00' ∉ path.text.toList := by
  rw [toList_text h]
  intro hmem
  rcases Text.mem_of_mem_intercalate hmem with hslash | ⟨part, hpart, hmem⟩
  · exact absurd hslash (by decide)
  · rcases List.mem_append.mp hpart with hempty | hname
    · rw [List.eq_of_mem_replicate hempty] at hmem
      cases hmem
    · obtain ⟨name, hmember, rfl⟩ := List.mem_map.mp hname
      rw [hasNull, List.any_eq_false] at hnull
      exact hnull name hmember (List.contains_iff_mem.mpr hmem)

theorem text_ne_empty (h : path.names ≠ []) (hplain : path.Plain) (hslashes : path.NoSlashes) :
    path.text ≠ "" := by
  intro hempty
  have hsplit := splitSlashes_text h hslashes
  rw [hempty] at hsplit
  obtain ⟨name, hname⟩ := List.exists_mem_of_ne_nil _ h
  have hmem : name ∈ splitSlashes "" := hsplit ▸ List.mem_append_right _ hname
  exact (hplain name hname).1 (List.mem_singleton.mp hmem)

end Path

namespace FileSystem

variable {files written : FileSystem} {path : Path} {place : Place}

/-! ## Where readers come to -/

/-- Empty names lead nowhere. -/
theorem walk_replicate_empty {start : Place} (k : Nat)
    (h : k = 0 ∨ files.find? start = some .directory) :
    files.walk start (List.replicate k "") = .ok start := by
  induction k with
  | zero => rfl
  | succ k ih =>
    have hfind := h.resolve_left (Nat.succ_ne_zero k)
    rw [walk, List.replicate_succ, List.foldlM_cons, enter, hfind]
    exact ih (Or.inr hfind)

/-- A reader comes to the place to which the path leads, if there is something. -/
theorem locate_text (hplain : path.Plain) (hslashes : path.NoSlashes)
    (hnull : path.hasNull = false) (htarget : files.target path = .ok (some place))
    (hthere : (files.find? place).isSome) : files.locate path.text = .ok place := by
  obtain ⟨hlength, name, above, hlast, hwalk, hfind, hdots, hbytes, rfl⟩ :=
    target_eq_some_iff.mp htarget
  obtain ⟨front, hnames⟩ := List.getLast?_eq_some_iff.mp hlast
  have hne : path.names ≠ [] := by simp [hnames]
  have hname : name ∈ path.names := List.mem_of_getLast? hlast
  have hstart : (if Path.leadingSlashes path.text = 0 then files.current else [])
      = files.origin path := by
    simp only [Path.leadingSlashes_text_eq_zero_iff hne hplain hslashes, origin, Path.isAbsolute,
      bne_iff_ne, ite_not]
  have horigin : path.slashes = 0 ∨ files.find? (files.origin path) = some .directory := by
    by_cases hrelative : path.slashes = 0
    · exact Or.inl hrelative
    · rw [origin, Path.isAbsolute, if_pos (bne_iff_ne.mpr hrelative)]
      exact Or.inr rfl
  have henter : files.enter above name = .ok (above ++ [name]) := by
    rw [enter, hfind]
    dsimp only
    rw [if_neg (not_or.mpr (hplain name hname)), if_neg hdots, if_neg hbytes, if_pos hthere]
  have hnull' : ¬ path.text.toList.contains '\x00' = true := fun hmem =>
    Path.null_notMem_text hne hnull (List.contains_iff_mem.mp hmem)
  have hempty : ¬ path.text.isEmpty = true := fun hempty =>
    Path.text_ne_empty hne hplain hslashes (String.isEmpty_iff.mp hempty)
  rw [locate, if_neg hnull', if_neg hempty, hstart, Path.splitSlashes_text hne hslashes,
    bind_eq_ok_iff]
  refine ⟨(), hlength, ?_⟩
  rw [walk_append, bind_eq_ok_iff]
  refine ⟨files.origin path, walk_replicate_empty _ horigin, ?_⟩
  have hparent : path.parent.names = front := by
    rw [Path.parent, hnames, List.dropLast_concat]
  rw [hnames, walk_concat, bind_eq_ok_iff]
  exact ⟨above, hparent ▸ hwalk, henter⟩

/-! ## What readers find -/

/-- **What was written is read.** -/
theorem read_written (hplain : path.Plain) (hslashes : path.NoSlashes) {text : String}
    (h : files.writeText path text = (written, .ok ())) :
    written.read path.text = .ok (Text.Utf8.encode text) := by
  obtain ⟨made, -, hwrite⟩ := writeText_eq_ok_iff.mp h
  obtain ⟨hnull, place, htarget, hfile, -, rfl⟩ := write_eq_ok_iff.mp hwrite
  have htarget' := target_put_file (Text.Utf8.encode text) hfile htarget
  have hfind : (made.put place (.file (Text.Utf8.encode text))).find? place
      = some (.file (Text.Utf8.encode text)) := by
    rw [find?_put (ne_nil_of_target htarget), if_pos rfl]
  have hlocate := locate_text hplain hslashes hnull htarget' (by rw [hfind]; rfl)
  rw [read, hlocate]
  dsimp only
  rw [hfind]

/-- **A text without carriage returns is read back as it was written.** -/
theorem readBack {s text : String} (hreturn : '\r' ∉ text.toList)
    (h : files.writeText (Path.ofText s) text = (written, .ok ())) :
    ∃ bytes, written.read (Path.ofText s).text = .ok bytes ∧
      (Text.Utf8.decode bytes).map Text.unifyLineFeeds = .ok text.toList := by
  refine ⟨_, read_written (Path.plain_ofText s) (Path.noSlashes_ofText s) h, ?_⟩
  rw [Text.Utf8.decode_encode, Except.map, Text.unifyLineFeeds_eq_self hreturn]

end FileSystem
end SchemaTypes
