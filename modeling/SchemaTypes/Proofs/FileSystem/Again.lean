import SchemaTypes.Proofs.FileSystem.Contents

/-!
# Writing again

A text that was written to a path is there, so writing it once more to the same path finds
everything as it would leave it: the directories that the path needs are there, and the file holds
the text. Nothing is made and nothing is changed, not even the order of the entries
(`writeText_again`).

Making a directory looks at the place that the path names, and finding a directory follows the path
to where it leads. For a path whose last name is two dots these are different places, and that path
leads to a directory that is there. Otherwise they are the same place if no name stands for the
directory it is looked up in, so the paths here have neither empty names nor single dots, as paths
that a text writes (`plain_ofText`).
-/

namespace SchemaTypes

/-- A path without names that say nothing. -/
def Path.Plain (path : Path) : Prop :=
  ∀ name ∈ path.names, name ≠ "" ∧ name ≠ "."

theorem Path.plain_ofText (s : String) : (Path.ofText s).Plain := by
  intro name hname
  have h := (List.mem_filter.mp hname).2
  exact of_decide_eq_true h

theorem Path.Plain.parent {path : Path} (h : path.Plain) : path.parent.Plain :=
  fun name hname => h name (List.dropLast_subset _ hname)

namespace FileSystem

variable {files : FileSystem} {place : Place} {path : Path}

/-! ## Entries -/

theorem putEntry_eq_self {entry : Entry} {entries : List (Place × Entry)}
    (h : entries.lookup place = some entry) : putEntry place entry entries = entries := by
  induction entries with
  | nil => cases h
  | cons first rest ih =>
    obtain ⟨known, old⟩ := first
    rw [lookup_entry] at h
    rw [putEntry]
    by_cases hknown : place = known
    · rw [if_pos hknown] at h
      rw [if_pos hknown.symm, Option.some.inj h]
    · rw [if_neg hknown] at h
      rw [if_neg (Ne.symm hknown), ih h]

/-- Putting what is there changes nothing. -/
theorem put_eq_self (hplace : place ≠ []) {entry : Entry} (h : files.find? place = some entry) :
    files.put place entry = files := by
  rw [find?, if_neg hplace] at h
  rw [put, putEntry_eq_self h]

/-! ## Directories that are there -/

/-- A name that was followed from a directory leads one place up or down. -/
theorem enter_eq_ok {start next : Place} {name : String} (hname : name ≠ "" ∧ name ≠ ".")
    (h : files.enter start name = .ok next) :
    files.find? start = some .directory ∧ (name = ".." ∨ name ≠ ".." ∧
      ¬ maxNameBytes < name.utf8ByteSize ∧ next = start ++ [name] ∧
        (files.find? next).isSome) := by
  unfold enter at h
  cases hfind : files.find? start with
  | none => simp [hfind] at h
  | some entry =>
    cases entry with
    | file _ => simp [hfind] at h
    | directory =>
      rw [hfind] at h
      dsimp only at h
      rw [if_neg (not_or.mpr hname)] at h
      refine ⟨rfl, ?_⟩
      by_cases hdots : name = ".."
      · exact .inl hdots
      · by_cases hbytes : maxNameBytes < name.utf8ByteSize
        · rw [if_neg hdots, if_pos hbytes] at h
          cases h
        · by_cases hthere : (files.find? (start ++ [name])).isSome
          · rw [if_neg hdots, if_neg hbytes, if_pos hthere] at h
            cases h
            exact .inr ⟨hdots, hbytes, rfl, hthere⟩
          · rw [if_neg hdots, if_neg hbytes, if_neg hthere] at h
            cases h

theorem checkLength_cases (path : String) :
    checkLength path = .ok () ∨ checkLength path = .error .nameTooLong := by
  unfold checkLength
  split
  · exact .inr rfl
  · exact .inl rfl

theorem walk_append (start : Place) (names others : List String) :
    files.walk start (names ++ others) = files.walk start names >>= (files.walk · others) := by
  unfold walk
  exact List.foldlM_append

theorem walk_concat (start : Place) (names : List String) (name : String) :
    files.walk start (names ++ [name]) = files.walk start names >>= (files.enter · name) := by
  rw [walk_append]
  simp only [walk, List.foldlM_cons, List.foldlM_nil, bind_pure]

/-- What a path leads to is a directory. -/
theorem isDirectory_iff :
    files.isDirectory path = true ↔ checkLength path.text = .ok () ∧
      ∃ place, files.walk (files.origin path) path.names = .ok place ∧
        files.find? place = some .directory := by
  unfold isDirectory
  cases checkLength path.text with
  | error error => exact iff_of_false nofun nofun
  | ok _ =>
    cases files.walk (files.origin path) path.names with
    | error error => exact iff_of_false nofun nofun
    | ok place =>
      dsimp only
      rw [beq_iff_eq]
      exact ⟨fun h => ⟨rfl, place, rfl, h⟩, fun ⟨_, _, hplace, h⟩ => by cases hplace; exact h⟩

/-- A directory that is there is not made again. -/
theorem makeDirectory_of_isDirectory (hplain : path.Plain) (hnames : path.names ≠ [])
    (h : files.isDirectory path = true) : files.makeDirectory path = .error .occupied := by
  obtain ⟨hlength, last, hwalk, -⟩ := isDirectory_iff.mp h
  have hnames := (List.dropLast_concat_getLast hnames).symm
  generalize hlast : path.names.getLast _ = name at hnames
  have hname := hplain name (hlast ▸ List.getLast_mem _)
  rw [hnames, walk_concat, bind_eq_ok_iff] at hwalk
  obtain ⟨above, habove, hwalk⟩ := hwalk
  have hlast? : path.names.getLast? = some name := by rw [hnames, List.getLast?_concat]
  obtain ⟨hfind, hdots | ⟨hdots, hbytes, rfl, hthere⟩⟩ := enter_eq_ok hname hwalk
  · -- Two dots lead to a directory that is there, and are no name for a new one.
    have htarget : files.target path = .ok none := by
      unfold target Path.parent
      rw [hlength, hlast?]
      dsimp only [bind, Except.bind]
      rw [show files.walk (files.origin path) path.names.dropLast = .ok above from habove]
      dsimp only
      rw [hfind]
      dsimp only
      rw [if_pos hdots]
    rw [makeDirectory, htarget]
    rfl
  · have htarget : files.target path = .ok (some (above ++ [name])) :=
      target_eq_some_iff.mpr ⟨hlength, name, above, hlast?, habove, hfind, hdots, hbytes, rfl⟩
    rw [makeDirectory, htarget]
    dsimp only [bind, Except.bind]
    rw [if_pos hthere]

/-- Making the directories of a path that leads to a directory changes nothing. -/
theorem makeDirectories_of_isDirectory (hplain : path.Plain) (hnull : path.hasNull = false)
    (h : files.isDirectory path = true) : files.makeDirectories path = (files, .ok ()) := by
  obtain ⟨slashes, names⟩ := path
  rw [makeDirectories, if_neg (Bool.eq_false_iff.mp hnull)]
  cases hnames : names.reverse with
  | nil =>
    rw [List.reverse_eq_nil_iff] at hnames
    rw [hnames] at h
    rw [makeDirectoriesUp, orDirectory, if_pos h]
  | cons name above =>
    have hback : (name :: above).reverse = names := by rw [← hnames, List.reverse_reverse]
    have hne : names ≠ [] := by
      rintro rfl
      cases hnames
    have hmake : files.makeDirectory ⟨slashes, names⟩ = .error .occupied :=
      makeDirectory_of_isDirectory hplain hne h
    rw [makeDirectoriesUp]
    dsimp only
    rw [hback, hmake]
    dsimp only
    rw [orDirectory, if_pos h]

/-- Directories cannot be made for a path that is too long. -/
theorem checkLength_of_makeDirectories {made : FileSystem}
    (h : files.makeDirectories path = (made, .ok ())) :
    path.hasNull = false ∧ checkLength path.text = .ok () := by
  unfold makeDirectories at h
  by_cases hnull : path.hasNull
  · rw [if_pos hnull] at h
    cases h
  · rw [if_neg hnull] at h
    refine ⟨Bool.eq_false_iff.mpr hnull, (checkLength_cases path.text).resolve_right ?_⟩
    intro hlong
    have hdirectory : files.isDirectory path ≠ true := by
      rw [Ne, isDirectory_iff, hlong]
      exact fun h => absurd h.1 nofun
    obtain ⟨slashes, names⟩ := path
    dsimp only at h
    cases hnames : names.reverse with
    | nil =>
      rw [List.reverse_eq_nil_iff] at hnames
      subst hnames
      rw [List.reverse_nil, makeDirectoriesUp, orDirectory, if_neg hdirectory] at h
      cases h
    | cons name above =>
      have hback : (name :: above).reverse = names := by rw [← hnames, List.reverse_reverse]
      have hmake : files.makeDirectory ⟨slashes, names⟩ = .error .nameTooLong := by
        unfold makeDirectory target
        rw [hlong]
        rfl
      rw [hnames, makeDirectoriesUp, hback, hmake] at h
      dsimp only at h
      rw [orDirectory, if_neg hdirectory] at h
      cases h

/-! ## Writing -/

/-- A path that leads somewhere begins with the names of a directory. -/
theorem isDirectory_parent_of_target (h : files.target path = .ok (some place))
    (hlength : checkLength path.parent.text = .ok ()) :
    files.isDirectory path.parent = true := by
  obtain ⟨-, _, above, -, hwalk, hfind, -⟩ := target_eq_some_iff.mp h
  exact isDirectory_iff.mpr ⟨hlength, above, hwalk, hfind⟩

/-- **Writing again changes nothing.** A text that was written to a path is written once more with
success, and leaves all entries as they are. -/
theorem writeText_again (hplain : path.Plain) {text : String} {written : FileSystem}
    (h : files.writeText path text = (written, .ok ())) :
    written.writeText path text = (written, .ok ()) := by
  obtain ⟨made, hmade, hwrite⟩ := writeText_eq_ok_iff.mp h
  obtain ⟨hnull, place, htarget, hfile, hrefusal, rfl⟩ := write_eq_ok_iff.mp hwrite
  obtain ⟨hparent, hlength⟩ := checkLength_of_makeDirectories hmade
  have hplace := ne_nil_of_target htarget
  -- The path leads to the file that was put there, and through the same directories.
  have htarget' := target_put_file (Text.Utf8.encode text) hfile htarget
  have hdirectory := isDirectory_parent_of_target htarget' hlength
  have hfind : (made.put place (.file (Text.Utf8.encode text))).find? place
      = some (.file (Text.Utf8.encode text)) := by
    rw [find?_put hplace, if_pos rfl]
  exact writeText_eq_ok_iff.mpr
    ⟨_, makeDirectories_of_isDirectory hplain.parent hparent hdirectory, write_eq_ok_iff.mpr
      ⟨hnull, place, htarget', by rw [hfind]; nofun, hrefusal, put_eq_self hplace hfind⟩⟩

end FileSystem
end SchemaTypes
