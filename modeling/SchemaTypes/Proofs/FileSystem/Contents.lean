import SchemaTypes.FileSystem
import SchemaTypes.Proofs.Fallible

/-!
# The contents of files

What operations on files do to the contents of files, directories left aside. Making directories
puts entries only where nothing was, so every file keeps its content (`sameFiles_makeDirectories`),
also if the operation fails half way. Writing a file puts its content where the path leads and
leaves every other file alone.

The place to which a path leads is found with the directories that are there. A file that is put
at the end of the way is no part of the way, so the path leads there afterwards as well
(`target_put_file`); this is why the place can be named in terms of the files that a run leaves
behind.
-/

namespace SchemaTypes
namespace FileSystem

/-- The content of the file at a place, if there is a file. -/
def file? (files : FileSystem) (place : Place) : Option (List UInt8) :=
  match files.find? place with
  | some (.file content) => some content
  | _ => none

/-- Two file systems with the same files, and the same content in each. -/
def SameFiles (files other : FileSystem) : Prop :=
  ∀ place, files.file? place = other.file? place

/-- The file to which a path leads has the given content, and every other file is as before. -/
def OnlyWritten (before : FileSystem) (path : Path) (content : List UInt8)
    (files : FileSystem) : Prop :=
  ∃ place, files.target path = .ok (some place) ∧ files.file? place = some content ∧
    ∀ other, other ≠ place → files.file? other = before.file? other

theorem SameFiles.refl (files : FileSystem) : files.SameFiles files := fun _ => rfl

theorem SameFiles.trans {files other third : FileSystem} (h : files.SameFiles other)
    (h' : other.SameFiles third) : files.SameFiles third :=
  fun place => (h place).trans (h' place)

/-! ## Putting entries -/

variable {files : FileSystem} {place : Place} {path : Path}

theorem lookup_entry (known other : Place) (entry : Entry) (rest : List (Place × Entry)) :
    ((known, entry) :: rest).lookup other =
      if other = known then some entry else rest.lookup other := by
  rw [List.lookup_cons]
  by_cases h : other = known
  · rw [if_pos h, beq_iff_eq.mpr h]
  · rw [if_neg h, beq_eq_false_iff_ne.mpr h]

theorem lookup_putEntry (place other : Place) (entry : Entry) (entries : List (Place × Entry)) :
    (putEntry place entry entries).lookup other =
      if other = place then some entry else entries.lookup other := by
  induction entries with
  | nil => exact lookup_entry place other entry []
  | cons first rest ih =>
    obtain ⟨known, old⟩ := first
    rw [putEntry]
    by_cases hknown : known = place
    · rw [if_pos hknown, lookup_entry, lookup_entry, hknown]
      by_cases h : other = place
      · rw [if_pos h, if_pos h]
      · rw [if_neg h, if_neg h, if_neg h]
    · rw [if_neg hknown, lookup_entry, lookup_entry, ih]
      by_cases h : other = known
      · rw [if_pos h, if_pos h, if_neg (h ▸ hknown)]
      · rw [if_neg h, if_neg h]

/-- An entry stands where it was put, and elsewhere stands what stood there. -/
theorem find?_put (hplace : place ≠ []) (entry : Entry) (other : Place) :
    (files.put place entry).find? other =
      if other = place then some entry else files.find? other := by
  unfold find?
  by_cases hother : other = []
  · rw [if_pos hother, if_pos hother, if_neg (hother ▸ hplace.symm)]
  · rw [if_neg hother, if_neg hother, put, lookup_putEntry]

/-- A directory where nothing was changes no file. -/
theorem sameFiles_put_directory (hplace : place ≠ []) (hnone : files.find? place = none) :
    (files.put place .directory).SameFiles files := by
  intro other
  unfold file?
  rw [find?_put hplace]
  by_cases h : other = place
  · rw [if_pos h, h, hnone]
  · rw [if_neg h]

/-! ## Where paths lead -/

/-- A path leads to a place if its names but the last lead to a directory, and the last one can be
the name of something there. -/
theorem target_eq_some_iff :
    files.target path = .ok (some place) ↔
      checkLength path.text = .ok () ∧ ∃ (name : String) (above : Place),
        path.names.getLast? = some name ∧
        files.walk (files.origin path) path.parent.names = .ok above ∧
        files.find? above = some .directory ∧ name ≠ ".." ∧
        ¬ maxNameBytes < name.utf8ByteSize ∧ above ++ [name] = place := by
  unfold target
  rw [bind_eq_ok_iff]
  cases hname : path.names.getLast? with
  | none => simp [pure, Except.pure]
  | some name =>
    simp only [bind_eq_ok_iff]
    constructor
    · rintro ⟨_, hlength, above, hwalk, h⟩
      -- The last step of the search fails unless a directory was found and the name can be used.
      cases hfind : files.find? above with
      | none => simp [hfind] at h
      | some entry =>
        cases entry with
        | file content => simp [hfind] at h
        | directory =>
          rw [hfind] at h
          dsimp only at h
          by_cases hdots : name = ".."
          · rw [if_pos hdots] at h
            cases h
          · by_cases hbytes : maxNameBytes < name.utf8ByteSize
            · rw [if_neg hdots, if_pos hbytes] at h
              cases h
            · rw [if_neg hdots, if_neg hbytes] at h
              exact ⟨hlength, name, above, rfl, hwalk, hfind, hdots, hbytes,
                Option.some.inj (Except.ok.inj h)⟩
    · rintro ⟨hlength, last, above, hlast, hwalk, hfind, hdots, hbytes, rfl⟩
      obtain rfl := Option.some.inj hlast
      refine ⟨(), hlength, above, hwalk, ?_⟩
      rw [hfind]
      dsimp only
      rw [if_neg hdots, if_neg hbytes]

/-- The root is no place that something new could be put at. -/
theorem ne_nil_of_target (h : files.target path = .ok (some place)) : place ≠ [] := by
  obtain ⟨-, name, above, -, -, -, -, -, rfl⟩ := target_eq_some_iff.mp h
  exact List.append_ne_nil_of_right_ne_nil _ (List.cons_ne_nil _ _)

section PutFile

variable (content : List UInt8)

/-- A file in a place where no directory was is never passed on the way. -/
theorem find?_put_file (hplace : place ≠ []) (hfile : files.find? place ≠ some .directory)
    {other : Place} (h : files.find? other = some .directory) :
    (files.put place (.file content)).find? other = some .directory := by
  rw [find?_put hplace, if_neg, h]
  rintro rfl
  exact hfile h

/-- What could be entered can be entered after a file was put somewhere. -/
theorem enter_put_file (hplace : place ≠ []) (hfile : files.find? place ≠ some .directory)
    {start next : Place} {name : String} (h : files.enter start name = .ok next) :
    (files.put place (.file content)).enter start name = .ok next := by
  unfold enter at h ⊢
  cases hfind : files.find? start with
  | none => simp [hfind] at h
  | some entry =>
    cases entry with
    | file _ => simp [hfind] at h
    | directory =>
      rw [hfind] at h
      rw [find?_put_file content hplace hfile hfind, find?_put hplace]
      dsimp only at h ⊢
      by_cases hstay : name = "" ∨ name = "."
      · rwa [if_pos hstay] at h ⊢
      · by_cases hdots : name = ".."
        · rwa [if_neg hstay, if_pos hdots] at h ⊢
        · rw [if_neg hstay, if_neg hdots] at h ⊢
          by_cases hbytes : maxNameBytes < name.utf8ByteSize
          · rwa [if_pos hbytes] at h ⊢
          · -- Whether the name is there is the one answer that may change, and only to a yes.
            rw [if_neg hbytes] at h ⊢
            by_cases hthere : (files.find? (start ++ [name])).isSome
            · rw [if_pos hthere] at h
              rw [if_pos, h]
              by_cases hnext : start ++ [name] = place
              · rw [if_pos hnext, Option.isSome_some]
              · rw [if_neg hnext, hthere]
            · rw [if_neg hthere] at h
              cases h

/-- What could be walked can be walked after a file was put somewhere. -/
theorem walk_put_file (hplace : place ≠ []) (hfile : files.find? place ≠ some .directory)
    {names : List String} {start last : Place} (h : files.walk start names = .ok last) :
    (files.put place (.file content)).walk start names = .ok last := by
  unfold walk at h ⊢
  induction names generalizing start with
  | nil => exact h
  | cons name names ih =>
    rw [List.foldlM_cons, bind_eq_ok_iff] at h ⊢
    obtain ⟨next, hname, hnames⟩ := h
    exact ⟨next, enter_put_file content hplace hfile hname, ih hnames⟩

/-- A path still leads to the place after a file was put there. -/
theorem target_put_file (hfile : files.find? place ≠ some .directory)
    (h : files.target path = .ok (some place)) :
    (files.put place (.file content)).target path = .ok (some place) := by
  have hplace := ne_nil_of_target h
  obtain ⟨hlength, name, above, hname, hwalk, hfind, hrest⟩ := target_eq_some_iff.mp h
  have hwalk' := walk_put_file content hplace hfile hwalk
  have hfind' := find?_put_file content hplace hfile hfind
  exact target_eq_some_iff.mpr ⟨hlength, name, above, hname, hwalk', hfind', hrest⟩

/-- Where the path leads, and nowhere else, there is the file that was put there. -/
theorem onlyWritten_put_file (hfile : files.find? place ≠ some .directory)
    (h : files.target path = .ok (some place)) :
    OnlyWritten files path content (files.put place (.file content)) := by
  have hplace := ne_nil_of_target h
  refine ⟨place, target_put_file content hfile h, ?_, fun other hother => ?_⟩
  · rw [file?, find?_put hplace, if_pos rfl]
  · rw [file?, find?_put hplace, if_neg hother, file?]

end PutFile

/-! ## Operations -/

/-- An entry is put at a place unless the system refuses it. -/
theorem tryPut_eq_ok_iff {entry : Entry} {made : FileSystem} :
    files.tryPut place entry = .ok made ↔
      files.refusal place entry = none ∧ files.put place entry = made := by
  unfold tryPut
  cases files.refusal place entry with
  | some refusal => exact iff_of_false nofun nofun
  | none => exact ⟨fun h => ⟨rfl, Except.ok.inj h⟩, fun h => congrArg _ h.2⟩

/-- A directory is made where nothing was. -/
theorem sameFiles_makeDirectory {made : FileSystem} (h : files.makeDirectory path = .ok made) :
    made.SameFiles files := by
  obtain ⟨found, htarget, h⟩ := bind_eq_ok_iff.mp h
  cases found with
  | none => cases h
  | some place =>
    dsimp only at h
    by_cases hsome : (files.find? place).isSome
    · rw [if_pos hsome] at h
      cases h
    · rw [if_neg hsome] at h
      obtain ⟨-, rfl⟩ := tryPut_eq_ok_iff.mp h
      have hnone := Option.not_isSome_iff_eq_none.mp hsome
      exact sameFiles_put_directory (ne_nil_of_target htarget) hnone

/-- Whatever directories are made, and however far that gets, no file changes. -/
theorem sameFiles_makeDirectoriesUp (slashes missing : Nat) (names : List String) :
    (files.makeDirectoriesUp slashes missing names).1.SameFiles files := by
  induction names generalizing missing with
  | nil => exact SameFiles.refl files
  | cons name above ih =>
    rw [makeDirectoriesUp]
    split
    · rename_i made hmade
      exact sameFiles_makeDirectory hmade
    · split
      · exact SameFiles.refl files
      · have habove := ih (missing + 1)
        split
        · rename_i made fault hup
          rw [hup] at habove
          exact habove
        · rename_i made hup
          rw [hup] at habove
          split
          · rename_i last hlast
            exact (sameFiles_makeDirectory hlast).trans habove
          · exact habove
          · exact habove
    · exact SameFiles.refl files

theorem sameFiles_makeDirectories (files : FileSystem) (path : Path) :
    (files.makeDirectories path).1.SameFiles files := by
  unfold makeDirectories
  by_cases hnull : path.hasNull
  · rw [if_pos hnull]
    exact SameFiles.refl files
  · rw [if_neg hnull]
    exact sameFiles_makeDirectoriesUp _ _ _

/-- Writing puts a file where the path leads, unless there is a directory or the system refuses. -/
theorem write_eq_ok_iff {content : List UInt8} {written : FileSystem} :
    files.write path content = .ok written ↔ path.hasNull = false ∧ ∃ place,
      files.target path = .ok (some place) ∧ files.find? place ≠ some .directory ∧
        files.refusal place (.file content) = none ∧
        files.put place (.file content) = written := by
  unfold write
  by_cases hnull : path.hasNull
  · rw [if_pos hnull]
    exact iff_of_false nofun (fun h => absurd (hnull.symm.trans h.1) nofun)
  · rw [if_neg hnull, and_iff_right (Bool.eq_false_iff.mpr hnull)]
    cases htarget : files.target path with
    | error error => exact iff_of_false nofun nofun
    | ok found =>
      cases found with
      | none => exact iff_of_false nofun nofun
      | some place =>
        dsimp only
        by_cases hdirectory : files.find? place = some .directory
        · rw [if_pos hdirectory]
          refine iff_of_false nofun ?_
          rintro ⟨_, hplace, hfile, -⟩
          cases hplace
          exact hfile hdirectory
        · rw [if_neg hdirectory, mapError_eq_ok_iff, tryPut_eq_ok_iff]
          constructor
          · intro h
            exact ⟨place, rfl, hdirectory, h⟩
          · rintro ⟨_, hplace, -, h⟩
            cases hplace
            exact h

/-- Writing changes one file, which is the one that the path leads to. -/
theorem onlyWritten_write {content : List UInt8} {written : FileSystem}
    (h : files.write path content = .ok written) : OnlyWritten files path content written := by
  obtain ⟨-, place, htarget, hdirectory, -, rfl⟩ := write_eq_ok_iff.mp h
  exact onlyWritten_put_file content hdirectory htarget

/-- A text is written if the directories of its path are made and then the file is written. -/
theorem writeText_eq_ok_iff {text : String} {written : FileSystem} :
    files.writeText path text = (written, .ok ()) ↔ ∃ made,
      files.makeDirectories path.parent = (made, .ok ()) ∧
        made.write path (Text.Utf8.encode text) = .ok written := by
  unfold writeText
  generalize files.makeDirectories path.parent = directories
  obtain ⟨made, result⟩ := directories
  cases result with
  | error fault => simp
  | ok _ => cases hwrite : made.write path (Text.Utf8.encode text) <;> simp [hwrite]

/-- **Writing a text changes one file or none.** If it succeeds, the file that the path leads to
holds the text and no other file was changed; if it fails, whatever the reason, no file was. -/
theorem writeText_cases (files : FileSystem) (path : Path) (text : String) :
    (∃ written, files.writeText path text = (written, .ok ()) ∧
      OnlyWritten files path (Text.Utf8.encode text) written) ∨
    (∃ made fault, files.writeText path text = (made, .error fault) ∧ made.SameFiles files) := by
  have hmade := sameFiles_makeDirectories files path.parent
  unfold writeText
  generalize files.makeDirectories path.parent = directories at hmade
  obtain ⟨made, result⟩ := directories
  cases result with
  | error fault => exact .inr ⟨made, fault, rfl, hmade⟩
  | ok _ =>
    dsimp only
    cases hwrite : made.write path (Text.Utf8.encode text) with
    | error fault => exact .inr ⟨made, fault, rfl, hmade⟩
    | ok written =>
      obtain ⟨place, htarget, hplace, hothers⟩ := onlyWritten_write hwrite
      refine .inl ⟨written, rfl, place, htarget, hplace, fun other hother => ?_⟩
      rw [hothers other hother, hmade other]

end FileSystem
end SchemaTypes
