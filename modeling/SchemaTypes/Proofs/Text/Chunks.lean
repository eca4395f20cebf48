import SchemaTypes.Proofs.Fallible
import SchemaTypes.Text.Utf8.Chunk

/-!
# Chunks of a file

Reading UTF-8 byte by byte is following an automaton, whose state is the sequence under way
(`advance`), and bytes are a text if they lead back to where no sequence is (`isText_iff_follow`).

A file is read in chunks, and a chunk may end inside a sequence. The bytes of that sequence are put
in front of the next chunk and read again, which leads to where the chunk ended (`Leads`). So a file
is read without a fault if and only if its bytes are a text, however long the chunks are
(`fault_read_eq_none_iff`). A fault of a file that fits into the first chunk is met before two
blocks of characters are full (`length_chars_read_lt`).
-/

namespace SchemaTypes
namespace Text
namespace Utf8

/-- Bytes that are a text. -/
def IsText (bytes : List UInt8) : Prop :=
  ∃ cs, decode bytes = .ok cs

/-! ## The automaton -/

/-- Where a byte leads, with a sequence under way or without; nowhere if it does not fit. -/
def advance : Option Sequence → UInt8 → Option (Option Sequence)
  | none, byte => if byte.toNat < 0x80 then some none else (Sequence.start? byte).map some
  | some sequence, byte =>
    if sequence.low ≤ byte.toNat ∧ byte.toNat ≤ sequence.high then
      if sequence.missing ≤ 1 then some none
      else
        some (some ⟨byte :: sequence.bytes, 64 * sequence.value + (byte.toNat - 0x80),
          sequence.missing - 1, 0x80, 0xBF⟩)
    else none

/-- Where bytes lead. -/
def follow (sequence? : Option Sequence) (bytes : List UInt8) : Option (Option Sequence) :=
  bytes.foldlM advance sequence?

theorem follow_cons (sequence? : Option Sequence) (byte : UInt8) (rest : List UInt8) :
    follow sequence? (byte :: rest) = (advance sequence? byte).bind (follow · rest) :=
  List.foldlM_cons

theorem follow_append (sequence? : Option Sequence) (bytes more : List UInt8) :
    follow sequence? (bytes ++ more) = (follow sequence? bytes).bind (follow · more) :=
  List.foldlM_append

/-- A sequence under way is where its bytes lead. -/
def Sequence.Begun (sequence : Sequence) : Prop :=
  follow none sequence.bytes.reverse = some (some sequence)

theorem Sequence.bytes_of_start? {byte : UInt8} {sequence : Sequence}
    (h : Sequence.start? byte = some sequence) : sequence.bytes = [byte] := by
  unfold Sequence.start? at h
  grind

theorem Sequence.begun_of_start? {byte : UInt8} {sequence : Sequence} (hascii : ¬ byte.toNat < 0x80)
    (h : Sequence.start? byte = some sequence) : sequence.Begun := by
  rw [Begun, bytes_of_start? h, List.reverse_singleton, follow_cons, advance, if_neg hascii, h]
  rfl

theorem Sequence.Begun.advance {sequence next : Sequence} {byte : UInt8} (h : sequence.Begun)
    (hbytes : next.bytes = byte :: sequence.bytes)
    (hnext : Utf8.advance (some sequence) byte = some (some next)) : next.Begun := by
  rw [Begun, hbytes, List.reverse_cons, follow_append, h, Option.bind_some, follow_cons, hnext]
  rfl

/-- How the result of reading shows where the bytes lead. What is pending leads there again; it
leads back to where no sequence is only if it is nothing. -/
def Leads (state : Option (Option Sequence)) : Except Fault Decoded → Prop
  | .error _ => state = none
  | .ok front =>
    state = follow none front.pending ∧ (follow none front.pending = some none → front.pending = [])

theorem leads_map_cons {state : Option (Option Sequence)} {c : Char} {read : Except Fault Decoded} :
    Leads state (read.map (Decoded.cons c)) ↔ Leads state read := by
  cases read <;> exact Iff.rfl

/-- A byte that does not fit spoils the sequence under way for good. -/
theorem follow_misfit {sequence : Sequence} {byte : UInt8} (hbegun : sequence.Begun)
    (h : ¬ (sequence.low ≤ byte.toNat ∧ byte.toNat ≤ sequence.high)) :
    follow none (byte :: sequence.bytes).reverse = none := by
  rw [List.reverse_cons, follow_append, hbegun, Option.bind_some, follow_cons, advance, if_neg h]
  rfl

/-- **Reading follows the automaton.** -/
theorem leads_decodeFrom {position : Nat} {sequence? : Option Sequence} {bytes : List UInt8}
    (hbegun : ∀ sequence ∈ sequence?, sequence.Begun) :
    Leads (follow sequence? bytes) (decodeFrom position sequence? bytes) := by
  fun_induction decodeFrom position sequence? bytes with
  | case1 => exact ⟨rfl, fun _ => rfl⟩
  | case2 position sequence =>
    have hsequence : sequence.Begun := hbegun sequence rfl
    exact ⟨hsequence.symm, fun h => nomatch hsequence.symm.trans h⟩
  | case3 position byte rest hascii ih =>
    rw [follow_cons, advance, if_pos hascii]
    exact leads_map_cons.mpr (ih nofun)
  | case4 position byte rest hascii hstart =>
    rw [follow_cons, advance, if_neg hascii, hstart]
    exact rfl
  | case5 position byte rest hascii sequence hstart ih =>
    rw [follow_cons, advance, if_neg hascii, hstart]
    refine ih ?_
    rintro _ ⟨⟩
    exact Sequence.begun_of_start? hascii hstart
  | case6 position sequence byte rest hrange value hlast ih =>
    rw [follow_cons, advance, if_pos hrange, if_pos hlast]
    exact leads_map_cons.mpr (ih nofun)
  | case7 position sequence byte rest hrange value hlast ih =>
    have hadvance : advance (some sequence) byte = some (some ⟨byte :: sequence.bytes, value,
        sequence.missing - 1, 0x80, 0xBF⟩) := by
      rw [advance, if_pos hrange, if_neg hlast]
    rw [follow_cons, hadvance]
    refine ih ?_
    rintro _ ⟨⟩
    exact (hbegun sequence rfl).advance rfl hadvance
  | case8 position sequence byte rest hrange hend =>
    have hmisfit := follow_misfit (hbegun sequence rfl) hrange
    rw [follow_cons, advance, if_neg hrange]
    exact ⟨hmisfit.symm, fun h => nomatch hmisfit.symm.trans h⟩
  | case9 position sequence byte rest hrange hend =>
    rw [follow_cons, advance, if_neg hrange]
    exact rfl

theorem leads_decodeFront (bytes : List UInt8) : Leads (follow none bytes) (decodeFront bytes) :=
  leads_decodeFrom nofun

/-- Bytes are a text if they lead to where no sequence is under way. -/
theorem isText_iff_follow {bytes : List UInt8} : IsText bytes ↔ follow none bytes = some none := by
  have hleads := leads_decodeFront bytes
  unfold IsText decode
  cases h : decodeFront bytes with
  | error fault =>
    rw [h] at hleads
    exact iff_of_false (fun ⟨_, h⟩ => nomatch h) fun h => nomatch hleads.symm.trans h
  | ok decoded =>
    rw [h] at hleads
    obtain ⟨cs, pending⟩ := decoded
    rw [hleads.1]
    cases pending with
    | nil => exact iff_of_true ⟨cs, rfl⟩ rfl
    | cons byte pending => exact iff_of_false (fun ⟨_, h⟩ => nomatch h) fun h => nomatch hleads.2 h

theorem not_isText_append {bytes more : List UInt8} {fault : Fault}
    (h : decodeFront bytes = .error fault) : ¬ IsText (bytes ++ more) := by
  have hleads := leads_decodeFront bytes
  rw [h] at hleads
  rw [isText_iff_follow, follow_append, hleads]
  exact nofun

/-- **Bytes that are read to some place go on to a text** if what is pending there does. -/
theorem isText_append_iff {bytes more : List UInt8} {front : Decoded}
    (h : decodeFront bytes = .ok front) :
    IsText (bytes ++ more) ↔ IsText (front.pending ++ more) := by
  have hleads := leads_decodeFront bytes
  rw [h] at hleads
  rw [isText_iff_follow, isText_iff_follow, follow_append, follow_append, hleads.1]

/-- Bytes that are read are a text if nothing is pending. -/
theorem isText_iff_pending {bytes : List UInt8} {front : Decoded}
    (h : decodeFront bytes = .ok front) : IsText bytes ↔ front.pending = [] := by
  have hleads := leads_decodeFront bytes
  rw [h] at hleads
  rw [isText_iff_follow, hleads.1]
  refine ⟨hleads.2, fun hnil => ?_⟩
  rw [hnil]
  rfl

/-! ## Chunk after chunk -/

/-- A chunk that is read leaves pending what its bytes do. -/
theorem Progress.pending_of_take {progress behind : Progress} {chunk : List UInt8}
    {text : List Char} (h : progress.take chunk = .ok (text, behind)) :
    ∃ front, decodeFront (progress.pending ++ chunk) = .ok front ∧
      behind.pending = front.pending ∧ (chunk = [] → front.pending = []) := by
  obtain ⟨front, hfront, hrest⟩ := bind_eq_ok_iff.mp h
  refine ⟨front, hfront, ?_⟩
  split at hrest
  · cases hrest
  · rename_i hend
    cases hrest
    refine ⟨rfl, ?_⟩
    rintro rfl
    simpa using hend

/-- A chunk that is not read has a fault, or the file ends with something pending. -/
theorem Progress.fault_of_take {progress : Progress} {chunk : List UInt8} {fault : Fault}
    (h : progress.take chunk = .error fault) :
    decodeFront (progress.pending ++ chunk) = .error fault ∨
      chunk = [] ∧ ∃ front, decodeFront (progress.pending ++ chunk) = .ok front ∧
        front.pending ≠ [] := by
  rcases bind_eq_error_iff.mp h with h | ⟨front, hfront, hrest⟩
  · exact .inl h
  · split at hrest
    · rename_i hend
      refine .inr ?_
      simpa [hfront] using hend
    · cases hrest

theorem Progress.nextSize_pos (progress : Progress) : 0 < progress.nextSize :=
  Nat.lt_of_lt_of_le (by decide : 0 < chunkSize) (Nat.le_max_left _ _)

/-- Reading on has no fault if what is pending and the bytes to come are a text. -/
theorem fault_readFrom_eq_none_iff {steps : Nat} {progress : Progress} {bytes : List UInt8}
    (h : bytes.length < steps) :
    (readFrom steps progress bytes).fault = none ↔ IsText (progress.pending ++ bytes) := by
  induction steps generalizing progress bytes with
  | zero => exact absurd h (Nat.not_lt_zero _)
  | succ steps ih =>
    have hsize := progress.nextSize_pos
    have hsplit := List.take_append_drop progress.nextSize bytes
    have hend : bytes.take progress.nextSize = [] → bytes = [] := by
      rw [List.take_eq_nil_iff]
      exact fun h => h.resolve_left (Nat.ne_of_gt hsize)
    rw [readFrom]
    dsimp only
    cases htake : progress.take (bytes.take progress.nextSize) with
    | error fault =>
      refine iff_of_false nofun ?_
      rcases Progress.fault_of_take htake with hfault | ⟨hnil, front, hfront, hpending⟩
      · rw [← hsplit, ← List.append_assoc]
        exact not_isText_append hfault
      · rw [hnil] at hfront
        rw [hend hnil, isText_iff_pending hfront]
        exact hpending
    | ok taken =>
      obtain ⟨text, behind⟩ := taken
      obtain ⟨front, hfront, hpending, hlast⟩ := Progress.pending_of_take htake
      dsimp only
      by_cases hnil : bytes.take progress.nextSize = []
      · rw [hnil] at hfront
        rw [hnil, List.isEmpty_nil, if_pos rfl, hend hnil, isText_iff_pending hfront]
        exact iff_of_true rfl (hlast hnil)
      · have hrest : (bytes.drop progress.nextSize).length < steps := by
          have hpos : 0 < bytes.length :=
            List.length_pos_iff.mpr fun hbytes => hnil (by rw [hbytes, List.take_nil])
          rw [List.length_drop]
          omega
        rw [List.isEmpty_eq_false_iff.mpr hnil, if_neg Bool.false_ne_true]
        dsimp only
        rw [ih hrest, hpending, ← isText_append_iff hfront, List.append_assoc, hsplit]

/-- **A file is read without a fault just if its bytes are a text**, whatever the chunks are. -/
theorem fault_read_eq_none_iff {bytes : List UInt8} : (read bytes).fault = none ↔ IsText bytes :=
  fault_readFrom_eq_none_iff (Nat.lt_succ_self _)

/-! ## The first chunk -/

theorem length_of_map_cons {c : Char} {read : Except Fault Decoded} {front : Decoded}
    (h : read.map (Decoded.cons c) = .ok front) :
    ∃ others, read = .ok others ∧ front.chars.length = others.chars.length + 1 ∧
      front.pending = others.pending := by
  cases read with
  | error fault => cases h
  | ok others =>
    cases h
    exact ⟨others, rfl, rfl, rfl⟩

/-- Every character, and every byte that is pending, is made of bytes of its own. -/
theorem length_decodeFrom {position : Nat} {sequence? : Option Sequence} {bytes : List UInt8}
    {front : Decoded} (h : decodeFrom position sequence? bytes = .ok front) :
    front.chars.length + front.pending.length ≤
      ((sequence?.map (·.bytes.length)).getD 0) + bytes.length := by
  fun_induction decodeFrom position sequence? bytes generalizing front with
  | case1 =>
    cases h
    exact Nat.le_refl _
  | case2 position sequence =>
    cases h
    simp
  | case3 position byte rest hascii ih =>
    obtain ⟨others, hrest, hchars, hpending⟩ := length_of_map_cons h
    have hothers := ih hrest
    simp only [Option.map_none, Option.getD_none, List.length_cons] at hothers ⊢
    rw [hchars, hpending]
    omega
  | case4 => cases h
  | case5 position byte rest hascii sequence hstart ih =>
    have hrest := ih h
    rw [Option.map_some, Option.getD_some, Sequence.bytes_of_start? hstart] at hrest
    simp only [Option.map_none, Option.getD_none, List.length_cons, List.length_nil] at hrest ⊢
    omega
  | case6 position sequence byte rest hrange value hlast =>
    rename_i ih
    obtain ⟨others, hrest, hchars, hpending⟩ := length_of_map_cons h
    have hothers := ih hrest
    simp only [Option.map_none, Option.getD_none, List.length_cons] at hothers ⊢
    rw [hchars, hpending]
    omega
  | case7 position sequence byte rest hrange value hlast =>
    rename_i ih
    have hrest := ih h
    simp only [Option.map_some, Option.getD_some, List.length_cons] at hrest ⊢
    omega
  | case8 position sequence byte rest hrange hend =>
    cases h
    simp only [Option.map_some, Option.getD_some, List.length_nil, List.length_reverse,
      List.length_cons]
    omega
  | case9 => cases h

theorem length_unifyLineFeeds_le (cs : List Char) : (unifyLineFeeds cs).length ≤ cs.length := by
  induction cs using unifyLineFeeds.induct with
  | case1 => exact Nat.le_refl _
  | case2 cs ih =>
    rw [unifyLineFeeds, List.length_cons, List.length_cons, List.length_cons]
    omega
  | case3 c cs hne ih =>
    rw [unifyLineFeeds, List.length_cons, List.length_cons]
    · omega
    · exact hne

/-- While no carriage return waits, a chunk has no more characters than its bytes spell. -/
theorem Progress.length_of_take {progress behind : Progress} {chunk : List UInt8}
    {text : List Char} (hreturn : progress.holdsReturn = false)
    (h : progress.take chunk = .ok (text, behind)) :
    text.length + behind.pending.length ≤ progress.pending.length + chunk.length := by
  obtain ⟨front, hfront, hrest⟩ := bind_eq_ok_iff.mp h
  have hlength := length_decodeFrom hfront
  rw [Option.map_none, Option.getD_none, Nat.zero_add, List.length_append] at hlength
  split at hrest
  · cases hrest
  · simp only [hreturn, Bool.false_and, Bool.false_eq_true, if_false] at hrest
    cases hrest
    refine Nat.le_trans (Nat.add_le_add_right (Nat.le_trans (length_unifyLineFeeds_le _) ?_) _)
      hlength
    split
    · rw [List.length_dropLast]
      exact Nat.sub_le _ _
    · exact Nat.le_refl _

/-- Behind the last byte there is nothing in front of a fault. -/
theorem chars_readFrom_nil {steps : Nat} {progress : Progress} {fault : Fault}
    (h : (readFrom steps progress []).fault = some fault) :
    (readFrom steps progress []).chars = [] := by
  cases steps with
  | zero => rfl
  | succ steps =>
    rw [readFrom, List.take_nil, List.isEmpty_nil] at h ⊢
    dsimp only at h ⊢
    cases htake : progress.take [] with
    | error fault => rfl
    | ok taken =>
      rw [htake] at h
      cases h

/-- **The fault of a file that fits into a chunk** is met behind fewer characters than the chunk has
bytes. -/
theorem length_chars_read_lt {bytes : List UInt8} {fault : Fault} (h : bytes.length ≤ chunkSize)
    (hfault : (read bytes).fault = some fault) : (read bytes).chars.length < chunkSize := by
  have hsize : Progress.nextSize ⟨[], false, 0, (0, 0)⟩ = chunkSize := by decide
  rw [read, readFrom, hsize, List.take_of_length_le h, List.drop_eq_nil_of_le h] at hfault ⊢
  dsimp only at hfault ⊢
  cases htake : Progress.take ⟨[], false, 0, (0, 0)⟩ bytes with
  | error _ => exact (by decide : 0 < chunkSize)
  | ok taken =>
    obtain ⟨text, behind⟩ := taken
    rw [htake] at hfault
    dsimp only at hfault ⊢
    cases bytes with
    | nil => cases hfault
    | cons byte bytes =>
      rw [List.isEmpty_cons, if_neg Bool.false_ne_true] at hfault ⊢
      dsimp only at hfault ⊢
      -- the file ends with something pending, and that takes a byte away from the characters
      have hpending : behind.pending ≠ [] := by
        intro hnil
        have htext : IsText (behind.pending ++ []) := by
          rw [hnil]
          exact ⟨[], rfl⟩
        have hnone := (fault_readFrom_eq_none_iff (Nat.zero_lt_succ bytes.length)).mpr htext
        cases hnone.symm.trans hfault
      have hlength := Progress.length_of_take rfl htake
      have hpos := List.length_pos_iff.mpr hpending
      rw [chars_readFrom_nil hfault, List.append_nil]
      simp only [List.length_nil] at hlength
      omega

end Utf8
end Text
end SchemaTypes
