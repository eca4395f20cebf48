import SchemaTypes.Text.Utf8

/-!
# Texts from their own bytes

Reading the bytes of a text gives the text back. Characters are read one by one, and one that takes
several bytes is read byte by byte: the first byte begins a sequence, and each byte that continues
it adds six bits (`decodeFrom_continued`). The ranges in which these bytes have to lie depend on the
first byte. They leave out just the code points that are no characters, and those that would fit
into fewer bytes, so they never leave out a byte of a character.
-/

namespace SchemaTypes
namespace Text
namespace Utf8

variable {position : Nat} {rest : List UInt8}

/-! ## Bytes -/

theorem toNat_byte {n : Nat} (h : n < 256) : (UInt8.ofNat n).toNat = n := by
  rw [UInt8.toNat_ofNat', Nat.mod_eq_of_lt h]

/-- A byte below 128 is a character. -/
theorem decodeFrom_ascii {n : Nat} (h : n < 0x80) :
    decodeFrom position none (UInt8.ofNat n :: rest) =
      (decodeFrom (position + 1) none rest).map (Decoded.cons (Char.ofNat n)) := by
  rw [decodeFrom, toNat_byte (by omega), if_pos h]

/-- Any other byte has to begin a sequence. -/
theorem decodeFrom_begun {n : Nat} {sequence : Sequence} (h : 0x80 ≤ n) (h' : n < 256)
    (hstart : Sequence.start? (UInt8.ofNat n) = some sequence) :
    decodeFrom position none (UInt8.ofNat n :: rest) =
      decodeFrom (position + 1) (some sequence) rest := by
  rw [decodeFrom, toNat_byte h', if_neg (by omega), hstart]

/-- A byte in its range continues a sequence of which more is to come. -/
theorem decodeFrom_continued {n : Nat} {sequence : Sequence} (h : n < 256)
    (hlow : sequence.low ≤ n) (hhigh : n ≤ sequence.high) (hmissing : 1 < sequence.missing) :
    decodeFrom position (some sequence) (UInt8.ofNat n :: rest) =
      decodeFrom (position + 1) (some ⟨UInt8.ofNat n :: sequence.bytes,
        64 * sequence.value + (n - 0x80), sequence.missing - 1, 0x80, 0xBF⟩) rest := by
  rw [decodeFrom, toNat_byte h, if_pos ⟨hlow, hhigh⟩]
  dsimp only
  rw [if_neg (by omega)]

/-- A byte in its range completes a sequence of which one byte is to come. -/
theorem decodeFrom_completed {n : Nat} {sequence : Sequence} (h : n < 256)
    (hlow : sequence.low ≤ n) (hhigh : n ≤ sequence.high) (hmissing : sequence.missing = 1) :
    decodeFrom position (some sequence) (UInt8.ofNat n :: rest) =
      (decodeFrom (position + 1) none rest).map
        (Decoded.cons (Char.ofNat (64 * sequence.value + (n - 0x80)))) := by
  rw [decodeFrom, toNat_byte h, if_pos ⟨hlow, hhigh⟩]
  dsimp only
  rw [if_pos (by omega)]

/-! ## First bytes -/

theorem start?_two {n : Nat} (h : 0xC2 ≤ n) (h' : n ≤ 0xDF) :
    Sequence.start? (UInt8.ofNat n) = some ⟨[UInt8.ofNat n], n - 0xC0, 1, 0x80, 0xBF⟩ := by
  unfold Sequence.start?
  rw [toNat_byte (by omega)]
  dsimp only
  rw [if_pos ⟨h, h'⟩]

/-- The first byte of three leaves a range for the second one that keeps the sequence from spelling
what fits into two bytes, or a surrogate. -/
theorem start?_three {n : Nat} (h : 0xE0 ≤ n) (h' : n ≤ 0xEF) :
    Sequence.start? (UInt8.ofNat n) = some ⟨[UInt8.ofNat n], n - 0xE0, 2,
      if n = 0xE0 then 0xA0 else 0x80, if n = 0xED then 0x9F else 0xBF⟩ := by
  unfold Sequence.start?
  rw [toNat_byte (by omega)]
  dsimp only
  rw [if_neg (by omega)]
  by_cases hfirst : n = 0xE0
  · rw [if_pos hfirst, if_pos hfirst, if_neg (by omega), hfirst]
  · by_cases hsurrogate : n = 0xED
    · rw [if_neg hfirst, if_pos hsurrogate, if_neg hfirst, if_pos hsurrogate, hsurrogate]
    · rw [if_neg hfirst, if_neg hsurrogate, if_pos (by omega), if_neg hfirst, if_neg hsurrogate]

/-- The first byte of four leaves a range for the second one that keeps the sequence from spelling
what fits into three bytes, or what is beyond the last code point. -/
theorem start?_four {n : Nat} (h : 0xF0 ≤ n) (h' : n ≤ 0xF4) :
    Sequence.start? (UInt8.ofNat n) = some ⟨[UInt8.ofNat n], n - 0xF0, 3,
      if n = 0xF0 then 0x90 else 0x80, if n = 0xF4 then 0x8F else 0xBF⟩ := by
  unfold Sequence.start?
  rw [toNat_byte (by omega)]
  dsimp only
  rw [if_neg (by omega), if_neg (by omega), if_neg (by omega), if_neg (by omega)]
  by_cases hfirst : n = 0xF0
  · rw [if_pos hfirst, if_pos hfirst, if_neg (by omega), hfirst]
  · by_cases hlast : n = 0xF4
    · rw [if_neg hfirst, if_neg (by omega), if_pos hlast, if_neg hfirst, if_pos hlast, hlast]
    · rw [if_neg hfirst, if_pos (by omega), if_neg hfirst, if_neg hlast]

/-! ## Characters and texts -/

/-- The bytes of a character are read as this character. -/
theorem decodeFrom_utf8EncodeChar (c : Char) :
    decodeFrom position none (String.utf8EncodeChar c ++ rest) =
      (decodeFrom (position + c.utf8Size) none rest).map (Decoded.cons c) := by
  have hvalid : c.toNat < 0xD800 ∨ 0xDFFF < c.toNat ∧ c.toNat < 0x110000 := c.valid
  have hsize : (String.utf8EncodeChar c).length = c.utf8Size := String.length_utf8EncodeChar c
  have hchar : Char.ofNat c.toNat = c := Char.ofNat_toNat c
  rw [← hsize]
  unfold String.utf8EncodeChar
  rw [show c.val.toNat = c.toNat from rfl]
  generalize c.toNat = v at hvalid hchar ⊢
  dsimp only
  by_cases hone : v ≤ 127
  · rw [if_pos hone, List.singleton_append, decodeFrom_ascii (by omega), hchar]
    rfl
  · by_cases htwo : v ≤ 2047
    · rw [if_neg hone, if_pos htwo, List.cons_append, List.singleton_append,
        decodeFrom_begun (by omega) (by omega) (start?_two (by omega) (by omega)),
        decodeFrom_completed (by omega) (by dsimp only; omega) (by dsimp only; omega) rfl]
      dsimp only
      rw [show 64 * (v / 64 % 32 + 192 - 0xC0) + (v % 64 + 128 - 0x80) = v by omega, hchar]
      rfl
    · by_cases hthree : v ≤ 65535
      · rw [if_neg hone, if_neg htwo, if_pos hthree, List.cons_append, List.cons_append,
          List.singleton_append,
          decodeFrom_begun (by omega) (by omega) (start?_three (by omega) (by omega)),
          decodeFrom_continued (by omega) (by dsimp only; split <;> omega)
            (by dsimp only; split <;> omega) (by dsimp only; omega),
          decodeFrom_completed (by omega) (by dsimp only; omega) (by dsimp only; omega) rfl]
        dsimp only
        rw [show 64 * (64 * (v / 4096 % 16 + 224 - 0xE0) + (v / 64 % 64 + 128 - 0x80))
          + (v % 64 + 128 - 0x80) = v by omega, hchar]
        rfl
      · rw [if_neg hone, if_neg htwo, if_neg hthree, List.cons_append, List.cons_append,
          List.cons_append, List.singleton_append,
          decodeFrom_begun (by omega) (by omega) (start?_four (by omega) (by omega)),
          decodeFrom_continued (by omega) (by dsimp only; split <;> omega)
            (by dsimp only; split <;> omega) (by dsimp only; omega),
          decodeFrom_continued (by omega) (by dsimp only; omega) (by dsimp only; omega)
            (by dsimp only; omega),
          decodeFrom_completed (by omega) (by dsimp only; omega) (by dsimp only; omega) rfl]
        dsimp only
        rw [show 64 * (64 * (64 * (v / 262144 % 8 + 240 - 0xF0) + (v / 4096 % 64 + 128 - 0x80))
          + (v / 64 % 64 + 128 - 0x80)) + (v % 64 + 128 - 0x80) = v by omega, hchar]
        rfl

theorem decodeFrom_flatMap (cs : List Char) :
    decodeFrom position none (cs.flatMap String.utf8EncodeChar) = .ok ⟨cs, []⟩ := by
  induction cs generalizing position with
  | nil => rfl
  | cons c cs ih =>
    rw [List.flatMap_cons, decodeFrom_utf8EncodeChar, ih]
    rfl

/-- **The bytes of a text are read as this text.** -/
theorem decode_encode (s : String) : decode (encode s) = .ok s.toList := by
  unfold decode decodeFront encode
  rw [decodeFrom_flatMap]
  rfl

end Utf8
end Text
end SchemaTypes
