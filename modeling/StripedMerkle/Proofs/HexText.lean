import StripedMerkle.Digest

/-!
# Hexadecimal text of digests

A digest is written as 64 lowercase hexadecimal digits, two per byte, the high half first.
Reading works on the UTF-8 bytes of a text, and the bytes of ASCII text are the codes of its
characters, so both directions are stated on characters. Reading gives back the digest a text was
written from (`Digest.ofHex?_toHex`), and it takes either case: 64 hexadecimal digits of any case
read as the digest whose text is their lowercase form (`Digest.ofHex?_of_isHexDigit`).
-/

namespace StripedMerkle

/-! ## The bytes of a text -/

/-- The UTF-8 bytes of a text. -/
def textBytes (text : String) : List UInt8 :=
  text.toUTF8.data.toList

/-- Listing a byte array gives its bytes in order. -/
theorem byteArray_toList_eq (bytes : ByteArray) : bytes.toList = bytes.data.toList := by
  -- the loop has put the bytes before `index` onto `taken`, last first
  have loop : ∀ index taken, ByteArray.toList.loop bytes index taken =
      taken.reverse ++ bytes.data.toList.drop index := by
    intro index taken
    fun_induction ByteArray.toList.loop bytes index taken with
    | case1 index taken inRange ih =>
      have next : bytes.data.toList.drop index =
          bytes.get! index :: bytes.data.toList.drop (index + 1) := by
        rw [List.drop_eq_getElem_cons (by simpa using inRange)]
        simp [ByteArray.get!, getElem!_pos bytes.data index (by simpa using inRange)]
      rw [ih, next]
      simp
    | case2 index taken past =>
      simp [List.drop_eq_nil_of_le (show bytes.data.toList.length ≤ index by simpa using past)]
  unfold ByteArray.toList
  simpa using loop 0 []

@[simp] theorem textBytes_append (first second : String) :
    textBytes (first ++ second) = textBytes first ++ textBytes second := by
  simp [textBytes, String.toByteArray_append]

/-- Lowercasing a text lowercases each of its characters. -/
theorem toLower_eq_ofList (text : String) :
    text.toLower = String.ofList (text.toList.map Char.toLower) :=
  String.map_eq_internal

theorem toByteArray_textBytes (text : String) : (textBytes text).toByteArray = text.toUTF8 := by
  ext1
  simp only [textBytes, List.data_toByteArray, Array.toArray_toList]

/-- A character of the ASCII range is one byte of UTF-8, its code. -/
theorem utf8EncodeChar_of_ascii {c : Char} (ascii : c.toNat < 128) :
    String.utf8EncodeChar c = [c.toUInt8] := by
  apply String.utf8EncodeChar_eq_singleton
  rw [Char.utf8Size_eq_one_iff, UInt32.le_iff_toNat_le]
  have code : c.toNat = c.val.toNat := rfl
  have bound : (127 : UInt32).toNat = 127 := rfl
  omega

/-- The bytes of ASCII text are the codes of its characters. -/
theorem textBytes_of_ascii {text : String} (ascii : ∀ c ∈ text.toList, c.toNat < 128) :
    textBytes text = text.toList.map Char.toUInt8 := by
  have encoded : textBytes text = text.toList.flatMap String.utf8EncodeChar := by
    rw [textBytes, String.toUTF8_eq_toByteArray]
    conv => lhs; rw [← String.ofList_toList (s := text)]
    rw [String.toByteArray_ofList, List.utf8Encode, List.toList_data_toByteArray]
  rw [encoded]
  generalize text.toList = chars at ascii ⊢
  induction chars with
  | nil => rfl
  | cons c rest ih =>
    simp only [List.mem_cons, forall_eq_or_imp] at ascii
    simp [utf8EncodeChar_of_ascii ascii.1, ih ascii.2]

namespace Hex

/-! ## Digits -/

/-- The sixteen digits: each is a lowercase hexadecimal digit of the ASCII range and reads back as
its value. -/
theorem digitChar_table : ∀ k, k < 16 →
    (digitChar (UInt8.ofNat k)).isHexDigit ∧
      (digitChar (UInt8.ofNat k)).toLower = digitChar (UInt8.ofNat k) ∧
      (digitChar (UInt8.ofNat k)).toNat < 128 ∧
      digitValue? (Char.toUInt8 (digitChar (UInt8.ofNat k))) = some (UInt8.ofNat k) := by
  decide

theorem digitChar_spec {n : UInt8} (small : n.toNat < 16) :
    (digitChar n).isHexDigit ∧ (digitChar n).toLower = digitChar n ∧ (digitChar n).toNat < 128 ∧
      digitValue? (Char.toUInt8 (digitChar n)) = some n := by
  simpa using digitChar_table n.toNat small

/-- The hexadecimal digits of the ASCII range, of either case: each reads as the value whose digit
is its lowercase form. -/
theorem isHexDigit_table : ∀ k, k < 128 → (Char.ofNat k).isHexDigit →
    (digitValue? (Char.toUInt8 (Char.ofNat k))).map digitChar = some (Char.ofNat k).toLower := by
  decide

/-- A hexadecimal digit lies in the ASCII range. -/
theorem toNat_lt_of_isHexDigit {c : Char} (digit : c.isHexDigit) : c.toNat < 128 := by
  simp only [Char.isHexDigit, Char.isDigit, Bool.or_eq_true, Bool.and_eq_true,
    decide_eq_true_eq, UInt32.le_iff_toNat_le] at digit
  simp only [Char.toNat]
  grind

/-- A hexadecimal digit of either case reads as the value whose digit is its lowercase form. -/
theorem digitValue?_of_isHexDigit {c : Char} (digit : c.isHexDigit) :
    (digitValue? (Char.toUInt8 c)).map digitChar = some c.toLower := by
  have table := isHexDigit_table c.toNat (toNat_lt_of_isHexDigit digit)
  rw [Char.ofNat_toNat] at table
  exact table digit

/-- A digit reads as a value below sixteen. -/
theorem toNat_lt_of_digitValue? {byte value : UInt8} (read : digitValue? byte = some value) :
    value.toNat < 16 := by
  unfold digitValue? at read
  -- one value per range of digits, each the byte less the code of the range's zero digit
  split at read
  · next decimal =>
    cases read
    rw [UInt8.toNat_sub_of_le _ _ decimal.1]
    simp only [UInt8.le_iff_toNat_le, UInt8.reduceToNat] at decimal ⊢
    omega
  · split at read
    · next lower =>
      cases read
      rw [UInt8.toNat_sub_of_le _ _ (UInt8.le_trans (by decide) lower.1)]
      simp only [UInt8.le_iff_toNat_le, UInt8.reduceToNat] at lower ⊢
      omega
    · split at read
      · next upper =>
        cases read
        rw [UInt8.toNat_sub_of_le _ _ (UInt8.le_trans (by decide) upper.1)]
        simp only [UInt8.le_iff_toNat_le, UInt8.reduceToNat] at upper ⊢
        omega
      · cases read

/-! ## Writing and reading digit pairs -/

/-- A byte is sixteen times its high half and its low half. -/
theorem halves_eq (byte : UInt8) : byte / 16 * 16 + byte % 16 = byte := by
  have := byte.toNat_lt
  rw [← UInt8.toNat_inj]
  simp
  omega

theorem halves_lt (byte : UInt8) : (byte / 16).toNat < 16 ∧ (byte % 16).toNat < 16 := by
  have := byte.toNat_lt
  simp
  omega

/-- The halves of `16 h + l` are `h` and `l`, for `h` and `l` below sixteen. -/
theorem halves_of_lt {high low : UInt8} (highSmall : high.toNat < 16) (lowSmall : low.toNat < 16) :
    (high * 16 + low) / 16 = high ∧ (high * 16 + low) % 16 = low := by
  constructor <;> rw [← UInt8.toNat_inj] <;> simp <;> omega

@[simp] theorem length_encodeChars (bytes : List UInt8) :
    (encodeChars bytes).length = 2 * bytes.length := by
  induction bytes with
  | nil => rfl
  | cons byte rest ih =>
    simp only [encodeChars, List.length_cons, ih]
    omega

/-- Written digits are lowercase hexadecimal digits of the ASCII range. -/
theorem encodeChars_digits (bytes : List UInt8) :
    ∀ c ∈ encodeChars bytes, c.isHexDigit ∧ c.toLower = c ∧ c.toNat < 128 := by
  induction bytes with
  | nil => simp [encodeChars]
  | cons byte rest ih =>
    obtain ⟨high, highLower, highAscii, -⟩ := digitChar_spec (halves_lt byte).1
    obtain ⟨low, lowLower, lowAscii, -⟩ := digitChar_spec (halves_lt byte).2
    simp only [encodeChars, List.mem_cons, forall_eq_or_imp]
    exact ⟨⟨high, highLower, highAscii⟩, ⟨low, lowLower, lowAscii⟩, ih⟩

/-- Reading written digits gives back the bytes. -/
theorem decodeDigits_encodeChars (position : Nat) (bytes : List UInt8) :
    decodeDigits position ((encodeChars bytes).map Char.toUInt8) = .ok bytes := by
  induction bytes generalizing position with
  | nil => rfl
  | cons byte rest ih =>
    have high := (digitChar_spec (halves_lt byte).1).2.2.2
    have low := (digitChar_spec (halves_lt byte).2).2.2.2
    simp [encodeChars, decodeDigits, high, low, ih, halves_eq, Except.map]

/-- An even number of hexadecimal digits of either case reads as the bytes whose digits are their
lowercase forms. -/
theorem decodeDigits_of_isHexDigit : ∀ (digits : List Char) (position : Nat),
    (∀ c ∈ digits, c.isHexDigit) → digits.length % 2 = 0 →
      ∃ bytes, decodeDigits position (digits.map Char.toUInt8) = .ok bytes ∧
        encodeChars bytes = digits.map Char.toLower
  | [], _, _, _ => ⟨[], rfl, rfl⟩
  | [_], _, _, odd => by simp at odd
  | first :: second :: rest, position, hex, even => by
    simp only [List.mem_cons, forall_eq_or_imp] at hex
    obtain ⟨firstDigit, secondDigit, restDigits⟩ := hex
    obtain ⟨high, readHigh, highChar⟩ :=
      Option.map_eq_some_iff.mp (digitValue?_of_isHexDigit firstDigit)
    obtain ⟨low, readLow, lowChar⟩ :=
      Option.map_eq_some_iff.mp (digitValue?_of_isHexDigit secondDigit)
    obtain ⟨bytes, readRest, restChars⟩ := decodeDigits_of_isHexDigit rest (position + 2)
      restDigits (by simp only [List.length_cons] at even; omega)
    obtain ⟨highHalf, lowHalf⟩ :=
      halves_of_lt (toNat_lt_of_digitValue? readHigh) (toNat_lt_of_digitValue? readLow)
    refine ⟨(high * 16 + low) :: bytes, ?_, ?_⟩
    · simp [decodeDigits, readHigh, readLow, readRest, Except.map]
    · simp [encodeChars, highHalf, lowHalf, highChar, lowChar, restChars]

end Hex

namespace Digest

@[simp] theorem length_toHex (digest : Digest) : digest.toHex.length = 64 := by
  simp [toHex, Hex.encode]

/-- The text of a digest is lowercase hexadecimal digits of the ASCII range. -/
theorem toHex_digits (digest : Digest) :
    ∀ c ∈ digest.toHex.toList, c.isHexDigit ∧ c.toLower = c ∧ c.toNat < 128 := by
  simpa [toHex, Hex.encode] using Hex.encodeChars_digits digest.toList

theorem textBytes_toHex (digest : Digest) :
    textBytes digest.toHex = (Hex.encodeChars digest.toList).map Char.toUInt8 := by
  rw [textBytes_of_ascii fun c mem => (toHex_digits digest c mem).2.2]
  simp [toHex, Hex.encode]

/-- A text of 64 digits reads as the digest of the bytes its digits read as. -/
theorem ofHex?_eq_of_decodeDigits {text : String} {bytes : List UInt8} {digest : Digest}
    (sixtyFour : (textBytes text).length = 64)
    (read : Hex.decodeDigits 0 (textBytes text) = .ok bytes)
    (listed : ofList? bytes = some digest) :
    ofHex? text = .ok digest := by
  have listedBytes : text.toByteArray.toList = textBytes text := byteArray_toList_eq _
  simp [ofHex?, Hex.decodeExact, listedBytes, sixtyFour, read, listed, bind, Except.bind, pure,
    Except.pure]

/-- Reading the text of a digest gives the digest back. -/
theorem ofHex?_toHex (digest : Digest) : ofHex? digest.toHex = .ok digest := by
  exact ofHex?_eq_of_decodeDigits (by simp [textBytes_toHex])
    (by rw [textBytes_toHex]; exact Hex.decodeDigits_encodeChars 0 digest.toList)
    (ofList?_toList digest)

/-- 64 hexadecimal digits of either case read as the digest whose text is their lowercase form. -/
theorem ofHex?_of_isHexDigit {text : String} (length : text.length = 64)
    (digits : ∀ c ∈ text.toList, c.isHexDigit) :
    ∃ digest, ofHex? text = .ok digest ∧ digest.toHex = text.toLower := by
  have bytesOfText := textBytes_of_ascii fun c mem => Hex.toNat_lt_of_isHexDigit (digits c mem)
  have count : text.toList.length = 64 := by rw [String.length_toList, length]
  obtain ⟨bytes, read, written⟩ :=
    Hex.decodeDigits_of_isHexDigit text.toList 0 digits (by omega)
  have thirtyTwo : bytes.length = 32 := by
    have := congrArg List.length written
    simp only [Hex.length_encodeChars, List.length_map, count] at this
    omega
  let digest : Digest := ⟨⟨bytes.toArray, by simpa using thirtyTwo⟩⟩
  have listed : ofList? bytes = some digest := by simp [ofList?, thirtyTwo, digest]
  refine ⟨digest, ?_, ?_⟩
  · exact ofHex?_eq_of_decodeDigits (by simp [bytesOfText, count]) (bytesOfText ▸ read) listed
  · rw [toLower_eq_ofList, ← written]
    rfl

end Digest

end StripedMerkle
