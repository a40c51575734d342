import StripedMerkle.Json.Read
import StripedMerkle.Json.Print
import StripedMerkle.Proofs.HexText

/-!
# Reading compact JSON text back

The printer writes a string of plain characters between quotes, a natural in decimal, and arrays
and objects with commas and colons and no blanks. Each lemma here takes a reading function at an
offset where the text starts with such a written value and says what it returns: the value and the
offset after it, given enough fuel.

The text is seen through `StartsWith`: the bytes of the input from an offset on begin with a list.
A plain character is one of the ASCII range that a string holds as itself, no control character,
quote or backslash; a text of plain characters is written between quotes as it stands, and its
bytes are the codes of its characters.
-/

namespace StripedMerkle
namespace Json

/-! ## Positions in a text -/

/-- The bytes of `input` from `offset` on begin with `bytes`. -/
def StartsWith (input : ByteArray) (offset : Nat) (bytes : List UInt8) : Prop :=
  bytes <+: input.data.toList.drop offset

section Cursor

variable {input : ByteArray} {offset : Nat}

theorem byteAt?_eq (input : ByteArray) (offset : Nat) :
    byteAt? input offset = input.data.toList[offset]? := by
  unfold byteAt?
  split
  · next inRange => simp [ByteArray.getElem_eq_getElem_data, inRange]
  · next past => simp [Nat.le_of_not_lt past]

theorem startsWith_append {first second : List UInt8} :
    StartsWith input offset (first ++ second) ↔
      StartsWith input offset first ∧ StartsWith input (offset + first.length) second := by
  unfold StartsWith
  -- the bytes after `first` are the bytes from `offset` with `first` dropped
  have after : input.data.toList.drop (offset + first.length) =
      (input.data.toList.drop offset).drop first.length := by
    rw [List.drop_drop]
  rw [after]
  constructor
  · rintro ⟨rest, whole⟩
    refine ⟨⟨second ++ rest, by rw [← whole, List.append_assoc]⟩, rest, ?_⟩
    rw [← whole, List.append_assoc, List.drop_left]
  · rintro ⟨⟨rest, whole⟩, restAfter, secondThere⟩
    rw [← whole, List.drop_left] at secondThere
    exact ⟨restAfter, by rw [← whole, ← secondThere, List.append_assoc]⟩

theorem startsWith_cons {byte : UInt8} {rest : List UInt8} :
    StartsWith input offset (byte :: rest) ↔
      byteAt? input offset = some byte ∧ StartsWith input (offset + 1) rest := by
  rw [← List.singleton_append, startsWith_append, byteAt?_eq]
  simp [StartsWith, List.singleton_prefix_iff_head?_eq_some]

/-- The byte found at an offset is the byte of the array there. -/
theorem getElem_of_byteAt? {byte : UInt8} (found : byteAt? input offset = some byte) :
    ∃ inRange : offset < input.size, input[offset] = byte := by
  unfold byteAt? at found
  split at found
  · next inRange => exact ⟨inRange, Option.some.inj found⟩
  · cases found

theorem skipBlank_of_byteAt? {byte : UInt8} (found : byteAt? input offset = some byte)
    (notBlank : isBlankByte byte = false) : skipBlank input offset = offset := by
  obtain ⟨inRange, rfl⟩ := getElem_of_byteAt? found
  rw [skipBlank, dif_pos inRange, if_neg (by simp [notBlank])]

theorem skipBlank_of_size_le (past : input.size ≤ offset) : skipBlank input offset = offset := by
  rw [skipBlank, dif_neg (by omega)]

/-- The bytes of a text are the whole of its UTF-8 array, read from its start. -/
theorem startsWith_textBytes (text : String) :
    StartsWith text.toUTF8 0 (textBytes text) ∧ text.toUTF8.size = (textBytes text).length := by
  simp [StartsWith, textBytes]

end Cursor

/-! ## Plain text -/

/-- A byte that a string holds as itself: no control character, quote or backslash. -/
def isPlainByte (byte : UInt8) : Bool :=
  32 ≤ byte && byte != 34 && byte != 92

/-- A character of the ASCII range that a string holds as itself: no control character, quote or
backslash. -/
def isPlainChar (c : Char) : Bool :=
  32 ≤ c.toNat && c.toNat < 128 && c.toNat != 34 && c.toNat != 92

/-- The bytes of a text between quotes. -/
def quotedBytes (text : String) : List UInt8 :=
  34 :: (textBytes text ++ [34])

section Plain

variable {text : String}

/-- A character of the ASCII range is the byte of its code. -/
theorem toNat_toUInt8_of_ascii {c : Char} (ascii : c.toNat < 128) : c.toUInt8.toNat = c.toNat := by
  simp only [Char.toUInt8, UInt32.toNat_toUInt8, Char.toNat] at ascii ⊢
  omega

/-- A plain character has a code of the ASCII range from 32 on, other than the quote's and the
backslash's. -/
theorem toNat_of_isPlainChar {c : Char} (plain : isPlainChar c) :
    32 ≤ c.toNat ∧ c.toNat < 128 ∧ c.toNat ≠ 34 ∧ c.toNat ≠ 92 := by
  simp only [isPlainChar, Bool.and_eq_true, decide_eq_true_eq, bne_iff_ne, ne_eq] at plain
  omega

theorem isPlainByte_toUInt8 {c : Char} (plain : isPlainChar c) : isPlainByte c.toUInt8 := by
  have range := toNat_of_isPlainChar plain
  have code := toNat_toUInt8_of_ascii range.2.1
  simp only [isPlainByte, Bool.and_eq_true, decide_eq_true_eq, bne_iff_ne, ne_eq,
    UInt8.le_iff_toNat_le, ← UInt8.toNat_inj, code, UInt8.reduceToNat]
  omega

/-- A plain character is written as itself inside a string. -/
theorem escapeChar_of_isPlainChar {c : Char} (plain : isPlainChar c) :
    escapeChar c = c.toString := by
  obtain ⟨control, -, noQuote, noBackslash⟩ := toNat_of_isPlainChar plain
  -- every character the printer escapes has a code below 32, or is the quote or the backslash
  have differs : ∀ special : Char, special.toNat < 32 ∨ special.toNat = 34 ∨ special.toNat = 92 →
      c ≠ special := by
    rintro special codes rfl
    omega
  unfold escapeChar
  rw [if_neg (differs '"' (by decide)), if_neg (differs '\\' (by decide)),
    if_neg (differs '\n' (by decide)), if_neg (differs '\r' (by decide)),
    if_neg (differs '\t' (by decide)), if_neg (by omega), if_neg (by omega), if_neg (by omega)]

/-- A text of plain characters is written between quotes as it stands. -/
theorem quote_of_plain (plain : ∀ c ∈ text.toList, isPlainChar c) :
    quote text = "\"" ++ text ++ "\"" := by
  have kept : String.join (text.toList.map escapeChar) = text := by
    apply String.toList_injective
    rw [String.toList_join]
    generalize text.toList = chars at plain ⊢
    induction chars with
    | nil => rfl
    | cons c rest ih =>
      simp only [List.mem_cons, forall_eq_or_imp] at plain
      simp [escapeChar_of_isPlainChar plain.1, Char.toString, ih plain.2]
  rw [quote, kept]

theorem textBytes_of_plain (plain : ∀ c ∈ text.toList, isPlainChar c) :
    textBytes text = text.toList.map Char.toUInt8 :=
  textBytes_of_ascii fun c mem => (toNat_of_isPlainChar (plain c mem)).2.1

theorem isPlainByte_of_mem_textBytes (plain : ∀ c ∈ text.toList, isPlainChar c) :
    ∀ byte ∈ textBytes text, isPlainByte byte := by
  rw [textBytes_of_plain plain]
  simp only [List.mem_map]
  rintro byte ⟨c, mem, rfl⟩
  exact isPlainByte_toUInt8 (plain c mem)

theorem textBytes_quote (plain : ∀ c ∈ text.toList, isPlainChar c) :
    textBytes (quote text) = quotedBytes text := by
  rw [quote_of_plain plain, textBytes_append, textBytes_append]
  rfl

/-- The bytes of a text read back as the text. -/
theorem fromUTF8?_textBytes (text : String) :
    String.fromUTF8? (ByteArray.empty ++ (textBytes text).toByteArray) = some text := by
  rw [ByteArray.empty_append, toByteArray_textBytes, String.toUTF8_eq_toByteArray,
    String.fromUTF8?, dif_pos text.isValidUTF8]
  rfl

end Plain

/-! ## Strings -/

section Strings

variable {input : ByteArray}

/-- The bytes of a string up to its closing quote are kept as they are, when none of them is a
control character, quote or backslash. -/
theorem readStringFrom_plain (read : ByteArray) {bytes : List UInt8}
    (plain : ∀ byte ∈ bytes, isPlainByte byte) {offset : Nat}
    (starts : StartsWith input offset (bytes ++ [34])) :
    readStringFrom input read offset =
      .ok ((String.fromUTF8? (read ++ bytes.toByteArray)).getD "", offset + bytes.length + 1) := by
  induction bytes generalizing read offset with
  | nil =>
    obtain ⟨inRange, closing⟩ := getElem_of_byteAt? (startsWith_cons.mp starts).1
    rw [readStringFrom, dif_pos inRange]
    simp [closing]
  | cons byte rest ih =>
    simp only [List.mem_cons, forall_eq_or_imp] at plain
    obtain ⟨found, startsRest⟩ := startsWith_cons.mp starts
    obtain ⟨inRange, rfl⟩ := getElem_of_byteAt? found
    have kept := plain.1
    simp only [isPlainByte, Bool.and_eq_true, decide_eq_true_eq, bne_iff_ne, ne_eq] at kept
    obtain ⟨⟨printable, noQuote⟩, noBackslash⟩ := kept
    rw [readStringFrom, dif_pos inRange]
    simp only [noQuote, noBackslash, if_false, show ¬ input[offset] < 32 from
      UInt8.not_lt.mpr printable, ih (read.push _) plain.2 startsRest]
    congr 3
    · rw [← ByteArray.append_toByteArray_singleton, ByteArray.append_assoc,
        ← List.toByteArray_append]
      rfl
    · simp only [List.length_cons]
      omega

/-- A text of plain characters between quotes reads back as itself. -/
theorem readString_quoted {text : String} (plain : ∀ c ∈ text.toList, isPlainChar c)
    {offset : Nat} (starts : StartsWith input offset (quotedBytes text)) :
    readStringFrom input .empty (offset + 1) = .ok (text, offset + (quotedBytes text).length) := by
  rw [readStringFrom_plain ByteArray.empty (isPlainByte_of_mem_textBytes plain)
    (startsWith_cons.mp starts).2, fromUTF8?_textBytes, Option.getD_some]
  simp only [quotedBytes, List.length_cons, List.length_append, List.length_nil]
  congr 2
  omega

/-- A quote, a bracket or a brace is no blank and starts no literal word, sign or number. -/
theorem delimiter_ne (byte : UInt8) (delimiter : byte = 34 ∨ byte = 91 ∨ byte = 123) :
    isBlankByte byte = false ∧ byte ≠ 110 ∧ byte ≠ 116 ∧ byte ≠ 102 ∧ byte ≠ 45 ∧
      isDigitByte byte = false := by
  rcases delimiter with rfl | rfl | rfl <;> decide

/-- A text of plain characters between quotes reads as a string value. -/
theorem readValue_string {text : String} (plain : ∀ c ∈ text.toList, isPlainChar c) {offset : Nat}
    (starts : StartsWith input offset (quotedBytes text)) (fuel depth : Nat) :
    readValue input (fuel + 1) depth offset =
      .ok (.string text, offset + (quotedBytes text).length) := by
  have found := (startsWith_cons.mp starts).1
  obtain ⟨notBlank, notN, notT, notF, notMinus, notDigit⟩ := delimiter_ne 34 (by decide)
  rw [readValue, skipBlank_of_byteAt? found notBlank, found]
  simp only [notN, notT, notF, notMinus, notDigit, if_false, if_true, Bool.false_eq_true,
    readString_quoted plain starts, Except.map]

end Strings

/-! ## Naturals -/

/-- A byte that may follow a number: no digit, decimal point or exponent letter. -/
def endsNumber (byte : UInt8) : Bool :=
  !isDigitByte byte && byte != 46 && byte != 101 && byte != 69

section Naturals

variable {input : ByteArray}

/-- A decimal digit has a code from 48 to 57. -/
theorem toNat_of_isDigit {c : Char} (digit : c.isDigit) : 48 ≤ c.toNat ∧ c.toNat ≤ 57 := by
  simp only [Char.isDigit, Bool.and_eq_true, decide_eq_true_eq, UInt32.le_iff_toNat_le,
    Char.reduceVal, UInt32.reduceToNat] at digit
  exact digit

/-- A decimal digit is one byte, a digit byte of the same code. -/
theorem isDigitByte_toUInt8 {c : Char} (digit : c.isDigit) :
    isDigitByte c.toUInt8 ∧ c.toUInt8.toNat = c.toNat := by
  have range := toNat_of_isDigit digit
  have code : c.toUInt8.toNat = c.toNat := toNat_toUInt8_of_ascii (by omega)
  refine ⟨?_, code⟩
  simp only [isDigitByte, Bool.and_eq_true, decide_eq_true_eq, UInt8.le_iff_toNat_le,
    UInt8.reduceToNat]
  rw [code]
  exact range

/-- A digit byte is no blank and starts no literal word or sign. -/
theorem digitByte_ne {byte : UInt8} (digit : isDigitByte byte) :
    isBlankByte byte = false ∧ byte ≠ 110 ∧ byte ≠ 116 ∧ byte ≠ 102 ∧ byte ≠ 45 := by
  simp only [isDigitByte, Bool.and_eq_true, decide_eq_true_eq, UInt8.le_iff_toNat_le,
    UInt8.reduceToNat] at digit
  simp only [isBlankByte, Bool.or_eq_false_iff, decide_eq_false_iff_not, ne_eq, ← UInt8.toNat_inj,
    UInt8.reduceToNat]
  omega

/-- Appending a digit overflows only past the limit. -/
theorem overflows_eq_false {value digit limit : Nat} (small : digit < 10)
    (fits : 10 * value + digit ≤ limit) : overflows value digit limit = false := by
  simp only [overflows, Bool.and_eq_false_iff, decide_eq_false_iff_not, Bool.or_eq_false_iff]
  omega

/-- Reading more digits never lowers a number. -/
theorem le_ofDigitChars (digits : List Char) (value : Nat) :
    value ≤ Nat.ofDigitChars 10 digits value := by
  rw [Nat.ofDigitChars_eq_ofDigitChars_zero]
  have := Nat.one_le_two_pow (n := digits.length)
  have : 1 ≤ 10 ^ digits.length := Nat.one_le_pow _ _ (by decide)
  have : value ≤ 10 ^ digits.length * value := Nat.le_mul_of_pos_left value this
  omega

/-- Digits after the first are read into the number until a byte that is no digit. -/
theorem integerDigits_of_digits (negative : Bool) {digits : List Char}
    (decimal : ∀ c ∈ digits, c.isDigit) {value offset : Nat}
    (fits : Nat.ofDigitChars 10 digits value ≤ maxNatural)
    (starts : StartsWith input offset (digits.map Char.toUInt8))
    (stops : ∀ byte, byteAt? input (offset + digits.length) = some byte →
      isDigitByte byte = false) :
    integerDigits input negative value offset =
      integerEnd input negative (Nat.ofDigitChars 10 digits value) (offset + digits.length) := by
  induction digits generalizing value offset with
  | nil =>
    rw [integerDigits]
    split
    · next inRange =>
      have notDigit := stops input[offset] (by simp [byteAt?, inRange])
      simp [notDigit]
    · rfl
  | cons c rest ih =>
    simp only [List.mem_cons, forall_eq_or_imp] at decimal
    obtain ⟨digitByte, code⟩ := isDigitByte_toUInt8 decimal.1
    obtain ⟨found, startsRest⟩ := startsWith_cons.mp starts
    obtain ⟨inRange, taken⟩ := getElem_of_byteAt? found
    have small : c.toNat - 48 < 10 := by
      have := toNat_of_isDigit decimal.1
      omega
    -- the number so far, with this digit appended, is at most the whole number
    have grown : 10 * value + (c.toNat - 48) ≤ Nat.ofDigitChars 10 (c :: rest) value := by
      rw [Nat.ofDigitChars_cons]
      exact le_ofDigitChars rest _
    rw [integerDigits, dif_pos inRange]
    simp only [taken, digitByte, if_true, code,
      overflows_eq_false small (Nat.le_trans grown fits), Bool.false_eq_true, if_false]
    rw [ih decimal.2 (by rwa [Nat.ofDigitChars_cons] at fits) startsRest
      (by simpa [Nat.add_assoc, Nat.add_comm 1] using stops)]
    simp only [Nat.ofDigitChars_cons, List.length_cons, Nat.add_assoc, Nat.add_comm 1]
    rfl

/-- A natural ends at a byte that may follow a number. -/
theorem integerEnd_natural {offset : Nat} {stop : UInt8} (found : byteAt? input offset = some stop)
    (ends : endsNumber stop) (value : Nat) :
    integerEnd input false value offset = .ok (.natural value.toUInt64, offset) := by
  simp only [endsNumber, Bool.and_eq_true, Bool.not_eq_true', bne_iff_ne, ne_eq] at ends
  obtain ⟨⟨⟨-, noPoint⟩, noLower⟩, noUpper⟩ := ends
  rw [integerEnd, found]
  split
  · next point => exact absurd (Option.some.inj point) noPoint
  · next exponent => exact absurd (Option.some.inj exponent) noLower
  · next exponent => exact absurd (Option.some.inj exponent) noUpper
  · rfl

/-- The decimal digits of a positive number do not start with zero. -/
theorem toDigits_head_ne_zero {n : Nat} (positive : 0 < n) :
    ∃ first rest, Nat.toDigits 10 n = first :: rest ∧ first ≠ '0' := by
  induction n using Nat.strongRecOn with
  | ind n ih =>
    by_cases single : n < 10
    · have digits : ∀ k, k < 10 → 0 < k → Nat.digitChar k ≠ '0' := by decide
      exact ⟨_, [], Nat.toDigits_of_lt_base single, digits n single positive⟩
    · obtain ⟨first, rest, leading, nonzero⟩ := ih (n / 10) (by omega) (by omega)
      refine ⟨first, rest ++ [Nat.digitChar (n % 10)], ?_, nonzero⟩
      rw [Nat.toDigits_of_base_le (by decide) (by omega), leading]
      rfl

theorem isDigit_of_mem_toDigits {n : Nat} : ∀ c ∈ Nat.toDigits 10 n, c.isDigit :=
  fun _ mem => Nat.isDigit_of_mem_toDigits (by decide) (by decide) mem

theorem textBytes_toString (n : Nat) :
    textBytes (toString n) = (Nat.toDigits 10 n).map Char.toUInt8 := by
  have ascii : ∀ c ∈ (toString n).toList, c.toNat < 128 := by
    intro c mem
    rw [Nat.toString_eq_repr, Nat.toList_repr] at mem
    have := toNat_of_isDigit (isDigit_of_mem_toDigits c mem)
    omega
  rw [textBytes_of_ascii ascii, Nat.toString_eq_repr, Nat.toList_repr]

/-- The decimal digits of a 64-bit natural, followed by a byte that may follow a number, read as
that natural. -/
theorem readNumber_natural {n : Nat} (small : n ≤ maxNatural) {offset : Nat} {stop : UInt8}
    (starts : StartsWith input offset ((Nat.toDigits 10 n).map Char.toUInt8 ++ [stop]))
    (ends : endsNumber stop) :
    readNumber input false offset =
      .ok (.natural n.toUInt64, offset + (Nat.toDigits 10 n).length) := by
  obtain ⟨startsDigits, startsStop⟩ := startsWith_append.mp starts
  have stopFound := (startsWith_cons.mp startsStop).1
  rw [List.length_map] at stopFound
  have notDigit : isDigitByte stop = false := by
    simp only [endsNumber, Bool.and_eq_true, Bool.not_eq_true'] at ends
    exact ends.1.1.1
  by_cases zero : n = 0
  · -- zero is the digit `0` alone
    subst zero
    rw [Nat.toDigits_zero] at startsDigits stopFound ⊢
    rw [List.length_singleton] at stopFound
    have found := (startsWith_cons.mp startsDigits).1
    rw [readNumber, found]
    simp only [show Char.toUInt8 '0' = 48 by decide, if_true]
    rw [stopFound]
    simp only [notDigit, Bool.false_eq_true, if_false]
    exact integerEnd_natural stopFound ends 0
  · -- a positive number starts with a digit other than `0`
    obtain ⟨first, rest, leading, nonzero⟩ := toDigits_head_ne_zero (Nat.pos_of_ne_zero zero)
    rw [leading] at startsDigits stopFound ⊢
    have decimal : ∀ c ∈ first :: rest, c.isDigit := leading ▸ isDigit_of_mem_toDigits
    simp only [List.mem_cons, forall_eq_or_imp] at decimal
    obtain ⟨digitByte, code⟩ := isDigitByte_toUInt8 decimal.1
    obtain ⟨found, startsRest⟩ := startsWith_cons.mp startsDigits
    have notZero : first.toUInt8 ≠ 48 := by
      intro isZero
      apply nonzero
      exact Char.toNat_inj.mp (by rw [← code, isZero]; rfl)
    have value : Nat.ofDigitChars 10 rest (first.toUInt8.toNat - 48) = n := by
      rw [code, ← Nat.ofDigitChars_ten_toDigits (n := n), leading, Nat.ofDigitChars_cons]
      simp
    rw [readNumber, found]
    simp only [notZero, if_false, digitByte, if_true]
    rw [integerDigits_of_digits false decimal.2 (by rw [value]; exact small) startsRest
      (fun byte there => by
        rw [show offset + 1 + rest.length = offset + (first :: rest).length by
          simp only [List.length_cons]; omega, stopFound] at there
        cases there
        exact notDigit),
      value]
    rw [show offset + 1 + rest.length = offset + (first :: rest).length by
      simp only [List.length_cons]; omega]
    exact integerEnd_natural stopFound ends n

/-- The digits of a 64-bit natural read as a number value. -/
theorem readValue_natural (n : UInt64) {offset : Nat} {stop : UInt8}
    (starts : StartsWith input offset (textBytes (toString n.toNat) ++ [stop]))
    (ends : endsNumber stop) (fuel depth : Nat) :
    readValue input (fuel + 1) depth offset =
      .ok (.number (.natural n), offset + (textBytes (toString n.toNat)).length) := by
  rw [textBytes_toString] at starts ⊢
  have small : n.toNat ≤ maxNatural := by
    have := n.toNat_lt
    simp only [maxNatural, Nat.pow_eq]
    omega
  -- the first byte is a digit, which no literal word or sign starts with
  obtain ⟨first, rest, leading⟩ := List.exists_cons_of_ne_nil (Nat.toDigits_ne_nil (n := n.toNat))
  have decimal := isDigit_of_mem_toDigits first (leading ▸ List.mem_cons_self)
  obtain ⟨digitByte, -⟩ := isDigitByte_toUInt8 decimal
  have found : byteAt? input offset = some first.toUInt8 := by
    rw [leading] at starts
    exact (startsWith_cons.mp starts).1
  obtain ⟨notBlank, notN, notT, notF, notMinus⟩ := digitByte_ne digitByte
  rw [readValue, skipBlank_of_byteAt? found notBlank, found]
  simp only [notN, notT, notF, notMinus, if_false, digitByte, if_true,
    readNumber_natural small starts ends, Except.map, UInt64.ofNat_toNat, Nat.toUInt64,
    List.length_map]

end Naturals

/-! ## Arrays and objects -/

/-- The bytes of texts between quotes, separated by commas. -/
def itemsBytes : List String → List UInt8
  | [] => []
  | text :: rest => quotedBytes text ++ rest.flatMap fun item => 44 :: quotedBytes item

/-- The bytes in front of the value of a field: a comma unless it is the first field, the key
between quotes and a colon. -/
def fieldBytes (first : Bool) (key : String) : List UInt8 :=
  (if first then [] else [44]) ++ quotedBytes key ++ [58]

/-- Each text between quotes takes at least one byte of the items. -/
theorem length_le_itemsBytes (texts : List String) : texts.length ≤ (itemsBytes texts).length := by
  -- every item behind the first takes its comma at least
  have behind (rest : List String) :
      rest.length ≤ (rest.flatMap fun item => 44 :: quotedBytes item).length := by
    induction rest with
    | nil => simp
    | cons item rest ih =>
      simp only [List.flatMap_cons, List.length_append, List.length_cons]
      omega
  cases texts with
  | nil => simp
  | cons text rest =>
    have quoted : 1 ≤ (quotedBytes text).length := by simp [quotedBytes]
    simp only [itemsBytes, List.length_append, List.length_cons]
    have := behind rest
    omega

section Containers

variable {input : ByteArray}

/-- After the first item, each text between quotes behind a comma reads as a string, up to the
closing bracket. Each item takes one unit of fuel. -/
theorem readItems_rest (texts : List String)
    (plain : ∀ text ∈ texts, ∀ c ∈ text.toList, isPlainChar c) (read : List Value) {offset : Nat}
    (starts : StartsWith input offset
      ((texts.flatMap fun text => 44 :: quotedBytes text) ++ [93]))
    (fuel depth : Nat) :
    readItems input (fuel + texts.length + 1) depth false read offset =
      .ok (read.reverse ++ texts.map .string,
        offset + (texts.flatMap fun text => 44 :: quotedBytes text).length + 1) := by
  induction texts generalizing read offset fuel with
  | nil =>
    have closing := (startsWith_cons.mp starts).1
    rw [readItems, skipBlank_of_byteAt? closing (by decide), closing]
    simp
  | cons text rest ih =>
    simp only [List.mem_cons, forall_eq_or_imp] at plain
    simp only [List.flatMap_cons, List.cons_append, List.append_assoc] at starts
    obtain ⟨comma, startsText⟩ := startsWith_cons.mp starts
    obtain ⟨startsQuoted, startsRest⟩ := startsWith_append.mp startsText
    have quote := (startsWith_cons.mp startsQuoted).1
    rw [List.length_cons, show fuel + (rest.length + 1) + 1 = fuel + rest.length + 1 + 1 by omega,
      readItems, skipBlank_of_byteAt? comma (by decide), comma]
    simp only [show (44 : UInt8) ≠ 93 by decide, if_false, Bool.false_eq_true, if_true,
      skipBlank_of_byteAt? quote (by decide), quote]
    split
    · next trailing => exact absurd trailing (by decide)
    · rw [readValue_string plain.1 startsQuoted]
      simp only
      rw [ih plain.2 _ startsRest]
      simp only [List.reverse_cons, List.map_cons, List.append_assoc, List.singleton_append,
        List.flatMap_cons, List.length_append, List.length_cons, Except.ok.injEq, Prod.mk.injEq,
        true_and]
      omega
    · next missing => exact absurd missing (by decide)

/-- Texts of plain characters between quotes, separated by commas and between brackets, read as
an array of strings. -/
theorem readValue_strings (texts : List String)
    (plain : ∀ text ∈ texts, ∀ c ∈ text.toList, isPlainChar c) {offset : Nat}
    (starts : StartsWith input offset (91 :: (itemsBytes texts ++ [93]))) (fuel depth : Nat) :
    readValue input (fuel + texts.length + 2) (depth + 2) offset =
      .ok (.array (texts.map .string), offset + (91 :: (itemsBytes texts ++ [93])).length) := by
  obtain ⟨bracket, startsItems⟩ := startsWith_cons.mp starts
  obtain ⟨notBlank, notN, notT, notF, notMinus, notDigit⟩ := delimiter_ne 91 (by decide)
  rw [show fuel + texts.length + 2 = fuel + texts.length + 1 + 1 by omega, readValue,
    skipBlank_of_byteAt? bracket notBlank, bracket]
  simp only [notN, notT, notF, notMinus, notDigit, show (91 : UInt8) ≠ 34 by decide, if_false,
    if_true, Bool.false_eq_true, show ¬ depth + 2 ≤ 1 by omega,
    show depth + 2 - 1 = depth + 1 by omega]
  cases texts with
  | nil =>
    have closing := (startsWith_cons.mp startsItems).1
    rw [readItems, skipBlank_of_byteAt? closing (by decide), closing]
    simp [itemsBytes, Except.map]
  | cons text rest =>
    simp only [List.mem_cons, forall_eq_or_imp] at plain
    simp only [itemsBytes, List.append_assoc] at startsItems
    obtain ⟨startsQuoted, startsRest⟩ := startsWith_append.mp startsItems
    have quote := (startsWith_cons.mp startsQuoted).1
    rw [List.length_cons, show fuel + (rest.length + 1) + 1 = fuel + rest.length + 1 + 1 by omega,
      readItems, skipBlank_of_byteAt? quote (by decide), quote]
    simp only [show (34 : UInt8) ≠ 93 by decide, if_false, if_true,
      readValue_string plain.1 startsQuoted, readItems_rest rest plain.2 _ startsRest, Except.map]
    simp only [List.reverse_cons, List.reverse_nil, List.nil_append, List.singleton_append,
      List.map_cons, itemsBytes, List.length_cons, List.length_append, List.length_nil,
      Except.ok.injEq, Prod.mk.injEq, true_and]
    omega

/-- A field is read from its key between quotes, a colon and its value. Each field takes one unit
of fuel besides the fuel of its value. -/
theorem readFields_field {first : Bool} {key : String} (plainKey : ∀ c ∈ key.toList, isPlainChar c)
    (read : List (String × Value)) {offset : Nat}
    (starts : StartsWith input offset (fieldBytes first key))
    {fuel depth : Nat} {value : Value} {after : Nat}
    (reads : readValue input fuel depth (offset + (fieldBytes first key).length) =
      .ok (value, after)) :
    readFields input (fuel + 1) depth first read offset =
      readFields input fuel depth false ((key, value) :: read) after := by
  -- the value starts behind the colon that follows the key
  have behindColon {start : Nat} (startsKey : StartsWith input start (quotedBytes key ++ [58])) :
      offset + (fieldBytes first key).length = start + (quotedBytes key).length + 1 →
      readStringFrom input .empty (start + 1) = .ok (key, start + (quotedBytes key).length) ∧
        byteAt? input (start + (quotedBytes key).length) = some 58 ∧
        readValue input fuel depth (start + (quotedBytes key).length + 1) = .ok (value, after) := by
    intro valueAt
    obtain ⟨startsQuoted, colon⟩ := startsWith_append.mp startsKey
    exact ⟨readString_quoted plainKey startsQuoted, (startsWith_cons.mp colon).1, valueAt ▸ reads⟩
  cases first with
  | true =>
    rw [show fieldBytes true key = quotedBytes key ++ [58] from rfl] at starts
    have quote := (startsWith_cons.mp (startsWith_append.mp starts).1).1
    obtain ⟨name, colonAt, value⟩ := behindColon starts (by simp [fieldBytes]; omega)
    rw [readFields, skipBlank_of_byteAt? quote (by decide), quote]
    simp only [show (34 : UInt8) ≠ 125 by decide, show (34 : UInt8) ≠ 44 by decide, false_and,
      if_false, if_true, name, skipBlank_of_byteAt? colonAt (by decide), colonAt, value]
  | false =>
    rw [show fieldBytes false key = 44 :: (quotedBytes key ++ [58]) from rfl] at starts
    obtain ⟨comma, startsKey⟩ := startsWith_cons.mp starts
    have quote := (startsWith_cons.mp (startsWith_append.mp startsKey).1).1
    obtain ⟨name, colonAt, value⟩ := behindColon startsKey (by simp [fieldBytes]; omega)
    rw [readFields, skipBlank_of_byteAt? comma (by decide), comma]
    simp only [show (44 : UInt8) ≠ 125 by decide, Bool.not_false, and_true, if_false, if_true,
      skipBlank_of_byteAt? quote (by decide), quote, name,
      skipBlank_of_byteAt? colonAt (by decide), colonAt, value]

/-- A closing brace ends the fields, which come out in the order they were read. -/
theorem readFields_close {first : Bool} (read : List (String × Value)) {offset : Nat}
    (closing : byteAt? input offset = some 125) (fuel depth : Nat) :
    readFields input (fuel + 1) depth first read offset = .ok (read.reverse, offset + 1) := by
  rw [readFields, skipBlank_of_byteAt? closing (by decide), closing]
  simp

/-- An opening brace reads the fields behind it as an object, its fields sorted by key. -/
theorem readValue_object {offset : Nat} (opening : byteAt? input offset = some 123)
    {fuel depth : Nat} {fields : List (String × Value)} {after : Nat}
    (reads : readFields input fuel (depth + 1) true [] (offset + 1) = .ok (fields, after)) :
    readValue input (fuel + 1) (depth + 2) offset =
      .ok (.object (Value.sortedFields fields), after) := by
  obtain ⟨notBlank, notN, notT, notF, notMinus, notDigit⟩ := delimiter_ne 123 (by decide)
  rw [readValue, skipBlank_of_byteAt? opening notBlank, opening]
  simp only [notN, notT, notF, notMinus, notDigit, show (123 : UInt8) ≠ 34 by decide,
    show (123 : UInt8) ≠ 91 by decide, if_false, if_true, Bool.false_eq_true,
    show ¬ depth + 2 ≤ 1 by omega, show depth + 2 - 1 = depth + 1 by omega, reads, Except.map]

/-- A value read with the whole fuel and depth of the reader, up to the end of the text, is the
value of the text. -/
theorem read_of_readValue {value : Value}
    (reads : readValue input (2 * input.size + 2) 128 0 = .ok (value, input.size)) :
    Value.read input = .ok value := by
  simp [Value.read, reads, skipBlank_of_size_le (Nat.le_refl _), bind, Except.bind, pure,
    Except.pure]

end Containers

end Json
end StripedMerkle
