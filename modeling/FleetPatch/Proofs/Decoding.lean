import FleetPatch.Text.Utf8

/-!
# Text read back from its bytes

Reading the bytes of a text gives the text: a character is one part of the bytes, whatever follows
it, and no part is ill-formed.
-/

namespace FleetPatch.Text.Utf8

set_option autoImplicit false

/-- The byte that carries the low six bits behind a lead byte. -/
theorem toNat_tail (code : Nat) : (UInt8.ofNat (code % 64 + 128)).toNat = code % 64 + 128 := by
  rw [UInt8.toNat_ofNat']
  omega

section Leads

variable {code : Nat}

theorem lead_two (lower : 128 ≤ code) (upper : code < 2048) :
    lead? (UInt8.ofNat (code / 64 % 32 + 192)) = some (0x80, 0xBF, 1) := by
  have value : (UInt8.ofNat (code / 64 % 32 + 192)).toNat = code / 64 + 192 := by
    rw [UInt8.toNat_ofNat']
    omega
  rw [lead?, value, if_pos (by omega)]

/-- The lead byte of a character with three bytes bounds the second byte, and that keeps the bounds:
the character is neither shorter nor a surrogate. -/
theorem lead_three (lower : 2048 ≤ code) (upper : code < 65536)
    (valid : code < 0xD800 ∨ 0xDFFF < code) :
    ∃ low high, lead? (UInt8.ofNat (code / 4096 % 16 + 224)) = some (low, high, 2) ∧
      low ≤ code / 64 % 64 + 128 ∧ code / 64 % 64 + 128 ≤ high := by
  have value : (UInt8.ofNat (code / 4096 % 16 + 224)).toNat = code / 4096 + 224 := by
    rw [UInt8.toNat_ofNat']
    omega
  rw [lead?, value, if_neg (by omega)]
  by_cases least : code / 4096 = 0
  · rw [if_pos (by omega)]
    exact ⟨_, _, rfl, by omega, by omega⟩
  · rw [if_neg (by omega)]
    by_cases surrogates : code / 4096 = 13
    · rw [if_pos (by omega)]
      exact ⟨_, _, rfl, by omega, by omega⟩
    · rw [if_neg (by omega), if_pos (by omega)]
      exact ⟨_, _, rfl, by omega, by omega⟩

/-- The same for four bytes: the character is not shorter, and within Unicode. -/
theorem lead_four (lower : 65536 ≤ code) (upper : code < 0x110000) :
    ∃ low high, lead? (UInt8.ofNat (code / 262144 % 8 + 240)) = some (low, high, 3) ∧
      low ≤ code / 4096 % 64 + 128 ∧ code / 4096 % 64 + 128 ≤ high := by
  have value : (UInt8.ofNat (code / 262144 % 8 + 240)).toNat = code / 262144 + 240 := by
    rw [UInt8.toNat_ofNat']
    omega
  rw [lead?, value, if_neg (by omega), if_neg (by omega), if_neg (by omega), if_neg (by omega)]
  by_cases least : code / 262144 = 0
  · rw [if_pos (by omega)]
    exact ⟨_, _, rfl, by omega, by omega⟩
  · rw [if_neg (by omega)]
    by_cases middle : code / 262144 ≤ 3
    · rw [if_pos (by omega)]
      exact ⟨_, _, rfl, by omega, by omega⟩
    · rw [if_neg (by omega), if_pos (by omega)]
      exact ⟨_, _, rfl, by omega, by omega⟩

end Leads

section Steps

variable {byte : UInt8} {pending : Pending} (rest : List UInt8)

theorem partsFrom_lead {low high owed : Nat} (large : 0x80 ≤ byte.toNat)
    (lead : lead? byte = some (low, high, owed)) :
    partsFrom none (byte :: rest) = partsFrom (some ⟨[byte],
      byte.toNat % (if owed = 1 then 0x20 else if owed = 2 then 0x10 else 0x08),
      low, high, owed⟩) rest := by
  rw [partsFrom, start, if_neg (by omega), lead]

theorem partsFrom_more (within : pending.low ≤ byte.toNat ∧ byte.toNat ≤ pending.high)
    (more : 1 < pending.owed) :
    partsFrom (some pending) (byte :: rest) = partsFrom (some ⟨byte :: pending.bytes,
      pending.bits * 64 + byte.toNat % 64, 0x80, 0xBF, pending.owed - 1⟩) rest := by
  rw [partsFrom, if_pos (by simpa using within), if_neg (by omega)]

theorem partsFrom_last (within : pending.low ≤ byte.toNat ∧ byte.toNat ≤ pending.high)
    (last : pending.owed ≤ 1) :
    partsFrom (some pending) (byte :: rest) =
      .character (Char.ofNat (pending.bits * 64 + byte.toNat % 64)) :: partsFrom none rest := by
  rw [partsFrom, if_pos (by simpa using within), if_pos last]

theorem partsFrom_one {code : Nat} (upper : code < 128) :
    partsFrom none (UInt8.ofNat code :: rest) =
      .character (Char.ofNat code) :: partsFrom none rest := by
  have value : (UInt8.ofNat code).toNat = code := by
    rw [UInt8.toNat_ofNat']
    omega
  rw [partsFrom, start, value, if_pos upper]

theorem partsFrom_two {code : Nat} (lower : 128 ≤ code) (upper : code < 2048) :
    partsFrom none (UInt8.ofNat (code / 64 % 32 + 192) :: UInt8.ofNat (code % 64 + 128) :: rest) =
      .character (Char.ofNat code) :: partsFrom none rest := by
  have value : (UInt8.ofNat (code / 64 % 32 + 192)).toNat = code / 64 + 192 := by
    rw [UInt8.toNat_ofNat']
    omega
  rw [partsFrom_lead _ (by omega) (lead_two lower upper),
    partsFrom_last _ (by simp only [toNat_tail]; omega) (Nat.le_refl 1)]
  simp only [toNat_tail, value, if_true]
  have joined : (code / 64 + 192) % 32 * 64 + (code % 64 + 128) % 64 = code := by omega
  rw [joined]

theorem partsFrom_three {code : Nat} (lower : 2048 ≤ code) (upper : code < 65536)
    (valid : code < 0xD800 ∨ 0xDFFF < code) :
    partsFrom none (UInt8.ofNat (code / 4096 % 16 + 224) ::
        UInt8.ofNat (code / 64 % 64 + 128) :: UInt8.ofNat (code % 64 + 128) :: rest) =
      .character (Char.ofNat code) :: partsFrom none rest := by
  have value : (UInt8.ofNat (code / 4096 % 16 + 224)).toNat = code / 4096 + 224 := by
    rw [UInt8.toNat_ofNat']
    omega
  obtain ⟨low, high, lead, least, greatest⟩ := lead_three lower upper valid
  rw [partsFrom_lead _ (by omega) lead,
    partsFrom_more _ (by simp only [toNat_tail]; omega) (by simp),
    partsFrom_last _ (by simp only [toNat_tail]; omega) (by simp)]
  simp only [toNat_tail, value]
  have joined : ((code / 4096 + 224) % 16 * 64 + (code / 64 % 64 + 128) % 64) * 64 +
      (code % 64 + 128) % 64 = code := by
    omega
  exact congrArg (fun code => .character (Char.ofNat code) :: partsFrom none rest) joined

theorem partsFrom_four {code : Nat} (lower : 65536 ≤ code) (upper : code < 0x110000) :
    partsFrom none (UInt8.ofNat (code / 262144 % 8 + 240) ::
        UInt8.ofNat (code / 4096 % 64 + 128) :: UInt8.ofNat (code / 64 % 64 + 128) ::
        UInt8.ofNat (code % 64 + 128) :: rest) =
      .character (Char.ofNat code) :: partsFrom none rest := by
  have value : (UInt8.ofNat (code / 262144 % 8 + 240)).toNat = code / 262144 + 240 := by
    rw [UInt8.toNat_ofNat']
    omega
  obtain ⟨low, high, lead, least, greatest⟩ := lead_four lower upper
  rw [partsFrom_lead _ (by omega) lead,
    partsFrom_more _ (by simp only [toNat_tail]; omega) (by simp),
    partsFrom_more _ (by simp only [toNat_tail]; omega) (by simp),
    partsFrom_last _ (by simp only [toNat_tail]; omega) (by simp)]
  simp only [toNat_tail, value]
  have joined : (((code / 262144 + 240) % 8 * 64 + (code / 4096 % 64 + 128) % 64) * 64 +
      (code / 64 % 64 + 128) % 64) * 64 + (code % 64 + 128) % 64 = code := by
    omega
  exact congrArg (fun code => .character (Char.ofNat code) :: partsFrom none rest) joined

end Steps

theorem partsFrom_character (character : Char) (rest : List UInt8) :
    partsFrom none (String.utf8EncodeChar character ++ rest) =
      .character character :: partsFrom none rest := by
  have valid : character.toNat < 0xD800 ∨
      0xDFFF < character.toNat ∧ character.toNat < 0x110000 := character.valid
  have same : Char.ofNat character.toNat = character := Char.ofNat_toNat character
  have code : character.val.toNat = character.toNat := rfl
  simp only [String.utf8EncodeChar, code]
  generalize character.toNat = code at valid same
  subst same
  split
  · exact partsFrom_one rest (by omega)
  · split
    · exact partsFrom_two rest (by omega) (by omega)
    · split
      · exact partsFrom_three rest (by omega) (by omega) (valid.imp_right And.left)
      · exact partsFrom_four rest (by omega) (by omega)

theorem toList_loop (bytes : ByteArray) (index : Nat) (earlier : List UInt8) :
    ByteArray.toList.loop bytes index earlier =
      earlier.reverse ++ bytes.data.toList.drop index := by
  fun_induction ByteArray.toList.loop bytes index earlier with
  | case1 index earlier inside induction =>
      have within : index < bytes.data.toList.length := inside
      have here : bytes.get! index = bytes.data.toList[index] := by
        rw [Array.getElem_toList]
        exact getElem!_pos bytes.data index inside
      rw [induction, List.drop_eq_getElem_cons within, List.reverse_cons, List.append_assoc, here]
      rfl
  | case2 index earlier outside =>
      have beyond : bytes.data.toList.length ≤ index := Nat.le_of_not_lt outside
      rw [List.drop_of_length_le beyond, List.append_nil]

theorem encode_eq (text : String) : encode text = text.toList.flatMap String.utf8EncodeChar := by
  rw [encode, String.toUTF8, ← String.utf8Encode_toList, ByteArray.toList, toList_loop,
    List.utf8Encode, List.toList_data_toByteArray]
  rfl

theorem decodeIgnoring_encode (text : String) : decodeIgnoring (encode text) = text := by
  have read (characters : List Char) :
      (parts (characters.flatMap String.utf8EncodeChar)).filterMap Part.character? =
        characters := by
    induction characters with
    | nil => rfl
    | cons character rest induction =>
        rw [parts, List.flatMap_cons, partsFrom_character]
        exact congrArg (character :: ·) induction
  rw [decodeIgnoring, encode_eq, read, String.ofList_toList]

end FleetPatch.Text.Utf8
