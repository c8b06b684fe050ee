import StatefulRoles.Text.Utf8
/-!
# Well-formed UTF-8 is read as it was meant

The reader replaces what is no character. Of the bytes that write a text nothing is replaced: each
character is read back from its one to four bytes, whatever follows.

Results:
* `decode_utf8EncodeChar`: the bytes of one character are read as that character.
* `decode_toUTF8`: the bytes of a text are read as that text.
-/
namespace StatefulRoles.Text.Utf8

/-! ## First bytes -/

theorem fresh_one {b : Nat} (h : b ≤ 0x7f) : fresh b = ([Char.ofNat b], none) := by
  unfold fresh
  rw [if_pos h]

theorem fresh_two {b : Nat} (h : 0xc2 ≤ b) (h' : b ≤ 0xdf) :
    fresh b = ([], some ⟨1, b - 0xc0, 0x80, 0xbf⟩) := by
  unfold fresh
  rw [if_neg (by omega), if_pos (by simp [h, h'])]

/-- Of three bytes the second is bounded so that the form is not overlong and no surrogate. -/
theorem fresh_three {b : Nat} (h : 0xe0 ≤ b) (h' : b ≤ 0xef) :
    fresh b = ([], some ⟨2, b - 0xe0, if b = 0xe0 then 0xa0 else 0x80,
      if b = 0xed then 0x9f else 0xbf⟩) := by
  unfold fresh
  rw [if_neg (by omega), if_neg (by simp; omega)]
  by_cases h0 : b = 0xe0
  · subst h0; rfl
  · by_cases hd : b = 0xed
    · subst hd; rfl
    · have hin : (0xe1 ≤ b && b ≤ 0xef) = true := by simp; omega
      simp [h0, hd, hin]

/-- Of four bytes the second is bounded so that the form is not overlong and no code point lies
beyond the last one. -/
theorem fresh_four {b : Nat} (h : 0xf0 ≤ b) (h' : b ≤ 0xf4) :
    fresh b = ([], some ⟨3, b - 0xf0, if b = 0xf0 then 0x90 else 0x80,
      if b = 0xf4 then 0x8f else 0xbf⟩) := by
  have hb : b = 0xf0 ∨ b = 0xf1 ∨ b = 0xf2 ∨ b = 0xf3 ∨ b = 0xf4 := by omega
  rcases hb with rfl | rfl | rfl | rfl | rfl <;> rfl

/-! ## Bytes that go on -/

variable {b b₁ b₂ b₃ : UInt8} {bytes : List UInt8} {v low high : Nat}

theorem decodeFrom_cons (state : Option Pending) (b : UInt8) (bytes : List UInt8) :
    decodeFrom state (b :: bytes) =
      (step state b.toNat).1 ++ decodeFrom (step state b.toNat).2 bytes := by
  cases state <;> rfl

/-- A first byte after which more is owed. -/
theorem decode_cons_of_fresh {p : Pending} (h : fresh b.toNat = ([], some p)) :
    decode (b :: bytes) = decodeFrom (some p) bytes := by
  show decodeFrom none (b :: bytes) = _
  rw [decodeFrom_cons, step, h, List.nil_append]

/-- A byte that goes on with a character of which more is owed. -/
theorem decodeFrom_owed {owed bits : Nat} (h : low ≤ b.toNat) (h' : b.toNat ≤ high) :
    decodeFrom (some ⟨owed + 2, bits, low, high⟩) (b :: bytes) =
      decodeFrom (some ⟨owed + 1, bits * 64 + (b.toNat - 0x80), 0x80, 0xbf⟩) bytes := by
  rw [decodeFrom_cons]
  simp [step, h, h']

/-- The last byte of a character. -/
theorem decodeFrom_last {bits : Nat} (h : low ≤ b.toNat) (h' : b.toNat ≤ high) :
    decodeFrom (some ⟨1, bits, low, high⟩) (b :: bytes) =
      Char.ofNat (bits * 64 + (b.toNat - 0x80)) :: decode bytes := by
  rw [decodeFrom_cons]
  simp [step, h, h', decode]

/-! ## Characters and texts -/

theorem decode_one (hb : b.toNat = v) (h : v ≤ 0x7f) :
    decode (b :: bytes) = Char.ofNat v :: decode bytes := by
  show decodeFrom none (b :: bytes) = _
  rw [decodeFrom_cons, step, hb, fresh_one h]
  rfl

theorem decode_two (hb : b.toNat = v / 64 + 0xc0) (hb₁ : b₁.toNat = v % 64 + 0x80)
    (h : 0x7f < v) (h' : v ≤ 0x7ff) : decode (b :: b₁ :: bytes) = Char.ofNat v :: decode bytes := by
  have hbits : (b.toNat - 0xc0) * 64 + (b₁.toNat - 0x80) = v := by omega
  rw [decode_cons_of_fresh (fresh_two (by omega) (by omega)),
    decodeFrom_last (by omega) (by omega), hbits]

theorem decode_three (hb : b.toNat = v / 4096 + 0xe0) (hb₁ : b₁.toNat = v / 64 % 64 + 0x80)
    (hb₂ : b₂.toNat = v % 64 + 0x80) (h : 0x7ff < v) (h' : v ≤ 0xffff)
    (hv : v < 0xd800 ∨ 0xdfff < v) :
    decode (b :: b₁ :: b₂ :: bytes) = Char.ofNat v :: decode bytes := by
  have hbits : ((b.toNat - 0xe0) * 64 + (b₁.toNat - 0x80)) * 64 + (b₂.toNat - 0x80) = v := by
    omega
  rw [decode_cons_of_fresh (fresh_three (by omega) (by omega)),
    decodeFrom_owed (by split <;> omega) (by split <;> omega),
    decodeFrom_last (by omega) (by omega), hbits]

theorem decode_four (hb : b.toNat = v / 262144 + 0xf0) (hb₁ : b₁.toNat = v / 4096 % 64 + 0x80)
    (hb₂ : b₂.toNat = v / 64 % 64 + 0x80) (hb₃ : b₃.toNat = v % 64 + 0x80)
    (h : 0xffff < v) (hv : v < 0x110000) :
    decode (b :: b₁ :: b₂ :: b₃ :: bytes) = Char.ofNat v :: decode bytes := by
  have hbits : (((b.toNat - 0xf0) * 64 + (b₁.toNat - 0x80)) * 64 + (b₂.toNat - 0x80)) * 64 +
      (b₃.toNat - 0x80) = v := by
    omega
  rw [decode_cons_of_fresh (fresh_four (by omega) (by omega)),
    decodeFrom_owed (by split <;> omega) (by split <;> omega),
    decodeFrom_owed (by omega) (by omega), decodeFrom_last (by omega) (by omega), hbits]

/-- A code point is no surrogate and not beyond the last one. -/
theorem toNat_cases (c : Char) :
    c.toNat < 0xd800 ∨ 0xdfff < c.toNat ∧ c.toNat < 0x110000 := c.valid

/-- The bytes of one character are read as that character. -/
theorem decode_utf8EncodeChar (c : Char) (bytes : List UInt8) :
    decode (String.utf8EncodeChar c ++ bytes) = c :: decode bytes := by
  have hvalid := toNat_cases c
  have hbyte {n m : Nat} (hnm : n = m) (hn : n < 256) : (UInt8.ofNat n).toNat = m := by
    rw [UInt8.toNat_ofNat', Nat.mod_eq_of_lt hn, hnm]
  unfold String.utf8EncodeChar
  rw [show c.val.toNat = c.toNat from rfl]
  conv => rhs; rw [← Char.ofNat_toNat c]
  dsimp only
  split
  case isTrue h1 => exact decode_one (hbyte rfl (by omega)) h1
  case isFalse h1 =>
    split
    case isTrue h2 =>
      exact decode_two (hbyte (by omega) (by omega)) (hbyte rfl (by omega)) (by omega) h2
    case isFalse h2 =>
      split
      case isTrue h3 =>
        exact decode_three (hbyte (by omega) (by omega)) (hbyte rfl (by omega))
          (hbyte rfl (by omega)) (by omega) h3 (by omega)
      case isFalse h3 =>
        exact decode_four (hbyte (by omega) (by omega)) (hbyte rfl (by omega))
          (hbyte rfl (by omega)) (hbyte rfl (by omega)) (by omega) (by omega)

/-- The bytes of a text are read as that text. -/
theorem decode_toUTF8 (text : String) : decode text.toUTF8.data.toList = text.toList := by
  have hbytes : text.toUTF8.data.toList = text.toList.flatMap String.utf8EncodeChar := by
    conv => lhs; rw [← String.ofList_toList (s := text)]
    rw [String.toUTF8_eq_toByteArray, String.toByteArray_ofList, List.utf8Encode,
      List.data_toByteArray]
  rw [hbytes]
  induction text.toList with
  | nil => rfl
  | cons c rest ih => rw [List.flatMap_cons, decode_utf8EncodeChar, ih]

end StatefulRoles.Text.Utf8
