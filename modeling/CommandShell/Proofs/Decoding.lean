import CommandShell.Text.Utf8
import Mathlib.Data.List.Basic

/-!
# Reading What Was Encoded

The scan reads back what the encoding wrote, character by character: the bytes
of a character, whatever stands behind them, are scanned as that character and
leave the scan between characters. So the two readers agree on the bytes of a
text, and the reader that never fails reads the text followed by anything as
the text followed by what it makes of the rest.

The bounds of the second byte are where this could go wrong. They are narrower
than usual for four first bytes, and what they exclude is what no character is
encoded as: forms that are longer than needed, surrogates, and numbers past
`10FFFF`.

## Main definitions

* `encodeChars`: The bytes of a list of characters.

## Theorems

* `encode_eq`: The bytes of a text are those of its characters.
* `scanFrom_utf8EncodeChar`: A character is read back.
* `scan_encodeChars`: So are characters, whatever follows.
* `decode?_encode`: A text is read back.
-/

namespace CommandShell

namespace Text

/-- The bytes of characters, one after the other. -/
def encodeChars (cs : List Char) : Bytes :=
  cs.flatMap String.utf8EncodeChar

/-! ### Single bytes -/

/-- A byte that is a character by itself. -/
theorem Lead.ofByte_of_lt {n : Nat} (h : n < 0x80) :
    Lead.ofByte (UInt8.ofNat n) = .whole (Char.ofNat n) := by
  have hn : (UInt8.ofNat n).toNat = n :=
    UInt8.toNat_ofNat_of_lt' (show n < 2 ^ 8 by omega)
  unfold Lead.ofByte
  rw [if_pos (by rw [UInt8.lt_iff_toNat_lt, hn]; exact h), hn]

/-- The first of two bytes. -/
theorem Lead.ofByte_two : ∀ n < 0x20, 2 ≤ n →
    Lead.ofByte (UInt8.ofNat (n + 0xC0)) = .opening ⟨n, 0, 0x80, 0xBF, by decide⟩ := by
  decide

/-- The first of three bytes. -/
theorem Lead.ofByte_three : ∀ n < 0x10, Lead.ofByte (UInt8.ofNat (n + 0xE0)) =
    .opening ⟨n, 1, if n = 0 then 0xA0 else 0x80, if n = 0xD then 0x9F else 0xBF,
      by split <;> decide⟩ := by
  decide

/-- The first of four bytes. -/
theorem Lead.ofByte_four : ∀ n < 5, Lead.ofByte (UInt8.ofNat (n + 0xF0)) =
    .opening ⟨n, 2, if n = 0 then 0x90 else 0x80, if n = 4 then 0x8F else 0xBF,
      by split <;> decide⟩ := by
  decide

/-- What an opened character admits, in numbers. -/
theorem Opened.admits_ofNat {o : Opened} {k : Nat} (hk : k < 0x40)
    (hlow : o.low.toNat ≤ k + 0x80) (hhigh : k + 0x80 ≤ o.high.toNat) :
    o.admits (UInt8.ofNat (k + 0x80)) = true := by
  have hbyte : (UInt8.ofNat (k + 0x80)).toNat = k + 0x80 :=
    UInt8.toNat_ofNat_of_lt' (show k + 0x80 < 2 ^ 8 by omega)
  simp only [admits, Bool.and_eq_true, decide_eq_true_eq, UInt8.le_iff_toNat_le, hbyte]
  exact ⟨hlow, hhigh⟩

theorem Opened.extend_ofNat (o : Opened) {k : Nat} (hk : k < 0x40) :
    o.extend (UInt8.ofNat (k + 0x80)) = o.bits * 64 + k := by
  have hbyte : (UInt8.ofNat (k + 0x80)).toNat = k + 0x80 :=
    UInt8.toNat_ofNat_of_lt' (show k + 0x80 < 2 ^ 8 by omega)
  unfold extend
  rw [hbyte]
  omega

/-! ### Characters -/

theorem scanFrom_opening {b : UInt8} {o : Opened} (h : Lead.ofByte b = .opening o)
    (rest : Bytes) : scanFrom none (b :: rest) = scanFrom (some o) rest := by
  simp only [scanFrom, h]

/-- The last byte of a character. -/
theorem scanFrom_last {o : Opened} (hmissing : o.missing = 0) {k : Nat} (hk : k < 0x40)
    (hlow : o.low.toNat ≤ k + 0x80) (hhigh : k + 0x80 ≤ o.high.toNat) (rest : Bytes) :
    scanFrom (some o) (UInt8.ofNat (k + 0x80) :: rest)
      = some (Char.ofNat (o.bits * 64 + k)) :: scanFrom none rest := by
  rw [scanFrom, if_pos (Opened.admits_ofNat hk hlow hhigh), hmissing, Opened.extend_ofNat o hk]

/-- A byte in the middle of a character. -/
theorem scanFrom_middle {o : Opened} {m : Nat} (hmissing : o.missing = m + 1) {k : Nat}
    (hk : k < 0x40) (hlow : o.low.toNat ≤ k + 0x80) (hhigh : k + 0x80 ≤ o.high.toNat)
    (rest : Bytes) :
    scanFrom (some o) (UInt8.ofNat (k + 0x80) :: rest)
      = scanFrom (some ⟨o.bits * 64 + k, m, 0x80, 0xBF, by decide⟩) rest := by
  rw [scanFrom, if_pos (Opened.admits_ofNat hk hlow hhigh), hmissing]
  simp only [Opened.extend_ofNat o hk]

/-- No character is a surrogate or past the last one. -/
theorem toNat_of_isValid (c : Char) :
    c.toNat < 0xD800 ∨ (0xDFFF < c.toNat ∧ c.toNat < 0x110000) := c.valid

/-- The bytes of a character are scanned as that character. -/
theorem scanFrom_utf8EncodeChar (c : Char) (rest : Bytes) :
    scanFrom none (String.utf8EncodeChar c ++ rest) = some c :: scanFrom none rest := by
  -- The number of the character decides how many bytes there are.
  have hvalid := toNat_of_isValid c
  have hc : Char.ofNat c.toNat = c := Char.ofNat_toNat c
  generalize hv : c.toNat = v at hvalid hc
  have hval : c.val.toNat = v := hv
  unfold String.utf8EncodeChar
  simp only [hval]
  split
  · -- One byte.
    rename_i h
    simp only [List.cons_append, List.nil_append, scanFrom,
      Lead.ofByte_of_lt (show v < 0x80 by omega), hc]
  · split
    · -- Two bytes.
      rename_i h0 h
      have hfirst := Lead.ofByte_two (v / 64 % 0x20) (by omega) (by omega)
      rw [List.cons_append, scanFrom_opening hfirst, List.cons_append,
        scanFrom_last rfl (by omega) (by simp) (by simp; omega)]
      have hbits : v / 64 % 0x20 * 64 + v % 0x40 = v := by omega
      simp only [hbits, hc, List.nil_append]
    · split
      · -- Three bytes.
        rename_i h0 h1 h
        have hfirst := Lead.ofByte_three (v / 4096 % 0x10) (by omega)
        rw [List.cons_append, scanFrom_opening hfirst, List.cons_append,
          scanFrom_middle rfl (by omega) ?_ ?_, List.cons_append,
          scanFrom_last rfl (by omega) (by simp) (by simp; omega)]
        · have hbits : (v / 4096 % 0x10 * 64 + v / 64 % 0x40) * 64 + v % 0x40 = v := by omega
          simp only [hbits, hc, List.nil_append]
        · simp only [apply_ite UInt8.toNat, UInt8.reduceToNat]
          split <;> omega
        · simp only [apply_ite UInt8.toNat, UInt8.reduceToNat]
          split <;> omega
      · -- Four bytes.
        rename_i h0 h1 h2
        have hfirst := Lead.ofByte_four (v / 262144 % 0x08) (by omega)
        rw [List.cons_append, scanFrom_opening hfirst, List.cons_append,
          scanFrom_middle rfl (by omega) ?_ ?_, List.cons_append,
          scanFrom_middle rfl (by omega) (by simp) (by simp; omega), List.cons_append,
          scanFrom_last rfl (by omega) (by simp) (by simp; omega)]
        · have hbits : ((v / 262144 % 0x08 * 64 + v / 4096 % 0x40) * 64 + v / 64 % 0x40) * 64
              + v % 0x40 = v := by omega
          simp only [hbits, hc, List.nil_append]
        · simp only [apply_ite UInt8.toNat, UInt8.reduceToNat]
          split <;> omega
        · simp only [apply_ite UInt8.toNat, UInt8.reduceToNat]
          split <;> omega

/-! ### Texts -/

theorem toList_loop (bs : ByteArray) (i : Nat) (r : List UInt8) :
    ByteArray.toList.loop bs i r = r.reverse ++ bs.data.toList.drop i := by
  -- The loop goes through the array from the front and collects in reverse.
  fun_induction ByteArray.toList.loop bs i r with
  | case1 i r h ih =>
      have hi : i < bs.data.toList.length := by simpa using h
      have hget : bs.get! i = bs.data.toList[i] := getElem!_pos bs.data i h
      rw [ih, List.drop_eq_getElem_cons hi, hget]
      simp
  | case2 i r h =>
      have hi : bs.data.toList.length ≤ i := by simpa using h
      simp [List.drop_eq_nil_of_le hi]

/-- The bytes of a text are those of its characters. -/
theorem encode_eq (s : String) : encode s = encodeChars s.toList := by
  have hs : s.toUTF8 = (encodeChars s.toList).toByteArray := by
    conv => lhs; rw [← String.ofList_toList (s := s)]
    rfl
  rw [encode, hs, ByteArray.toList, toList_loop]
  simp

theorem length_encode (s : String) : (encode s).length = s.utf8ByteSize := by
  rw [encode, ByteArray.toList, toList_loop]
  simp

theorem take_encode (s : String) : (encode s).take s.utf8ByteSize = encode s :=
  List.take_of_length_le (Nat.le_of_eq (length_encode s))

/-- Characters are read back, whatever follows. -/
theorem scan_encodeChars (cs : List Char) (rest : Bytes) :
    scan (encodeChars cs ++ rest) = cs.map some ++ scan rest := by
  induction cs with
  | nil => rfl
  | cons c more ih =>
      unfold scan at ih ⊢
      rw [encodeChars, List.flatMap_cons, List.append_assoc, scanFrom_utf8EncodeChar]
      exact congrArg (some c :: ·) ih

theorem decodeLossy_encodeChars (cs : List Char) :
    decodeLossy (encodeChars cs) = String.ofList cs := by
  have hscan : scan (encodeChars cs) = cs.map some := by
    simpa [scan, scanFrom] using scan_encodeChars cs []
  rw [decodeLossy, hscan, List.map_map]
  simp [Function.comp_def]

/-- The reader that refuses faults reads a text back. -/
theorem decode?_encode (s : String) : decode? (encode s) = some s := by
  have hscan : scan (encode s) = s.toList.map some := by
    simpa [scan, scanFrom, encode_eq] using scan_encodeChars s.toList []
  have hall : (scan (encode s)).all Option.isSome = true := by simp [hscan]
  rw [decode?, if_pos hall, encode_eq, decodeLossy_encodeChars, String.ofList_toList]

end Text

end CommandShell
