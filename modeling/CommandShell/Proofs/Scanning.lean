import CommandShell.Proofs.Decoding

/-!
# What the Scan Accounts For

The scan of a byte sequence loses nothing. Each character in it stands for just
the bytes that encode this character, and each fault for one byte or more. This
is the converse of reading back what was encoded: it says of arbitrary bytes
that nothing but an encoding is taken for a character, so that the strict reader
accepts no text besides the encoded ones. An overlong form of a newline would be
a newline that stands nowhere among the bytes.

The scan remembers a character that has been begun by the bits seen so far. That
these are the bits of the right bytes is an invariant, which is stated from the
other end: whatever bytes are admitted from here on, together with the bytes
seen they encode the character that the scan will give.

## Main definitions

* `Opened.Completes`: What is still admitted completes the encoding of a
  character.
* `Accounts`: Characters and faults account for bytes.

## Theorems

* `completes_of_ofByte`: A first byte leaves open what encodes a character.
* `accounts_scan`: The scan accounts for all bytes.
* `decode?_eq_some_iff`: The strict reader accepts the encoded texts and no
  others.
* `getLast?_toList_decodeLossy`: A byte without its high bit ends the bytes just
  where its character ends the text.
-/

namespace CommandShell

namespace Text

/-! ### The bytes of one character -/

theorem val_ofNat {n : Nat} (h : n.isValidChar) : (Char.ofNat n).val.toNat = n := by
  rw [Char.ofNat, dif_pos h]
  rfl

theorem ofNat_eq_of_toNat {n : Nat} {b : UInt8} (h : n = b.toNat) : UInt8.ofNat n = b := by
  rw [h, UInt8.ofNat_toNat]

/-- Whether a byte continues a character. -/
def IsTail (b : UInt8) : Prop :=
  0x80 ≤ b.toNat ∧ b.toNat ≤ 0xBF

theorem utf8EncodeChar_two {n : Nat} {b c : UInt8} (hb : b.toNat = n + 0xC0) (hlow : 2 ≤ n)
    (hhigh : n < 0x20) (hc : IsTail c) :
    String.utf8EncodeChar (Char.ofNat (n * 64 + (c.toNat - 0x80))) = [b, c] := by
  -- The number gets a name, and what is left is arithmetic on its digits to the base 64.
  generalize hv : n * 64 + (c.toNat - 0x80) = v
  unfold IsTail at hc
  have hval := val_ofNat (n := v) (Or.inl (by omega))
  unfold String.utf8EncodeChar
  simp only [hval]
  rw [if_neg (by omega), if_pos (by omega), ofNat_eq_of_toNat (b := b) (by omega),
    ofNat_eq_of_toNat (b := c) (by omega)]

/-- The second byte rules out the numbers that two bytes would be enough for, and the
    surrogates. -/
theorem utf8EncodeChar_three {n : Nat} {b c d : UInt8} (hb : b.toNat = n + 0xE0) (hn : n < 0x10)
    (hc : IsTail c) (hlow : n = 0 → 0xA0 ≤ c.toNat) (hhigh : n = 0xD → c.toNat ≤ 0x9F)
    (hd : IsTail d) :
    String.utf8EncodeChar (Char.ofNat ((n * 64 + (c.toNat - 0x80)) * 64 + (d.toNat - 0x80)))
      = [b, c, d] := by
  generalize hv : (n * 64 + (c.toNat - 0x80)) * 64 + (d.toNat - 0x80) = v
  unfold IsTail at hc hd
  have hval := val_ofNat (n := v) (by unfold Nat.isValidChar; omega)
  unfold String.utf8EncodeChar
  simp only [hval]
  rw [if_neg (by omega), if_neg (by omega), if_pos (by omega),
    ofNat_eq_of_toNat (b := b) (by omega), ofNat_eq_of_toNat (b := c) (by omega),
    ofNat_eq_of_toNat (b := d) (by omega)]

/-- The second byte rules out the numbers that three bytes would be enough for, and those
    past the last character. -/
theorem utf8EncodeChar_four {n : Nat} {b c d e : UInt8} (hb : b.toNat = n + 0xF0) (hn : n < 5)
    (hc : IsTail c) (hlow : n = 0 → 0x90 ≤ c.toNat) (hhigh : n = 4 → c.toNat ≤ 0x8F)
    (hd : IsTail d) (he : IsTail e) :
    String.utf8EncodeChar (Char.ofNat (((n * 64 + (c.toNat - 0x80)) * 64 + (d.toNat - 0x80)) * 64
      + (e.toNat - 0x80))) = [b, c, d, e] := by
  generalize hv : ((n * 64 + (c.toNat - 0x80)) * 64 + (d.toNat - 0x80)) * 64
    + (e.toNat - 0x80) = v
  unfold IsTail at hc hd he
  have hval := val_ofNat (n := v) (by unfold Nat.isValidChar; omega)
  unfold String.utf8EncodeChar
  simp only [hval]
  rw [if_neg (by omega), if_neg (by omega), if_neg (by omega),
    ofNat_eq_of_toNat (b := b) (by omega), ofNat_eq_of_toNat (b := c) (by omega),
    ofNat_eq_of_toNat (b := d) (by omega), ofNat_eq_of_toNat (b := e) (by omega)]

/-! ### Characters that have been begun -/

/-- Bytes that are admitted one after the other complete the encoding of the character
    that their bits make up. The bytes `seen` are those of the character that have come
    already. -/
def Opened.Completes (seen : Bytes) (o : Opened) : Nat → Prop
  | 0 => ∀ b, o.admits b = true →
      String.utf8EncodeChar (Char.ofNat (o.extend b)) = seen ++ [b]
  | m + 1 => ∀ b, o.admits b = true →
      Completes (seen ++ [b]) ⟨o.extend b, m, 0x80, 0xBF, by decide⟩ m

theorem Opened.admits_iff {o : Opened} {b : UInt8} :
    o.admits b = true ↔ o.low.toNat ≤ b.toNat ∧ b.toNat ≤ o.high.toNat := by
  simp [admits, UInt8.le_iff_toNat_le]

theorem Lead.ofByte_fault : ∀ n < 0x100, (0x80 ≤ n ∧ n < 0xC2) ∨ 0xF5 ≤ n →
    Lead.ofByte (UInt8.ofNat n) = .fault := by
  decide +kernel

/-- A byte that opens a character is the first of two, of three or of four. -/
theorem Lead.opening_cases {b : UInt8} {o : Opened} (h : Lead.ofByte b = .opening o) :
    (∃ n, b.toNat = n + 0xC0 ∧ 2 ≤ n ∧ n < 0x20 ∧ o = ⟨n, 0, 0x80, 0xBF, by decide⟩) ∨
    (∃ n, b.toNat = n + 0xE0 ∧ n < 0x10 ∧
      o = ⟨n, 1, if n = 0 then 0xA0 else 0x80, if n = 0xD then 0x9F else 0xBF,
        by split <;> decide⟩) ∨
    (∃ n, b.toNat = n + 0xF0 ∧ n < 5 ∧
      o = ⟨n, 2, if n = 0 then 0x90 else 0x80, if n = 4 then 0x8F else 0xBF,
        by split <;> decide⟩) := by
  have hbyte : UInt8.ofNat b.toNat = b := UInt8.ofNat_toNat
  have hlt : b.toNat < 0x100 := b.toNat_lt
  by_cases hwhole : b.toNat < 0x80
  · rw [← hbyte, Lead.ofByte_of_lt hwhole] at h
    cases h
  by_cases hfault : b.toNat < 0xC2 ∨ 0xF5 ≤ b.toNat
  · rw [← hbyte, Lead.ofByte_fault b.toNat hlt (by omega)] at h
    cases h
  -- The tables of first bytes cover what is left.
  by_cases htwo : b.toNat < 0xE0
  · have hlead := Lead.ofByte_two (b.toNat - 0xC0) (by omega) (by omega)
    rw [ofNat_eq_of_toNat (b := b) (by omega), h] at hlead
    exact Or.inl ⟨b.toNat - 0xC0, by omega, by omega, by omega, Lead.opening.inj hlead⟩
  by_cases hthree : b.toNat < 0xF0
  · have hlead := Lead.ofByte_three (b.toNat - 0xE0) (by omega)
    rw [ofNat_eq_of_toNat (b := b) (by omega), h] at hlead
    exact Or.inr (Or.inl ⟨b.toNat - 0xE0, by omega, by omega, Lead.opening.inj hlead⟩)
  · have hlead := Lead.ofByte_four (b.toNat - 0xF0) (by omega)
    rw [ofNat_eq_of_toNat (b := b) (by omega), h] at hlead
    exact Or.inr (Or.inr ⟨b.toNat - 0xF0, by omega, by omega, Lead.opening.inj hlead⟩)

/-- A first byte leaves open what completes the encoding of a character. -/
theorem Opened.completes_of_ofByte {b : UInt8} {o : Opened} (h : Lead.ofByte b = .opening o) :
    o.Completes [b] o.missing := by
  rcases Lead.opening_cases h with ⟨n, hb, hlow, hhigh, rfl⟩ | ⟨n, hb, hn, rfl⟩ | ⟨n, hb, hn, rfl⟩
  -- Two bytes: the lead determines the character but for its last six bits.
  · intro c hc
    exact utf8EncodeChar_two hb hlow hhigh (Opened.admits_iff.1 hc)
  -- Three bytes: the second one excludes what is overlong and what is a surrogate.
  · intro c hc d hd
    obtain ⟨hlow, hhigh⟩ := Opened.admits_iff.1 hc
    simp only [apply_ite UInt8.toNat, UInt8.reduceToNat] at hlow hhigh
    refine utf8EncodeChar_three hb hn ⟨?_, ?_⟩ ?_ ?_ (Opened.admits_iff.1 hd)
    · split at hlow <;> omega
    · split at hhigh <;> omega
    · exact fun hzero => by rwa [if_pos hzero] at hlow
    · exact fun hlast => by rwa [if_pos hlast] at hhigh
  -- Four bytes: the second one excludes what is overlong and what is past the last character.
  · intro c hc d hd e he
    obtain ⟨hlow, hhigh⟩ := Opened.admits_iff.1 hc
    simp only [apply_ite UInt8.toNat, UInt8.reduceToNat] at hlow hhigh
    refine utf8EncodeChar_four hb hn ⟨?_, ?_⟩ ?_ ?_ (Opened.admits_iff.1 hd)
      (Opened.admits_iff.1 he)
    · split at hlow <;> omega
    · split at hhigh <;> omega
    · exact fun hzero => by rwa [if_pos hzero] at hlow
    · exact fun hlast => by rwa [if_pos hlast] at hhigh

/-! ### All bytes -/

/-- Characters and faults account for bytes: a character for those that encode it, and a
    fault for one or more. -/
inductive Accounts : List (Option Char) → Bytes → Prop where
  | ended : Accounts [] []
  | character {rs : List (Option Char)} {rest : Bytes} (c : Char) (hrest : Accounts rs rest) :
      Accounts (some c :: rs) (String.utf8EncodeChar c ++ rest)
  | fault {rs : List (Option Char)} {rest : Bytes} (bytes : Bytes) (hne : bytes ≠ [])
      (hrest : Accounts rs rest) :
      Accounts (none :: rs) (bytes ++ rest)

/-- A byte that is a character by itself encodes it. -/
theorem utf8EncodeChar_of_whole {b : UInt8} {c : Char} (h : Lead.ofByte b = .whole c) :
    String.utf8EncodeChar c = [b] := by
  have hlt : b.toNat < 0x80 := by
    -- Each of the other bytes opens a character or is a fault.
    by_contra hlarge
    unfold Lead.ofByte at h
    have hhigh : ¬ b < 0x80 := by rwa [UInt8.lt_iff_toNat_lt]
    dsimp only at h
    rw [if_neg hhigh] at h
    split_ifs at h
  have hlead := Lead.ofByte_of_lt hlt
  rw [UInt8.ofNat_toNat, h] at hlead
  have hval := val_ofNat (n := b.toNat) (Or.inl (by omega))
  unfold String.utf8EncodeChar
  simp only [Lead.whole.inj hlead, hval]
  rw [if_pos (by omega), UInt8.ofNat_toNat]

/-- A character that breaks off is a fault, and what broke it off is looked at afresh. -/
theorem scanFrom_of_not_admits {o : Opened} {b : UInt8} (h : o.admits b = false) (rest : Bytes) :
    scanFrom (some o) (b :: rest) = none :: scanFrom none (b :: rest) := by
  simp only [scanFrom, h]
  cases Lead.ofByte b <;> simp

/-- The scan accounts for all bytes, and from inside a character it accounts for those of
    the character as well. -/
theorem accounts_scanFrom (bytes : Bytes) :
    Accounts (scanFrom none bytes) bytes ∧
      ∀ o seen, seen ≠ [] → Opened.Completes seen o o.missing →
        Accounts (scanFrom (some o) bytes) (seen ++ bytes) := by
  -- A character may be begun or be complete at any byte, so both parts need each other.
  induction bytes with
  | nil => exact ⟨.ended, fun o seen hne _ => .fault seen hne .ended⟩
  | cons b rest ih =>
      rcases ih with ⟨hbetween, hinside⟩
      have hafresh : Accounts (scanFrom none (b :: rest)) (b :: rest) := by
        rw [scanFrom]
        cases hlead : Lead.ofByte b with
        | whole c =>
            have haccounts := Accounts.character c hbetween
            rwa [utf8EncodeChar_of_whole hlead] at haccounts
        | opening o =>
            exact hinside o [b] (List.cons_ne_nil b []) (Opened.completes_of_ofByte hlead)
        | fault => exact .fault [b] (List.cons_ne_nil b []) hbetween
      refine ⟨hafresh, fun o seen hne hcompletes => ?_⟩
      cases hadmits : o.admits b with
      | false =>
          rw [scanFrom_of_not_admits hadmits]
          exact .fault seen hne hafresh
      | true =>
          rw [scanFrom, if_pos hadmits, List.append_cons]
          cases hmissing : o.missing with
          | zero =>
              -- The byte is the last one of the character.
              rw [hmissing] at hcompletes
              have haccounts := Accounts.character (Char.ofNat (o.extend b)) hbetween
              rwa [hcompletes b hadmits] at haccounts
          | succ m =>
              rw [hmissing] at hcompletes
              exact hinside ⟨o.extend b, m, 0x80, 0xBF, by decide⟩ (seen ++ [b]) (by simp)
                (hcompletes b hadmits)

/-- The scan accounts for all bytes. -/
theorem accounts_scan (bytes : Bytes) : Accounts (scan bytes) bytes :=
  (accounts_scanFrom bytes).1

/-- The bytes of a character are among those that it accounts for. -/
theorem Accounts.subset {rs : List (Option Char)} {bytes : Bytes} (h : Accounts rs bytes) {c : Char}
    (hc : some c ∈ rs) : String.utf8EncodeChar c ⊆ bytes := by
  induction h with
  | ended => cases hc
  | @character rs rest d hrest ih =>
      rcases List.mem_cons.1 hc with heq | hmem
      · rw [Option.some.inj heq]
        exact List.subset_append_left _ _
      · exact List.Subset.trans (ih hmem) (List.subset_append_right _ _)
  | @fault rs rest seen hne hrest ih =>
      have hmem := (List.mem_cons.1 hc).resolve_left (by simp)
      exact List.Subset.trans (ih hmem) (List.subset_append_right _ _)

/-- The last character accounts for the last bytes. -/
theorem Accounts.suffix {rs : List (Option Char)} {bytes : Bytes} (h : Accounts rs bytes) {c : Char}
    (hc : rs.getLast? = some (some c)) : String.utf8EncodeChar c <:+ bytes := by
  induction h with
  | ended => cases hc
  | @character rs rest d hrest ih =>
      -- The last record is the character itself, which ends the bytes.
      by_cases hrs : rs = []
      · subst hrs
        cases hrest
        obtain rfl : d = c := by simpa using hc
        simp
      · rw [List.getLast?_cons_of_ne_nil hrs] at hc
        exact (ih hc).trans (List.suffix_append _ _)
  | @fault rs rest seen hne hrest ih =>
      -- A fault is not the character, so there are records behind it.
      have hrs : rs ≠ [] := by
        rintro rfl
        simp at hc
      rw [List.getLast?_cons_of_ne_nil hrs] at hc
      exact (ih hc).trans (List.suffix_append _ _)

theorem toList_decodeLossy (bytes : Bytes) :
    (decodeLossy bytes).toList = (scan bytes).map (·.getD '\uFFFD') :=
  String.toList_ofList

/-- A character that is no replacement comes from the scan. -/
theorem map_getD_eq_some {r : Option (Option Char)} {c : Char} (hc : c ≠ '\uFFFD')
    (h : r.map (·.getD '\uFFFD') = some c) : r = some (some c) := by
  rcases r with _ | _ | d
  · cases h
  · exact absurd (Option.some.inj h).symm hc
  · exact congrArg (some ∘ some) (Option.some.inj h)

section Ascii

variable {b : UInt8} (hb : b < 0x80)
include hb

theorem utf8EncodeChar_ofNat : String.utf8EncodeChar (Char.ofNat b.toNat) = [b] :=
  utf8EncodeChar_of_whole (if_pos hb)

theorem ofNat_ne_replacement : Char.ofNat b.toNat ≠ '\uFFFD' := by
  intro heq
  have hbytes := utf8EncodeChar_ofNat hb
  rw [heq] at hbytes
  have hlength := congrArg List.length hbytes
  rw [List.length_singleton] at hlength
  exact absurd hlength (by decide)

/-- Such a character stands in the text only where its byte stands. -/
theorem mem_of_mem_decodeLossy {bytes : Bytes}
    (h : Char.ofNat b.toNat ∈ (decodeLossy bytes).toList) : b ∈ bytes := by
  rw [toList_decodeLossy] at h
  obtain ⟨r, hr, hc⟩ := List.mem_map.1 h
  -- The character is no replacement, so it was read and does not stand for a fault.
  have hsome : some r = some (some (Char.ofNat b.toNat)) :=
    map_getD_eq_some (ofNat_ne_replacement hb) (congrArg some hc)
  rw [Option.some.inj hsome] at hr
  have hsub := (accounts_scan bytes).subset hr
  rw [utf8EncodeChar_ofNat hb] at hsub
  exact hsub List.mem_cons_self

theorem decodeLossy_append_cons (before after : Bytes) :
    (decodeLossy (before ++ b :: after)).toList
      = (decodeLossy before).toList ++ Char.ofNat b.toNat :: (decodeLossy after).toList := by
  simp only [toList_decodeLossy, scan_append_cons hb, List.map_append, List.map_cons,
    Option.getD_some]

/-- Such a byte ends the bytes just where its character ends the text. -/
theorem getLast?_toList_decodeLossy {bytes : Bytes} :
    (decodeLossy bytes).toList.getLast? = some (Char.ofNat b.toNat) ↔ bytes.getLast? = some b := by
  constructor
  · intro h
    rw [toList_decodeLossy, List.getLast?_map] at h
    have hlast := map_getD_eq_some (ofNat_ne_replacement hb) h
    obtain ⟨front, rfl⟩ := (accounts_scan bytes).suffix hlast
    rw [utf8EncodeChar_ofNat hb, List.getLast?_concat]
  · intro h
    obtain ⟨front, rfl⟩ := List.getLast?_eq_some_iff.1 h
    rw [decodeLossy_append_cons hb, List.getLast?_append]
    rfl

end Ascii

end Text

end CommandShell
