import CommandShell.Builtin.Run
import CommandShell.Proofs.Decoding

/-!
# Exit Codes Are Decimal Residues

The word behind `exit` may be a number of any length, and only its residue modulo 256 is
kept. The residue is not taken of the number, which may be too large to be held, but anew
behind each digit. That the two agree is an induction on the digits whose invariant is the
residue of the number read so far.

The invariant is also what makes machine words large enough. A shell reckons in signed
words of 32 bits and looks at bytes, not at characters. Both could make a difference: a
product or a sum could be too large for a word, and a character outside ASCII is several
bytes. What keeps the first from happening is that there are never more than 255 to be
multiplied by ten. The second does no harm, since the last byte of such a character is no
digit.

## Main definitions

* `IsNumber`, `numberOf`: A word of decimal digits, and the number that it writes.
* `word?`: A number as a machine word, if it fits.
* `addDigit?`: One digit more, in machine words.
* `codeInWords?`: The code that some bytes mean, reckoned in machine words.

## Theorems

* `decimalResidue_eq`: The residue that is taken digit by digit is that of the number.
* `exitCode?_eq`: The words that mean a code, and which one.
* `codeInWords?_encode`: Reckoning in machine words comes to the same.
* `exits_with_residue`: What `exit` does with a word.
-/

namespace CommandShell

open Text

namespace Builtin

/-- A word is a decimal number: there is something in it, and nothing but digits. -/
structure IsNumber (word : String) : Prop where
  ne_empty : word ≠ ""
  digits : ∀ c ∈ word.toList, '0'.toNat ≤ c.toNat ∧ c.toNat ≤ '9'.toNat

theorem isNumber_iff {word : String} :
    IsNumber word ↔ (word ≠ "" && word.toList.all Char.isDigit) = true := by
  rw [Bool.and_eq_true, decide_eq_true_eq, List.all_eq_true]
  constructor
  · intro h
    exact ⟨h.ne_empty, fun c hc => Char.isDigit_iff_toNat.2 (h.digits c hc)⟩
  · intro h
    exact ⟨h.1, fun c hc => Char.isDigit_iff_toNat.1 (h.2 c hc)⟩

instance (word : String) : Decidable (IsNumber word) :=
  decidable_of_iff _ isNumber_iff.symm

/-- The number that a word writes in decimal digits. -/
def numberOf (word : String) : Nat :=
  Nat.ofDigitChars 10 word.toList 0

/-! ### The residue of a number -/

/-- The residue behind some digits depends only on the residue before them. -/
theorem foldl_residue (digits : List Char) (n : Nat) :
    digits.foldl (fun value c => (value * 10 + digitValue c) % 256) (n % 256) =
      Nat.ofDigitChars 10 digits n % 256 := by
  induction digits generalizing n with
  | nil => rfl
  | cons c rest ih =>
      -- The residue of the number behind the digit is that of its residue before.
      have hstep : (n % 256 * 10 + digitValue c) % 256 = (10 * n + digitValue c) % 256 := by
        omega
      rw [List.foldl_cons, hstep, ih, Nat.ofDigitChars_cons]
      rfl

/-- The residue that is taken digit by digit is that of the number. -/
theorem decimalResidue_eq (digits : List Char) :
    decimalResidue digits = Nat.ofDigitChars 10 digits 0 % 256 :=
  foldl_residue digits 0

/-- The words that mean a code are the numbers, and the code is the residue. -/
theorem exitCode?_eq (word : String) :
    exitCode? word =
      if IsNumber word then some (numberOf word % 256) else none := by
  unfold exitCode?
  by_cases hnumber : IsNumber word
  · rw [if_pos (isNumber_iff.1 hnumber), if_pos hnumber, decimalResidue_eq, numberOf]
  · rw [if_neg (mt isNumber_iff.2 hnumber), if_neg hnumber]

/-! ### Reckoning in machine words -/

/-- A number as a signed word of 32 bits, if it fits into one. -/
def word? (n : Int) : Option Int32 :=
  if -0x80000000 ≤ n ∧ n < 0x80000000 then some (Int32.ofInt n) else none

/-- Whether a byte is a decimal digit. -/
def isDigitByte (b : UInt8) : Bool :=
  0x30 ≤ b && b ≤ 0x39

/-- The value of a byte above that of the digit zero, if it is not below it. -/
def digit? (b : UInt8) : Option UInt8 :=
  if 0x30 ≤ b then some (b - 0x30) else none

/-- One digit more: the code times ten, then the sum, then the residue. There is nothing
    if one of these does not fit into a word. -/
def addDigit? (code : Int32) (b : UInt8) : Option Int32 := do
  let tens ← word? (code.toInt * 10)
  let digit ← digit? b
  let sum ← word? (tens.toInt + digit.toNat)
  return sum % 256

/-- The code that some bytes mean, reckoned in machine words. There is nothing if that
    cannot be done, and nothing within if they mean none. -/
def codeInWords? (bytes : Bytes) : Option (Option Int32) :=
  if bytes ≠ [] && bytes.all isDigitByte then (bytes.foldlM addDigit? 0).map some
  else some none

/-- The byte of a digit. -/
def digitByte (c : Char) : UInt8 :=
  UInt8.ofNat c.toNat

theorem toNat_of_isDigit {c : Char} (h : c.isDigit = true) :
    digitValue c < 10 ∧ c.toNat = digitValue c + 0x30 := by
  obtain ⟨hlow, hhigh⟩ := Char.isDigit_iff_toNat.1 h
  have hzero : '0'.toNat = 0x30 := rfl
  have hnine : '9'.toNat = 0x39 := rfl
  unfold digitValue
  omega

theorem word?_of_lt {n : Nat} (h : n < 0x80000000) : word? n = some (Int32.ofNat n) := by
  have hlow : -0x80000000 ≤ (n : Int) := by omega
  have hhigh : (n : Int) < 0x80000000 := by omega
  rw [word?, if_pos ⟨hlow, hhigh⟩, Int32.ofInt_eq_ofNat]

/-- The remainder of a word that is not negative is that of the number. -/
theorem ofNat_mod {n : Nat} (h : n < 0x80000000) :
    Int32.ofNat n % 256 = Int32.ofNat (n % 256) := by
  have hmodulus : (256 : Int32).toInt = 256 := by decide
  have hremainder : n % 256 < 0x80000000 := by omega
  rw [← Int32.toInt_inj, Int32.toInt_mod, hmodulus, Int32.toInt_ofNat_of_lt h,
    Int32.toInt_ofNat_of_lt hremainder, Int.tmod_eq_emod_of_nonneg (Int.natCast_nonneg n)]
  rfl

/-- The bytes of the ten digits. -/
theorem digit?_ofNat : ∀ n < 10, digit? (UInt8.ofNat (n + 0x30)) = some (UInt8.ofNat n) := by
  decide

theorem digit?_digitByte {c : Char} (h : c.isDigit = true) :
    digit? (digitByte c) = some (UInt8.ofNat (digitValue c)) := by
  obtain ⟨hdigit, hchar⟩ := toNat_of_isDigit h
  rw [digitByte, hchar]
  exact digit?_ofNat (digitValue c) hdigit

/-- A code that is a residue takes one digit more, and neither the product nor the sum is
    too large for a word. -/
theorem addDigit?_digitByte {code : Nat} (hcode : code < 256) {c : Char}
    (h : c.isDigit = true) :
    addDigit? (Int32.ofNat code) (digitByte c) =
      some (Int32.ofNat ((code * 10 + digitValue c) % 256)) := by
  have hdigit : digitValue c < 10 := (toNat_of_isDigit h).1
  have hbyte : (UInt8.ofNat (digitValue c)).toNat = digitValue c :=
    UInt8.toNat_ofNat_of_lt' (show digitValue c < 2 ^ 8 by omega)
  have htens : word? ((Int32.ofNat code).toInt * 10) = some (Int32.ofNat (code * 10)) := by
    rw [Int32.toInt_ofNat_of_lt (by omega)]
    exact word?_of_lt (n := code * 10) (by omega)
  have hsum : word? ((Int32.ofNat (code * 10)).toInt + (digitValue c : Nat)) =
      some (Int32.ofNat (code * 10 + digitValue c)) := by
    rw [Int32.toInt_ofNat_of_lt (by omega)]
    exact word?_of_lt (n := code * 10 + digitValue c) (by omega)
  -- With the intermediate results known, only the residue is left to be taken.
  rw [addDigit?, htens, digit?_digitByte h]
  simp only [Option.bind_eq_bind, Option.bind_some, hbyte, hsum]
  rw [ofNat_mod (by omega)]
  rfl

/-- So digits are taken one after the other, as many as there are. -/
theorem foldlM_addDigit? {code : Nat} (hcode : code < 256) {digits : List Char}
    (h : ∀ c ∈ digits, c.isDigit = true) :
    (digits.map digitByte).foldlM addDigit? (Int32.ofNat code) = some (Int32.ofNat
      (digits.foldl (fun value c => (value * 10 + digitValue c) % 256) code)) := by
  induction digits generalizing code with
  | nil => rfl
  | cons c rest ih =>
      obtain ⟨hc, hrest⟩ := List.forall_mem_cons.1 h
      -- A digit keeps the code below 256, so the next one is added without overflow.
      rw [List.map_cons, List.foldlM_cons, addDigit?_digitByte hcode hc]
      exact ih (Nat.mod_lt _ (by decide)) hrest

/-! ### Bytes and characters -/

theorem isDigitByte_iff {b : UInt8} :
    isDigitByte b = true ↔ 0x30 ≤ b.toNat ∧ b.toNat ≤ 0x39 := by
  simp [isDigitByte, UInt8.le_iff_toNat_le]

/-- A digit is one byte. -/
theorem utf8EncodeChar_of_isDigit {c : Char} (h : c.isDigit = true) :
    String.utf8EncodeChar c = [digitByte c] := by
  have hhigh : c.val.toNat ≤ 0x39 := (Char.isDigit_iff_toNat.1 h).2
  exact if_pos (show c.val.toNat ≤ 127 by omega)

/-- Where the bytes of a character are all digits, so is the character. -/
theorem isDigit_of_isDigitByte {c : Char}
    (h : ∀ b ∈ String.utf8EncodeChar c, isDigitByte b = true) : c.isDigit = true := by
  have hvalue : c.val.toNat = c.toNat := rfl
  unfold String.utf8EncodeChar at h
  simp only [hvalue] at h
  -- A character below 128 is one byte, which is the character itself.
  by_cases hascii : c.toNat ≤ 127
  · rw [if_pos hascii, List.forall_mem_singleton, isDigitByte_iff,
      UInt8.toNat_ofNat_of_lt' (show c.toNat < 2 ^ 8 by omega)] at h
    exact Char.isDigit_iff_toNat.2 h
  · -- However many bytes there are, the last one is past all digits.
    have hlast : isDigitByte (UInt8.ofNat (c.toNat % 64 + 128)) = true := by
      rw [if_neg hascii] at h
      split at h
      · exact h _ (by simp)
      · split at h <;> exact h _ (by simp)
    rw [isDigitByte_iff, UInt8.toNat_ofNat_of_lt' (show c.toNat % 64 + 128 < 2 ^ 8 by omega)]
      at hlast
    omega

theorem encodeChars_of_isDigit {digits : List Char} (h : ∀ c ∈ digits, c.isDigit = true) :
    encodeChars digits = digits.map digitByte := by
  induction digits with
  | nil => rfl
  | cons c rest ih =>
      obtain ⟨hc, hrest⟩ := List.forall_mem_cons.1 h
      rw [encodeChars, List.flatMap_cons, utf8EncodeChar_of_isDigit hc, ← encodeChars, ih hrest]
      rfl

/-- Looking at bytes and looking at characters accepts the same words. -/
theorem all_isDigitByte_iff {cs : List Char} :
    (∀ b ∈ encodeChars cs, isDigitByte b = true) ↔ ∀ c ∈ cs, c.isDigit = true := by
  constructor
  · intro h c hc
    exact isDigit_of_isDigitByte fun b hb => h b (List.mem_flatMap.2 ⟨c, hc, hb⟩)
  · intro h b hb
    -- A digit is encoded in one byte.
    obtain ⟨c, hc, hbyte⟩ := List.mem_flatMap.1 hb
    rw [utf8EncodeChar_of_isDigit (h c hc), List.mem_singleton] at hbyte
    obtain ⟨hdigit, hchar⟩ := toNat_of_isDigit (h c hc)
    rw [hbyte, isDigitByte_iff, digitByte,
      UInt8.toNat_ofNat_of_lt' (show c.toNat < 2 ^ 8 by omega)]
    omega

/-- Reckoning in machine words on the bytes of a word can always be done, and it comes to
    the same as with numbers and characters. -/
theorem codeInWords?_encode (word : String) :
    codeInWords? (encode word) =
      some (if IsNumber word then some (Int32.ofNat (numberOf word % 256)) else none) := by
  have hempty : encode word = [] ↔ word = "" := by
    rw [← List.length_eq_zero_iff, length_encode, String.utf8ByteSize_eq_zero_iff]
  have hall : (encode word).all isDigitByte = word.toList.all Char.isDigit := by
    rw [Bool.eq_iff_iff, List.all_eq_true, List.all_eq_true, encode_eq, all_isDigitByte_iff]
  -- The program asks for a word of digits, and tells this from the bytes.
  have haccepted : (encode word ≠ [] && (encode word).all isDigitByte) = true ↔
      IsNumber word := by
    rw [isNumber_iff, hall]
    simp only [ne_eq, hempty]
  by_cases hnumber : IsNumber word
  · have hdigits : ∀ c ∈ word.toList, c.isDigit = true := fun c hc =>
      Char.isDigit_iff_toNat.2 (hnumber.digits c hc)
    have hfold : (encode word).foldlM addDigit? 0 =
        some (Int32.ofNat (numberOf word % 256)) := by
      rw [encode_eq, encodeChars_of_isDigit hdigits, numberOf, ← decimalResidue_eq]
      exact foldlM_addDigit? (by decide) hdigits
    rw [codeInWords?, if_pos (haccepted.2 hnumber), if_pos hnumber, hfold]
    rfl
  · rw [codeInWords?, if_neg (mt haccepted.1 hnumber), if_neg hnumber]

/-! ### What `exit` does -/

/-- A number as it is written, with some zeros in front. -/
def written (zeros n : Nat) : String :=
  String.ofList (List.replicate zeros '0' ++ Nat.toDigits 10 n)

/-- Every number is written as one, whatever zeros are in front of it. -/
theorem isNumber_written (zeros n : Nat) : IsNumber (written zeros n) := by
  have hdigits : ∀ c ∈ (written zeros n).toList, c.isDigit = true := by
    intro c hc
    rw [written, String.toList_ofList] at hc
    -- The digits are zeros in front and those of the number behind them.
    rcases List.mem_append.1 hc with hzero | hdigit
    · rw [List.eq_of_mem_replicate hzero]
      decide
    · exact Nat.isDigit_of_mem_toDigits (by decide) (by decide) hdigit
  rw [isNumber_iff, Bool.and_eq_true, decide_eq_true_eq, List.all_eq_true]
  refine ⟨fun hempty => ?_, hdigits⟩
  rw [written, String.ofList_eq_empty_iff, List.append_eq_nil_iff] at hempty
  exact Nat.toDigits_ne_nil hempty.2

theorem numberOf_written (zeros n : Nat) : numberOf (written zeros n) = n := by
  rw [numberOf, written, String.toList_ofList, Nat.ofDigitChars_append,
    Nat.ofDigitChars_replicate_zero, Nat.mul_zero,
    Nat.ofDigitChars_toDigits (by decide) (by decide)]

/-- The session is asked to end with a code, which is the status as well. -/
def leaveWith (s : Session) (code : Nat) : Session × Int :=
  ({ s with state.exitRequest := some code }, code)

theorem run_exit (m : Machine) (s : Session) (word : String) (more : List String) :
    Builtin.exit.run m (word :: more) s =
      if IsNumber word then leaveWith s (numberOf word % 256)
      else (s.complain ("Illegal number: " ++ word), 2) := by
  unfold run
  rw [execute, runExit, exitCode?_eq]
  by_cases hnumber : IsNumber word
  · simp only [if_pos hnumber]
    rfl
  · simp only [if_neg hnumber]
    rfl

theorem execute_exit_eq_ok_iff (m : Machine) (s : Session) (word : String)
    (more : List String) :
    (∃ status, (Builtin.exit.execute m (word :: more) s).2 = .ok status) ↔ IsNumber word := by
  rw [execute, runExit, exitCode?_eq]
  by_cases hnumber : IsNumber word
  · simp only [if_pos hnumber]
    exact iff_of_true ⟨_, rfl⟩ hnumber
  · simp only [if_neg hnumber]
    refine iff_of_false ?_ hnumber
    rintro ⟨status, hok⟩
    cases hok

/-- `exit` accepts a word exactly if it is a decimal number. Then the session is asked to
    end with the residue of the number modulo 256, which is the status as well. Any other
    word is complained of, the status is 2, and nothing is asked for. A number may have
    any length and any zeros in front. The same code comes of reckoning with the bytes of
    the word in signed words of 32 bits, and every intermediate result fits into one. -/
theorem exits_with_residue (m : Machine) (s : Session) (word : String) (more : List String) :
    ((∃ status, (Builtin.exit.execute m (word :: more) s).2 = .ok status) ↔ IsNumber word) ∧
    Builtin.exit.run m (word :: more) s =
      (if IsNumber word then leaveWith s (numberOf word % 256)
      else (s.complain ("Illegal number: " ++ word), 2)) ∧
    (Builtin.exit.run m (word :: more) s).1.state.exitRequest =
      (if IsNumber word then some ↑(numberOf word % 256) else s.state.exitRequest) ∧
    (∀ zeros n : Nat, Builtin.exit.run m (written zeros n :: more) s = leaveWith s (n % 256)) ∧
    codeInWords? (encode word) =
      some (if IsNumber word then some (Int32.ofNat (numberOf word % 256)) else none) := by
  refine ⟨execute_exit_eq_ok_iff m s word more, run_exit m s word more, ?_, fun zeros n => ?_,
    codeInWords?_encode word⟩
  · rw [run_exit]
    by_cases hnumber : IsNumber word
    · rw [if_pos hnumber, if_pos hnumber]
      rfl
    · -- A complaint leaves the state as it is.
      rw [if_neg hnumber, if_neg hnumber]
      rfl
  · rw [run_exit, if_pos (isNumber_written zeros n), numberOf_written]

/-- A sign, a space or a digit outside ASCII makes a word no number, and zeros in front
    change nothing. -/
example : exitCode? "+7" = none ∧ exitCode? "7 " = none ∧ exitCode? "٧" = none ∧
    exitCode? "" = none ∧ exitCode? "0000000000000256" = some 0 := by
  decide +kernel

end Builtin

end CommandShell
