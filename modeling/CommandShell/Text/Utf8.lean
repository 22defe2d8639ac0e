/-!
# Reading UTF-8

Bytes come from pipes and files and need not be UTF-8. Two readers are
wanted: one that refuses a text with any fault, for startup files, and one
that never fails and puts the replacement character U+FFFD where the bytes
make no sense, for everything that is typed. Both are views of one scan,
which gives a character or a fault at each place.

A fault is a *maximal* sequence of bytes that begins some character but is not
continued as one, or a single byte that begins none. The scan therefore keeps
the part of a character that it has seen, with the bounds of the byte that
may come next: after a first byte such as `E0` they are narrower than for a
continuation in general, which rules out overlong forms, surrogates and
numbers past `10FFFF` at the earliest byte. A byte outside the bounds ends
the fault before it and is then looked at afresh.

## Main definitions

* `Opened`: A character of which the first bytes have been seen.
* `Lead`: What a byte at the start of a character can be.
* `scan`: The characters and faults of a byte sequence.
* `decodeLossy`: The text with U+FFFD for each fault.
* `decode?`: The text, if there is no fault.

## Theorems

* `scan_append_cons`: A byte without its high bit, such as a newline, ends any
  character, so scanning goes line by line.
* `decode?_eq_some`: Where the strict reader succeeds, the other one agrees.
-/

namespace CommandShell

namespace Text

/-- Bytes as they come from a file or a pipe. -/
abbrev Bytes := List UInt8

/-- A character of several bytes that has been begun: the bits seen so far, how many bytes
    are missing after the next one, and the bounds of the next. Only a byte with its high
    bit set can come next. -/
structure Opened where
  bits : Nat
  missing : Nat
  low : UInt8
  high : UInt8
  low_ge : 0x80 ≤ low
deriving DecidableEq

/-- The role of a byte that does not continue a character. -/
inductive Lead where
  /-- A character of one byte. -/
  | whole (c : Char)
  /-- The first byte of a longer character. -/
  | opening (o : Opened)
  /-- A byte that begins no character. -/
  | fault
deriving DecidableEq

/-- The role of a byte at the start of a character. -/
def Lead.ofByte (b : UInt8) : Lead :=
  let n := b.toNat
  if b < 0x80 then .whole (Char.ofNat n)
  else if b < 0xC2 then .fault
  else if b < 0xE0 then .opening ⟨n - 0xC0, 0, 0x80, 0xBF, by decide⟩
  else if b = 0xE0 then .opening ⟨0, 1, 0xA0, 0xBF, by decide⟩
  else if b = 0xED then .opening ⟨0xD, 1, 0x80, 0x9F, by decide⟩
  else if b < 0xF0 then .opening ⟨n - 0xE0, 1, 0x80, 0xBF, by decide⟩
  else if b = 0xF0 then .opening ⟨0, 2, 0x90, 0xBF, by decide⟩
  else if b < 0xF4 then .opening ⟨n - 0xF0, 2, 0x80, 0xBF, by decide⟩
  else if b = 0xF4 then .opening ⟨4, 2, 0x80, 0x8F, by decide⟩
  else .fault

/-- Whether a byte may come next in a character that has been begun. -/
def Opened.admits (o : Opened) (b : UInt8) : Bool :=
  o.low ≤ b && b ≤ o.high

/-- The bits seen once an admitted byte has been added. -/
def Opened.extend (o : Opened) (b : UInt8) : Nat :=
  o.bits * 64 + (b.toNat - 0x80)

/-- The scan from inside a character (`some o`) or from between characters (`none`); a
    fault is written `none`. -/
def scanFrom : Option Opened → Bytes → List (Option Char)
  | none, [] => []
  | some _, [] => [none]
  | none, b :: rest =>
      match Lead.ofByte b with
      | .whole c => some c :: scanFrom none rest
      | .opening o => scanFrom (some o) rest
      | .fault => none :: scanFrom none rest
  | some o, b :: rest =>
      if o.admits b then
        -- The bounds are narrower than usual for the second byte only.
        match o.missing with
        | 0 => some (Char.ofNat (o.extend b)) :: scanFrom none rest
        | m + 1 => scanFrom (some ⟨o.extend b, m, 0x80, 0xBF, by decide⟩) rest
      else
        -- The character breaks off here, and the byte is looked at afresh.
        match Lead.ofByte b with
        | .whole c => none :: some c :: scanFrom none rest
        | .opening p => none :: scanFrom (some p) rest
        | .fault => none :: none :: scanFrom none rest

/-- The characters of a byte sequence, `none` for each fault. -/
def scan (bytes : Bytes) : List (Option Char) :=
  scanFrom none bytes

/-- The text of a byte sequence, with U+FFFD in place of each fault. -/
def decodeLossy (bytes : Bytes) : String :=
  String.ofList ((scan bytes).map (·.getD '\uFFFD'))

/-- The text of a byte sequence, if it is UTF-8 throughout. -/
def decode? (bytes : Bytes) : Option String :=
  if (scan bytes).all Option.isSome then some (decodeLossy bytes) else none

/-- The bytes of a text. -/
def encode (s : String) : Bytes :=
  s.toUTF8.toList

/-- No character that has been begun is continued by a byte without its high bit. -/
theorem Opened.not_admits_of_lt (o : Opened) {b : UInt8} (hb : b < 0x80) : o.admits b = false := by
  have : ¬ o.low ≤ b := fun hlow => UInt8.not_lt.2 (UInt8.le_trans o.low_ge hlow) hb
  simp [Opened.admits, this]

theorem scanFrom_append_cons {b : UInt8} (hb : b < 0x80) (state : Option Opened)
    (before after : Bytes) :
    scanFrom state (before ++ b :: after)
      = scanFrom state before ++ some (Char.ofNat b.toNat) :: scanFrom none after := by
  have hlead : Lead.ofByte b = .whole (Char.ofNat b.toNat) := if_pos hb
  induction before generalizing state with
  | nil =>
      cases state with
      | none => simp [scanFrom, hlead]
      | some o => simp [scanFrom, o.not_admits_of_lt hb, hlead]
  | cons d rest ih =>
      cases state with
      | none =>
          simp only [List.cons_append, scanFrom]
          cases Lead.ofByte d <;> simp [ih]
      | some o =>
          simp only [List.cons_append, scanFrom]
          split
          · cases o.missing <;> simp [ih]
          · cases Lead.ofByte d <;> simp [ih]

/-- A byte without its high bit is a character by itself and ends whatever stands before
    it, so a text can be scanned line by line. -/
theorem scan_append_cons {b : UInt8} (hb : b < 0x80) (before after : Bytes) :
    scan (before ++ b :: after) = scan before ++ some (Char.ofNat b.toNat) :: scan after :=
  scanFrom_append_cons hb none before after

theorem decode?_eq_some {bytes : Bytes} {s : String} (h : decode? bytes = some s) :
    decodeLossy bytes = s := by
  unfold decode? at h
  split at h
  · exact Option.some.inj h
  · simp at h

end Text

end CommandShell
