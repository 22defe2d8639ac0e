import CommandShell.Text.Grapheme.Class

/-!
# Graphemes

A text is cut into graphemes, the units that a reader sees as characters,
by the rules for extended grapheme clusters of Unicode. Whether there is a
boundary before a character depends on its class and on what stands before
it. Three rules look further back than one character: flags are made of
letters in pairs, emoji are joined over any marks between them, and consonants
over any marks that come with a virama. What those rules need is carried
along while the text is read.

A line that was typed on a plain terminal may still hold the backspaces that
were typed. Each takes away the grapheme before it, or rather as many bytes as
that grapheme takes, a number that is kept in one byte: of a grapheme of 256
bytes or more only a part goes.

## Main definitions

* `Seen`: What has to be known of the text before a boundary.
* `Seen.joins`: Whether there is no boundary before the next character.
* `graphemes`: The graphemes of a text.
* `Draft`: A text that is being typed.
* `applyBackspaces`: A text once its backspaces have taken effect.

## Theorems

* `flatten_graphemes`: The graphemes make up the text.
* `type_backspace`: A backspace undoes a grapheme that is not too long.
-/

namespace CommandShell

namespace Text

/-- The state of a conjunct of consonants. -/
inductive Conjunct where
  | outside
  /-- After a consonant and marks without a virama. -/
  | begun
  /-- After a consonant and marks with a virama. -/
  | linked
deriving DecidableEq

/-- What has to be known of the text before a boundary. -/
structure Seen where
  /-- The class of the last character. -/
  last : BreakClass
  /-- The text ends in an emoji and marks. -/
  emoji : Bool
  /-- The text ends in an emoji, marks and a joiner. -/
  joined : Bool
  /-- The text ends in an odd number of letters for flags. -/
  halfFlag : Bool
  conjunct : Conjunct
deriving DecidableEq

/-- Before the text. -/
def Seen.nothing : Seen :=
  ⟨.control, false, false, false, .outside⟩

/-- What is known once a character of class `k` has been read. -/
def Seen.advance (s : Seen) (k : BreakClass) : Seen :=
  { last := k
    emoji := k = .pictograph || (s.emoji && (k = .extend || k = .virama || k = .nonJoiner))
    joined := s.emoji && k = .joiner
    halfFlag := k = .regional && !s.halfFlag
    conjunct :=
      match k with
      | .consonant => .begun
      | .virama => if s.conjunct = .outside then .outside else .linked
      | .extend | .joiner => s.conjunct
      | _ => .outside }

/-- Whether a character of class `k` belongs to the grapheme before it. -/
def Seen.joins (s : Seen) (k : BreakClass) : Bool :=
  match s.last, k with
  | .carriageReturn, .newline => true
  -- The ends of lines and other controls stand alone on both sides.
  | .control, _ | .carriageReturn, _ | .newline, _ => false
  | _, .control | _, .carriageReturn | _, .newline => false
  | _, .extend | _, .virama | _, .nonJoiner | _, .joiner | _, .spacingMark => true
  | .prepend, _ => true
  -- A syllable is a run of leads, then of vowels, then of tails.
  | .hangulLead, .hangulLead | .hangulLead, .hangulVowel => true
  | .hangulLead, .hangulOpen | .hangulLead, .hangulClosed => true
  | .hangulOpen, .hangulVowel | .hangulOpen, .hangulTail => true
  | .hangulVowel, .hangulVowel | .hangulVowel, .hangulTail => true
  | .hangulClosed, .hangulTail | .hangulTail, .hangulTail => true
  -- The rules that look further back than one character.
  | _, .consonant => s.conjunct = .linked
  | _, .pictograph => s.joined
  | _, .regional => s.halfFlag
  | _, _ => false

/-- The rest of the grapheme that has been begun, and the graphemes after it. -/
def graphemesFrom (s : Seen) : List Char → List Char × List (List Char)
  | [] => ([], [])
  | c :: rest =>
      let k := BreakClass.ofChar c
      let (inside, after) := graphemesFrom (s.advance k) rest
      if s.joins k then (c :: inside, after) else ([], (c :: inside) :: after)

/-- The graphemes of a text. -/
def graphemes (cs : List Char) : List (List Char) :=
  (graphemesFrom Seen.nothing cs).2

/-- A text that is being typed. -/
structure Draft where
  /-- The characters so far, last one first. -/
  kept : List Char
  /-- The sizes in bytes of the graphemes so far, last one first. A size is kept in one
      byte, so only its residue is known. -/
  sizes : List UInt8

/-- Before anything has been typed. -/
def Draft.empty : Draft :=
  ⟨[], []⟩

/-- The number of bytes of some characters. -/
def byteSize (cs : List Char) : Nat :=
  cs.foldr (fun c size => c.utf8Size + size) 0

/-- Characters without the first ones, which take `n` bytes. -/
def dropBytes : Nat → List Char → List Char
  | _, [] => []
  | n, c :: rest => if n = 0 then c :: rest else dropBytes (n - c.utf8Size) rest

/-- The text once a grapheme more has been typed; a backspace takes away as many bytes as
    the size of the last one says. -/
def Draft.type (d : Draft) (g : List Char) : Draft :=
  if g = ['\x08'] then
    match d.sizes with
    | [] => d
    | n :: sizes => ⟨dropBytes n.toNat d.kept, sizes⟩
  else ⟨g.reverse ++ d.kept, (byteSize g).toUInt8 :: d.sizes⟩

/-- A text once its backspaces have taken effect. -/
def applyBackspaces (s : String) : String :=
  String.ofList ((graphemes s.toList).foldl Draft.type Draft.empty).kept.reverse

/-- The size of a short grapheme is known, so that a backspace takes away all of it and
    nothing else. -/
theorem dropBytes_append (g rest : List Char) : dropBytes (byteSize g) (g ++ rest) = rest := by
  induction g with
  | nil => cases rest <;> simp [byteSize, dropBytes]
  | cons c g ih =>
      have hpos : 0 < c.utf8Size := c.utf8Size_pos
      have hsize : byteSize (c :: g) = c.utf8Size + byteSize g := by simp [byteSize]
      rw [hsize, List.cons_append, dropBytes, if_neg (by omega), Nat.add_sub_cancel_left, ih]

theorem byteSize_append (cs ds : List Char) :
    byteSize (cs ++ ds) = byteSize cs + byteSize ds := by
  induction cs with
  | nil => simp [byteSize]
  | cons c rest ih =>
      change c.utf8Size + byteSize (rest ++ ds) = c.utf8Size + byteSize rest + byteSize ds
      rw [ih, Nat.add_assoc]

theorem byteSize_reverse (g : List Char) : byteSize g.reverse = byteSize g := by
  induction g with
  | nil => rfl
  | cons c rest ih =>
      have hone : byteSize [c] = c.utf8Size := rfl
      have hsize : byteSize (c :: rest) = c.utf8Size + byteSize rest := rfl
      rw [List.reverse_cons, byteSize_append, ih, hone, hsize, Nat.add_comm]

/-- A backspace undoes a grapheme of fewer than 256 bytes. -/
theorem type_backspace {d : Draft} {g : List Char} (hg : g ≠ ['\x08'])
    (hsize : byteSize g < 256) : (d.type g).type ['\x08'] = d := by
  have hresidue : (byteSize g).toUInt8.toNat = byteSize g := by simp; omega
  simp only [Draft.type, if_neg hg, if_pos, hresidue]
  rw [← byteSize_reverse, dropBytes_append]

theorem flatten_graphemesFrom (s : Seen) (cs : List Char) :
    (graphemesFrom s cs).1 ++ (graphemesFrom s cs).2.flatten = cs := by
  induction cs generalizing s with
  | nil => rfl
  | cons c rest ih =>
      have h := ih (s.advance (BreakClass.ofChar c))
      unfold graphemesFrom
      dsimp only
      split <;> simpa using h

/-- The graphemes make up the text. -/
theorem flatten_graphemes (cs : List Char) : (graphemes cs).flatten = cs := by
  have h := flatten_graphemesFrom Seen.nothing cs
  cases cs with
  | nil => rfl
  | cons c rest =>
      have hfirst : (graphemesFrom Seen.nothing (c :: rest)).1 = [] := by
        unfold graphemesFrom
        simp only [Seen.joins, Seen.nothing]
        cases BreakClass.ofChar c <;> rfl
      rw [hfirst] at h
      simpa [graphemes] using h

end Text

end CommandShell
