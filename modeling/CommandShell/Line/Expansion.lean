import CommandShell.Text.Alphanumeric

/-!
# Expansion of Words

A `$` in a word stands for a value: `$?` for the last status, `$$` for the
number of the shell's process, and `$NAME` for a variable, where the name is
as long as it can be. A `$` before anything else is itself.

The reading of a word and the meaning of what was read are kept apart. A word
is first taken apart into *pieces*, from left to right and in one way only;
each piece then has a value, and the values are put together. A value is
never looked at again, so a `$` inside a variable's value is plain text, and
the expansion of a word ends no matter what the variables hold.

## Main definitions

* `Piece`: What a word is made of.
* `pieces`: The pieces of a word.
* `Piece.render`: A piece as it stands in the word.
* `Parameters`: Where values come from.
* `Parameters.expand`: A word with its values put in.

## Theorems

* `render_pieces`: Writing the pieces down gives the word back.
* `expand_of_not_mem`: A word without `$` stands for itself.
-/

namespace CommandShell

namespace Line

open Text

/-- What a word is made of. -/
inductive Piece where
  /-- Characters other than `$`, which stand for themselves. -/
  | plain (run : List Char)
  /-- The piece `$?`. -/
  | status
  /-- The piece `$$`. -/
  | process
  /-- The piece `$NAME`. -/
  | variable (name : List Char)
  /-- A `$` that begins none of the others. -/
  | dollar
deriving DecidableEq

/-- A piece as it stands in a word. -/
def Piece.render : Piece → List Char
  | .plain run => run
  | .status => ['$', '?']
  | .process => ['$', '$']
  | .variable name => '$' :: name
  | .dollar => ['$']

/-- The characters that stand for themselves. -/
def isPlain (c : Char) : Bool :=
  c ≠ '$'

theorem length_dropWhile_le {α : Type} (p : α → Bool) (l : List α) :
    (l.dropWhile p).length ≤ l.length :=
  (List.dropWhile_sublist p).length_le

/-- The pieces of a word, from left to right, each as long as it can be. -/
def pieces : List Char → List Piece
  | [] => []
  | '$' :: '?' :: rest => .status :: pieces rest
  | '$' :: '$' :: rest => .process :: pieces rest
  | '$' :: rest =>
      if (rest.takeWhile isNameChar).isEmpty then .dollar :: pieces rest
      else .variable (rest.takeWhile isNameChar) :: pieces (rest.dropWhile isNameChar)
  | c :: rest =>
      .plain (c :: rest.takeWhile isPlain) :: pieces (rest.dropWhile isPlain)
  termination_by word => word.length
  decreasing_by
    all_goals simp only [List.length_cons]
    all_goals have := length_dropWhile_le isNameChar rest
    all_goals have := length_dropWhile_le isPlain rest
    all_goals omega

/-- Where the values of a word's pieces come from. -/
structure Parameters where
  status : Int
  pid : Nat
  value? : String → Option String

/-- The text that a piece stands for; a variable that is not set stands for nothing. -/
def Parameters.valueOf (p : Parameters) : Piece → String
  | .plain run => String.ofList run
  | .status => toString p.status
  | .process => toString p.pid
  | .variable name => (p.value? (String.ofList name)).getD ""
  | .dollar => "$"

/-- A word with the values of its pieces put in. -/
def Parameters.expand (p : Parameters) (word : String) : String :=
  String.join ((pieces word.toList).map p.valueOf)

theorem render_pieces (cs : List Char) : (pieces cs).flatMap Piece.render = cs := by
  fun_induction pieces cs with
  | case1 => rfl
  | case2 rest ih => simp [Piece.render, ih]
  | case3 rest ih => simp [Piece.render, ih]
  | case4 rest _ _ _ ih => simp [Piece.render, ih]
  | case5 rest _ _ _ ih => simp [Piece.render, ih]
  | case6 c rest _ _ _ ih => simp [Piece.render, ih]

theorem pieces_of_not_mem {cs : List Char} (h : '$' ∉ cs) :
    pieces cs = if cs.isEmpty then [] else [.plain cs] := by
  cases cs with
  | nil => simp [pieces]
  | cons c rest =>
      -- The first piece takes all there is, and nothing is left after it.
      have hc : c ≠ '$' := fun heq => h (by simp [heq])
      have hrest : ∀ d ∈ rest, isPlain d = true := by
        intro d hd
        have : d ≠ '$' := fun heq => h (by simp [heq ▸ hd])
        simp [isPlain, this]
      have htake : rest.takeWhile isPlain = rest := by
        simpa using @List.takeWhile_append_of_pos _ isPlain rest [] hrest
      have hdrop : rest.dropWhile isPlain = [] := by
        simpa using @List.dropWhile_append_of_pos _ isPlain rest [] hrest
      rw [pieces]
      · rw [htake, hdrop]
        simp [pieces]
      all_goals simp_all

/-- A word without `$` stands for itself. -/
theorem expand_of_not_mem (p : Parameters) {word : String} (h : '$' ∉ word.toList) :
    p.expand word = word := by
  unfold Parameters.expand
  rw [pieces_of_not_mem h]
  by_cases hempty : word = ""
  · simp [hempty]
  · have : word.toList.isEmpty = false := by
      simpa [String.toList_eq_nil_iff] using hempty
    simp [this, Parameters.valueOf]

end Line

end CommandShell
