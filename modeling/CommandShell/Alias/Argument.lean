import CommandShell.Text.Fields

/-!
# Arguments of the Alias Command

The words after `alias` are requests: a word without `=` asks for an alias to
be shown, a word `name=value` defines one. Words carry no quoting, so a value
of several words arrives in pieces. A value that begins with a quote and does
not end with it takes in the words that follow, up to and including the first
that ends with the quote, or all of them if none does. The pieces are put
together with single spaces, and one quote is taken off at each end.

## Main definitions

* `Argument`: A request.
* `splitName?`: A word cut at its first `=`.
* `quote?`: The quote that a value begins with.
* `takeQuoted`: The words up to the end of a quotation.
* `parse`: The requests of a list of words.

## Theorems

* `takeQuoted_append`: A quotation takes words from the front and loses none.
-/

namespace CommandShell

namespace Alias

open Text

/-- A request to the alias command. -/
inductive Argument where
  /-- The alias of this name is to be shown. -/
  | reveal (name : String)
  /-- The alias of this name is to be defined. -/
  | define (name value : String)
deriving DecidableEq

/-- The parts of a text before and after its first `=`. -/
def splitName? : List Char → Option (List Char × List Char)
  | [] => none
  | c :: rest =>
      if c = '=' then some ([], rest)
      else (splitName? rest).map fun (name, value) => (c :: name, value)

/-- The quote that a value begins with. -/
def quote? : List Char → Option Char
  | [] => none
  | c :: _ => if c = '\'' || c = '"' then some c else none

/-- Whether a word ends with a quote. -/
def endsWith (quote : Char) (word : List Char) : Bool :=
  word.getLast? = some quote

/-- Whether a value that begins with a quote also ends with one. -/
def isClosed (quote : Char) (value : List Char) : Bool :=
  1 < value.length && endsWith quote value

/-- The words up to and including the first that ends with the quote, and the words after
    it. -/
def takeQuoted (quote : Char) : List String → List String × List String
  | [] => ([], [])
  | word :: rest =>
      if endsWith quote word.toList then ([word], rest)
      else
        let (inside, after) := takeQuoted quote rest
        (word :: inside, after)

/-- A text without the quote at its start and the one at its end, as far as they are
    there. -/
def stripQuotes (quote : Char) (value : List Char) : List Char :=
  let inner := if value.head? = some quote then value.tail else value
  if inner.getLast? = some quote then inner.dropLast else inner

theorem length_takeQuoted_le (quote : Char) (args : List String) :
    (takeQuoted quote args).2.length ≤ args.length := by
  induction args with
  | nil => simp [takeQuoted]
  | cons word rest ih =>
      unfold takeQuoted
      split
      · simp
      · simp only [List.length_cons]
        omega

/-- The requests of a list of words, from left to right. -/
def parse : List String → List Argument
  | [] => []
  | word :: rest =>
      match splitName? word.toList with
      | none => .reveal word :: parse rest
      | some (name, value) =>
          match quote? value with
          -- A value without a quote is one word as it stands.
          | none => .define (String.ofList name) (String.ofList value) :: parse rest
          | some quote =>
              if isClosed quote value then
                .define (String.ofList name) (String.ofList (stripQuotes quote value))
                  :: parse rest
              else
                have := length_takeQuoted_le quote rest
                let taken := takeQuoted quote rest
                let whole := " ".intercalate (String.ofList value :: taken.1)
                .define (String.ofList name) (String.ofList (stripQuotes quote whole.toList))
                  :: parse taken.2
  termination_by args => args.length

/-- The words of a quotation and those after it are all the words there were. -/
theorem takeQuoted_append (quote : Char) (args : List String) :
    (takeQuoted quote args).1 ++ (takeQuoted quote args).2 = args := by
  induction args with
  | nil => rfl
  | cons word rest ih =>
      unfold takeQuoted
      split
      · rfl
      · simpa using ih

end Alias

end CommandShell
