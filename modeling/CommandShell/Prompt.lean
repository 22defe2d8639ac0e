/-!
# The Prompt

A user at a terminal is prompted by a `$` and a blank, in green and bold if
the terminal shows colours. Whether it does is guessed from the variables of
the process: some forbid colours, and after that any of several signs is
enough. The kind of terminal is compared without regard to case.

## Main definitions

* `hasColour`: Whether the terminal shows colours.
* `plain`: The prompt without colours.
* `coloured`: The prompt with colours.
* `prompt`: The prompt for a terminal.
-/

namespace CommandShell

namespace Prompt

/-- Whether the characters of `part` stand in a row somewhere in a text. -/
def occurs (part : List Char) : List Char → Bool
  | [] => part.isEmpty
  | c :: rest => part.isPrefixOf (c :: rest) || occurs part rest

/-- A character in lower case. Of the characters beyond ASCII only those count of which
    the lower case holds a letter of ASCII. -/
def lowerCase (c : Char) : List Char :=
  if c = '\u212a' then ['k']
  else if c = '\u0130' then ['i', '\u0307']
  else [c.toLower]

/-- The words in the name of a terminal by which it is known to show colours. -/
def colourTerminals : List String :=
  ["xterm-truecolor", "konsole", "tmux", "screen-truecolor", "alacritty", "kitty", "terminator",
    "terminology", "eterm", "rxvt-unicode", "xterm-ghostty", "vte", "termious", "256", "color",
    "ansi", "xterm", "screen"]

/-- The programs that show a terminal with colours. -/
def colourPrograms : List String :=
  ["iTerm.app", "Apple_Terminal", "Hyper"]

/-- Whether any of some words occurs in a text. -/
def anyOccurs (parts : List String) (s : List Char) : Bool :=
  parts.any fun part => occurs part.toList s

/-- Whether the terminal shows colours, judged from the variables of the process. -/
def hasColour (value? : String → Option String) : Bool :=
  let holds (name : String) (test : String → Bool) : Bool := (value? name).any test
  if (value? "NO_COLOR").isSome || value? "CLICOLOR" = some "0" then false
  else
    holds "COLORTERM" (fun v => anyOccurs ["truecolor", "24bit"] v.toList)
      || holds "TERM" (fun v => anyOccurs colourTerminals (v.toList.flatMap lowerCase))
      || holds "TERM_PROGRAM" (colourPrograms.contains ·)
      || value? "CLICOLOR_FORCE" = some "1"

/-- The prompt without colours. -/
def plain : String := "$ "

/-- The prompt in green and bold. -/
def coloured : String := "\x1b[32m\x1b[1m$\x1b[0m "

/-- The prompt for a terminal, given the variables of the process. -/
def prompt (value? : String → Option String) : String :=
  if hasColour value? then coloured else plain

end Prompt

end CommandShell
