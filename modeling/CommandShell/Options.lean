/-!
# Options of the Command Line

The shell is started with switches, with an option that takes a value, and
with the name of a script, which has to come last. An option that takes a
value takes the argument after it, whatever that looks like. A single `-`
names a script, and so does the empty argument.

The arguments are read from left to right, and reading stops at the first that
does not fit. What was read before it stays.

## Main definitions

* `Options`: What the arguments said.
* `OptionsError`: Why an argument does not fit.
* `Options.parse`: The arguments are read.
* `Options.usageText`: How the shell is started.

## Theorems

* `parse_append`: Where reading succeeds, it goes on with what comes after.
-/

namespace CommandShell

/-- What the arguments said. -/
structure Options where
  help : Bool
  version : Bool
  debug : Bool
  rc : Option String
  script : Option String
deriving DecidableEq

/-- Why an argument does not fit. -/
inductive OptionsError where
  /-- It comes after the script. -/
  | unexpected (argument : String)
  | unknown (option : String)
  /-- The option needs a value and none follows. -/
  | missingValue (option : String)
deriving DecidableEq

/-- The words for an argument that does not fit. -/
def OptionsError.message : OptionsError → String
  | .unexpected argument => "unexpected argument " ++ argument
  | .unknown option => "unknown option " ++ option
  | .missingValue option => "Flag " ++ option ++ " requires a value"

namespace Options

/-- Nothing was said. -/
def none : Options :=
  ⟨false, false, false, .none, .none⟩

/-- The options, by name. -/
inductive Key where
  | help
  | version
  | debug
  | rc
deriving DecidableEq

/-- The spellings of an option: short and long. -/
def Key.spellings : Key → String × String
  | .help => ("-h", "--help")
  | .version => ("-v", "--version")
  | .debug => ("-d", "--debug")
  | .rc => ("-r", "--rc")

/-- What an option is for. -/
def Key.purpose : Key → String
  | .help => "Print this help message"
  | .version => "Show version information"
  | .debug => "Enable debug logging on stderr"
  | .rc => "Source this startup file instead of ~/.hshrc"

/-- The options in the order of their long spellings. -/
def Key.all : List Key :=
  [.debug, .help, .rc, .version]

/-- The option that an argument spells. -/
def Key.ofArgument? (argument : String) : Option Key :=
  Key.all.find? fun key => key.spellings.1 = argument || key.spellings.2 = argument

/-- Whether an argument names a script. -/
def isScript (argument : String) : Bool :=
  argument.toList.head? ≠ some '-' || argument = "-"

/-- The arguments are read, on top of what was said before. -/
def parse (o : Options) : List String → Options × Except OptionsError Unit
  | [] => (o, .ok ())
  | argument :: rest =>
      if o.script.isSome then (o, .error (.unexpected argument))
      else if isScript argument then parse { o with script := some argument } rest
      else
        match Key.ofArgument? argument with
        | .none => (o, .error (.unknown argument))
        | some .help => parse { o with help := true } rest
        | some .version => parse { o with version := true } rest
        | some .debug => parse { o with debug := true } rest
        | some .rc =>
            match rest with
            | [] => (o, .error (.missingValue argument))
            | value :: more => parse { o with rc := some value } more

/-- The value of a switch. -/
def switchValue (on : Bool) : Option String :=
  if on then some "true" else .none

/-- The value of an option, if it was given. -/
def value? (o : Options) : Key → Option String
  | .help => switchValue o.help
  | .version => switchValue o.version
  | .debug => switchValue o.debug
  | .rc => o.rc

/-- The name of an option. -/
def Key.name : Key → String
  | .help => "help"
  | .version => "version"
  | .debug => "debug"
  | .rc => "rc"

/-- The value of the option of a name, if it was given. -/
def named? (o : Options) (name : String) : Option String :=
  (Key.all.find? fun key => key.name = name).bind o.value?

/-- A text with blanks at its end, so that it has at least `width` characters. -/
def padRight (width : Nat) (s : String) : String :=
  s ++ String.ofList (List.replicate (width - s.length) ' ')

/-- The line on an option. -/
def Key.usageLine (key : Key) : String :=
  "  " ++ key.spellings.1 ++ ", " ++ padRight 15 key.spellings.2 ++ " " ++ key.purpose ++ "\n"

/-- How the shell is started. -/
def usageText : String :=
  "Usage: hsh [OPTIONS] [SCRIPT]\n\nOptions:\n" ++ String.join (Key.all.map Key.usageLine)

theorem parse_append {o after : Options} {args : List String}
    (h : o.parse args = (after, .ok ())) (more : List String) :
    o.parse (args ++ more) = after.parse more := by
  fun_induction parse o args with
  | case1 o =>
      injection h with h _
      subst h
      rfl
  | case2 => simp at h
  | case3 o argument rest hscript hargument ih =>
      rw [List.cons_append, parse.eq_def]
      simpa [hscript, hargument] using ih h
  | case4 => simp at h
  | case5 o argument rest hscript hargument hkey ih =>
      rw [List.cons_append, parse.eq_def]
      simpa [hscript, hargument, hkey] using ih h
  | case6 o argument rest hscript hargument hkey ih =>
      rw [List.cons_append, parse.eq_def]
      simpa [hscript, hargument, hkey] using ih h
  | case7 o argument rest hscript hargument hkey ih =>
      rw [List.cons_append, parse.eq_def]
      simpa [hscript, hargument, hkey] using ih h
  | case8 => simp at h
  | case9 o argument hscript hargument hkey value rest ih =>
      rw [List.cons_append, List.cons_append, parse.eq_def]
      simpa [hscript, hargument, hkey] using ih h

end Options

end CommandShell
