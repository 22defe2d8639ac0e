import CommandShell.Options
import Mathlib.Data.List.Induction

/-!
# Grammar of the Options

What arguments the shell can be started with, as a grammar. A *sentence* is a list of
items and possibly a script behind them. An item is a switch, or an option together with
the argument behind it. That argument is a value whatever it looks like, so `-r --rc` is
one item and `-r` alone is none.

Reading goes from left to right, with one or two arguments at a time, and a sentence is
read item by item (`parse_arguments`). Conversely, a list of arguments begins with an
item, or with a script, or with an argument that offends (`start_cases`). Hence what is
read before reading stops is always a sentence, and `Offends` says what can stop it. No
sentence reaches beyond an argument that offends, for reading would have to get past it.

## Main definitions

* `Options.Item`, `Options.Sentence`: What can be read, with the arguments it is spelled by.
* `Options.Sentence.last?`: The value that an option is given last.
* `Options.told`: The options behind a sentence.
* `Options.Offends`: Why an argument cannot be read.

## Theorems

* `value?_told`: An option holds the value of its last item.
* `start_cases`: How a list of arguments begins.
* `parse_arguments`: A sentence is read as it is meant.
* `Offends.parse`: Reading stops at an argument that offends.
* `parse_cases`: What is read is a sentence, up to such an argument.
* `accepts_exactly_sentences`: Reading succeeds for the sentences and no others.
-/

namespace CommandShell.Options

/-! ### Sentences -/

/-- Whether an option takes the argument behind it. -/
def Key.takesValue : Key → Bool
  | .rc => true
  | .help | .version | .debug => false

/-- A word is one of the spellings of an option. -/
def Key.IsSpelled (key : Key) (word : String) : Prop :=
  word = key.spellings.1 ∨ word = key.spellings.2

/-- A word can name a script: it does not begin with `-`, or is no more than that. -/
def NamesScript (word : String) : Prop :=
  ¬ ['-'] <+: word.toList ∨ word = "-"

/-- A switch, or an option with its value. -/
structure Item where
  key : Key
  word : String
  value : Option String
  spelled : key.IsSpelled word
  complete : value.isSome = key.takesValue

/-- The arguments of an item. -/
def Item.arguments (i : Item) : List String :=
  i.word :: i.value.toList

/-- The value that an item gives to its option. -/
def Item.given (i : Item) : String :=
  i.value.getD "true"

/-- Items, and possibly a script behind them. -/
structure Sentence where
  items : List Item
  script : Option String
  named : ∀ name ∈ script, NamesScript name

namespace Sentence

/-- The arguments of a sentence. -/
def arguments (x : Sentence) : List String :=
  x.items.flatMap Item.arguments ++ x.script.toList

/-- The value that an option is given last. -/
def last? (x : Sentence) (key : Key) : Option String :=
  (x.items.filter (·.key = key)).getLast?.map Item.given

/-- Nothing is said. -/
def silence : Sentence :=
  ⟨[], .none, fun _ h => (nomatch h)⟩

/-- No more than a script. -/
def ofScript (name : String) (h : NamesScript name) : Sentence :=
  ⟨[], some name, fun _ hmem => Option.mem_some.1 hmem ▸ h⟩

/-- One more item in front. -/
def cons (i : Item) (x : Sentence) : Sentence :=
  { x with items := i :: x.items }

theorem arguments_cons (i : Item) (x : Sentence) :
    (x.cons i).arguments = i.arguments ++ x.arguments := by
  simp [arguments, cons]

end Sentence

/-- The options behind an item. -/
def give (o : Options) (i : Item) : Options :=
  match i.key with
  | .help => { o with help := true }
  | .version => { o with version := true }
  | .debug => { o with debug := true }
  | .rc => { o with rc := some i.given }

/-- The options behind a sentence. -/
def told (o : Options) (x : Sentence) : Options :=
  { x.items.foldl give o with script := x.script }

variable {o : Options}

@[simp] theorem script_give (o : Options) (i : Item) : (o.give i).script = o.script := by
  unfold give
  cases i.key <;> rfl

/-- An item changes its own option only. -/
theorem value?_give (o : Options) (i : Item) (key : Key) :
    (o.give i).value? key = if i.key = key then some i.given else o.value? key := by
  rcases i with ⟨own, word, value, hspelled, hcomplete⟩
  cases own with
  | rc => cases key <;> rfl
  | help | version | debug =>
      -- A switch has no value of its own.
      have hnone : value = .none := by simpa [Key.takesValue] using hcomplete
      subst hnone
      cases key <;> rfl

theorem value?_foldl_give (o : Options) (items : List Item) (key : Key) :
    (items.foldl give o).value? key =
      ((items.filter (·.key = key)).getLast?.map Item.given).or (o.value? key) := by
  -- The last item decides, so the induction is on the list from behind.
  induction items using List.reverseRecOn with
  | nil => rfl
  | append_singleton front i ih =>
      rw [List.foldl_append, List.foldl_cons, List.foldl_nil, value?_give, List.filter_append]
      by_cases hkey : i.key = key
      · simp [hkey]
      · simpa [hkey] using ih

/-- An option holds the value of its last item. -/
theorem value?_told (o : Options) (x : Sentence) (key : Key) :
    (o.told x).value? key = (x.last? key).or (o.value? key) := by
  have hscript : (o.told x).value? key = (x.items.foldl give o).value? key := by
    cases key <;> rfl
  rw [hscript, value?_foldl_give]
  rfl

/-! ### Single arguments -/

theorem isScript_iff {word : String} : isScript word = true ↔ NamesScript word := by
  have hhead : word.toList.head? = some '-' ↔ ['-'] <+: word.toList := by
    cases word.toList with
    | nil => simp
    | cons c rest => simp [List.cons_prefix_cons, eq_comm (a := c)]
  rw [isScript, Bool.or_eq_true, decide_eq_true_eq, decide_eq_true_eq, NamesScript, ← hhead]

/-- A word spells at most one option, and that one is found. -/
theorem Key.ofArgument?_eq_some_iff {word : String} {key : Key} :
    ofArgument? word = some key ↔ key.IsSpelled word := by
  constructor
  · intro hfound
    have hspelled := List.find?_some hfound
    rw [Bool.or_eq_true, decide_eq_true_eq, decide_eq_true_eq] at hspelled
    exact hspelled.imp Eq.symm Eq.symm
  · rintro (rfl | rfl) <;> cases key <;> decide

/-- No option is spelled like a script. -/
theorem Key.IsSpelled.not_isScript {key : Key} {word : String} (h : key.IsSpelled word) :
    isScript word = false := by
  rcases h with rfl | rfl <;> cases key <;> decide

/-- Why an argument cannot be read, by what has been said before it and what comes after
    it. -/
inductive Offends (script : Option String) (word : String) (rest : List String) :
    OptionsError → Prop
  | unexpected (said : script.isSome = true) : Offends script word rest (.unexpected word)
  | unknown (unsaid : script = .none) (not_script : ¬ NamesScript word)
      (not_spelled : ∀ key : Key, ¬ key.IsSpelled word) :
      Offends script word rest (.unknown word)
  | missingValue (unsaid : script = .none) (key : Key) (takes : key.takesValue = true)
      (spelled : key.IsSpelled word) (last : rest = []) :
      Offends script word rest (.missingValue word)

/-- As long as no script has been named, arguments begin with an item or a script or an
    argument that offends, unless there are none. -/
theorem start_cases (args : List String) :
    args = [] ∨
    (∃ name rest, args = name :: rest ∧ NamesScript name) ∨
    (∃ (i : Item) (rest : List String), args = i.arguments ++ rest) ∨
    ∃ word rest e, args = word :: rest ∧ Offends .none word rest e := by
  cases args with
  | nil => exact .inl rfl
  | cons word rest =>
      by_cases hscript : NamesScript word
      · exact .inr (.inl ⟨word, rest, rfl, hscript⟩)
      · cases hkey : Key.ofArgument? word with
        -- It is no script, since it has the form of an option, and no option has this
        -- spelling.
        | none =>
            have hnot : ∀ key : Key, ¬ key.IsSpelled word := by
              intro key hspelled
              rw [Key.ofArgument?_eq_some_iff.2 hspelled] at hkey
              cases hkey
            exact .inr (.inr (.inr ⟨word, rest, _, rfl, .unknown rfl hscript hnot⟩))
        | some key =>
            have hspelled := Key.ofArgument?_eq_some_iff.1 hkey
            by_cases htakes : key.takesValue = true
            · -- The argument behind it is its value, if there is one.
              cases rest with
              | nil =>
                  have hoffends : Offends .none word [] (.missingValue word) :=
                    .missingValue rfl key htakes hspelled rfl
                  exact .inr (.inr (.inr ⟨word, [], _, rfl, hoffends⟩))
              | cons value more =>
                  let i : Item := ⟨key, word, some value, hspelled, htakes.symm⟩
                  exact .inr (.inr (.inl ⟨i, more, rfl⟩))
            -- A switch takes nothing, whatever stands behind it.
            · have hswitch : (Option.none : Option String).isSome = key.takesValue := by
                simpa using htakes
              let i : Item := ⟨key, word, .none, hspelled, hswitch⟩
              exact .inr (.inr (.inl ⟨i, rest, rfl⟩))

/-! ### Steps -/

/-- One item is read. -/
theorem parse_item (ho : o.script = .none) (i : Item) (rest : List String) :
    o.parse (i.arguments ++ rest) = (o.give i).parse rest := by
  rcases i with ⟨key, word, value, hspelled, hcomplete⟩
  have hkey := Key.ofArgument?_eq_some_iff.2 hspelled
  have hscript := hspelled.not_isScript
  rw [Item.arguments, List.cons_append, parse.eq_def]
  cases key with
  | rc =>
      rcases Option.isSome_iff_exists.1 hcomplete with ⟨text, rfl⟩
      simp [ho, hscript, hkey, give, Item.given]
  -- The three switches differ in nothing but the field that they set.
  | help | version | debug =>
      have hnone : value = .none := by simpa [Key.takesValue] using hcomplete
      subst hnone
      simp [ho, hscript, hkey, give]

/-- The name of a script is read. -/
theorem parse_name (ho : o.script = .none) {name : String} (h : NamesScript name)
    (rest : List String) :
    o.parse (name :: rest) = { o with script := some name }.parse rest := by
  rw [parse.eq_def]
  simp [ho, isScript_iff.2 h]

/-- Reading stops at an argument that offends, and nothing has changed by then. -/
theorem Offends.parse {word : String} {rest : List String} {e : OptionsError}
    (h : Offends o.script word rest e) {front : List String} (hfront : front <+: rest) :
    o.parse (word :: front) = (o, .error e) := by
  rw [parse.eq_def]
  cases h with
  | unexpected said => simp [said]
  | unknown unsaid not_script not_spelled =>
      have hscript : isScript word = false := by
        simpa using fun h => not_script (isScript_iff.1 h)
      have hkey : Key.ofArgument? word = .none := by
        rw [Option.eq_none_iff_forall_ne_some]
        exact fun key hfound => not_spelled key (Key.ofArgument?_eq_some_iff.1 hfound)
      simp [unsaid, hscript, hkey]
  | missingValue unsaid key takes spelled last =>
      have hkey := Key.ofArgument?_eq_some_iff.2 spelled
      rw [last, List.prefix_nil] at hfront
      -- Of the four options, only the one for a startup file can lack its value.
      cases key with
      | rc => simp [unsaid, spelled.not_isScript, hkey, hfront]
      | help | version | debug => exact absurd takes Bool.false_ne_true

/-! ### Whole lists -/

/-- A sentence is read as it is meant. -/
theorem parse_arguments (ho : o.script = .none) (x : Sentence) :
    o.parse x.arguments = (o.told x, .ok ()) := by
  rcases x with ⟨items, script, hnamed⟩
  induction items generalizing o with
  | nil =>
      cases script with
      | none =>
          rcases o with ⟨help, version, debug, rc, script⟩
          subst ho
          rfl
      | some name => exact parse_name ho (hnamed name rfl) []
  | cons i items ih =>
      -- No item sets a script, so the state reached by the first one allows the others.
      have hrest := ih (o := o.give i) (by rw [script_give, ho])
      rw [← parse_item ho i, ← Sentence.arguments_cons] at hrest
      exact hrest

/-- What is read is a sentence. Either there is nothing else, or the next argument
    offends. -/
theorem parse_cases (ho : o.script = .none) (args : List String) :
    (∃ x : Sentence, args = x.arguments) ∨
    ∃ (x : Sentence) (word : String) (rest : List String) (e : OptionsError),
      args = x.arguments ++ word :: rest ∧ Offends x.script word rest e := by
  rcases start_cases args with rfl | ⟨name, rest, rfl, hname⟩ | ⟨i, rest, rfl⟩ |
    ⟨word, rest, e, rfl, hoffends⟩
  · exact .inl ⟨.silence, rfl⟩
  -- A script ends what can be said, so anything behind it offends.
  · cases rest with
    | nil => exact .inl ⟨.ofScript name hname, rfl⟩
    | cons word rest => exact .inr ⟨.ofScript name hname, word, rest, _, rfl, .unexpected rfl⟩
  -- An item takes one argument or two, and the rest is shorter by as many.
  · have hshorter : rest.length < (i.arguments ++ rest).length := by
      rw [Item.arguments, List.cons_append, List.length_cons, List.length_append]
      omega
    rcases parse_cases ho rest with ⟨x, rfl⟩ | ⟨x, word, more, e, rfl, hoffends⟩
    · exact .inl ⟨x.cons i, (x.arguments_cons i).symm⟩
    · refine .inr ⟨x.cons i, word, more, e, ?_, hoffends⟩
      rw [Sentence.arguments_cons, List.append_assoc]
  · exact .inr ⟨.silence, word, rest, e, rfl, hoffends⟩
termination_by args.length

/-- No sentence reaches beyond an argument that offends. -/
theorem Offends.arguments_prefix {x y : Sentence} {word : String} {rest : List String}
    {e : OptionsError} (h : Offends x.script word rest e)
    (hy : y.arguments <+: x.arguments ++ word :: rest) : y.arguments <+: x.arguments := by
  rcases List.prefix_or_prefix_of_prefix hy (List.prefix_append x.arguments (word :: rest)) with
    hshort | ⟨more, hlong⟩
  · exact hshort
  · rw [← hlong, List.prefix_append_right_inj] at hy
    cases more with
    | nil =>
        have hsame : x.arguments = y.arguments := by rw [← hlong, List.append_nil]
        exact hsame ▸ List.prefix_refl y.arguments
    | cons first front =>
        -- The longer sentence could be read, and yet reading would stop within it.
        exfalso
        obtain ⟨rfl, hfront⟩ := List.cons_prefix_cons.1 hy
        have hread := parse_arguments (o := .none) rfl y
        have hstop : (told .none x).parse (first :: front) = (told .none x, .error e) :=
          Offends.parse h hfront
        rw [← hlong, parse_append (parse_arguments rfl x), hstop] at hread
        cases congrArg Prod.snd hread

/-- As long as no script has been named, reading succeeds exactly for the sentences. Then
    an option holds the value that it is given last, or else the one it had, and the
    script is the one of the sentence. If reading fails, the arguments up to the one that
    offends are the longest sentence that they begin with, and the options are those
    behind it. Once a script has been named, reading succeeds only where there is nothing
    to read. Where it succeeds, it goes on with what comes after. -/
theorem accepts_exactly_sentences (o : Options) (args : List String) :
    (o.script = .none →
      ((o.parse args).2 = .ok () ↔ ∃ x : Sentence, args = x.arguments) ∧
      (∀ x : Sentence, args = x.arguments → (o.parse args).1.script = x.script ∧
        ∀ key, (o.parse args).1.value? key = (x.last? key).or (o.value? key)) ∧
      ∀ e, (o.parse args).2 = .error e →
        ∃ (x : Sentence) (word : String) (rest : List String),
          args = x.arguments ++ word :: rest ∧ Offends x.script word rest e ∧
          o.parse x.arguments = ((o.parse args).1, .ok ()) ∧
          ∀ y : Sentence, y.arguments <+: args → y.arguments <+: x.arguments) ∧
    (o.script ≠ .none →
      ((o.parse args).2 = .ok () ↔ args = []) ∧ (o.parse args).1 = o) ∧
    ((o.parse args).2 = .ok () →
      ∀ more, o.parse (args ++ more) = (o.parse args).1.parse more) := by
  refine ⟨fun ho => ?_, fun ho => ?_, fun hok => parse_append (Prod.ext rfl hok)⟩
  · rcases parse_cases ho args with ⟨x, rfl⟩ | ⟨x, word, rest, e, rfl, hoffends⟩
    · rw [parse_arguments ho]
      refine ⟨⟨fun _ => ⟨x, rfl⟩, fun _ => rfl⟩, fun y hy => ?_, fun e he => nomatch he⟩
      -- Sentences with the same arguments are read with the same outcome.
      have hsame := parse_arguments ho y
      rw [← hy, parse_arguments ho x] at hsame
      rw [(Prod.mk.inj hsame).1]
      exact ⟨rfl, value?_told o y⟩
    · have hstop : (o.told x).parse (word :: rest) = (o.told x, .error e) :=
        Offends.parse hoffends (List.prefix_refl rest)
      have hread : o.parse (x.arguments ++ word :: rest) = (o.told x, .error e) := by
        rw [parse_append (parse_arguments ho x), hstop]
      have hnone : ¬ ∃ y : Sentence, x.arguments ++ word :: rest = y.arguments := by
        rintro ⟨y, hy⟩
        rw [hy, parse_arguments ho] at hread
        cases congrArg Prod.snd hread
      rw [hread]
      refine ⟨⟨fun hok => (nomatch hok), fun hex => absurd hex hnone⟩, fun y hy =>
        absurd ⟨y, hy⟩ hnone, ?_⟩
      intro e' he'
      cases he'
      exact ⟨x, word, rest, rfl, hoffends, parse_arguments ho x,
        fun y hy => hoffends.arguments_prefix hy⟩
  · cases args with
    | nil => exact ⟨⟨fun _ => rfl, fun _ => rfl⟩, rfl⟩
    | cons word rest =>
        have hoffends : Offends o.script word rest (.unexpected word) :=
          .unexpected (Option.isSome_iff_ne_none.2 ho)
        rw [hoffends.parse (List.prefix_refl rest)]
        exact ⟨⟨fun hok => (nomatch hok), fun hnil => (nomatch hnil)⟩, rfl⟩

/-- A switch and an option with a value are given twice. The value that counts is empty,
    and the other looks like a switch. The argument behind the script is one too many. -/
theorem accepts_exactly_sentences_repeated :
    let args := ["-v", "--rc", "-d", "--version", "-r", "", "-"]
    let o : Options := ⟨false, true, false, some "", some "-"⟩
    (Options.none.parse args).2 = .ok () ∧ (∃ x : Sentence, args = x.arguments) ∧
      Options.none.parse (args ++ ["-d"]) = (o, .error (.unexpected "-d")) := by
  intro args o
  have hok : (Options.none.parse args).2 = .ok () := by decide +kernel
  have hgrammar := accepts_exactly_sentences .none args
  refine ⟨hok, (hgrammar.1 rfl).1.1 hok, ?_⟩
  rw [hgrammar.2.2 hok]
  decide +kernel

end CommandShell.Options
