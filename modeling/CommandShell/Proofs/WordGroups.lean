import CommandShell.Proofs.Quotations

/-!
# The Words of a Request

Every word behind `alias` belongs to one request, and the words of a request stand together.
Which they are can be said without going through them: where the value in the first word
opens a quotation, the words up to the one that ends it, and else no more than the first
word. So the requests of a call are determined by a cut of its words into groups, and there
is one cut only that follows these rules.

The quote that ends a quotation is looked for in two ways. In the first word it must be
another one than the quote at the start, so a value that is nothing but a quote opens a
quotation. In a later word it may be all there is.

What a group says cannot be told from the group alone. A quotation that nothing ends takes
all the words there are, so a group without an end is right only where no word is left
behind it. The rules are therefore about a group and the words behind it.

## Main definitions

* `WordGroup`: The words of one request.
* `Opens`: A value opens a quotation.
* `Reaches`: How far a group reaches.
* `Unquoted`: What a text is without its quotes.
* `WordGroup.Makes`: The request of a group.
* `Groups`: Groups that follow the rules, and their requests.
* `front`: The first group of some words, and its request.

## Theorems

* `reaches_iff`, `unquoted_iff`, `makes_iff`: The rules determine what is read.
* `parse_groups`: The requests of groups that follow the rules are read.
* `exists_groups`: All words can be cut into such groups.
* `parse_in_groups`: There is one cut only.
-/

namespace CommandShell

namespace Alias

/-! ### The rules -/

/-- The words of one request: a first one and those that follow. -/
structure WordGroup where
  first : String
  others : List String
deriving DecidableEq

/-- All words of a group. -/
def WordGroup.words (g : WordGroup) : List String :=
  g.first :: g.others

/-- A text begins with a quote. -/
structure BeginsWith (quote : Char) (text : String) : Prop where
  is_quote : quote = '\'' ∨ quote = '"'
  begins : [quote] <+: text.toList

/-- A text ends in some character. -/
def EndsIn (quote : Char) (text : String) : Prop :=
  [quote] <:+ text.toList

/-- A value opens a quotation: it begins with a quote, and it does not end in the same one
    if it is at least two bytes long. -/
structure Opens (quote : Char) (value : String) : Prop where
  begins : BeginsWith quote value
  not_closed : ¬ (2 ≤ value.utf8ByteSize ∧ EndsIn quote value)

/-- How far a group reaches of which the first word holds some value: the words `others`
    belong to it, and the words `after` do not. -/
inductive Reaches (value : String) : (others after : List String) → Prop
  | alone {after : List String} (whole : ∀ quote, ¬ Opens quote value) : Reaches value [] after
  /-- The quotation goes on to the first word that ends it. -/
  | closed {quote : Char} {inside after : List String} {last : String}
      (opens : Opens quote value) (goes_on : ∀ word ∈ inside, ¬ EndsIn quote word)
      (ends : EndsIn quote last) : Reaches value (inside ++ [last]) after
  /-- No word ends the quotation. -/
  | endless {quote : Char} {others : List String} (opens : Opens quote value)
      (goes_on : ∀ word ∈ others, ¬ EndsIn quote word) : Reaches value others []

/-- What a text is without the quotes around it. -/
inductive Unquoted (text : String) : String → Prop
  | bare (whole : ∀ quote, ¬ BeginsWith quote text) : Unquoted text text
  | both {quote : Char} {inner : String} (is_quote : quote = '\'' ∨ quote = '"')
      (quotes : text.toList = quote :: (inner.toList ++ [quote])) : Unquoted text inner
  /-- There is no quote at the end, or none but the one at the start. -/
  | leading {quote : Char} {inner : String} (is_quote : quote = '\'' ∨ quote = '"')
      (quotes : text.toList = quote :: inner.toList) (bare : ¬ EndsIn quote inner) :
      Unquoted text inner

/-- The request of a group, if the words `after` stand behind it. -/
inductive WordGroup.Makes : WordGroup → List String → Argument → Prop
  | reveal {word : String} {after : List String} (plain : '=' ∉ word.toList) :
      Makes ⟨word, []⟩ after (.reveal word)
  /-- The first word is cut at its first `=`. -/
  | define {name value text : String} {others after : List String}
      (first_cut : '=' ∉ name.toList) (reaches : Reaches value others after)
      (unquoted : Unquoted (" ".intercalate (value :: others)) text) :
      Makes ⟨name ++ "=" ++ value, others⟩ after (.define name text)

/-- Groups that follow each other, and their requests. -/
inductive Groups : List WordGroup → List Argument → Prop
  | nil : Groups [] []
  | cons {g : WordGroup} {gs : List WordGroup} {request : Argument} {requests : List Argument}
      (makes : g.Makes (gs.flatMap WordGroup.words) request) (behind : Groups gs requests) :
      Groups (g :: gs) (request :: requests)

/-! ### Quotes -/

theorem BeginsWith.exists_toList {quote : Char} {text : String} (h : BeginsWith quote text) :
    ∃ rest, text.toList = quote :: rest := by
  obtain ⟨rest, hrest⟩ := h.begins
  exact ⟨rest, hrest.symm⟩

theorem quote?_cons_eq_some_iff {c quote : Char} {rest : List Char} :
    quote? (c :: rest) = some quote ↔ c = quote ∧ (c = '\'' ∨ c = '"') := by
  rw [quote?]
  by_cases hquote : c = '\'' ∨ c = '"'
  · simp [hquote]
  · simp [hquote]

theorem quote?_eq_some_iff {text : String} {quote : Char} :
    quote? text.toList = some quote ↔ BeginsWith quote text := by
  constructor
  · intro h
    cases htext : text.toList with
    | nil => rw [htext] at h; cases h
    | cons c rest =>
        rw [htext, quote?_cons_eq_some_iff] at h
        obtain ⟨rfl, hquote⟩ := h
        exact ⟨hquote, rest, htext.symm⟩
  · intro h
    obtain ⟨rest, hrest⟩ := h.exists_toList
    rw [hrest, quote?_cons_eq_some_iff]
    exact ⟨rfl, h.is_quote⟩

/-- A text begins with one quote at most. -/
theorem not_beginsWith_of_quote?_none {text : String} (h : quote? text.toList = none)
    (quote : Char) : ¬ BeginsWith quote text := by
  intro hbegins
  rw [quote?_eq_some_iff.2 hbegins] at h
  cases h

theorem endsWith_iff {quote : Char} {text : String} :
    endsWith quote text.toList = true ↔ EndsIn quote text := by
  rw [endsWith, decide_eq_true_eq, EndsIn, List.singleton_suffix_iff_getLast?_eq_some]

/-- Counting characters and counting bytes comes to the same, since a quote is one byte. -/
theorem isClosed_iff {quote : Char} {value : String} (h : BeginsWith quote value) :
    isClosed quote value.toList = true ↔ 2 ≤ value.utf8ByteSize ∧ EndsIn quote value := by
  obtain ⟨rest, hrest⟩ := h.exists_toList
  have hquote : quote.utf8Size = 1 := by
    rcases h.is_quote with rfl | rfl <;> decide
  have hvalue : value = String.singleton quote ++ String.ofList rest := by
    rw [← String.ofList_cons, ← hrest, String.ofList_toList]
  have hbytes : 2 ≤ value.utf8ByteSize ↔ rest ≠ [] := by
    have hempty : (String.ofList rest).utf8ByteSize = 0 ↔ rest = [] :=
      String.utf8ByteSize_eq_zero_iff.trans String.ofList_eq_empty_iff
    rw [hvalue, String.utf8ByteSize_append, String.utf8ByteSize_singleton, hquote, ne_eq,
      ← hempty]
    omega
  rw [hbytes, EndsIn, List.singleton_suffix_iff_getLast?_eq_some, hrest, isClosed_cons]
  -- Where nothing follows the quote at the start, that quote is the last character too.
  cases rest with
  | nil => simp
  | cons c more => simp

/-! ### How far a group reaches -/

/-- The words that belong to a group of which the first word holds some value, and those
    that do not. -/
def reach (value : String) (rest : List String) : List String × List String :=
  match quote? value.toList with
  | none => ([], rest)
  | some quote =>
      if isClosed quote value.toList then ([], rest) else takeQuoted quote rest

theorem reach_of_opens {quote : Char} {value : String} (h : Opens quote value)
    (rest : List String) : reach value rest = takeQuoted quote rest := by
  rw [reach, quote?_eq_some_iff.2 h.begins]
  exact if_neg (mt (isClosed_iff h.begins).1 h.not_closed)

theorem reach_of_not_opens {value : String} (h : ∀ quote, ¬ Opens quote value)
    (rest : List String) : reach value rest = ([], rest) := by
  unfold reach
  cases hquote : quote? value.toList with
  | none => rfl
  | some quote =>
      -- What begins with a quote and opens no quotation has been closed by its own end.
      have hbegins := quote?_eq_some_iff.1 hquote
      have hclosed : isClosed quote value.toList = true := by
        by_contra hopen
        exact h quote ⟨hbegins, mt (isClosed_iff hbegins).2 hopen⟩
      exact if_pos hclosed

/-- Words are only shared out. -/
theorem reach_append (value : String) (rest : List String) :
    (reach value rest).1 ++ (reach value rest).2 = rest := by
  by_cases hopens : ∃ quote, Opens quote value
  · obtain ⟨quote, hquote⟩ := hopens
    rw [reach_of_opens hquote, takeQuoted_append]
  · rw [reach_of_not_opens (not_exists.1 hopens)]
    rfl

variable {quote : Char}

theorem takeQuoted_of_closed {inside : List String} {last : String}
    (hinside : ∀ word ∈ inside, ¬ EndsIn quote word) (hlast : EndsIn quote last)
    (after : List String) :
    takeQuoted quote (inside ++ last :: after) = (inside ++ [last], after) := by
  induction inside with
  -- The induction is on the words inside, none of which ends the quotation.
  | nil => rw [List.nil_append, takeQuoted, if_pos (endsWith_iff.2 hlast), List.nil_append]
  | cons word more ih =>
      obtain ⟨hword, hmore⟩ := List.forall_mem_cons.1 hinside
      rw [List.cons_append, takeQuoted, if_neg (mt endsWith_iff.1 hword), ih hmore]
      rfl

theorem takeQuoted_of_endless {words : List String}
    (h : ∀ word ∈ words, ¬ EndsIn quote word) : takeQuoted quote words = (words, []) := by
  induction words with
  | nil => rfl
  | cons word more ih =>
      obtain ⟨hword, hmore⟩ := List.forall_mem_cons.1 h
      rw [takeQuoted, if_neg (mt endsWith_iff.1 hword), ih hmore]

/-- Either some word is the first that ends a quotation, or none is. -/
theorem ending_cases (quote : Char) (words : List String) :
    (∃ inside last after, words = inside ++ last :: after ∧
      (∀ word ∈ inside, ¬ EndsIn quote word) ∧ EndsIn quote last) ∨
    ∀ word ∈ words, ¬ EndsIn quote word := by
  induction words with
  | nil => exact .inr (List.forall_mem_nil _)
  | cons word more ih =>
      -- Either the first word ends it, or it goes wherever it goes for the rest.
      by_cases hends : EndsIn quote word
      · exact .inl ⟨[], word, more, rfl, List.forall_mem_nil _, hends⟩
      · rcases ih with ⟨inside, last, after, rfl, hinside, hlast⟩ | hnone
        · exact .inl ⟨word :: inside, last, after, rfl, List.forall_mem_cons.2 ⟨hends, hinside⟩,
            hlast⟩
        · exact .inr (List.forall_mem_cons.2 ⟨hends, hnone⟩)

/-- How far a group reaches is determined by the words behind its first one. -/
theorem reaches_iff {value : String} {others after : List String} :
    Reaches value others after ↔ reach value (others ++ after) = (others, after) := by
  constructor
  · intro h
    cases h with
    | alone whole => exact reach_of_not_opens whole after
    | closed opens goes_on ends =>
        rw [reach_of_opens opens, List.append_assoc, List.singleton_append,
          takeQuoted_of_closed goes_on ends]
    | endless opens goes_on =>
        rw [reach_of_opens opens, List.append_nil, takeQuoted_of_endless goes_on]
  · intro h
    by_cases hopens : ∃ quote, Opens quote value
    · obtain ⟨quote, hquote⟩ := hopens
      rw [reach_of_opens hquote] at h
      -- The first word that ends the quotation is the last of the group, if there is one.
      rcases ending_cases quote (others ++ after) with
        ⟨inside, last, behind, hwords, hinside, hlast⟩ | hnone
      · rw [hwords, takeQuoted_of_closed hinside hlast] at h
        cases h
        exact .closed hquote hinside hlast
      · rw [takeQuoted_of_endless hnone] at h
        obtain ⟨hothers, rfl⟩ := Prod.mk.inj h
        rw [hothers] at hnone
        exact .endless hquote hnone
    · rw [reach_of_not_opens (not_exists.1 hopens)] at h
      obtain ⟨rfl, _⟩ := Prod.mk.inj h
      exact .alone (not_exists.1 hopens)

/-! ### What is left without the quotes -/

/-- A text without the quotes around it. -/
def unquote (text : String) : String :=
  match quote? text.toList with
  | none => text
  | some quote => String.ofList (stripQuotes quote text.toList)

theorem unquote_of_not_beginsWith {text : String} (h : ∀ quote, ¬ BeginsWith quote text) :
    unquote text = text := by
  rw [unquote, Option.eq_none_iff_forall_ne_some.2 fun quote hquote =>
    h quote (quote?_eq_some_iff.1 hquote)]

/-- Of a text that begins with a quote, what is left has one quote less at either end. -/
theorem unquote_of_cons {text : String} (hquote : quote = '\'' ∨ quote = '"') {rest : List Char}
    (htext : text.toList = quote :: rest) : unquote text =
      String.ofList (if rest.getLast? = some quote then rest.dropLast else rest) := by
  rw [unquote, htext, quote?_cons_eq_some_iff.2 ⟨rfl, hquote⟩]
  exact congrArg String.ofList (stripQuotes_cons rest)

/-- What is left of a text is determined by it. -/
theorem unquoted_iff {text inner : String} : Unquoted text inner ↔ inner = unquote text := by
  constructor
  · intro h
    cases h with
    | bare whole => rw [unquote_of_not_beginsWith whole]
    | both is_quote quotes =>
        rw [unquote_of_cons is_quote quotes]
        simp
    | leading is_quote quotes bare =>
        rw [EndsIn, List.singleton_suffix_iff_getLast?_eq_some] at bare
        rw [unquote_of_cons is_quote quotes, if_neg bare, String.ofList_toList]
  · rintro rfl
    -- The converse follows the program: no quote in front, then one behind or none.
    cases hquote : quote? text.toList with
    | none =>
        have hbare := not_beginsWith_of_quote?_none hquote
        rw [unquote_of_not_beginsWith hbare]
        exact .bare hbare
    | some quote =>
        have hbegins := quote?_eq_some_iff.1 hquote
        obtain ⟨rest, htext⟩ := hbegins.exists_toList
        rw [unquote_of_cons hbegins.is_quote htext]
        by_cases hends : rest.getLast? = some quote
        · rw [if_pos hends]
          obtain ⟨front, rfl⟩ := List.getLast?_eq_some_iff.1 hends
          exact .both hbegins.is_quote (by rw [htext, String.toList_ofList, List.dropLast_concat])
        · rw [if_neg hends]
          refine .leading hbegins.is_quote (by rw [htext, String.toList_ofList]) ?_
          rwa [EndsIn, List.singleton_suffix_iff_getLast?_eq_some, String.toList_ofList]

/-! ### The first group -/

/-- The first group of some words, its request, and the words behind it. -/
structure Front where
  group : WordGroup
  request : Argument
  after : List String

/-- The first group of some words is taken. -/
def front (word : String) (rest : List String) : Front :=
  match splitName? word.toList with
  | none => ⟨⟨word, []⟩, .reveal word, rest⟩
  | some (name, value) =>
      let (others, after) := reach (String.ofList value) rest
      let text := unquote (" ".intercalate (String.ofList value :: others))
      ⟨⟨word, others⟩, .define (String.ofList name) text, after⟩

theorem first_front (word : String) (rest : List String) :
    (front word rest).group.first = word := by
  unfold front
  cases splitName? word.toList <;> rfl

/-- The other words of the first group and those behind it are all there are. -/
theorem others_front_append (word : String) (rest : List String) :
    (front word rest).group.others ++ (front word rest).after = rest := by
  unfold front
  cases splitName? word.toList with
  | none => rfl
  | some cut => exact reach_append _ rest

/-- Words put together begin with the quote that the first one begins with. -/
theorem quote?_intercalate {value : String} (h : quote? value.toList = some quote)
    (others : List String) :
    quote? (" ".intercalate (value :: others)).toList = some quote := by
  obtain ⟨rest, hrest⟩ := (quote?_eq_some_iff.1 h).exists_toList
  rw [hrest, quote?_cons_eq_some_iff] at h
  cases others with
  | nil => rwa [String.intercalate_singleton, hrest, quote?_cons_eq_some_iff]
  -- The joined text begins with the first value, which is not empty.
  | cons second more =>
      rw [String.intercalate_cons_cons, String.toList_append, String.toList_append, hrest,
        List.cons_append, List.cons_append, quote?_cons_eq_some_iff]
      exact h

/-- Reading goes on behind the first group. -/
theorem parse_cons (word : String) (rest : List String) :
    parse (word :: rest) = (front word rest).request :: parse (front word rest).after := by
  rw [parse, front]
  cases splitName? word.toList with
  | none => rfl
  | some cut =>
      obtain ⟨name, value⟩ := cut
      dsimp only
      rw [reach, String.toList_ofList]
      cases hquote : quote? value with
      | none =>
          dsimp only
          rw [String.intercalate_singleton, unquote, String.toList_ofList, hquote]
      | some quote =>
          -- The words that are taken in do not change the quote at the start.
          have hvalue : quote? (String.ofList value).toList = some quote := by
            rwa [String.toList_ofList]
          have hjoined := quote?_intercalate hvalue
          dsimp only
          by_cases hclosed : isClosed quote value = true
          · rw [if_pos hclosed, if_pos hclosed, unquote, hjoined, String.intercalate_singleton,
              String.toList_ofList]
          · rw [if_neg hclosed, if_neg hclosed, unquote, hjoined]

/-- A group that follows the rules is the first one of its words and those behind them. -/
theorem WordGroup.Makes.front_eq {g : WordGroup} {after : List String} {request : Argument}
    (h : g.Makes after request) : front g.first (g.others ++ after) = ⟨g, request, after⟩ := by
  cases h with
  | reveal plain =>
      rw [front, splitName?_eq_none_iff.2 plain]
      rfl
  | @define name value text others _ first_cut reaches unquoted =>
      have hword : (name ++ "=" ++ value).toList = name.toList ++ '=' :: value.toList := by
        simp
      dsimp only
      rw [front, hword, splitName?_append first_cut]
      dsimp only
      rw [String.ofList_toList, String.ofList_toList, reaches_iff.1 reaches,
        ← unquoted_iff.1 unquoted]

/-- The first group of some words follows the rules. -/
theorem makes_of_front {g : WordGroup} {after : List String} {request : Argument}
    (h : front g.first (g.others ++ after) = ⟨g, request, after⟩) : g.Makes after request := by
  obtain ⟨word, others⟩ := g
  unfold front at h
  dsimp only at h
  cases hsplit : splitName? word.toList with
  | none =>
      rw [hsplit] at h
      cases h
      exact .reveal (splitName?_eq_none_iff.1 hsplit)
  -- The cut is the one at the first `=`, and the group is what the program took by it.
  | some cut =>
      obtain ⟨name, value⟩ := cut
      obtain ⟨hcut, hname⟩ := eq_of_splitName? hsplit
      rw [hsplit] at h
      simp only [Front.mk.injEq, WordGroup.mk.injEq, true_and] at h
      obtain ⟨hothers, rfl, hafter⟩ := h
      have hword : word = String.ofList name ++ "=" ++ String.ofList value := by
        rw [← String.toList_inj, hcut]
        simp
      have hreaches : Reaches (String.ofList value) others after :=
        reaches_iff.2 (Prod.ext hothers hafter)
      rw [hothers, hword]
      exact .define (by rwa [String.toList_ofList]) hreaches (unquoted_iff.2 rfl)

/-- The rules say which group is first, and what it asks for. -/
theorem makes_iff {g : WordGroup} {after : List String} {request : Argument} :
    g.Makes after request ↔ front g.first (g.others ++ after) = ⟨g, request, after⟩ :=
  ⟨WordGroup.Makes.front_eq, makes_of_front⟩

/-! ### All groups -/

/-- The requests of groups that follow the rules are read. -/
theorem parse_groups {gs : List WordGroup} {requests : List Argument} (h : Groups gs requests) :
    parse (gs.flatMap WordGroup.words) = requests := by
  induction h with
  | nil => rw [List.flatMap_nil, parse]
  | @cons g gs request requests makes behind ih =>
      rw [List.flatMap_cons, WordGroup.words, List.cons_append, parse_cons, makes_iff.1 makes, ih]

/-- Words can be cut into groups that follow the rules. The induction is on the number of
    words, since a group may take many of them. -/
theorem exists_groups (args : List String) :
    ∃ gs requests, gs.flatMap WordGroup.words = args ∧ Groups gs requests := by
  induction hcount : args.length using Nat.strong_induction_on generalizing args with
  | _ count ih =>
      cases args with
      | nil => exact ⟨[], [], rfl, .nil⟩
      | cons word rest =>
          have hrest := others_front_append word rest
          have hshorter : (front word rest).after.length < count := by
            have hlength := congrArg List.length hrest
            rw [List.length_append] at hlength
            rw [← hcount, List.length_cons]
            omega
          obtain ⟨gs, requests, hgs, hgroups⟩ := ih _ hshorter (front word rest).after rfl
          -- Behind the first group stand the words of the others.
          have hmakes : (front word rest).group.Makes (gs.flatMap WordGroup.words)
              (front word rest).request := by
            rw [makes_iff, hgs, first_front, hrest]
          refine ⟨_, _, ?_, .cons hmakes hgroups⟩
          rw [List.flatMap_cons, hgs, WordGroup.words, List.cons_append, first_front, hrest]

/-- No two cuts of the same words follow the rules. -/
theorem Groups.unique {gs hs : List WordGroup} {requests others : List Argument}
    (h : Groups gs requests) (hother : Groups hs others)
    (hwords : hs.flatMap WordGroup.words = gs.flatMap WordGroup.words) : hs = gs := by
  induction h generalizing hs others with
  | nil =>
      cases hother with
      | nil => rfl
      | cons makes behind => cases hwords
  | @cons g gs request requests makes behind ih =>
      cases hother with
      | nil => cases hwords
      | @cons g' gs' request' requests' makes' behind' =>
          simp only [List.flatMap_cons, WordGroup.words, List.cons_append] at hwords
          obtain ⟨hfirst, hrest⟩ := List.cons.inj hwords
          -- Both first groups are the one that is taken of the same words.
          have hfront := makes_iff.1 makes'
          rw [hfirst, hrest, makes_iff.1 makes, Front.mk.injEq] at hfront
          obtain ⟨rfl, _, hbehind⟩ := hfront
          rw [ih behind' hbehind.symm]

/-- The words of a call can be cut into groups in one way only that follows the rules and
    gives the requests that are read, one for each group. The words of the groups are all
    the words there are, in order. What any groups ask for that follow the rules is what
    is read of their words. -/
theorem parse_in_groups (args : List String) :
    (∃! gs : List WordGroup, gs.flatMap WordGroup.words = args ∧ Groups gs (parse args)) ∧
    ∀ gs requests, Groups gs requests → parse (gs.flatMap WordGroup.words) = requests := by
  obtain ⟨gs, requests, hgs, hgroups⟩ := exists_groups args
  have hparse : parse args = requests := by rw [← hgs, parse_groups hgroups]
  refine ⟨⟨gs, ⟨hgs, by rwa [hparse]⟩, ?_⟩, fun gs requests h => parse_groups h⟩
  rintro hs ⟨hhs, hother⟩
  exact hgroups.unique hother (by rw [hhs, hgs])

/-- A quote of the other kind and an `=` are nothing special within a quotation, and a
    value that is a quote and no more goes on to the end. -/
example : parse ["a='b", "c=d\"", "e'", "f", "g='", "h"] =
    [.define "a" "b c=d\" e", .reveal "f", .define "g" " h"] := by
  decide +kernel

end Alias

end CommandShell
