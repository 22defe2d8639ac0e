import CommandShell.Proofs.Frames
import CommandShell.Proofs.Quotations

/-!
# Listings of Aliases Can Be Read Back

`alias` without arguments lists the aliases in the form in which they can be
defined. When such a text is given back to `alias` word by word, the alias comes
back as it was exactly if its value is quotable, and a whole listing rebuilds all
aliases if the values of all of them are.

That a quotable value comes back is a matter of how words are grouped. For the
converse it has to be excluded that another value comes back by accident, since
the words behind a quote that closes too early are requests of their own, and may
well define the same alias again. They are too few for that. A request cannot
define a value as long as the words it is made of, and what is left behind the
first request is not longer than the value that was to be read.

## Main definitions

* `Aliases.listing`: The aliases as they are listed.
* `Aliases.IsWellNamed`: Aliases with names that `alias` accepts.
* `extent`: The room that words take in a line.
* `Session.readBack`: A text of a listing is given back to `alias`.

## Theorems

* `isWellNamed_ofList`, `isWellNamed_after`: No list of aliases and no history leaves
  one with another name.
* `length_lt_of_mem_parse`: A request is longer than the value it defines.
* `mem_of_get?_inTurn`: An alias stems from a request or was there before.
* `run_assignment`: A quotable value is defined as it is.
* `listing_read_back`: A listing that is read back gives the aliases in it.
-/

namespace CommandShell

open Text Line Alias

/-- The aliases as they are listed, in the order of their names. -/
def Aliases.listing (aliases : Aliases) : List String :=
  aliases.toList.map fun e => assignment e.1 e.2

theorem aliasLine_eq (name value : String) :
    Builtin.aliasLine name value = assignment name value ++ "\n" := by
  simp only [Builtin.aliasLine, assignment, String.append_assoc]
  rfl

/-! ### The names of aliases -/

/-- Aliases with names that `alias` accepts. -/
def Aliases.IsWellNamed (aliases : Aliases) : Prop :=
  ∀ e ∈ aliases.toList, isValidName e.1 = true

instance (aliases : Aliases) : Decidable aliases.IsWellNamed :=
  inferInstanceAs (Decidable (∀ e ∈ aliases.toList, Aliases.isValidName e.1 = true))

namespace Aliases

variable {aliases aliases' : Aliases}

theorem IsWellNamed.put {name : String} (h : aliases.IsWellNamed)
    (hname : isValidName name = true) (value : String) : (aliases.put name value).IsWellNamed := by
  intro e he
  rcases Bindings.mem_insertEntry he with rfl | he
  · exact hname
  · exact h e he

theorem IsWellNamed.set {name value : String} (h : aliases.IsWellNamed)
    (hset : aliases.set name value = .ok aliases') : aliases'.IsWellNamed := by
  unfold Aliases.set at hset
  split at hset <;> cases hset
  rename_i hname
  exact h.put hname value

theorem IsWellNamed.remove (h : aliases.IsWellNamed) (name : String) :
    (aliases.remove name).IsWellNamed := fun e he => h e (List.mem_filter.1 he).1

/-- A list of aliases leaves out what has another name. -/
theorem isWellNamed_ofList (pairs : List (String × String)) : (ofList pairs).IsWellNamed := by
  have hfold : ∀ (entries : List (String × String)) (b : Bindings),
      (∀ e ∈ entries, isValidName e.1 = true) → IsWellNamed ⟨b⟩ →
      IsWellNamed ⟨entries.foldl (fun b e => b.insert e.1 e.2) b⟩ := by
    intro entries
    -- The bindings are put in one by one, and every name has been checked before.
    induction entries with
    | nil => exact fun b _ h => h
    | cons e rest ih =>
        intro b hnames h
        obtain ⟨hname, hrest⟩ := List.forall_mem_cons.1 hnames
        exact ih (b.insert e.1 e.2) hrest (h.put hname e.2)
  exact hfold _ Bindings.empty (fun e he => (List.mem_filter.1 he).2) fun e he => nomatch he

end Aliases

namespace Builtin

variable {s : Session}

/-- What each request keeps is kept by all of them. -/
theorem inTurn_induction {α : Type} {P : Session → Prop}
    {act : Session → α → Session × Except SystemError Bool}
    (hact : ∀ t request, P t → P (act t request).1) (requests : List α) (status : Int) (h : P s) :
    P (inTurn act s status requests).1 := by
  induction requests generalizing s status with
  | nil => exact h
  | cons request more ih =>
      have hacted := hact s request h
      unfold inTurn
      split <;> rename_i heq <;> rw [heq] at hacted
      -- A request that succeeds, one that is answered with a complaint, one that ends the
      -- call.
      · exact ih status hacted
      · exact ih 1 hacted
      · exact hacted

theorem isWellNamed_carryOut (request : Argument) (h : s.state.aliases.IsWellNamed) :
    (carryOut s request).1.state.aliases.IsWellNamed := by
  cases request with
  | define name value =>
      simp only [carryOut]
      -- A name that is refused defines nothing.
      cases hset : s.state.aliases.set name value with
      | ok aliases => exact h.set hset
      | error e => exact h
  | reveal name =>
      simp only [carryOut]
      cases s.state.aliases.get? name <;> exact h

theorem isWellNamed_removeOne (name : String) (h : s.state.aliases.IsWellNamed) :
    (removeOne s name).1.state.aliases.IsWellNamed := by
  unfold removeOne
  cases s.state.aliases.get? name with
  | some text => exact h.remove name
  | none => exact h

/-- What holds of a call of `alias` holds of its run, which may report an error but
    changes no alias by it. -/
theorem aliases_run (m : Machine) (b : Builtin) (args : List String) (s : Session) :
    (b.run m args s).1.state.aliases = (b.execute m args s).1.state.aliases := by
  unfold run
  split <;> rename_i heq <;> rw [heq]
  rfl

theorem isWellNamed_run (m : Machine) (b : Builtin) (args : List String)
    (h : s.state.aliases.IsWellNamed) : (b.run m args s).1.state.aliases.IsWellNamed := by
  rw [aliases_run]
  by_cases hb : b = .defineAliases ∨ b = .removeAliases
  -- Only the two builtins for aliases can change any.
  · rcases hb with rfl | rfl
    · simp only [execute, runDefineAliases]
      split
      · generalize s.state.aliases.toList.map _ = texts
        have hprinted := (effects_printAll (b := .help) texts
          (Relation.ReflTransGen.refl (a := s))).aliases_eq (by decide)
        split <;> rename_i heq <;> rw [heq] at hprinted <;> exact hprinted ▸ h
      · exact inTurn_induction (P := (·.state.aliases.IsWellNamed))
          (fun t request => isWellNamed_carryOut request) (parse args) 0 h
    · simp only [execute, runRemoveAliases]
      split
      · exact h
      · exact inTurn_induction (P := (·.state.aliases.IsWellNamed))
          (fun t name => isWellNamed_removeOne name) args 0 h
  · rw [(execute_effects m b args s).aliases_eq hb]
    exact h

end Builtin

namespace Session

variable {machines : Machine → Prop} {s : Session}

theorem isWellNamed_turn (turn : Turn) (h : turn.before.state.aliases.IsWellNamed) :
    turn.after.state.aliases.IsWellNamed := by
  rcases turn.command_cases with ⟨_, tokens, hafter⟩ | ⟨b, args, _, hafter⟩ |
    ⟨leading, args, _, _, hafter⟩
  -- An empty command and a program leave the aliases alone, and a builtin is known already.
  · rw [hafter]
    exact h
  · rw [hafter]
    exact Builtin.isWellNamed_run turn.machine b args (s := turn.before.ready b.name args) h
  · rw [hafter]
    have hstate := state_runProgram turn.machine (turn.before.ready leading args)
    simp only [close, hstate]
    exact h

theorem invariant_isWellNamed (h : s.state.aliases.IsWellNamed) :
    Invariant machines s fun _ t => t.state.aliases.IsWellNamed where
  start := h
  begin := fun _ _ _ ih => ih
  turn := fun _ turn _ ih => isWellNamed_turn turn ih
  write := fun _ _ _ _ ih => ih
  watch := fun _ _ _ ih => ih

/-- No history of a session leaves an alias with a name that `alias` refuses. -/
theorem isWellNamed_after (h : s.state.aliases.IsWellNamed) (history : History) :
    (s.after history).state.aliases.IsWellNamed := by
  have hcourse : Course (fun _ => True) s (s.turnsDuring history) (s.after history) :=
    course_after s history fun _ _ => trivial
  exact hcourse.invariant (invariant_isWellNamed h)

end Session

namespace Alias

/-! ### The room that words take -/

/-- The room that words take in a line, each with a gap behind it. -/
def extent : List String → Nat
  | [] => 0
  | word :: rest => word.length + 1 + extent rest

theorem extent_append (args more : List String) :
    extent (args ++ more) = extent args + extent more := by
  induction args with
  | nil => exact (Nat.zero_add _).symm
  | cons word rest ih =>
      rw [List.cons_append, extent, extent, ih]
      omega

theorem extent_le_of_sublist {args more : List String} (h : args.Sublist more) :
    extent args ≤ extent more := by
  induction h with
  | slnil => exact Nat.le_refl _
  | cons word _ ih => exact Nat.le_add_left_of_le ih
  | cons_cons word _ ih => exact Nat.add_le_add_left ih _

/-- The fields of a text and the separators between them take all its room. -/
theorem extent_fields (cs : List Char) :
    extent ((fields isGap cs).map String.ofList) = cs.length + 1 := by
  induction cs with
  | nil => rfl
  | cons c rest ih =>
      cases hc : isGap c with
      | true =>
          -- A gap takes one place and begins a new field.
          rw [fields_cons_of_separator hc, List.map_cons, extent, ih, String.length_ofList]
          simp only [List.length_nil, List.length_cons]
          omega
      | false =>
          -- Any other character makes the first field longer.
          obtain ⟨first, more, hfields⟩ := exists_fields_eq_cons isGap rest
          rw [hfields, List.map_cons, extent, String.length_ofList] at ih
          rw [fields_cons_of_not hc hfields, List.map_cons, extent, String.length_ofList]
          simp only [List.length_cons]
          omega

/-- Words take no more room than the text that they are the words of. -/
theorem extent_words_le (text : String) : extent (words text) ≤ text.length + 1 := by
  have hsolid : (words text).Sublist ((fields isGap text.toList).map String.ofList) :=
    List.filter_sublist.map String.ofList
  rw [← String.length_toList, ← extent_fields]
  exact extent_le_of_sublist hsolid

theorem length_stripQuotes_le (quote : Char) (value : List Char) :
    (stripQuotes quote value).length ≤ value.length := by
  unfold stripQuotes
  grind

theorem length_intercalate_space (first : String) (rest : List String) :
    (" ".intercalate (first :: rest)).length = first.length + extent rest := by
  induction rest generalizing first with
  | nil => simp [extent]
  | cons second more ih =>
      have hblank : " ".length = 1 := rfl
      rw [String.intercalate_cons_cons, String.length_append, String.length_append, ih, extent,
        hblank]
      omega

theorem length_of_splitName? {word name value : List Char}
    (h : splitName? word = some (name, value)) : word.length = name.length + 1 + value.length := by
  rw [(eq_of_splitName? h).1, List.length_append, List.length_cons]
  omega

/-- A request is longer than the value it defines, and nothing that a request defines is
    longer than the words it is made of. -/
theorem length_lt_of_mem_parse {name value : String} {args : List String}
    (h : .define name value ∈ parse args) : value.length + 2 ≤ extent args := by
  induction args using parse.induct generalizing name value with
  | case1 => simp [parse] at h
  | case2 word rest hsplit ih =>
      simp only [parse, hsplit, List.mem_cons, reduceCtorEq, false_or] at h
      have hrest := ih h
      rw [extent]
      omega
  | case3 word rest name' value' hsplit hquote ih =>
      have hlength := length_of_splitName? hsplit
      rw [String.length_toList] at hlength
      simp only [parse, hsplit, hquote, List.mem_cons, Argument.define.injEq] at h
      rw [extent]
      rcases h with ⟨_, rfl⟩ | h
      · rw [String.length_ofList]
        omega
      · have hrest := ih h
        omega
  | case4 word rest name' value' hsplit quote hquote hclosed ih =>
      have hlength := length_of_splitName? hsplit
      rw [String.length_toList] at hlength
      simp only [parse, hsplit, hquote, hclosed, if_true, List.mem_cons,
        Argument.define.injEq] at h
      rw [extent]
      rcases h with ⟨_, rfl⟩ | h
      · have hstrip := length_stripQuotes_le quote value'
        rw [String.length_ofList]
        omega
      · have hrest := ih h
        omega
  | case5 word rest name' value' hsplit quote hquote hclosed _ taken =>
      rename_i ih
      have hlength := length_of_splitName? hsplit
      rw [String.length_toList] at hlength
      simp only [parse, hsplit, hquote, hclosed, List.mem_cons, Argument.define.injEq,
        Bool.false_eq_true, if_false] at h
      -- The words of the quotation and those behind it share the room.
      have hrest : extent (takeQuoted quote rest).1 + extent (takeQuoted quote rest).2
          = extent rest := by
        rw [← extent_append, takeQuoted_append]
      rw [extent]
      rcases h with ⟨_, rfl⟩ | h
      · have hstrip := length_stripQuotes_le quote
          (" ".intercalate (String.ofList value' :: (takeQuoted quote rest).1)).toList
        rw [String.length_toList, length_intercalate_space, String.length_ofList] at hstrip
        rw [String.length_ofList]
        omega
      · have hafter : value.length + 2 ≤ extent (takeQuoted quote rest).2 := ih h
        omega

end Alias

namespace Builtin

variable {s : Session} {name value : String}

/-! ### Where an alias comes from -/

theorem mem_of_get?_carryOut {request : Argument}
    (h : (carryOut s request).1.state.aliases.get? name = some value) :
    request = .define name value ∨ s.state.aliases.get? name = some value := by
  cases request with
  | reveal other =>
      simp only [carryOut] at h
      split at h <;> exact Or.inr h
  | define name' value' =>
      simp only [carryOut] at h
      cases hset : s.state.aliases.set name' value' with
      -- The request is refused, or it defines one alias, which is the one asked for or
      -- another.
      | error e =>
          rw [hset] at h
          exact Or.inr h
      | ok aliases =>
          rw [hset] at h
          have hput : aliases = s.state.aliases.put name' value' := by
            unfold Aliases.set at hset
            split at hset <;> cases hset
            rfl
          dsimp only at h
          rw [hput, Aliases.get?_put] at h
          split at h
          · rename_i heq
            cases h
            exact Or.inl (by rw [heq])
          · exact Or.inr h

/-- An alias stems from a request or was there before. -/
theorem mem_of_get?_inTurn {requests : List Argument} {status : Int}
    (h : (inTurn carryOut s status requests).1.state.aliases.get? name = some value) :
    .define name value ∈ requests ∨ s.state.aliases.get? name = some value := by
  induction requests generalizing s status with
  | nil => exact Or.inr h
  | cons request more ih =>
      -- Whatever becomes of the request, the alias was there behind it or is defined later.
      have hstep : .define name value ∈ more ∨
          (carryOut s request).1.state.aliases.get? name = some value := by
        unfold inTurn at h
        split at h <;> rename_i heq <;> rw [heq]
        · exact ih h
        · exact ih h
        · exact Or.inr h
      rcases hstep with hmore | hfirst
      · exact Or.inl (List.mem_cons_of_mem request hmore)
      · exact (mem_of_get?_carryOut hfirst).imp_left
          fun heq => by rw [heq]; exact List.mem_cons_self

/-- A quotable value is defined as it is, in one request. -/
theorem run_assignment (m : Machine) (s : Session) (hname : Aliases.isValidName name = true)
    (hvalue : Quotable value) :
    Builtin.defineAliases.run m (words (assignment name value)) s
      = ({ s with state.aliases := s.state.aliases.put name value }, 0) := by
  have hparse := parse_words_of_quotable hname hvalue
  have hargs : (words (assignment name value)).isEmpty = false := by
    cases hwords : words (assignment name value) with
    | nil => simp [hwords, parse] at hparse
    | cons word rest => rfl
  simp [run, execute, runDefineAliases, hargs, hparse, inTurn, carryOut, Aliases.set, hname]

/-- No other value comes back, whatever the words behind it define. -/
theorem quotable_of_get?_run (m : Machine) (hs : s.state.aliases.get? name = none)
    (hname : Aliases.isValidName name = true)
    (h : (Builtin.defineAliases.run m (words (assignment name value)) s).1.state.aliases.get? name
      = some value) : Quotable value := by
  obtain ⟨first, rest, read, after, hwords, hparse, hread, hafter⟩ := exists_parse_words hname value
  rw [aliases_run] at h
  simp only [execute, runDefineAliases, hwords, List.isEmpty_cons, Bool.false_eq_true,
    if_false] at h
  rw [← hwords, hparse] at h
  rcases mem_of_get?_inTurn h with hmem | hbefore
  -- What defines the alias is the first request, one behind it, or nothing in the call.
  · rcases List.mem_cons.1 hmem with heq | hmem
    · cases heq
      exact hread
    · -- The words behind the first request are too few to define the value.
      have hvalue := length_lt_of_mem_parse hmem
      have hrest : extent after ≤ extent rest := by
        obtain ⟨front, rfl⟩ := hafter
        rw [extent_append]
        omega
      have hroom := extent_words_le (assignment name value)
      have hfirst : name.length + 2 ≤
          (String.ofList (name.toList ++ '=' :: '\'' :: first)).length := by
        rw [String.length_ofList, List.length_append, String.length_toList]
        simp only [List.length_cons]
        omega
      have htext : (assignment name value).length = name.length + value.length + 3 := by
        have hquotes : "='".length = 2 ∧ "'".length = 1 := ⟨rfl, rfl⟩
        rw [assignment, String.length_append, String.length_append, String.length_append,
          hquotes.1, hquotes.2]
        omega
      rw [hwords, extent, htext] at hroom
      omega
  -- There was no such alias before the call.
  · rw [hs] at hbefore
    cases hbefore

/-! ### Whole listings -/

/-- Texts for a standard output that takes everything are all written. -/
theorem printAll_of_room_none {t : Session} (hroom : t.journal.outputRoom = none)
    (texts : List String) :
    (t.printAll texts).2 = .ok () ∧
      (t.printAll texts).1.journal.attempted .standardOutput
        = t.journal.attempted .standardOutput ++ texts := by
  induction texts generalizing t with
  | nil => exact ⟨rfl, (List.append_nil _).symm⟩
  | cons text more ih =>
      have hfree : t.journal.room .standardOutput = none := hroom
      have hwritten : (t.print text).2 = .ok () := Journal.write_of_room_none hfree text
      have hroom' : (t.print text).1.journal.outputRoom = none := by
        simp [Session.print, Session.write, Journal.write, roomAfter, hroom]
      obtain ⟨hmore, hattempted⟩ := ih hroom'
      have hfirst : (t.print text).1.journal.attempted .standardOutput
          = t.journal.attempted .standardOutput ++ [text] :=
        t.journal.attempted_write .standardOutput .standardOutput text
      have hstep : t.printAll (text :: more) = (t.print text).1.printAll more := by
        -- The first text is written, so the others are not given up.
        rw [Session.printAll]
        split <;> rename_i heq <;> rw [heq] at hwritten
        · rw [heq]
        · cases hwritten
      rw [hstep]
      refine ⟨hmore, ?_⟩
      rw [hattempted, hfirst, List.append_assoc, List.singleton_append]

/-- `alias` without arguments writes the listing, each text on a line. -/
theorem attempted_runDefineAliases (m : Machine) {t : Session}
    (hroom : t.journal.outputRoom = none) :
    (Builtin.defineAliases.run m [] t).2 = 0 ∧
      (Builtin.defineAliases.run m [] t).1.journal.attempted .standardOutput
        = t.journal.attempted .standardOutput ++ t.state.aliases.listing.map (· ++ "\n") := by
  have htexts : t.state.aliases.toList.map (fun e => aliasLine e.1 e.2)
      = t.state.aliases.listing.map (· ++ "\n") := by
    simp [Aliases.listing, aliasLine_eq]
  obtain ⟨hwritten, hattempted⟩ := printAll_of_room_none hroom
    (t.state.aliases.listing.map (· ++ "\n"))
  have hrun : Builtin.defineAliases.run m [] t
      = ((t.printAll (t.state.aliases.listing.map (· ++ "\n"))).1, 0) := by
    simp only [run, execute, runDefineAliases, List.isEmpty_nil, if_true, htexts]
    cases hprint : t.printAll (t.state.aliases.listing.map (· ++ "\n")) with
    | mk after result =>
        rw [hprint] at hwritten
        obtain rfl : result = .ok () := hwritten
        rfl
  rw [hrun]
  exact ⟨rfl, hattempted⟩

end Builtin

/-- A text of a listing is given back to `alias`, cut into its words. -/
def Session.readBack (m : Machine) (s : Session) (text : String) : Session :=
  (Builtin.defineAliases.run m (words text) s).1

/-- Texts that are given back one after the other define one alias each. -/
theorem Session.foldl_readBack (m : Machine) {entries : List (String × String)}
    (h : ∀ e ∈ entries, Aliases.isValidName e.1 = true ∧ Quotable e.2) (s : Session) :
    (entries.map fun e => assignment e.1 e.2).foldl (readBack m) s
      = { s with state.aliases := entries.foldl (fun a e => a.put e.1 e.2) s.state.aliases } := by
  induction entries generalizing s with
  | nil => rfl
  -- Each line of the listing is one request, and it puts one binding back.
  | cons e rest ih =>
      obtain ⟨⟨hname, hvalue⟩, hrest⟩ := List.forall_mem_cons.1 h
      rw [List.map_cons, List.foldl_cons, readBack, Builtin.run_assignment m s hname hvalue,
        ih hrest]
      rfl

/-- Aliases are determined by their listing. -/
theorem Aliases.foldl_put_toList (aliases : Aliases) :
    aliases.toList.foldl (fun a e => a.put e.1 e.2) Aliases.empty = aliases := by
  have hbindings : ∀ (entries : List (String × String)) (a : Aliases),
      (entries.foldl (fun a e => a.put e.1 e.2) a).bindings
        = entries.foldl (fun b e => b.insert e.1 e.2) a.bindings := by
    intro entries
    induction entries with
    | nil => exact fun a => rfl
    | cons e rest ih => exact fun a => ih (a.put e.1 e.2)
  exact Aliases.ext ((hbindings _ _).trans (Bindings.ofList_toList aliases.bindings))

/-- An alias that is given back to `alias` in the form in which it is listed comes back as
    it was exactly if its value is quotable. A whole listing of such aliases rebuilds them
    all and does nothing else. -/
theorem listing_read_back (m : Machine) :
    (∀ (s : Session) (name value : String), s.state.aliases = Aliases.empty →
      Aliases.isValidName name = true →
      let ran := Builtin.defineAliases.run m (words (assignment name value)) s
      (ran.1.state.aliases = Aliases.empty.put name value ∧ ran.2 = 0 ↔ Quotable value)) ∧
    ∀ s t : Session, s.state.aliases = Aliases.empty → t.state.aliases.IsWellNamed →
      (∀ e ∈ t.state.aliases.toList, Quotable e.2) →
      (t.journal.outputRoom = none →
        (Builtin.defineAliases.run m [] t).1.journal.attempted .standardOutput
          = t.journal.attempted .standardOutput ++ t.state.aliases.listing.map (· ++ "\n")) ∧
      t.state.aliases.listing.foldl (Session.readBack m) s
        = { s with state.aliases := t.state.aliases } := by
  refine ⟨fun s name value hempty hname => ⟨fun ⟨haliases, _⟩ => ?_, fun hvalue => ?_⟩, ?_⟩
  -- The alias is there after the call but was not before, so its value has been read.
  · have hs : s.state.aliases.get? name = none := by rw [hempty]; rfl
    refine Builtin.quotable_of_get?_run m hs hname ?_
    rw [haliases, Aliases.get?_put, if_pos rfl]
  · rw [Builtin.run_assignment m s hname hvalue, hempty]
    exact ⟨rfl, rfl⟩
  -- Of a whole listing every line is read back, and the bindings are all there is.
  · intro s t hempty hnames hvalues
    refine ⟨fun hroom => (Builtin.attempted_runDefineAliases m hroom).2, ?_⟩
    rw [Aliases.listing,
      Session.foldl_readBack m fun e he => ⟨hnames e he, hvalues e he⟩, hempty,
      Aliases.foldl_put_toList]

/-- Quotes, blanks at both ends and nothing at all are read back. A quote before a blank
    closes the quotation too early. -/
theorem listing_read_back_quotes :
    let m : Machine := Machine.bare fun _ _ => .quiet (.ok (.exited 0))
    let s := Session.fresh Environment.empty
    let t : Session := { s with
      state.aliases := ((Aliases.empty.put "q" " 'it''s\" ").put "none" "").put "'" "'" }
    let ran := fun value => Builtin.defineAliases.run m (words (assignment "q" value)) s
    Aliases.isValidName "q" = true ∧
    ((ran "it's ").1.state.aliases = Aliases.empty.put "q" "it's " ∧ (ran "it's ").2 = 0) ∧
    ¬ ((ran "a' b").1.state.aliases = Aliases.empty.put "q" "a' b" ∧ (ran "a' b").2 = 0) ∧
    t.state.aliases.listing = ["'='''", "none=''", "q=' 'it''s\" '"] ∧
    t.state.aliases.listing.foldl (Session.readBack m) s
      = { s with state.aliases := t.state.aliases } := by
  intro m s t ran
  have hname : Aliases.isValidName "q" = true := by decide +kernel
  have hback := (listing_read_back m).1 s "q"
  have hlisting := (listing_read_back m).2 s t rfl (by decide +kernel) (by decide +kernel)
  refine ⟨hname, (hback "it's " rfl hname).2 (by decide +kernel), fun hran => ?_,
    by decide +kernel, hlisting.2⟩
  have hquotable := (hback "a' b" rfl hname).1 hran
  exact absurd hquotable (by decide +kernel)

end CommandShell
