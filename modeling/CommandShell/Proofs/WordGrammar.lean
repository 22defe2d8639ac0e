import CommandShell.Session.State
import Mathlib.Data.List.TakeWhile

/-!
# The Grammar of a Word

What a word is made of can be said by a grammar that reads it from left to
right: a run without `$`, `$?`, `$$`, `$NAME`, or a `$` by itself. Each of the
productions looks at the character behind the piece, so that a run and a name
are as long as they can be and a `$` stands by itself only where it begins
nothing else. Then there is one way to read a word, and the pieces are it.

What a word expands to is put together from the values of its pieces. A value
does not come back into the word, and of the variables only those count whose
names are among the pieces.

## Main definitions

* `Reads`: A word is read as pieces.

## Theorems

* `reads_iff`: A word is read in one way.
* `expand_congr`: What counts for the expansion of a word.
* `expand_grammar`: A word expands to the values of the pieces it is read as.
-/

namespace CommandShell

namespace Line

open Text

/-- A word is read as pieces, from left to right. -/
inductive Reads : List Char → List Piece → Prop where
  | ended : Reads [] []
  /-- A run without `$` goes on to the next `$`, or to the end. -/
  | plain {run rest : List Char} {ps : List Piece} (hne : run ≠ []) (hrun : '$' ∉ run)
      (hstop : ∀ c ∈ rest.head?, c = '$') (hrest : Reads rest ps) :
      Reads (run ++ rest) (.plain run :: ps)
  | status {rest : List Char} {ps : List Piece} (hrest : Reads rest ps) :
      Reads ('$' :: '?' :: rest) (.status :: ps)
  | process {rest : List Char} {ps : List Piece} (hrest : Reads rest ps) :
      Reads ('$' :: '$' :: rest) (.process :: ps)
  /-- A name goes on as long as there are characters for it. -/
  | named {name rest : List Char} {ps : List Piece} (hne : name ≠ [])
      (hname : ∀ c ∈ name, isNameChar c = true) (hstop : ∀ c ∈ rest.head?, isNameChar c = false)
      (hrest : Reads rest ps) :
      Reads ('$' :: (name ++ rest)) (.variable name :: ps)
  /-- A `$` by itself stands before the end, or before what follows no `$`. -/
  | dollar {rest : List Char} {ps : List Piece}
      (hstop : ∀ c ∈ rest.head?, c ≠ '?' ∧ c ≠ '$' ∧ isNameChar c = false)
      (hrest : Reads rest ps) :
      Reads ('$' :: rest) (.dollar :: ps)

/-! ### One way to read a word -/

section Runs

variable {p : Char → Bool} {run rest : List Char}

/-- A run is as long as it can be if what follows does not belong to it. -/
theorem takeWhile_append_of_stop (hrun : ∀ c ∈ run, p c = true)
    (hstop : ∀ c ∈ rest.head?, p c = false) : (run ++ rest).takeWhile p = run := by
  have hnone : rest.takeWhile p = [] := by
    cases rest with
    | nil => rfl
    | cons c more => simp [hstop c rfl]
  rw [List.takeWhile_append_of_pos hrun, hnone, List.append_nil]

theorem dropWhile_append_of_stop (hrun : ∀ c ∈ run, p c = true)
    (hstop : ∀ c ∈ rest.head?, p c = false) : (run ++ rest).dropWhile p = rest := by
  have hall : rest.dropWhile p = rest := by
    cases rest with
    | nil => rfl
    | cons c more => simp [hstop c rfl]
  rw [List.dropWhile_append_of_pos hrun, hall]

theorem stop_of_dropWhile (p : Char → Bool) (cs : List Char) :
    ∀ c ∈ (cs.dropWhile p).head?, p c = false := by
  intro c hc
  have hstop := List.head?_dropWhile_not p cs
  rw [Option.mem_def.1 hc] at hstop
  exact hstop

end Runs

/-- Behind a `$` that begins neither `$?` nor `$$` the pieces are those of a name or of
    the `$` itself. -/
theorem pieces_dollar {rest : List Char} (hquestion : rest.head? ≠ some '?')
    (hdollar : rest.head? ≠ some '$') :
    pieces ('$' :: rest) =
      if (rest.takeWhile isNameChar).isEmpty then .dollar :: pieces rest
      else .variable (rest.takeWhile isNameChar) :: pieces (rest.dropWhile isNameChar) := by
  rw [pieces]
  · rintro more rfl
    exact hquestion rfl
  · rintro more rfl
    exact hdollar rfl

theorem isPlain_iff {c : Char} : isPlain c = true ↔ c ≠ '$' := by
  simp [isPlain]

/-- The word is read as its pieces. -/
theorem reads_pieces (cs : List Char) : Reads cs (pieces cs) := by
  fun_induction pieces cs with
  | case1 => exact .ended
  | case2 rest ih => exact .status ih
  | case3 rest ih => exact .process ih
  | case4 rest hquestion hdollar hname ih =>
      -- No production reads more than the `$`.
      refine .dollar (fun c hc => ?_) ih
      obtain ⟨more, rfl⟩ := List.head?_eq_some_iff.1 hc
      refine ⟨fun heq => hquestion more (by rw [heq]), fun heq => hdollar more (by rw [heq]), ?_⟩
      by_contra hchar
      simp [hchar] at hname
  | case5 rest hquestion hdollar hname ih =>
      have hread := Reads.named (by simpa using hname) (fun c hc => List.mem_takeWhile_imp hc)
        (stop_of_dropWhile isNameChar rest) ih
      rwa [List.takeWhile_append_dropWhile] at hread
  | case6 c rest _ _ hdollar ih =>
      have hrun : ∀ d ∈ c :: rest.takeWhile isPlain, d ≠ '$' :=
        List.forall_mem_cons.2 ⟨hdollar, fun d hd => isPlain_iff.1 (List.mem_takeWhile_imp hd)⟩
      have hstop : ∀ d ∈ (rest.dropWhile isPlain).head?, d = '$' := fun d hd => by
        simpa [isPlain] using stop_of_dropWhile isPlain rest d hd
      have hread := Reads.plain (List.cons_ne_nil c _) (fun hmem => hrun '$' hmem rfl) hstop ih
      rwa [List.cons_append, List.takeWhile_append_dropWhile] at hread

/-- It is read as nothing else. -/
theorem Reads.eq_pieces {cs : List Char} {ps : List Piece} (h : Reads cs ps) : ps = pieces cs := by
  induction h with
  | ended => simp [pieces]
  | @plain run rest ps hne hrun hstop hrest ih =>
      -- The first character chooses the case of the function, and the others go with it.
      obtain ⟨c, more, rfl⟩ := List.exists_cons_of_ne_nil hne
      have hplain : ∀ d ∈ more, isPlain d = true := fun d hd =>
        isPlain_iff.2 fun heq => hrun (heq ▸ List.mem_cons_of_mem c hd)
      have hends : ∀ d ∈ rest.head?, isPlain d = false := fun d hd => by simp [isPlain, hstop d hd]
      have hc : c ≠ '$' := fun heq => hrun (heq ▸ List.mem_cons_self)
      rw [List.cons_append, pieces, takeWhile_append_of_stop hplain hends,
        dropWhile_append_of_stop hplain hends, ih]
      · exact fun _ heq => absurd heq hc
      · exact fun _ heq => absurd heq hc
      · exact hc
  | status hrest ih => rw [pieces, ih]
  | process hrest ih => rw [pieces, ih]
  | @named name rest ps hne hname hstop hrest ih =>
      obtain ⟨c, more, rfl⟩ := List.exists_cons_of_ne_nil hne
      -- The characters of the shorter references belong to no name.
      have hc : isNameChar c = true := hname c List.mem_cons_self
      have hquestion : c ≠ '?' := fun heq => absurd hc (by rw [heq]; simp [not_isNameChar_question])
      have hdollar : c ≠ '$' := fun heq => absurd hc (by rw [heq]; simp [not_isNameChar_dollar])
      rw [pieces_dollar (by simpa using hquestion) (by simpa using hdollar),
        takeWhile_append_of_stop hname hstop, dropWhile_append_of_stop hname hstop, ih]
      rfl
  | @dollar rest ps hstop hrest ih =>
      have hnone : rest.takeWhile isNameChar = [] := by
        cases rest with
        | nil => rfl
        | cons c more => simp [(hstop c rfl).2.2]
      rw [pieces_dollar (fun hc => (hstop _ hc).1 rfl) (fun hc => (hstop _ hc).2.1 rfl), hnone, ih]
      rfl

/-- A word is read in one way. -/
theorem reads_iff {cs : List Char} {ps : List Piece} : Reads cs ps ↔ ps = pieces cs :=
  ⟨Reads.eq_pieces, fun h => h ▸ reads_pieces cs⟩

/-! ### Values -/

/-- What counts for the expansion of a word: the status, the process and the values of the
    variables it names. -/
theorem Parameters.expand_congr {p q : Parameters} {word : String} (hstatus : q.status = p.status)
    (hpid : q.pid = p.pid)
    (hvalue : ∀ name, .variable name ∈ pieces word.toList →
      q.value? (String.ofList name) = p.value? (String.ofList name)) :
    q.expand word = p.expand word := by
  unfold expand
  congr 1
  refine List.map_congr_left fun piece hmem => ?_
  -- Of the five kinds of pieces, each reads at most one of the three parameters.
  match piece, hmem with
  | .plain run, _ => rfl
  | .status, _ => rw [valueOf, valueOf, hstatus]
  | .process, _ => rw [valueOf, valueOf, hpid]
  | .dollar, _ => rfl
  | .variable name, hmem => rw [valueOf, valueOf, hvalue name hmem]

/-- A word is read in one way, and expands to the values of what it is read as, put
    together as they are. So a word without `$` stays as it is, whether it is expanded or
    not, and nothing counts but the status, the process and the variables that the word
    names. -/
theorem expand_grammar (word : String) :
    (∃! ps, Reads word.toList ps) ∧
      (∀ (s : State) ps, Reads word.toList ps →
        s.parameters.expand word = String.join (ps.map s.parameters.valueOf)) ∧
      ('$' ∉ word.toList → ∀ s : State, s.parameters.expand word = word) ∧
      (∀ (s : State) raw, s.expandWords raw = s.aliases.substitute
        ((raw.map fun w => if '$' ∈ w.toList then s.parameters.expand w else w).filter (· ≠ ""))) ∧
      ∀ (s t : State) ps, Reads word.toList ps → t.status = s.status → t.pid = s.pid →
        (∀ name, .variable name ∈ ps →
          t.environment.get? (String.ofList name) = s.environment.get? (String.ofList name)) →
        t.parameters.expand word = s.parameters.expand word := by
  refine ⟨⟨pieces word.toList, reads_pieces _, fun _ => Reads.eq_pieces⟩, ?_, ?_, ?_, ?_⟩
  · intro s ps hread
    rw [hread.eq_pieces]
    rfl
  · exact fun hplain s => expand_of_not_mem s.parameters hplain
  · intro s raw
    -- Going through the pieces of a word without references gives the word itself.
    have hsame : (fun w => if '$' ∈ w.toList then s.parameters.expand w else w)
        = s.parameters.expand := by
      funext w
      split
      · rfl
      · rename_i hplain
        exact (expand_of_not_mem s.parameters hplain).symm
    rw [hsame, State.expandWords]
  · intro s t ps hread hstatus hpid hvalues
    obtain rfl := hread.eq_pieces
    exact Parameters.expand_congr hstatus hpid hvalues

/-- A letter that is no ASCII letter belongs to a name, references follow one another
    without a gap, and a value with references in it is put in as it is. -/
theorem expand_grammar_mixed :
    let word := "a$$$X.$?$Yé$-$"
    let ps : List Piece := [.plain ['a'], .process, .variable ['X'], .plain ['.'], .status,
      .variable ['Y', 'é'], .dollar, .plain ['-'], .dollar]
    let s : State := { State.initial "sh" (Environment.ofList [("X", "$?$Z")]) 7 with status := 3 }
    let t : State := { s with environment := s.environment.put "Z" "z" }
    Reads word.toList ps ∧ s.parameters.expand word = String.join (ps.map s.parameters.valueOf) ∧
      String.join (ps.map s.parameters.valueOf) = "a7$?$Z.3$-$" ∧
      t.parameters.expand word = s.parameters.expand word ∧
      '$' ∉ "a.é".toList ∧ s.parameters.expand "a.é" = "a.é" := by
  intro word ps s t
  have hread : Reads word.toList ps := reads_iff.2 (by decide +kernel)
  have hvalues : ∀ name, .variable name ∈ ps →
      t.environment.get? (String.ofList name) = s.environment.get? (String.ofList name) := by
    intro name hname
    -- The only variable that differs is not among the pieces.
    have hother : String.ofList name ≠ "Z" := by
      rintro hz
      have hlist : name = ['Z'] := by rw [← String.toList_ofList (l := name), hz]; rfl
      rw [hlist] at hname
      exact absurd hname (by decide)
    exact (Environment.get?_put _ _ _ _).trans (if_neg hother)
  rcases expand_grammar word with ⟨_, hexpand, _, _, hagree⟩
  have hplain : '$' ∉ "a.é".toList := by decide +kernel
  exact ⟨hread, hexpand s ps hread, by decide +kernel, hagree s t ps hread rfl rfl hvalues, hplain,
    (expand_grammar "a.é").2.2.1 hplain s⟩

end Line

end CommandShell
