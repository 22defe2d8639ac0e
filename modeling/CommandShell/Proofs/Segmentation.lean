import CommandShell.Proofs.Splitting

/-!
# The Segments Are the Leftmost Decomposition

What the cut does to a line can be said without following it. The comment is
what begins at the first `#` that opens one, and the segments are the only way
to write the rest down as texts with operators between them in which no text
holds an operator and no operator could begin one place further left.

The last condition is needed for the runs. Of `&&&` it leaves the cut behind
the first two characters, since a `&` at the end of a text joins the operator
behind it. A `;` can never begin further left, and a `|` in front of `&&` is
plain text.

## Main definitions

* `IsKept`: What is left of a line without its comment.
* `Segment.LeavesWhole`: An operator could not begin further left.
* `Decomposes`: Segments are a decomposition of a text.

## Theorems

* `isKept_iff`: The comment begins at the first `#` that opens one.
* `decomposes_cut`: The cut decomposes a text.
* `decomposes_iff`: No other segments do.
* `segments_leftmost`: The segments of a line are its only decomposition.
-/

namespace CommandShell

namespace Line

open Text

/-! ### What is kept of a line -/

/-- What is left of a line without its comment: all of it if there is none, or else what
    stands before the first `#` that opens one. -/
def IsKept (line kept : List Char) : Prop :=
  ¬ HoldsComment kept ∧
    (line = kept ∨ ∃ comment, line = kept ++ '#' :: comment ∧ kept.getLast?.all isGap = true)

/-- Either nothing is dropped, or a comment that begins where one can. -/
theorem beforeHash_cases (free : Bool) (line : List Char) :
    line = beforeHash free line ∨
      ∃ comment, line = beforeHash free line ++ '#' :: comment ∧
        freeAfter free (beforeHash free line) = true := by
  induction line generalizing free with
  | nil => exact Or.inl rfl
  | cons c rest ih =>
      by_cases hc : (decide (c = '#') && free) = true
      -- Here the comment begins.
      · rw [beforeHash, if_pos hc]
        simp only [Bool.and_eq_true, decide_eq_true_eq] at hc
        exact Or.inr ⟨rest, by rw [hc.1]; rfl, hc.2⟩
      · rw [beforeHash, if_neg hc]
        -- Whether a comment may open further on depends on whether this character is a
        -- gap.
        rcases ih (isGap c) with hall | ⟨comment, hrest, hfree⟩
        · exact Or.inl (congrArg (c :: ·) hall)
        · exact Or.inr ⟨comment, congrArg (c :: ·) hrest, by rwa [freeAfter_cons]⟩

/-- The comment of a line begins at the first `#` that opens one. -/
theorem isKept_iff {line kept : List Char} : IsKept line kept ↔ kept = beforeComment line := by
  constructor
  · rintro ⟨hkept, rfl | ⟨comment, rfl, hgap⟩⟩
    · exact (beforeComment_eq_self_iff.2 hkept).symm
    · -- What is kept is passed over, and the comment opens right behind it.
      have hwhole : beforeHash true kept = kept := beforeComment_eq_self_iff.2 hkept
      rw [beforeComment, beforeHash_append hwhole, freeAfter_true, hgap]
      simp [beforeHash]
  · rintro rfl
    refine ⟨not_holdsComment_beforeComment line, ?_⟩
    rcases beforeHash_cases true line with hall | ⟨comment, hline, hfree⟩
    · exact Or.inl hall
    · exact Or.inr ⟨comment, hline, by rwa [freeAfter_true] at hfree⟩

/-- A comment behind a line adds to the comment of the line. -/
theorem IsKept.append {line kept : List Char} (h : IsKept line kept)
    (hgap : line.getLast?.all isGap = true) (more : List Char) :
    IsKept (line ++ '#' :: more) kept := by
  rcases h with ⟨hkept, rfl | ⟨comment, rfl, hopens⟩⟩
  · exact ⟨hkept, Or.inr ⟨more, rfl, hgap⟩⟩
  · exact ⟨hkept, Or.inr ⟨comment ++ '#' :: more, by simp, hopens⟩⟩

/-! ### Decompositions -/

/-- The operator of a segment could not begin one place further left, in the text of the
    segment before it. -/
structure Segment.LeavesWhole (x y : Segment) : Prop where
  conjunction : y.connector = .conjunction → x.text.toList.getLast? ≠ some '&'
  disjunction : y.connector = .disjunction → x.text.toList.getLast? ≠ some '|'

/-- Segments are a decomposition of a text: written down they give the text, operators
    stand between them and nowhere else, and none of these could begin further left. -/
structure Decomposes (kept : List Char) (xs : List Segment) : Prop where
  render_eq : xs.flatMap Segment.render = kept
  connectors : ∃ first more, xs = first :: more ∧ first.connector = .opening ∧
    ∀ x ∈ more, x.connector ≠ .opening
  solid : ∀ x ∈ xs, ∀ op : Connector, op ≠ .opening → ¬ op.symbol <:+: x.text.toList
  leftmost : xs.IsChain Segment.LeavesWhole

theorem Decomposes.connector_ne {kept : List Char} {x : Segment} {more : List Segment}
    (h : Decomposes kept (x :: more)) : ∀ y ∈ more, y.connector ≠ .opening := by
  rcases h.connectors with ⟨_, _, hxs, _, hmore⟩
  obtain ⟨rfl, rfl⟩ := List.cons.inj hxs
  exact hmore

/-- A text does not end in the character of which the operator behind it is made. -/
theorem Segment.LeavesWhole.getLast?_ne {x y : Segment} (h : x.LeavesWhole y) {c : Char}
    (hc : y.connector.symbol = [c, c]) : x.text.toList.getLast? ≠ some c := by
  cases hy : y.connector with
  | opening => simp [hy, Connector.symbol] at hc
  | sequence => simp [hy, Connector.symbol] at hc
  -- The symbols that have one character twice are those of the two conditionals.
  | conjunction =>
      obtain rfl : '&' = c := by simpa [hy, Connector.symbol] using hc
      exact h.conjunction hy
  | disjunction =>
      obtain rfl : '|' = c := by simpa [hy, Connector.symbol] using hc
      exact h.disjunction hy

/-- An operator is a `;`, or one character twice. -/
theorem Connector.symbol_cases {op : Connector} (hop : op ≠ .opening) :
    op.symbol = [';'] ∨ ∃ c, op.symbol = [c, c] := by
  cases op with
  | opening => exact absurd rfl hop
  | conjunction => exact Or.inr ⟨'&', rfl⟩
  | disjunction => exact Or.inr ⟨'|', rfl⟩
  | sequence => exact Or.inl rfl

/-- The first character of an operator tells which one it is. -/
theorem Connector.eq_of_head? {op op' : Connector} {c : Char} (h : op.symbol.head? = some c)
    (h' : op'.symbol.head? = some c) : op' = op := by
  have hsame : op'.symbol.head? = op.symbol.head? := h'.trans h.symm
  cases op <;> cases op' <;> simp_all [Connector.symbol]

/-- No operator stands in the empty text. -/
theorem not_symbol_infix_nil {op : Connector} (hop : op ≠ .opening) : ¬ op.symbol <:+: [] := by
  cases op <;> simp_all [Connector.symbol]

/-! ### The cut decomposes -/

/-- What is written down behind the text of a segment begins with the operator of the next
    one. -/
theorem head?_flatMap_render {more : List Segment}
    (hmore : ∀ x ∈ more, x.connector ≠ .opening) {c : Char}
    (hc : (more.flatMap Segment.render).head? = some c) :
    ∃ y rest, more = y :: rest ∧ y.connector.symbol.head? = some c := by
  cases more with
  | nil => simp at hc
  -- None of the later segments is the opening one, so each has a symbol in front.
  | cons y rest =>
      refine ⟨y, rest, rfl, ?_⟩
      have hy := hmore y List.mem_cons_self
      cases hsymbol : y.connector with
      | opening => exact absurd hsymbol hy
      | _ => simpa [Segment.render, hsymbol, Connector.symbol] using hc

/-- What a text leaves whole is a matter of its end alone. -/
theorem isChain_leavesWhole_of_text {x x' : Segment} {more : List Segment}
    (h : (x :: more).IsChain Segment.LeavesWhole)
    (hends : ∀ c, x'.text.toList.getLast? = some c →
      x.text.toList.getLast? = some c ∨ ∀ y ∈ more.head?, y.connector.symbol ≠ [c, c]) :
    (x' :: more).IsChain Segment.LeavesWhole := by
  cases more with
  | nil => exact List.IsChain.singleton x'
  | cons y rest =>
      rw [List.isChain_cons_cons] at h ⊢
      refine ⟨⟨fun hy hlast => ?_, fun hy hlast => ?_⟩, h.2⟩
      -- The new text ends as the old one does, or the operator does not begin with its
      -- end.
      · rcases hends '&' hlast with hx | hne
        · exact h.1.conjunction hy hx
        · exact hne y rfl (by rw [hy]; rfl)
      · rcases hends '|' hlast with hx | hne
        · exact h.1.disjunction hy hx
        · exact hne y rfl (by rw [hy]; rfl)

/-- An operator in front begins a new segment. -/
theorem Decomposes.operator {cs : List Char} {text : String} {more : List Segment}
    (h : Decomposes cs (⟨.opening, text⟩ :: more)) {op : Connector} (hop : op ≠ .opening) :
    Decomposes (op.symbol ++ cs) (⟨.opening, ""⟩ :: ⟨op, text⟩ :: more) := by
  refine ⟨?_, ⟨_, _, rfl, rfl, ?_⟩, ?_, ?_⟩
  · rw [← h.render_eq]
    simp [Segment.render, Connector.symbol]
  · exact List.forall_mem_cons.2 ⟨hop, h.connector_ne⟩
  · -- The empty text holds nothing, and the others are as they were.
    refine List.forall_mem_cons.2 ⟨fun op' hop' hinfix => ?_, List.forall_mem_cons.2 ⟨?_, ?_⟩⟩
    · exact not_symbol_infix_nil hop' (by simpa using hinfix)
    · exact fun op' hop' => h.solid ⟨.opening, text⟩ List.mem_cons_self op' hop'
    · exact fun x hx => h.solid x (List.mem_cons_of_mem _ hx)
  · refine List.isChain_cons_cons.2 ⟨⟨by simp, by simp⟩, ?_⟩
    exact isChain_leavesWhole_of_text h.leftmost fun c hc => Or.inl hc

/-- A character in front that begins no operator joins the first text. -/
theorem Decomposes.plain {c : Char} {cs text : List Char} {more : List Segment}
    (h : Decomposes cs (⟨.opening, String.ofList text⟩ :: more))
    (hplain : ¬ BeginsWithOperator (c :: cs)) :
    Decomposes (c :: cs) (⟨.opening, String.ofList (c :: text)⟩ :: more) := by
  have hrender : text ++ more.flatMap Segment.render = cs := by
    simpa [Segment.render, Connector.symbol] using h.render_eq
  refine ⟨?_, ⟨_, _, rfl, rfl, h.connector_ne⟩, ?_, ?_⟩
  · simp [Segment.render, Connector.symbol, hrender]
  · refine List.forall_mem_cons.2 ⟨fun op hop hinfix => ?_,
      fun x hx => h.solid x (List.mem_cons_of_mem _ hx)⟩
    rw [String.toList_ofList, List.infix_cons_iff] at hinfix
    rcases hinfix with hprefix | hinfix
    · -- The operator would stand at the start of the whole text.
      refine hplain ⟨op, hop, hprefix.trans ?_⟩
      exact ⟨more.flatMap Segment.render, by rw [List.cons_append, hrender]⟩
    · refine h.solid ⟨.opening, String.ofList text⟩ List.mem_cons_self op hop ?_
      rwa [String.toList_ofList]
  · refine isChain_leavesWhole_of_text h.leftmost fun d hd => ?_
    cases text with
    | cons e rest => exact Or.inl (by simpa using hd)
    | nil =>
        -- The new character is the end of the text, and the operator behind it follows at once.
        obtain rfl : c = d := by simpa using hd
        refine Or.inr fun y hy hsymbol => hplain ⟨y.connector, ?_, ?_⟩
        · exact h.connector_ne y (List.mem_of_mem_head? hy)
        · obtain ⟨rest, rfl⟩ := List.head?_eq_some_iff.1 hy
          rw [hsymbol, ← hrender]
          simp [Segment.render, hsymbol]

/-- The cut decomposes a text. -/
theorem decomposes_cut (cs : List Char) :
    Decomposes cs (⟨.opening, String.ofList (cut cs).1⟩ :: (cut cs).2) := by
  induction cs using cut_induction with
  | nil =>
      -- A line without operators is the opening segment and no other.
      refine ⟨rfl, ⟨_, _, rfl, rfl, List.forall_mem_nil _⟩, ?_, List.IsChain.singleton _⟩
      exact List.forall_mem_singleton.2 fun op hop => not_symbol_infix_nil hop
  | operator op cs hop ih =>
      rw [cut_symbol_append hop]
      exact ih.operator hop
  | plain c cs hplain ih =>
      rw [cut_cons_of_not_beginsWithOperator hplain]
      exact ih.plain hplain

/-! ### Nothing else does -/

/-- No operator begins in the text of a segment that leaves the next one whole. -/
theorem not_beginsWithOperator_of_leavesWhole {x : Segment} {more : List Segment}
    (hsolid : ∀ op : Connector, op ≠ .opening → ¬ op.symbol <:+: x.text.toList)
    (hmore : ∀ y ∈ more, y.connector ≠ .opening)
    (hleft : (x :: more).IsChain Segment.LeavesWhole) {c : Char} {tail : List Char}
    (htail : c :: tail <:+ x.text.toList) :
    ¬ BeginsWithOperator (c :: (tail ++ more.flatMap Segment.render)) := by
  rintro ⟨op, hop, hprefix⟩
  have hnot : ¬ op.symbol <+: c :: tail := fun h =>
    hsolid op hop (h.isInfix.trans htail.isInfix)
  rcases Connector.symbol_cases hop with hsymbol | ⟨d, hsymbol⟩
  · rw [hsymbol] at hprefix hnot
    obtain rfl : ';' = c := (List.cons_prefix_cons.1 hprefix).1
    exact hnot ⟨tail, rfl⟩
  · rw [hsymbol] at hprefix hnot
    obtain ⟨rfl, hsecond⟩ := List.cons_prefix_cons.1 hprefix
    cases tail with
    | cons e rest =>
        -- Both characters of the operator stand in the text.
        obtain rfl : d = e := (List.cons_prefix_cons.1 hsecond).1
        exact hnot ⟨rest, rfl⟩
    | nil =>
        -- The second character begins the operator of the next segment, which is the same one.
        obtain ⟨behind, hbehind⟩ := hsecond
        have hhead : (more.flatMap Segment.render).head? = some d := by
          rw [← List.nil_append (more.flatMap Segment.render), ← hbehind]
          rfl
        rcases head?_flatMap_render hmore hhead with ⟨y, rest, rfl, hy⟩
        obtain rfl : y.connector = op := Connector.eq_of_head? (by rw [hsymbol]; rfl) hy
        obtain ⟨front, hfront⟩ := htail
        have hwhole := (List.isChain_cons_cons.1 hleft).1
        exact hwhole.getLast?_ne hsymbol (by rw [← hfront]; simp)

/-- A text in which no operator begins belongs to the segment at work. -/
theorem cut_append_of_forall {text rest : List Char}
    (h : ∀ c tail, c :: tail <:+ text → ¬ BeginsWithOperator (c :: (tail ++ rest))) :
    cut (text ++ rest) = (text ++ (cut rest).1, (cut rest).2) := by
  induction text with
  | nil => rfl
  | cons c tail ih =>
      -- The tail is cut with the same rest behind it, and none of its suffixes begins
      -- with an operator.
      have htail := ih fun d more hsuffix => h d more (hsuffix.trans (List.suffix_cons c tail))
      have hplain := h c tail List.suffix_rfl
      rw [List.cons_append, cut_cons_of_not_beginsWithOperator hplain, htail]
      rfl

/-- The segments of a decomposition are what the cut finds. -/
theorem cut_append_flatMap_render {x : Segment} {more : List Segment}
    (hsolid : ∀ y ∈ x :: more, ∀ op : Connector, op ≠ .opening → ¬ op.symbol <:+: y.text.toList)
    (hmore : ∀ y ∈ more, y.connector ≠ .opening)
    (hleft : (x :: more).IsChain Segment.LeavesWhole) :
    cut (x.text.toList ++ more.flatMap Segment.render) = (x.text.toList, more) := by
  -- The induction is on the segments; the text of the first one is passed over as a whole.
  induction more generalizing x with
  | nil =>
      rw [cut_append_of_forall fun c tail =>
        not_beginsWithOperator_of_leavesWhole (hsolid x List.mem_cons_self) hmore hleft]
      simp [cut]
  | cons y rest ih =>
      obtain ⟨hy, hrest⟩ := List.forall_mem_cons.1 hmore
      have hlater := ih (fun z hz => hsolid z (List.mem_cons_of_mem x hz)) hrest
        (List.isChain_cons_cons.1 hleft).2
      have hbehind : cut ((y :: rest).flatMap Segment.render) = ([], y :: rest) := by
        rw [List.flatMap_cons, Segment.render, List.append_assoc, cut_symbol_append hy, hlater]
        simp
      rw [cut_append_of_forall fun c tail =>
        not_beginsWithOperator_of_leavesWhole (hsolid x List.mem_cons_self) hmore hleft, hbehind]
      simp

/-- The cut of a text is its only decomposition. -/
theorem decomposes_iff {cs : List Char} {xs : List Segment} :
    Decomposes cs xs ↔ xs = ⟨.opening, String.ofList (cut cs).1⟩ :: (cut cs).2 := by
  constructor
  · rintro ⟨rfl, ⟨x, more, rfl, hx, hmore⟩, hsolid, hleft⟩
    have hcut : cut ((x :: more).flatMap Segment.render) = (x.text.toList, more) := by
      rw [List.flatMap_cons, Segment.render, hx]
      exact cut_append_flatMap_render hsolid hmore hleft
    rw [hcut, String.ofList_toList, ← hx]
  · rintro rfl
    exact decomposes_cut cs

/-! ### Lines -/

/-- The segments of a line are the only decomposition of what is left of it without its
    comment, and a comment behind a line changes nothing. -/
theorem segments_leftmost (line : String) :
    (∃! kept, IsKept line.toList kept) ∧
      (∀ kept xs, IsKept line.toList kept → (Decomposes kept xs ↔ xs = segments line)) ∧
      ∀ comment : String, line.toList.getLast?.all isGap = true →
        segments (line ++ "#" ++ comment) = segments line := by
  refine ⟨⟨beforeComment line.toList, isKept_iff.2 rfl, fun _ => isKept_iff.1⟩, ?_, ?_⟩
  · intro kept xs hkept
    rw [isKept_iff.1 hkept, decomposes_iff]
    rfl
  · intro comment hgap
    have hkept : IsKept line.toList (beforeComment line.toList) := isKept_iff.2 rfl
    -- The line with its comment keeps the same, because what is kept is unique.
    have hsame : beforeComment (line ++ "#" ++ comment).toList = beforeComment line.toList := by
      have hlonger := hkept.append hgap comment.toList
      simpa using (isKept_iff.1 hlonger).symm
    simp only [segments, hsame]

/-- Of each run of operator characters the first ones are the operator, and a `#` in the
    middle of a word opens no comment. -/
theorem segments_leftmost_runs :
    let line := "a#&&&|||b&|&& #c;#"
    let kept := "a#&&&|||b&|&& ".toList
    let xs : List Segment := [⟨.opening, "a#"⟩, ⟨.conjunction, "&"⟩, ⟨.disjunction, "|b&|"⟩,
      ⟨.conjunction, " "⟩]
    IsKept line.toList kept ∧ Decomposes kept xs ∧ segments line = xs ∧
      segments (line ++ " " ++ "#" ++ "d") = segments (line ++ " ") := by
  intro line kept xs
  have hkept : IsKept line.toList kept := isKept_iff.2 (by decide +kernel)
  have hsegments : xs = segments line := by decide +kernel
  have hcomment := (segments_leftmost (line ++ " ")).2.2 "d" (by decide +kernel)
  exact ⟨hkept, ((segments_leftmost line).2.1 kept xs hkept).2 hsegments, hsegments.symm, hcomment⟩

end Line

end CommandShell
