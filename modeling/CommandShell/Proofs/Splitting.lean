import CommandShell.Line.Word
import CommandShell.Proofs.Likeness

/-!
# Splitting a Line at a Seam

A line that is put together from two texts with an operator between them has
the segments of the one and then those of the other, provided that the first
text opens no comment, which would swallow the operator, and that blanks keep
the operator apart from what stands around it. Without the blanks a `&` at the
end of the first text would join the operator.

The blanks end up inside the two segments at the seam. They do not change what
these segments read as, which is why the result is stated with `SameCommand`
and not with equality.

The text from the first operator of a line on is a line of its own whose first
segment is empty, and no `#` in it opens a comment that was none before.

## Main definitions

* `HoldsComment`: Some `#` of a text opens a comment.
* `restOfLine`: What stands behind the first segment of a line.

## Theorems

* `beforeComment_eq_self_iff`: A text without a comment is all there is.
* `beforeComment_seam`: The comment of a line with a seam is that of its
  second part.
* `segments_seam`: The segments of a line with a seam.
* `segments_restOfLine`: The segments behind the first one.
-/

namespace CommandShell

namespace Line

open Text

/-- Some `#` of a text opens a comment: nothing stands before it, or a gap directly before
    it. -/
def HoldsComment (line : List Char) : Prop :=
  ∃ before after, line = before ++ '#' :: after ∧ before.getLast?.all isGap = true

/-! ### Comments -/

/-- What decides about the first character behind `before`. -/
def freeAfter (free : Bool) (before : List Char) : Bool :=
  (before.getLast?.map isGap).getD free

theorem freeAfter_cons (free : Bool) (c : Char) (before : List Char) :
    freeAfter free (c :: before) = freeAfter (isGap c) before := by
  cases before with
  | nil => rfl
  | cons d rest => simp [freeAfter, List.getLast?_eq_some_getLast]

/-- A text that is kept whole is followed by what is kept of the rest. -/
theorem beforeHash_append {free : Bool} {before : List Char}
    (h : beforeHash free before = before) (after : List Char) :
    beforeHash free (before ++ after) = before ++ beforeHash (freeAfter free before) after := by
  induction before generalizing free with
  | nil => rfl
  | cons c rest ih =>
      unfold beforeHash at h
      -- The first part is not cut, so there is no comment at its first character.
      split at h
      · simp at h
      · rename_i hc
        have hrest : beforeHash (isGap c) rest = rest := by simpa using h
        rw [List.cons_append, beforeHash, if_neg hc, ih hrest, freeAfter_cons]
        rfl

theorem beforeHash_eq_self_iff {free : Bool} {line : List Char} :
    beforeHash free line = line ↔
      ¬ ∃ before after, line = before ++ '#' :: after ∧ freeAfter free before = true := by
  induction line generalizing free with
  | nil => simp [beforeHash]
  | cons c rest ih =>
      by_cases hc : (decide (c = '#') && free) = true
      · -- A comment opens at once, so nothing is kept.
        simp only [Bool.and_eq_true, decide_eq_true_eq] at hc
        rw [beforeHash, if_pos (by simp [hc])]
        refine iff_of_false (by simp) (not_not.2 ⟨[], rest, by rw [hc.1]; rfl, hc.2⟩)
      -- The first character is kept, and the rest decides.
      · rw [beforeHash, if_neg hc, List.cons_inj_right, ih, not_iff_not]
        constructor
        · rintro ⟨before, after, rfl, hfree⟩
          exact ⟨c :: before, after, rfl, by rwa [freeAfter_cons]⟩
        · rintro ⟨before, after, heq, hfree⟩
          cases before with
          | nil =>
              rcases List.cons.inj heq with ⟨rfl, rfl⟩
              exact absurd hfree (by simpa [freeAfter] using hc)
          | cons d more =>
              rcases List.cons.inj heq with ⟨rfl, rfl⟩
              exact ⟨more, after, rfl, by rwa [freeAfter_cons] at hfree⟩

/-- At the start of a line a `#` opens a comment as it does behind a gap. -/
theorem freeAfter_true (before : List Char) :
    freeAfter true before = before.getLast?.all isGap := by
  cases h : before.getLast? <;> simp [freeAfter, h]

theorem beforeComment_eq_self_iff {line : List Char} :
    beforeComment line = line ↔ ¬ HoldsComment line := by
  simp only [beforeComment, beforeHash_eq_self_iff, HoldsComment, freeAfter_true]

theorem not_holdsComment_beforeComment (line : List Char) :
    ¬ HoldsComment (beforeComment line) := by
  have hidem : ∀ free, beforeHash free (beforeHash free line) = beforeHash free line := by
    induction line with
    | nil => intro free; rfl
    | cons c rest ih =>
        intro free
        -- The cut is made here, or it is made further on, in the same place both times.
        by_cases hc : (decide (c = '#') && free) = true
        · rw [beforeHash, if_pos hc, beforeHash]
        · rw [beforeHash, if_neg hc, beforeHash, if_neg hc, ih]
  exact beforeComment_eq_self_iff.1 (hidem true)

/-- The comment of a line with a seam is that of its second part: behind the blank after
    the operator a `#` stands as it does at the start of a line. -/
theorem beforeComment_seam {first : List Char} (hfirst : ¬ HoldsComment first)
    {op : Connector} (hop : op ≠ .opening) (second : List Char) :
    beforeComment (first ++ ' ' :: (op.symbol ++ ' ' :: second))
      = first ++ ' ' :: (op.symbol ++ ' ' :: beforeComment second) := by
  unfold beforeComment
  rw [beforeHash_append (beforeComment_eq_self_iff.2 hfirst)]
  -- An operator holds no hash, and with the spaces round it the second part stands free.
  cases op with
  | opening => exact absurd rfl hop
  | _ => simp [beforeHash, Connector.symbol, isGap]

/-! ### Cuts -/

/-- An operator stands at the start of a text. -/
def BeginsWithOperator (cs : List Char) : Prop :=
  ∃ op : Connector, op ≠ .opening ∧ op.symbol <+: cs

/-- An operator ends the segment before it and begins the next. -/
theorem cut_symbol_append {op : Connector} (hop : op ≠ .opening) (cs : List Char) :
    cut (op.symbol ++ cs) = ([], ⟨op, String.ofList (cut cs).1⟩ :: (cut cs).2) := by
  cases op with
  | opening => exact absurd rfl hop
  | _ => rfl

/-- A character that begins no operator belongs to the segment at work. -/
theorem cut_cons_of_not_beginsWithOperator {c : Char} {cs : List Char}
    (h : ¬ BeginsWithOperator (c :: cs)) : cut (c :: cs) = (c :: (cut cs).1, (cut cs).2) := by
  rw [cut]
  · intro rest hc hcs
    exact h ⟨.conjunction, by decide, rest, by rw [hc, hcs]; rfl⟩
  · intro rest hc hcs
    exact h ⟨.disjunction, by decide, rest, by rw [hc, hcs]; rfl⟩
  · intro hc
    exact h ⟨.sequence, by decide, cs, by rw [hc]; rfl⟩

/-- Reading a text from the left, one meets its end, an operator, or a character that
    begins none. -/
@[elab_as_elim]
theorem cut_induction {P : List Char → Prop} (nil : P [])
    (operator : ∀ op cs, op ≠ Connector.opening → P cs → P (op.symbol ++ cs))
    (plain : ∀ c cs, ¬ BeginsWithOperator (c :: cs) → P cs → P (c :: cs)) (cs : List Char) :
    P cs := by
  fun_induction cut cs with
  | case1 => exact nil
  | case2 rest _ _ _ ih => exact operator .conjunction rest (by decide) ih
  | case3 rest _ _ _ ih => exact operator .disjunction rest (by decide) ih
  | case4 rest _ _ _ ih => exact operator .sequence rest (by decide) ih
  -- A character that begins no operator is ruled out for each of the three.
  | case5 c rest hand hor hseq _ _ _ ih =>
      refine plain c rest ?_ ih
      rintro ⟨op, hop, more, hmore⟩
      cases op with
      | opening => exact hop rfl
      | conjunction =>
          rcases List.cons.inj hmore with ⟨hc, hrest⟩
          exact hand more hc.symm hrest.symm
      | disjunction =>
          rcases List.cons.inj hmore with ⟨hc, hrest⟩
          exact hor more hc.symm hrest.symm
      | sequence => exact hseq (List.cons.inj hmore).1.symm

theorem not_beginsWithOperator_of_isGap {c : Char} (hc : isGap c = true) (cs : List Char) :
    ¬ BeginsWithOperator (c :: cs) := by
  rintro ⟨op, hop, hprefix⟩
  cases op with
  | opening => exact absurd rfl hop
  -- An operator begins with a character that is no gap.
  | _ =>
      simp only [Connector.symbol, List.cons_prefix_cons] at hprefix
      obtain rfl := hprefix.1
      exact absurd hc (by decide)

/-- An operator is known by its first two characters, and no gap is in one. -/
theorem not_beginsWithOperator_of_head? {c : Char} {cs ds : List Char}
    (h : ¬ BeginsWithOperator (c :: cs))
    (hhead : ∀ d, ds.head? = some d → isGap d = false → cs.head? = some d) :
    ¬ BeginsWithOperator (c :: ds) := by
  rintro ⟨op, hop, hprefix⟩
  apply h
  refine ⟨op, hop, ?_⟩
  cases op with
  | opening => exact absurd rfl hop
  | sequence => simpa [Connector.symbol, List.cons_prefix_cons] using hprefix
  -- An operator of two characters needs the second one, which is the same in both texts.
  | _ =>
      simp only [Connector.symbol, List.cons_prefix_cons] at hprefix ⊢
      rcases hprefix with ⟨hc, more, rfl⟩
      have hsecond := hhead _ rfl (by decide)
      refine ⟨hc, ?_⟩
      cases cs with
      | nil => cases hsecond
      | cons d rest =>
          obtain rfl := Option.some.inj hsecond
          exact ⟨rest, rfl⟩

/-- A blank behind a text completes no operator in it. -/
theorem not_beginsWithOperator_append {c : Char} {cs : List Char}
    (h : ¬ BeginsWithOperator (c :: cs)) (more : List Char) :
    ¬ BeginsWithOperator (c :: (cs ++ ' ' :: more)) := by
  refine not_beginsWithOperator_of_head? h fun d hd hsolid => ?_
  cases cs with
  -- A space has come where the second character of an operator would be.
  | nil =>
      obtain rfl := Option.some.inj hd
      exact absurd hsolid (by decide)
  | cons e rest => exact hd

/-- A segment, and the same segment with at most one more blank at its end. -/
def Padded (x y : Segment) : Prop :=
  y.connector = x.connector ∧ (y.text = x.text ∨ y.text = x.text ++ " ")

theorem Padded.refl (x : Segment) : Padded x x :=
  ⟨rfl, Or.inl rfl⟩

theorem words_append_blank (text : String) : words (text ++ " ") = words text := by
  have h := words_append_gap (c := ' ') (by decide) text ""
  rw [String.append_empty] at h
  exact h.trans (List.append_nil _)

theorem words_blank_append (text : String) : words (" " ++ text) = words text := by
  have h := words_append_gap (c := ' ') (by decide) "" text
  rw [String.empty_append] at h
  exact h

theorem isBlank_append_blank (text : String) : Text.isBlank (text ++ " ") = Text.isBlank text := by
  simp only [Text.isBlank, String.toList_append, List.all_append]
  rw [show " ".toList.all isWhiteSpace = true from by decide, Bool.and_true]

theorem isBlank_blank_append (text : String) : Text.isBlank (" " ++ text) = Text.isBlank text := by
  simp only [Text.isBlank, String.toList_append, List.all_append]
  rw [show " ".toList.all isWhiteSpace = true from by decide, Bool.true_and]

/-- A blank at the end of a segment changes nothing of what it reads as. -/
theorem Padded.sameCommand {x y : Segment} (h : Padded x y) : x.SameCommand y := by
  rcases h with ⟨hconnector, htext | htext⟩
  · exact ⟨hconnector, by rw [Segment.isBlank, htext]; rfl, by rw [htext]⟩
  · refine ⟨hconnector, ?_, ?_⟩
    · rw [Segment.isBlank, htext, isBlank_append_blank]
      rfl
    · rw [htext, words_append_blank]

/-- The blank stays where it was when an operator is put before the segment. -/
theorem Padded.reconnect {text text' : String} (op : Connector)
    (h : Padded ⟨.opening, text⟩ ⟨.opening, text'⟩) : Padded ⟨op, text⟩ ⟨op, text'⟩ :=
  ⟨rfl, h.2⟩

/-- The cut of a text with a seam: the first part is cut as it is alone, up to a blank at
    the very end, and the operator begins the segments of the second. -/
theorem cut_seam {op : Connector} (hop : op ≠ .opening) (first second : List Char) :
    ∃ front middle,
      cut (first ++ ' ' :: (op.symbol ++ second))
        = (front, middle ++ ⟨op, String.ofList (cut second).1⟩ :: (cut second).2) ∧
      List.Forall₂ Padded (⟨.opening, String.ofList (cut first).1⟩ :: (cut first).2)
        (⟨.opening, String.ofList front⟩ :: middle) := by
  induction first using cut_induction with
  | nil =>
      -- Only the blank stands before the operator.
      refine ⟨[' '], [], ?_, List.Forall₂.cons ⟨rfl, Or.inr rfl⟩ List.Forall₂.nil⟩
      have hplain := not_beginsWithOperator_of_isGap (c := ' ') rfl (op.symbol ++ second)
      rw [List.nil_append, cut_cons_of_not_beginsWithOperator hplain, cut_symbol_append hop]
      rfl
  | operator op' cs hop' ih =>
      rcases ih with ⟨front, middle, hcut, _ | ⟨hfirst, hmore⟩⟩
      refine ⟨[], ⟨op', String.ofList front⟩ :: middle, ?_, ?_⟩
      · rw [List.append_assoc, cut_symbol_append hop', hcut]
        rfl
      · rw [cut_symbol_append hop']
        exact List.Forall₂.cons (Padded.refl _) (List.Forall₂.cons (hfirst.reconnect op') hmore)
  | plain c cs hplain ih =>
      rcases ih with ⟨front, middle, hcut, _ | ⟨hfirst, hmore⟩⟩
      refine ⟨c :: front, middle, ?_, ?_⟩
      · rw [List.cons_append,
          cut_cons_of_not_beginsWithOperator (not_beginsWithOperator_append hplain _), hcut]
      · rw [cut_cons_of_not_beginsWithOperator hplain]
        refine List.Forall₂.cons ?_ hmore
        -- One more character at the front moves no blank at the end.
        rcases hfirst with ⟨_, htext | htext⟩
        · rw [String.ofList_injective htext]
          exact Padded.refl _
        · refine ⟨rfl, Or.inr ?_⟩
          dsimp only at htext ⊢
          rw [String.ofList_cons, htext, String.ofList_cons, String.append_assoc]

/-- A line with a seam has the segments of its first part, up to a blank, and then those
    of its second part, of which the first comes after the operator. -/
theorem segments_seam {first : String} (hfirst : ¬ HoldsComment first.toList)
    {op : Connector} (hop : op ≠ .opening) (second : String) :
    ∃ middle text more,
      segments (first ++ " " ++ String.ofList op.symbol ++ " " ++ second)
        = middle ++ ⟨op, " " ++ text⟩ :: more ∧
      segments second = ⟨.opening, text⟩ :: more ∧
      List.Forall₂ Segment.SameCommand (segments first) middle := by
  have hline : (first ++ " " ++ String.ofList op.symbol ++ " " ++ second).toList
      = first.toList ++ ' ' :: (op.symbol ++ ' ' :: second.toList) := by
    simp
  have hkept : beforeComment first.toList = first.toList := beforeComment_eq_self_iff.2 hfirst
  rcases cut_seam hop first.toList (' ' :: beforeComment second.toList) with
    ⟨front, middle, hcut, hpad⟩
  have hblank : cut (' ' :: beforeComment second.toList)
      = (' ' :: (cut (beforeComment second.toList)).1, (cut (beforeComment second.toList)).2) := by
    rw [cut] <;> simp
  refine ⟨⟨.opening, String.ofList front⟩ :: middle,
    String.ofList (cut (beforeComment second.toList)).1, (cut (beforeComment second.toList)).2,
    ?_, rfl, ?_⟩
  -- The seam is cut at the operator, and the second line keeps its segments.
  · rw [segments, hline, beforeComment_seam hfirst hop, hcut, hblank]
    simp [String.ofList_cons]
  -- The segments of the first line have at most a space more at their ends.
  · rw [segments, hkept]
    exact hpad.imp fun _ _ h => h.sameCommand

/-! ### The segments behind the first -/

/-- What stands behind the first segment of a line, its operator included. -/
def restOfLine (line : String) : String :=
  String.ofList ((segments line).tail.flatMap Segment.render)

/-- A text that begins with an operator is cut there first. -/
theorem cut_flatMap_render (cs : List Char) :
    cut ((cut cs).2.flatMap Segment.render) = ([], (cut cs).2) := by
  induction cs using cut_induction with
  | nil => rfl
  -- An operator opens a segment of its own, so nothing stands before it.
  | operator op cs hop ih =>
      have hrender : (cut (op.symbol ++ cs)).2.flatMap Segment.render = op.symbol ++ cs := by
        have h := render_cut (op.symbol ++ cs)
        rwa [cut_symbol_append hop] at h ⊢
      rw [hrender, cut_symbol_append hop]
  | plain c cs hplain ih =>
      rw [cut_cons_of_not_beginsWithOperator hplain]
      exact ih

/-- A text from its first operator on does not begin with a `#`. -/
theorem head?_flatMap_render_ne (cs : List Char) :
    ((cut cs).2.flatMap Segment.render).head? ≠ some '#' := by
  induction cs using cut_induction with
  | nil => simp [cut]
  -- What is written behind the first segment begins with an operator.
  | operator op cs hop ih =>
      rw [cut_symbol_append hop]
      cases op with
      | opening => exact absurd rfl hop
      | _ => simp [Segment.render, Connector.symbol]
  | plain c cs hplain ih =>
      rw [cut_cons_of_not_beginsWithOperator hplain]
      exact ih

/-- A part of a text at its end opens no comment if the text opens none and the part does
    not begin with a `#`. -/
theorem not_holdsComment_of_append {front tail : List Char} (h : ¬ HoldsComment (front ++ tail))
    (htail : tail.head? ≠ some '#') : ¬ HoldsComment tail := by
  rintro ⟨before, after, rfl, hgap⟩
  apply h
  refine ⟨front ++ before, after, by simp, ?_⟩
  cases before with
  | nil => exact absurd rfl htail
  | cons c rest => rwa [List.getLast?_append_of_ne_nil _ (by simp)]

/-- The segments of the line behind the first segment: an empty one, and then those behind
    the first. -/
theorem segments_restOfLine (line : String) :
    segments (restOfLine line) = ⟨.opening, ""⟩ :: (segments line).tail := by
  have hwhole : ¬ HoldsComment ((cut (beforeComment line.toList)).1
      ++ (cut (beforeComment line.toList)).2.flatMap Segment.render) := by
    rw [render_cut]
    exact not_holdsComment_beforeComment line.toList
  have hkept : beforeComment ((cut (beforeComment line.toList)).2.flatMap Segment.render)
      = (cut (beforeComment line.toList)).2.flatMap Segment.render :=
    beforeComment_eq_self_iff.2 (not_holdsComment_of_append hwhole (head?_flatMap_render_ne _))
  simp only [restOfLine, segments, List.tail_cons, String.toList_ofList, hkept,
    cut_flatMap_render]

end Line

end CommandShell
