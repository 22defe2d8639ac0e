import CommandShell.Proofs.Frames
import CommandShell.Proofs.Splitting
import Mathlib.Data.List.DropRight

/-!
# Blanks in a Line

How many gaps stand between the words of a line, and whether they are spaces or
tabs, makes no difference to what the line does. Neither do the gaps at its two
ends. So all lines with the same *tidy* form leave the same session behind, down
to every byte on the streams.

Blanks are looked at in four places. The comment of a line begins behind a gap,
operators are kept apart by anything at all, words are what stands between gaps,
and whether a segment is blank is asked of all white space. To squeeze the runs
of gaps in a text goes through each of these: it takes no gap away from before a
`#`, joins no operator, and leaves every word as it is. What is left of a segment
is therefore not the same text, but it reads the same.

The first gap of a run is the one that stays. It is then enough to know whether a
gap stands directly before the text at hand, which is what a comment asks as
well. The start of a line counts as such a gap in both cases.

## Main definitions

* `squeeze`: A text in which a single space stands for each run of gaps.
* `tidy`: A line squeezed and without gaps at its ends.
* `Segment.reading`: What a segment reads as.

## Theorems

* `reading_segments_tidy`: The segments of a line read as those of its tidy form.
* `evalLine_of_tidy_eq`: Lines with the same tidy form do the same.
-/

namespace CommandShell

namespace Line

open Text

/-- A text in which a single space stands for each run of gaps. Those directly behind
    another gap are dropped; `after` says that the text itself comes after one. -/
def squeeze (after : Bool) : List Char → List Char
  | [] => []
  | c :: rest =>
      if isGap c then
        if after then squeeze true rest else ' ' :: squeeze true rest
      else c :: squeeze false rest

/-- A line in which a single space stands for each run of gaps, and no gap at either
    end. -/
def tidy (line : String) : String :=
  String.ofList (((squeeze false line.toList).dropWhile isGap).rdropWhile isGap)

theorem squeeze_gap {c : Char} (hc : isGap c = true) (after : Bool) (rest : List Char) :
    squeeze after (c :: rest)
      = if after then squeeze true rest else ' ' :: squeeze true rest := by
  rw [squeeze, if_pos hc]

theorem squeeze_solid {c : Char} (hc : isGap c = false) (after : Bool) (rest : List Char) :
    squeeze after (c :: rest) = c :: squeeze false rest := by
  rw [squeeze, if_neg (by simp [hc])]

/-- The start of a line counts as a gap, so the gaps behind it are dropped. -/
theorem dropWhile_squeeze (after : Bool) (cs : List Char) :
    (squeeze after cs).dropWhile isGap = squeeze true cs := by
  induction cs generalizing after with
  | nil => rfl
  | cons c rest ih =>
      cases hc : isGap c with
      | true =>
          rw [squeeze_gap hc, squeeze_gap hc, if_pos rfl]
          cases after with
          | true => exact ih true
          | false => exact ih true
      | false =>
          rw [squeeze_solid hc, squeeze_solid hc, List.dropWhile_cons, if_neg (by simp [hc])]

/-! ### Comments -/

/-- A comment begins where it did: a `#` has a gap before it as long as one of the gaps
    stays. -/
theorem beforeHash_squeeze (free : Bool) (cs : List Char) :
    beforeHash free (squeeze free cs) = squeeze free (beforeHash free cs) := by
  induction cs generalizing free with
  | nil => rfl
  | cons c rest ih =>
      cases hc : isGap c with
      | true =>
          have hhash : ¬ (decide (c = '#') && free) = true := by
            rw [Bool.and_eq_true, decide_eq_true_iff]
            rintro ⟨rfl, _⟩
            exact absurd hc (by decide)
          -- Behind this gap a comment may begin in both texts, whether it stays or not.
          rw [squeeze_gap hc, beforeHash, if_neg hhash, squeeze_gap hc, hc]
          cases free with
          | true => exact ih true
          | false => exact congrArg (' ' :: ·) (ih true)
      | false =>
          rw [squeeze_solid hc, beforeHash, beforeHash]
          split
          · rfl
          · rw [squeeze_solid hc, hc, ih false]

/-- Gaps at the end of a line stand behind what is no comment, or else they belong to the
    comment. -/
theorem beforeHash_append_gaps {gaps : List Char} (hgaps : ∀ c ∈ gaps, isGap c = true)
    (free : Bool) (cs : List Char) :
    beforeHash free (cs ++ gaps) = beforeHash free cs ∨
      beforeHash free (cs ++ gaps) = beforeHash free cs ++ gaps := by
  induction cs generalizing free with
  | nil =>
      refine Or.inr (beforeHash_eq_self_iff.2 ?_)
      rintro ⟨before, after, rfl, _⟩
      exact absurd (hgaps '#' (by simp)) (by decide)
  | cons c rest ih =>
      rw [List.cons_append, beforeHash, beforeHash]
      split
      · exact Or.inl rfl
      · rcases ih (isGap c) with h | h
        · exact Or.inl (congrArg (c :: ·) h)
        · exact Or.inr (congrArg (c :: ·) h)

/-! ### Words -/

/-- The words of a text stay as they are. Behind a gap nothing of a text is joined to what
    came before; elsewhere its first field is, and stays the same. -/
theorem fields_squeeze (cs : List Char) :
    solidFields isGap (squeeze true cs) = solidFields isGap cs ∧
      ∃ field more more', fields isGap cs = field :: more ∧
        fields isGap (squeeze false cs) = field :: more' ∧
        more'.filter (fun field => !field.isEmpty) = more.filter fun field => !field.isEmpty := by
  induction cs with
  | nil => exact ⟨rfl, [], [], [], rfl, rfl, rfl⟩
  | cons c rest ih =>
      rcases ih with ⟨hsolid, field, more, more', hfields, hfields', hmore⟩
      cases hc : isGap c with
      | true =>
          -- The gap ends a field, and behind it another gap would end one that is empty.
          have hfirst := fields_cons_of_separator hc rest
          refine ⟨?_, [], _, _, hfirst, ?_, hsolid⟩
          · rw [squeeze_gap hc, if_pos rfl, hsolid, solidFields, solidFields, hfirst]
            rfl
          · rw [squeeze_gap hc]
            exact fields_cons_of_separator (by decide) _
      | false =>
          -- The character joins the first field of what follows, which both texts share.
          have hfirst := fields_cons_of_not hc hfields
          have hfirst' := fields_cons_of_not hc hfields'
          refine ⟨?_, c :: field, more, more', hfirst, ?_, hmore⟩
          · rw [squeeze_solid hc, solidFields, solidFields, hfirst, hfirst']
            simp [hmore]
          · rw [squeeze_solid hc]
            exact hfirst'

theorem solidFields_squeeze (after : Bool) (cs : List Char) :
    solidFields isGap (squeeze after cs) = solidFields isGap cs := by
  rcases fields_squeeze cs with ⟨hsolid, field, more, more', hfields, hfields', hmore⟩
  cases after with
  | true => exact hsolid
  | false => rw [solidFields, solidFields, hfields, hfields', List.filter_cons, List.filter_cons,
      hmore]

theorem all_isWhiteSpace_squeeze (after : Bool) (cs : List Char) :
    (squeeze after cs).all isWhiteSpace = cs.all isWhiteSpace := by
  induction cs generalizing after with
  | nil => rfl
  | cons c rest ih =>
      cases hc : isGap c with
      | true =>
          have hspace : isWhiteSpace ' ' = true := by decide
          rw [squeeze_gap hc, List.all_cons, isWhiteSpace_of_isGap hc, Bool.true_and]
          cases after with
          | true => exact ih true
          | false => rw [if_neg Bool.false_ne_true, List.all_cons, hspace, Bool.true_and, ih]
      | false => rw [squeeze_solid hc, List.all_cons, List.all_cons, ih]

theorem solidFields_append_gaps {gaps : List Char} (hgaps : ∀ c ∈ gaps, isGap c = true)
    (cs : List Char) : solidFields isGap (cs ++ gaps) = solidFields isGap cs := by
  induction gaps generalizing cs with
  | nil => rw [List.append_nil]
  | cons c rest ih =>
      have hrest := ih (fun d hd => hgaps d (List.mem_cons_of_mem c hd)) []
      rw [solidFields_append_cons (hgaps c List.mem_cons_self)]
      rw [List.nil_append] at hrest
      rw [hrest]
      exact List.append_nil _

/-! ### Segments -/

/-- What a segment reads as: its connector, whether it is blank, and its words. -/
def Segment.reading (x : Segment) : Connector × Bool × List String :=
  (x.connector, x.isBlank, words x.text)

theorem forall₂_sameCommand_iff {xs ys : List Segment} :
    List.Forall₂ Segment.SameCommand xs ys
      ↔ xs.map Segment.reading = ys.map Segment.reading := by
  have hsame : ∀ x y : Segment, x.SameCommand y ↔ x.reading = y.reading := by
    intro x y
    simp only [Segment.reading, Prod.mk.injEq]
    exact ⟨fun h => ⟨h.connector_eq.symm, h.isBlank_eq.symm, h.words_eq.symm⟩,
      fun h => ⟨h.1.symm, h.2.1.symm, h.2.2.symm⟩⟩
  rw [← List.forall₂_eq_eq_eq, List.forall₂_map_left_iff, List.forall₂_map_right_iff]
  exact ⟨List.Forall₂.imp fun x y => (hsame x y).1, List.Forall₂.imp fun x y => (hsame x y).2⟩

/-- A segment with another text that has the same fields and is blank if the first one
    is. -/
theorem reading_eq {op : Connector} {cs ds : List Char}
    (hfields : solidFields isGap ds = solidFields isGap cs)
    (hspace : ds.all isWhiteSpace = cs.all isWhiteSpace) :
    Segment.reading ⟨op, String.ofList ds⟩ = Segment.reading ⟨op, String.ofList cs⟩ := by
  simp only [Segment.reading, Segment.isBlank, Text.isBlank, words, String.toList_ofList, hfields,
    hspace]

theorem reading_squeeze (op : Connector) (after : Bool) (cs : List Char) :
    Segment.reading ⟨op, String.ofList (squeeze after cs)⟩
      = Segment.reading ⟨op, String.ofList cs⟩ :=
  reading_eq (solidFields_squeeze after cs) (all_isWhiteSpace_squeeze after cs)

theorem reading_append_gaps {gaps : List Char} (hgaps : ∀ c ∈ gaps, isGap c = true)
    (op : Connector) (cs : List Char) :
    Segment.reading ⟨op, String.ofList (cs ++ gaps)⟩
      = Segment.reading ⟨op, String.ofList cs⟩ := by
  refine reading_eq (solidFields_append_gaps hgaps cs) ?_
  have hspace : gaps.all isWhiteSpace = true :=
    List.all_eq_true.2 fun c hc => isWhiteSpace_of_isGap (hgaps c hc)
  rw [List.all_append, hspace, Bool.and_true]

/-- The segments of a text that stands behind a connector. -/
def segmentsBehind (op : Connector) (cs : List Char) : List Segment :=
  ⟨op, String.ofList (cut cs).1⟩ :: (cut cs).2

theorem segmentsBehind_symbol_append {op' : Connector} (hop' : op' ≠ .opening) (op : Connector)
    (cs : List Char) :
    segmentsBehind op (op'.symbol ++ cs) = ⟨op, ""⟩ :: segmentsBehind op' cs := by
  rw [segmentsBehind, cut_symbol_append hop']
  rfl

/-- No operator is squeezed, so the segments of a squeezed text are squeezed
    themselves. -/
theorem squeeze_symbol_append {op : Connector} (hop : op ≠ .opening) (after : Bool)
    (cs : List Char) : squeeze after (op.symbol ++ cs) = op.symbol ++ squeeze false cs := by
  cases op with
  | opening => exact absurd rfl hop
  | _ => rfl

theorem cut_squeeze (after : Bool) (cs : List Char) :
    (cut (squeeze after cs)).1 = squeeze after (cut cs).1 ∧
      (cut (squeeze after cs)).2.map Segment.reading = (cut cs).2.map Segment.reading := by
  induction cs using cut_induction generalizing after with
  | nil => exact ⟨rfl, rfl⟩
  | operator op cs hop ih =>
      rcases ih false with ⟨htext, hmore⟩
      rw [squeeze_symbol_append hop, cut_symbol_append hop, cut_symbol_append hop]
      refine ⟨rfl, ?_⟩
      rw [List.map_cons, List.map_cons, hmore, htext, reading_squeeze]
  | plain c cs hplain ih =>
      rw [cut_cons_of_not_beginsWithOperator hplain]
      -- A gap stays or goes; any other character stays, and forms no operator by it.
      cases hc : isGap c with
      | true =>
          rcases ih true with ⟨htext, hmore⟩
          rw [squeeze_gap hc, squeeze_gap hc]
          cases after with
          | true => exact ⟨htext, hmore⟩
          | false =>
              rw [if_neg Bool.false_ne_true, if_neg Bool.false_ne_true]
              have hspace := not_beginsWithOperator_of_isGap (c := ' ') rfl (squeeze true cs)
              rw [cut_cons_of_not_beginsWithOperator hspace, htext]
              exact ⟨rfl, hmore⟩
      | false =>
          rcases ih false with ⟨htext, hmore⟩
          rw [squeeze_solid hc, squeeze_solid hc]
          have hkept : ¬ BeginsWithOperator (c :: squeeze false cs) := by
            refine not_beginsWithOperator_of_head? hplain fun d hd hsolid => ?_
            cases cs with
            | nil => exact hd
            | cons e rest =>
                cases he : isGap e with
                | true =>
                    rw [squeeze_gap he] at hd
                    obtain rfl := Option.some.inj hd
                    exact absurd hsolid (by decide)
                | false =>
                    rw [squeeze_solid he] at hd
                    exact hd
          rw [cut_cons_of_not_beginsWithOperator hkept, htext]
          exact ⟨rfl, hmore⟩

theorem segmentsBehind_squeeze (op : Connector) (after : Bool) (cs : List Char) :
    (segmentsBehind op (squeeze after cs)).map Segment.reading
      = (segmentsBehind op cs).map Segment.reading := by
  rcases cut_squeeze after cs with ⟨htext, hmore⟩
  rw [segmentsBehind, segmentsBehind, List.map_cons, List.map_cons, hmore, htext, reading_squeeze]

theorem cut_gaps {gaps : List Char} (hgaps : ∀ c ∈ gaps, isGap c = true) :
    cut gaps = (gaps, []) := by
  induction gaps with
  | nil => rfl
  | cons c rest ih =>
      have hc := hgaps c List.mem_cons_self
      rw [cut_cons_of_not_beginsWithOperator (not_beginsWithOperator_of_isGap hc rest),
        ih fun d hd => hgaps d (List.mem_cons_of_mem c hd)]

/-- Gaps at the end of a text stand in its last segment. -/
theorem segmentsBehind_append_gaps {gaps : List Char} (hgaps : ∀ c ∈ gaps, isGap c = true)
    (op : Connector) (cs : List Char) :
    (segmentsBehind op (cs ++ gaps)).map Segment.reading
      = (segmentsBehind op cs).map Segment.reading := by
  suffices hlast : ∃ earlier last text,
      segmentsBehind op cs = earlier ++ [⟨last, String.ofList text⟩] ∧
      segmentsBehind op (cs ++ gaps) = earlier ++ [⟨last, String.ofList (text ++ gaps)⟩] by
    rcases hlast with ⟨earlier, last, text, hcs, happend⟩
    rw [hcs, happend, List.map_append, List.map_append, List.map_singleton, List.map_singleton,
      reading_append_gaps hgaps]
  induction cs using cut_induction generalizing op with
  | nil => exact ⟨[], op, [], rfl, by rw [List.nil_append, segmentsBehind, cut_gaps hgaps]; rfl⟩
  | operator op' cs hop' ih =>
      rcases ih op' with ⟨earlier, last, text, hcs, happend⟩
      refine ⟨⟨op, ""⟩ :: earlier, last, text, ?_, ?_⟩
      · rw [segmentsBehind_symbol_append hop', hcs, List.cons_append]
      · rw [List.append_assoc, segmentsBehind_symbol_append hop', happend, List.cons_append]
  | plain c cs hplain ih =>
      rcases ih op with ⟨earlier, last, text, hcs, happend⟩
      have hkept : ¬ BeginsWithOperator (c :: (cs ++ gaps)) := by
        refine not_beginsWithOperator_of_head? hplain fun d hd hsolid => ?_
        cases cs with
        | nil =>
            have hgap := hgaps d (List.mem_of_head? hd)
            exact absurd hsolid (by simp [hgap])
        | cons e rest => exact hd
      simp only [segmentsBehind, List.cons_append, cut_cons_of_not_beginsWithOperator hplain,
        cut_cons_of_not_beginsWithOperator hkept] at hcs happend ⊢
      -- The character goes to the first segment, which may be the last one as well.
      cases earlier with
      | nil =>
          simp only [List.nil_append, List.cons.injEq, Segment.mk.injEq] at hcs happend
          refine ⟨[], op, c :: text, ?_, ?_⟩
          · rw [String.ofList_injective hcs.1.2, hcs.2]
            rfl
          · rw [String.ofList_injective happend.1.2, happend.2]
            rfl
      | cons x earlier =>
          simp only [List.cons_append, List.cons.injEq] at hcs happend
          have htext := hcs.1.trans happend.1.symm
          simp only [Segment.mk.injEq, true_and] at htext
          refine ⟨⟨op, String.ofList (c :: (cut cs).1)⟩ :: earlier, last, text, ?_, ?_⟩
          · rw [hcs.2]
            rfl
          · rw [happend.2, String.ofList_injective htext]
            rfl

/-- The segments of a line read as those of its tidy form. -/
theorem reading_segments_tidy (line : String) :
    (segments (tidy line)).map Segment.reading = (segments line).map Segment.reading := by
  have hgaps : ∀ c ∈ (squeeze true line.toList).rtakeWhile isGap, isGap c = true :=
    fun c hc => List.mem_rtakeWhile_imp hc
  have hsplit := @List.rdropWhile_append_rtakeWhile _ isGap (squeeze true line.toList)
  have htidy : (tidy line).toList = (squeeze true line.toList).rdropWhile isGap := by
    rw [tidy, String.toList_ofList, dropWhile_squeeze]
  calc (segments (tidy line)).map Segment.reading
      = (segmentsBehind .opening (beforeComment (tidy line).toList)).map Segment.reading := rfl
    _ = (segmentsBehind .opening (beforeComment (squeeze true line.toList))).map
          Segment.reading := by
        -- The gaps that tidying takes from the end belong to the last segment or to the comment.
        rw [htidy, beforeComment, beforeComment]
        conv => rhs; rw [← hsplit]
        rcases beforeHash_append_gaps hgaps true
            ((squeeze true line.toList).rdropWhile isGap) with h | h
        · rw [h]
        · rw [h, segmentsBehind_append_gaps hgaps]
    _ = (segmentsBehind .opening (squeeze true (beforeComment line.toList))).map
          Segment.reading := by
        rw [beforeComment, beforeHash_squeeze, beforeComment]
    _ = (segments line).map Segment.reading :=
        segmentsBehind_squeeze .opening true (beforeComment line.toList)

end Line

/-- Sessions that differ in the text of the line at work alone. -/
def Likeness.verbatim : Likeness where
  counters := fun c c' => c' = c
  journals := fun j k => k = j
  requests_eq := by
    rintro j k rfl
    rfl
  output_eq := by
    rintro j k rfl
    rfl
  print := by
    rintro j k text rfl
    exact ⟨rfl, rfl⟩
  report := by
    rintro j k st counter line reason rfl rfl
    rfl
  newline := by
    rintro j k rfl
    rfl
  ran := by
    rintro j k request answer rfl
    rfl

theorem Likeness.faithful_verbatim : Likeness.verbatim.Faithful := by
  rintro j k st counter line reason rfl rfl
  rfl

namespace Session

open Line

/-- Sessions that are alike in everything are the same but for their lines. -/
theorem Alike.eq_of_verbatim {s t : Session} (h : Alike .verbatim s t) :
    t = { s with state.line := t.state.line } := by
  rcases h with ⟨counter, line, journal, rfl, rfl, rfl⟩
  rfl

/-- Lines with the same tidy form do the same: the sessions that they leave differ in the
    text of the line alone. -/
theorem evalLine_of_tidy_eq (m : Machine) (s : Session) {line line' : String}
    (h : tidy line = tidy line') :
    s.evalLine m line' = { s.evalLine m line with state.line := line' } := by
  have hreading : (segments line).map Segment.reading = (segments line').map Segment.reading := by
    rw [← reading_segments_tidy line, h, reading_segments_tidy line']
  have hbegun : Alike .verbatim s s := ⟨s.state.counter, s.state.line, s.journal, rfl, rfl, rfl⟩
  have halike : Alike .verbatim (s.evalLine m line) (s.evalLine m line') :=
    alike_evalLine Likeness.faithful_verbatim (serveAlike_self _ m)
      (fun hcounter => congrArg (· + 1) hcounter) (forall₂_sameCommand_iff.2 hreading) hbegun
  have hline : (s.evalLine m line').state.line = line' :=
    (evalLine_within m s line').1.line_eq
  rw [halike.eq_of_verbatim, hline]

/-- There are gaps of both kinds at the ends, around the operator, before the comment and
    in front of the argument, and no program is found. -/
theorem evalLine_of_tidy_eq_comment :
    let m := Machine.bare fun _ _ => .quiet (.ok (.exited 0))
    let s := fresh Environment.empty
    let line := "nope a || setenv X 1 ; & ; #b"
    let line' := " \tnope\t \ta ||\tsetenv  X\t1\t\t; & ;\t #b\t "
    tidy line = tidy line' ∧
      s.evalLine m line' = { s.evalLine m line with state.line := line' } ∧
      (s.evalLine m line').state.status = 127 :=
  have htidy : tidy "nope a || setenv X 1 ; & ; #b"
      = tidy " \tnope\t \ta ||\tsetenv  X\t1\t\t; & ;\t #b\t " := by decide +kernel
  ⟨htidy, evalLine_of_tidy_eq _ _ htidy, by decide +kernel⟩

end Session

end CommandShell
