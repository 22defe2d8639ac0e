import CommandShell.Proofs.Splitting

/-!
# A Line in Two Parts

What does a line do that two texts and an operator make up? It does what the
first text does as a line of its own, and then what the second one does: all
of it if the operator admits a command after the status that the first part
left, and otherwise only what stands behind the first segment of the second
part. The segments there look at the status by themselves, so a skipped
segment does not take the rest with it.

Nothing is said about where the parts end. The first may end in a blank
segment or ask the session to end, in which case neither side runs anything
more. The two sides differ in how many lines they have begun, which is seen in
the diagnostics alone.

## Main definitions

* `Journal.Unlimited`: Both streams take everything.
* `Event.SameButCounter`: Two events that differ at most in a line number.
* `Likeness.renumbered`: Sessions that differ in their line numbers.

## Theorems

* `evalLine_seam`: A line in two parts does what the parts do.
-/

namespace CommandShell

open Line Text

/-- Both streams take every text. -/
def Journal.Unlimited (j : Journal) : Prop :=
  j.outputRoom = none ∧ j.errorRoom = none

/-- The event of a text that arrived as a whole. -/
def Event.arrived (stream : Stream) (text : String) : Event :=
  .wrote stream text text.utf8ByteSize

/-- Two events that are the same, or that are diagnostics which differ in the number of
    the line and in nothing else. -/
inductive Event.SameButCounter : Event → Event → Prop
  | same (event : Event) : SameButCounter event event
  | diagnostic (st : State) (counter : Nat) (reason : String) :
      SameButCounter (.arrived .standardError (st.diagnostic reason ++ "\n"))
        (.arrived .standardError ({ st with counter := counter }.diagnostic reason ++ "\n"))

namespace Journal

/-- On streams that take everything a text arrives as a whole. -/
theorem write_eq_of_unlimited {j : Journal} (h : j.Unlimited) (stream : Stream) (text : String) :
    j.write stream text = (j.add (.arrived stream text), .ok ()) := by
  rcases j with ⟨events, outputRoom, errorRoom⟩
  rcases h with ⟨houtput, herror⟩
  dsimp only at houtput herror
  subst houtput herror
  cases stream <;> simp [write, room, takenOf, roomAfter, add, Event.arrived]

theorem write_of_unlimited {j : Journal} (h : j.Unlimited) (stream : Stream) (text : String) :
    (j.write stream text).1.Unlimited ∧ (j.write stream text).2 = .ok () ∧
      (j.write stream text).1.events.toList = j.events.toList ++ [.arrived stream text] := by
  rw [write_eq_of_unlimited h]
  exact ⟨h, rfl, Array.toList_push⟩

theorem requests_eq_of_forall₂ {j k : Journal}
    (h : List.Forall₂ Event.SameButCounter j.events.toList k.events.toList) :
    k.requests = j.requests := by
  unfold requests
  generalize j.events.toList = xs at h ⊢
  generalize k.events.toList = ys at h ⊢
  induction h with
  | nil => rfl
  | cons hxy _ ih => cases hxy <;> simp [Event.arrived, List.filterMap_cons, ih]

theorem output_eq_of_forall₂ {j k : Journal}
    (h : List.Forall₂ Event.SameButCounter j.events.toList k.events.toList) :
    k.received .standardOutput = j.received .standardOutput := by
  unfold received
  generalize j.events.toList = xs at h ⊢
  generalize k.events.toList = ys at h ⊢
  induction h with
  | nil => rfl
  | cons hxy _ ih => cases hxy <;> simp [Event.arrived, Event.received, ih]

end Journal

/-- Sessions whose streams take everything and that may be at lines of different numbers,
    so that their diagnostics differ there. -/
def Likeness.renumbered : Likeness where
  counters := fun _ _ => True
  journals := fun j k => j.Unlimited ∧ k.Unlimited ∧
    List.Forall₂ Event.SameButCounter j.events.toList k.events.toList
  requests_eq := fun ⟨_, _, h⟩ => Journal.requests_eq_of_forall₂ h
  output_eq := fun ⟨_, _, h⟩ => Journal.output_eq_of_forall₂ h
  print := by
    intro j k text ⟨hj, hk, hevents⟩
    rcases Journal.write_of_unlimited hj .standardOutput text with ⟨hj', hjr, hje⟩
    rcases Journal.write_of_unlimited hk .standardOutput text with ⟨hk', hkr, hke⟩
    refine ⟨⟨hj', hk', ?_⟩, by rw [hjr, hkr]⟩
    rw [hje, hke]
    exact List.rel_append hevents (List.Forall₂.cons (.same _) List.Forall₂.nil)
  report := by
    intro j k st counter line reason _ ⟨hj, hk, hevents⟩
    rcases Journal.write_of_unlimited hj .standardError (st.diagnostic reason ++ "\n") with
      ⟨hj', _, hje⟩
    rcases Journal.write_of_unlimited hk .standardError
      ((st.renumber counter line).diagnostic reason ++ "\n") with ⟨hk', _, hke⟩
    refine ⟨hj', hk', ?_⟩
    rw [hje, hke]
    exact List.rel_append hevents
      (List.Forall₂.cons (.diagnostic st counter reason) List.Forall₂.nil)
  newline := by
    intro j k ⟨hj, hk, hevents⟩
    rcases Journal.write_of_unlimited hj .standardError "\n" with ⟨hj', _, hje⟩
    rcases Journal.write_of_unlimited hk .standardError "\n" with ⟨hk', _, hke⟩
    refine ⟨hj', hk', ?_⟩
    rw [hje, hke]
    exact List.rel_append hevents (List.Forall₂.cons (.same _) List.Forall₂.nil)
  ran := by
    intro j k request answer ⟨hj, hk, hevents⟩
    refine ⟨hj, hk, ?_⟩
    simp only [Journal.add, Array.toList_push]
    exact List.rel_append hevents (List.Forall₂.cons (.same _) List.Forall₂.nil)

/-- Where everything arrives, it arrives on both sides. -/
theorem Likeness.faithful_renumbered : Likeness.renumbered.Faithful := by
  intro j k _ _ _ _ _ ⟨hj, hk, _⟩
  rw [(Journal.write_of_unlimited hj .standardError _).2.1,
    (Journal.write_of_unlimited hk .standardError _).2.1]

namespace Session

/-- A session that begins a line is aligned with one that is within another line. -/
theorem aligned_beginLine {s t : Session} (h : Aligned .renumbered s t) (line : String) :
    Aligned .renumbered { s with state := s.state.beginLine line } t := by
  rcases h with ⟨counter, line', journal, ht, _, hjournals⟩
  exact ⟨counter, line', journal, ht, trivial, hjournals⟩

/-- Two sessions that begin different lines in the same state. -/
theorem aligned_beginLine_self {s : Session} (hs : s.journal.Unlimited) (line line' : String) :
    Aligned .renumbered { s with state := s.state.beginLine line }
      { s with state := s.state.beginLine line' } :=
  ⟨s.state.counter + 1, line', s.journal, rfl, trivial, hs, hs,
    List.forall₂_same.2 fun event _ => .same event⟩

/-- What the second part of a line has to be as a line of its own: all of it if the
    operator admits a command, and otherwise what is behind its first segment. -/
def continuation (s : Session) (op : Connector) (second : String) : String :=
  if op.admits s.state.status then second else restOfLine second

/-- A line in two parts with an operator between them does what its parts do as lines of
    their own, with the same diagnostics up to the number of the line. -/
theorem evalLine_seam (m : Machine) (s : Session) (hs : s.journal.Unlimited)
    (first second : String) (hfirst : ¬ HoldsComment first.toList)
    (op : Connector) (hop : op ≠ .opening) :
    let whole := s.evalLine m (first ++ " " ++ String.ofList op.symbol ++ " " ++ second)
    let before := s.evalLine m first
    let parts := before.evalLine m (before.continuation op second)
    SameConduct parts whole ∧
      List.Forall₂ Event.SameButCounter parts.journal.events.toList
        whole.journal.events.toList := by
  intro whole before parts
  rcases segments_seam hfirst hop second with ⟨middle, text, more, hwhole, hsecond, hsame⟩
  have hsame_more : List.Forall₂ Segment.SameCommand more more :=
    List.forall₂_same.2 fun _ _ => ⟨rfl, rfl, rfl⟩
  -- Up to the operator the line does what its first part does alone.
  let line := first ++ " " ++ String.ofList op.symbol ++ " " ++ second
  let seam := middle.foldl (step m) { s with state := s.state.beginLine line }
  have hseam : Aligned .renumbered before seam :=
    aligned_foldl_step Likeness.faithful_renumbered m hsame (aligned_beginLine_self hs _ _)
  have hwhole_eq : whole = more.foldl (step m) (seam.step m ⟨op, " " ++ text⟩) := by
    simp only [whole, evalLine, hwhole, List.foldl_append, List.foldl_cons]
    rfl
  have hbegun := aligned_beginLine hseam (before.continuation op second)
  have haligned : Aligned .renumbered parts whole := by
    rw [hwhole_eq]
    by_cases hadmits : op.admits before.state.status = true
    · -- The first segment of the second part runs on both sides.
      have hcont : before.continuation op second = second := if_pos hadmits
      have hparts : parts = more.foldl (step m) (step m
          { before with state := before.state.beginLine (before.continuation op second) }
          ⟨.opening, text⟩) := by
        simp only [parts, evalLine, hcont, hsecond, List.foldl_cons]
      rw [hparts]
      refine aligned_foldl_step Likeness.faithful_renumbered m hsame_more
        (aligned_step_of_runs_iff Likeness.faithful_renumbered m hbegun (words_blank_append text)
          (hbegun.runs_iff (isBlank_blank_append text) ?_))
      rw [hseam.status_eq, hadmits]
      rfl
    · -- It runs on neither, and the line goes on behind it.
      have hskipped : op.admits before.state.status = false := by simpa using hadmits
      have hcont : before.continuation op second = restOfLine second := if_neg hadmits
      have hparts : parts = more.foldl (step m) (step m
          { before with state := before.state.beginLine (before.continuation op second) }
          ⟨.opening, ""⟩) := by
        simp only [parts, evalLine, hcont, segments_restOfLine, hsecond, List.tail_cons,
          List.foldl_cons]
      have hempty : ∀ u : Session, ¬ u.Runs ⟨.opening, ""⟩ := fun u hruns =>
        absurd hruns.not_blank (by decide)
      have hfirst : ¬ seam.Runs ⟨op, " " ++ text⟩ := by
        intro hruns
        have hadmitted := hruns.admitted
        rw [hseam.status_eq, hskipped] at hadmitted
        exact Bool.false_ne_true hadmitted
      rw [hparts, step_of_not_runs m (hempty _), step_of_not_runs m hfirst]
      exact aligned_foldl_step Likeness.faithful_renumbered m hsame_more hbegun
  have hjournals : Likeness.renumbered.journals parts.atRest.journal whole.atRest.journal :=
    Alike.journals haligned
  exact ⟨haligned.sameConduct, hjournals.2.2⟩

/-- The second part runs, as the first one fails, and asks the session to end before its
    own last segment. -/
theorem evalLine_seam_exit :
    let m := Machine.bare fun _ _ => .quiet (.ok (.exited 0))
    let s := fresh Environment.empty
    let before := s.evalLine m "nope ; && nope"
    let whole := s.evalLine m "nope ; && nope || exit 3 && nope # done"
    s.journal.Unlimited ∧ ¬ HoldsComment "nope ; && nope".toList ∧
      Connector.disjunction ≠ .opening ∧
      SameConduct (before.evalLine m (before.continuation .disjunction "exit 3 && nope # done"))
        whole ∧ whole.state.exitRequest = some 3 :=
  have hlimits : (fresh Environment.empty).journal.Unlimited := ⟨rfl, rfl⟩
  have hcomment : ¬ HoldsComment "nope ; && nope".toList :=
    beforeComment_eq_self_iff.1 (by decide +kernel)
  ⟨hlimits, hcomment, by decide,
    (evalLine_seam _ _ hlimits "nope ; && nope" "exit 3 && nope # done" hcomment .disjunction
      (by decide)).1,
    by decide +kernel⟩

end Session

end CommandShell
