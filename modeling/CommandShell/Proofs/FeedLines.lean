import CommandShell.Input.Source
import CommandShell.Proofs.EncodedLines

/-!
# The Lines of a Feed

What is read from a feed is a matter of its bytes alone: the chunks in which
they come do not count. The lines are those of the text that all the bytes
together are read as, although each is decoded by itself once it is complete,
and a character may be spread over two chunks. When they have all been read, the
feed is at its end and stays there.

The last line of a feed may lack its newline. It is a line like the others if
the feed simply ends behind it, but it is lost if the feed breaks.

## Main definitions

* `Feed.lines`: The lines that a feed hands out before it ends.
* `Source.behind`: What is left of a source after some readings.

## Theorems

* `readLine_cases`: Reading hands out the first line and leaves the others.
* `reading_induction`: What is met when a feed is read to its end.
* `readLine_behind`: One reading after the other hands out the lines of the text.
-/

namespace CommandShell

open Text

namespace Input

/-! ### The next line -/

/-- The chunks run out where no newline is left. -/
theorem ranOut_takeLine (chunks : List Bytes) :
    (takeLine chunks).ranOut = true ↔ newlineByte ∉ chunks.flatten := by
  induction chunks with
  | nil => simp [takeLine]
  | cons chunk more ih =>
      unfold takeLine
      split
      -- All of the chunk is inside the line, so it has no newline and the next one
      -- decides.
      · rename_i heq
        have hinside : newlineByte ∉ chunk := by
          intro hmem
          have hall := List.dropWhile_eq_nil_iff.1 heq newlineByte hmem
          simp [isInside] at hall
        simp [ih, hinside]
      -- The first byte that is not inside is the newline itself.
      · rename_i mark tail heq
        have hmark : isInside mark ≠ true := by
          have hne : chunk.dropWhile isInside ≠ [] := by simp [heq]
          have hhead := List.head_dropWhile_not isInside hne
          simpa [heq] using hhead
        have hmem : mark ∈ chunk := (List.dropWhile_suffix isInside).subset (by simp [heq])
        have hnewline : mark = newlineByte := by simpa [isInside] using hmark
        simp [← hnewline, hmem]

namespace Feed

/-- Whether a line is handed out: it has its newline, or the feed does not break behind
    it. -/
def handsOut (ending : Option SystemError) (line : Bytes) : Bool :=
  line.getLast? = some newlineByte || ending.isNone

/-- The lines that a feed hands out before it ends or breaks. -/
def lines (f : Feed) : List String :=
  ((rawLines newlineByte f.chunks.flatten).filter (handsOut f.ending)).map fun line =>
    decodeLossy (withoutEnd line)

variable {f : Feed}

/-- A line is read that has its newline. -/
theorem readLine_of_newline {line more : Bytes} (hline : newlineByte ∉ line)
    (hbytes : f.chunks.flatten = line ++ newlineByte :: more) :
    ∃ rest, f.readLine = (.ok (some (decodeLossy (dropReturn returnByte line))), ⟨rest, f.ending⟩) ∧
      rest.flatten = more := by
  have hinside : ∀ b ∈ line, isInside b = true := by
    intro b hmem
    have hne : b ≠ newlineByte := fun heq => hline (heq ▸ hmem)
    simpa [isInside] using hne
  have htaken : (takeLine f.chunks).line = line ++ [newlineByte] := by
    rw [line_takeLine, hbytes, List.takeWhile_append_of_pos hinside,
      List.dropWhile_append_of_pos hinside]
    simp [isInside]
  have hout : (takeLine f.chunks).ranOut = false := by
    rw [← Bool.not_eq_true, ranOut_takeLine, hbytes]
    simp
  refine ⟨(takeLine f.chunks).rest, ?_, ?_⟩
  · simp [readLine, hout, htaken, withoutEnd, chomp_append]
  · have hflat := takeLine_flatten f.chunks
    rw [htaken, hbytes] at hflat
    simpa using hflat

/-- What is read where no newline is left: nothing, or a last line, or the error in which
    the feed ends. -/
theorem readLine_of_not_mem (hbytes : newlineByte ∉ f.chunks.flatten) :
    ∃ rest, rest.flatten = [] ∧ f.readLine =
      (match f.ending with
        | some e => .error e
        | none =>
            if f.chunks.flatten.isEmpty then .ok none
            else .ok (some (decodeLossy f.chunks.flatten)), ⟨rest, f.ending⟩) := by
  have hinside : ∀ b ∈ f.chunks.flatten, isInside b = true := by
    intro b hmem
    have hne : b ≠ newlineByte := fun heq => hbytes (heq ▸ hmem)
    simpa [isInside] using hne
  have htaken : (takeLine f.chunks).line = f.chunks.flatten := by
    rw [line_takeLine, List.dropWhile_eq_nil_iff.2 hinside, List.takeWhile_eq_self_iff.2 hinside]
    simp
  have hout := (ranOut_takeLine f.chunks).2 hbytes
  have hend : withoutEnd f.chunks.flatten = f.chunks.flatten := chomp_of_not_mem hbytes returnByte
  refine ⟨(takeLine f.chunks).rest, ?_, ?_⟩
  · have hflat := takeLine_flatten f.chunks
    rw [htaken] at hflat
    simpa using hflat
  -- A broken feed gives its error here; the other one gives what it has left, if anything.
  · cases hending : f.ending with
    | some e => simp [readLine, hout, hending]
    | none =>
        simp only [readLine, hout, hending, htaken, hend]
        split <;> rfl

theorem lines_of_newline {line more : Bytes} (hline : newlineByte ∉ line)
    (hbytes : f.chunks.flatten = line ++ newlineByte :: more) {rest : List Bytes}
    (hrest : rest.flatten = more) :
    f.lines = decodeLossy (dropReturn returnByte line) :: lines ⟨rest, f.ending⟩ := by
  rw [lines, hbytes, rawLines_append hline,
    List.filter_cons_of_pos (by simp [handsOut]), List.map_cons, withoutEnd, chomp_append]
  simp only [lines, hrest]

theorem lines_of_not_mem (hbytes : newlineByte ∉ f.chunks.flatten) :
    f.lines = if f.ending.isNone && !f.chunks.flatten.isEmpty
      then [decodeLossy f.chunks.flatten] else [] := by
  by_cases hempty : f.chunks.flatten = []
  · simp [lines, hempty, rawLines]
  · have hlast : f.chunks.flatten.getLast? ≠ some newlineByte := fun h =>
      hbytes (List.mem_of_getLast? h)
    have hend : withoutEnd f.chunks.flatten = f.chunks.flatten :=
      chomp_of_not_mem hbytes returnByte
    rw [lines, rawLines_of_not_mem hbytes hempty]
    -- All that is left is one open line, which the filter lets through unless the feed breaks.
    cases hending : f.ending with
    | none => simp [handsOut, hempty, hend]
    | some e => simp [handsOut, hlast]

/-- Reading hands out the first line and leaves the others; where there is none, the feed
    ends, and there is none behind. -/
theorem readLine_cases (f : Feed) :
    (∃ line g, f.readLine = (.ok (some line), g) ∧ f.lines = line :: g.lines ∧
      g.ending = f.ending) ∨
    (∃ g, f.readLine = (match f.ending with
        | some e => .error e
        | none => .ok none, g) ∧ f.lines = [] ∧ g.lines = [] ∧ g.ending = f.ending) := by
  by_cases hmem : newlineByte ∈ f.chunks.flatten
  · -- A line with its newline is read.
    rcases List.eq_append_cons_of_mem hmem with ⟨line, more, hbytes, hline⟩
    rcases readLine_of_newline hline hbytes with ⟨rest, hread, hrest⟩
    exact Or.inl ⟨_, _, hread, lines_of_newline hline hbytes hrest, rfl⟩
  · rcases readLine_of_not_mem hmem with ⟨rest, hrest, hread⟩
    have hlines := lines_of_not_mem hmem
    have hnil : ∀ ending, (Feed.mk rest ending).lines = [] := by simp [lines, hrest, rawLines]
    cases hending : f.ending with
    | some e =>
        -- The feed breaks, and an open line is lost.
        rw [hending] at hread hlines
        exact Or.inr ⟨_, hread, by simpa using hlines, hnil (some e), rfl⟩
    | none =>
        rw [hending] at hread hlines
        by_cases hempty : f.chunks.flatten.isEmpty = true
        · simp only [if_pos hempty] at hread
          exact Or.inr ⟨_, hread, by simpa [hempty] using hlines, hnil none, rfl⟩
        · -- An open line is the last one.
          simp only [if_neg hempty] at hread
          refine Or.inl ⟨_, _, hread, ?_, rfl⟩
          rw [hnil none]
          simpa [hempty] using hlines

/-- Reading a feed to its end, one meets a line with a shorter feed behind it, or the
    end. -/
@[elab_as_elim]
theorem reading_induction {P : Feed → Prop}
    (line : ∀ f line g, f.readLine = (.ok (some line), g) → f.lines = line :: g.lines →
      g.ending = f.ending → P g → P f)
    (ended : ∀ f g, f.readLine = (match f.ending with
        | some e => .error e
        | none => .ok none, g) → f.lines = [] → g.lines = [] → g.ending = f.ending → P f)
    (f : Feed) : P f := by
  -- The induction is on the bytes that are left; each line takes some of them away.
  induction hsize : f.size using Nat.strong_induction_on generalizing f with
  | _ size ih =>
      rcases f.readLine_cases with ⟨text, g, hread, hlines, hending⟩ |
        ⟨g, hread, hlines, hnone, hending⟩
      · exact line f text g hread hlines hending (ih g.size (hsize ▸ size_readLine_lt hread) g rfl)
      · exact ended f g hread hlines hnone hending

/-! ### Reading on -/

/-- A feed that does not break hands out the lines of the text that its bytes are read
    as. -/
theorem lines_of_unbroken (hending : f.ending = none) :
    f.lines = Text.lines (decodeLossy f.chunks.flatten) := by
  -- Only a feed that breaks keeps a line back.
  have hall : ∀ line ∈ rawLines newlineByte f.chunks.flatten, handsOut f.ending line = true := by
    intro line _
    simp [handsOut, hending]
  rw [lines, List.filter_eq_self.2 hall, lines_decodeLossy, splitLines, List.map_map]
  rfl

end Feed

namespace Source

/-- What is left of a source after `n` readings. -/
def behind : Nat → Source → Source
  | 0, source => source
  | n + 1, source => behind n source.readLine.2

/-- After `n` readings of a feed comes its line of this number, and where it has none, the
    end. -/
theorem readLine_behind_feed {f : Feed} (hending : f.ending = none) (n : Nat) :
    (behind n (.feed f)).readLine.1 = .ok f.lines[n]? := by
  induction n generalizing f with
  | zero =>
      -- The first reading is the first line or the end.
      rcases f.readLine_cases with ⟨line, g, hread, hlines, -⟩ | ⟨g, hread, hlines, -, -⟩
      · simp [behind, readLine, hread, hlines]
      · simp [behind, readLine, hread, hending, hlines]
  | succ n ih =>
      rcases f.readLine_cases with ⟨line, g, hread, hlines, hg⟩ | ⟨g, hread, hlines, hnone, hg⟩
      · have hlater := ih (hg.trans hending)
        rw [hlines, List.getElem?_cons_succ, ← hlater]
        simp [behind, readLine, hread]
      · -- The feed has ended; it has no lines left and does not break later on.
        have hlater := ih (hg.trans hending)
        rw [hnone, List.getElem?_nil] at hlater
        rw [hlines, List.getElem?_nil, ← hlater]
        simp [behind, readLine, hread, hending]

/-- One reading after the other hands out the lines of the text that all the bytes are
    read as, in whatever chunks they come, and then the end each time. So bytes are cut
    into lines as their text is. -/
theorem readLine_behind (chunks : List Bytes) :
    (∀ n, (behind n (.feed ⟨chunks, none⟩)).readLine.1
      = .ok (lines (decodeLossy chunks.flatten))[n]?) ∧
    (splitLines newlineByte returnByte chunks.flatten).map decodeLossy
      = lines (decodeLossy chunks.flatten) := by
  have hlines : Feed.lines ⟨chunks, none⟩ = lines (decodeLossy chunks.flatten) :=
    Feed.lines_of_unbroken rfl
  refine ⟨fun n => ?_, (lines_decodeLossy chunks.flatten).symm⟩
  rw [readLine_behind_feed rfl n, hlines]

/-- A character that is cut by the end of a line does not take it along, even where chunks
    cut both. -/
example : (behind 0 (.feed ⟨[[0x61, 0xE2], [0x82, 0x0D], [0x0A, 0xF0]], none⟩)).readLine.1
    = .ok (some "a\uFFFD") := by
  decide +kernel

end Source

end Input

end CommandShell
