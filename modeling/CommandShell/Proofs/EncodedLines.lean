import CommandShell.Input.Feed
import CommandShell.Proofs.Scanning
import Mathlib.Data.List.TakeWhile

/-!
# The Lines of Bytes and of Their Text

Bytes can be decoded and then cut into lines, or they are cut and the lines are
decoded one by one. Both give the same lines, whatever the bytes are: a newline
and a carriage return are characters by themselves, wherever they stand. One
that breaks off a character ends the fault before it and is read as what it is,
and no faulty sequence hides one.

A sequence that ends in a newline is cut by itself, whatever follows. This
does not hold of one whose last line is open, since that line would go on.

## Main definitions

* `EndsLine`: Nothing is open at the end of a sequence.

## Theorems

* `lines_induction`: A sequence is a line that is open, or a line and more.
* `rawLines_append_of_endsLine`: What ends its last line is cut by itself.
* `getLast?_of_mem_rawLines`: Then each line has its newline.
* `lines_decodeLossy`: The lines of a text are those of the bytes it was read
  from.
-/

namespace CommandShell

namespace Text

open Input

/-! ### Lines of a sequence -/

section Lines

variable {α : Type} [DecidableEq α] {newline : α}

/-- A sequence is one open line, or it is a line with its newline and what comes behind
    that. -/
@[elab_as_elim]
theorem lines_induction {P : List α → Prop} (newline : α)
    (unended : ∀ line, newline ∉ line → P line)
    (ended : ∀ line more, newline ∉ line → P more → P (line ++ newline :: more)) (cs : List α) :
    P cs := by
  -- The induction is on the length; each line with its newline takes some of it away.
  induction hlength : cs.length using Nat.strong_induction_on generalizing cs with
  | _ length ih =>
      by_cases hmem : newline ∈ cs
      · rcases List.eq_append_cons_of_mem hmem with ⟨line, more, rfl, hline⟩
        refine ended line more hline (ih more.length ?_ more rfl)
        simp only [← hlength, List.length_append, List.length_cons]
        omega
      · exact unended cs hmem

/-- A front without a newline belongs to the first line. -/
theorem rawLines_append_of_not_mem {front : List α} (h : newline ∉ front) (hne : front ≠ [])
    (rest : List α) :
    rawLines newline (front ++ rest) =
      match rawLines newline rest with
      | [] => [front]
      | line :: more => (front ++ line) :: more := by
  induction front with
  | nil => exact absurd rfl hne
  | cons c front ih =>
      have hc : c ≠ newline := fun heq => h (by simp [heq])
      have hfront : newline ∉ front := fun hmem => h (by simp [hmem])
      rw [List.cons_append, rawLines, if_neg hc]
      -- The induction is on the text in front, which ends in the middle of a line.
      by_cases hlast : front = []
      · subst hlast
        rfl
      · rw [ih hfront hlast]
        cases rawLines newline rest <;> rfl

theorem rawLines_of_not_mem {line : List α} (h : newline ∉ line) (hne : line ≠ []) :
    rawLines newline line = [line] := by
  have hlines := rawLines_append_of_not_mem h hne []
  rwa [List.append_nil] at hlines

theorem rawLines_ne_nil {cs : List α} (h : cs ≠ []) : rawLines newline cs ≠ [] := by
  intro hnil
  have hflat := flatten_rawLines newline cs
  rw [hnil] at hflat
  exact h hflat.symm

theorem chomp_of_not_mem {line : List α} (h : newline ∉ line) (ret : α) :
    chomp newline ret line = line := by
  rw [chomp, if_neg fun hlast => h (List.mem_of_getLast? hlast)]

/-- An open line is kept as it is. -/
theorem splitLines_of_not_mem {line : List α} (h : newline ∉ line) (ret : α) :
    splitLines newline ret line = if line = [] then [] else [line] := by
  by_cases hempty : line = []
  · rw [if_pos hempty, hempty]
    rfl
  · rw [if_neg hempty, splitLines, rawLines_of_not_mem h hempty, List.map_singleton,
      chomp_of_not_mem h]

/-- No line is open at the end of a sequence. -/
def EndsLine (newline : α) (cs : List α) : Prop :=
  cs = [] ∨ cs.getLast? = some newline

/-- What ends its last line is cut by itself. -/
theorem rawLines_append_of_endsLine {cs : List α} (h : EndsLine newline cs) (more : List α) :
    rawLines newline (cs ++ more) = rawLines newline cs ++ rawLines newline more := by
  induction cs with
  | nil => rfl
  | cons c rest ih =>
      have hlast : (c :: rest).getLast? = some newline := by simpa [EndsLine] using h
      by_cases hrest : rest = []
      · -- The newline itself is the end.
        have hc : c = newline := by simpa [hrest] using hlast
        subst hrest hc
        simp [rawLines]
      · have hends : rest.getLast? = some newline := by
          rwa [List.getLast?_cons_of_ne_nil hrest] at hlast
        rw [List.cons_append, rawLines, rawLines, ih (Or.inr hends)]
        -- A newline here makes a line of its own; any other character joins the first
        -- line behind.
        by_cases hc : c = newline
        · rw [if_pos hc, if_pos hc, List.cons_append]
        · rw [if_neg hc, if_neg hc]
          cases hlines : rawLines newline rest with
          | nil => exact absurd hlines (rawLines_ne_nil hrest)
          | cons line lines => rfl

/-- Where no line is open at the end, each line has its newline. -/
theorem getLast?_of_mem_rawLines {cs : List α} (h : EndsLine newline cs) {line : List α}
    (hmem : line ∈ rawLines newline cs) : line.getLast? = some newline := by
  induction cs generalizing line with
  | nil => simp [rawLines] at hmem
  | cons c rest ih =>
      have hlast : (c :: rest).getLast? = some newline := by simpa [EndsLine] using h
      have hrest : EndsLine newline rest := by
        by_cases hnil : rest = []
        · exact Or.inl hnil
        · exact Or.inr (by rwa [List.getLast?_cons_of_ne_nil hnil] at hlast)
      rw [rawLines] at hmem
      split at hmem
      · rename_i hc
        rcases List.mem_cons.1 hmem with rfl | hmore
        · simp [hc]
        · exact ih hrest hmore
      · rename_i hc
        cases hlines : rawLines newline rest with
        | nil =>
            -- The character would be the last one and no newline.
            have hnil : rest = [] := by
              by_contra hne
              exact rawLines_ne_nil hne hlines
            rw [hnil] at hlast
            exact absurd (by simpa using hlast) hc
        | cons first more =>
            rw [hlines] at hmem
            rcases List.mem_cons.1 hmem with rfl | hmore
            · have hfirst := ih hrest (by rw [hlines]; exact List.mem_cons_self)
              cases first with
              | nil => simp at hfirst
              | cons d tail => rwa [List.getLast?_cons_cons]
            · exact ih hrest (by rw [hlines]; exact List.mem_cons_of_mem first hmore)

end Lines

/-! ### Lines of bytes -/

theorem toList_decodeLossy_eq_nil_iff {bytes : Bytes} :
    (decodeLossy bytes).toList = [] ↔ bytes = [] := by
  constructor
  · intro h
    rw [toList_decodeLossy, List.map_eq_nil_iff] at h
    have haccounts := accounts_scan bytes
    rw [h] at haccounts
    -- No record accounts for bytes, unless there are none.
    cases haccounts
    rfl
  · rintro rfl
    rfl

theorem newline_not_mem_decodeLossy {bytes : Bytes} (h : newlineByte ∉ bytes) :
    '\n' ∉ (decodeLossy bytes).toList :=
  fun hmem => h (mem_of_mem_decodeLossy (b := newlineByte) (by decide) hmem)

/-- A carriage return is taken from the end of a text as from its bytes. -/
theorem dropReturn_decodeLossy (bytes : Bytes) :
    dropReturn '\r' (decodeLossy bytes).toList
      = (decodeLossy (dropReturn returnByte bytes)).toList := by
  have hlast : (decodeLossy bytes).toList.getLast? = some '\r' ↔ bytes.getLast? = some returnByte :=
    getLast?_toList_decodeLossy (b := returnByte) (by decide)
  unfold dropReturn
  -- A return is one byte, so the text ends with it just when the bytes do.
  by_cases h : bytes.getLast? = some returnByte
  · rw [if_pos h, if_pos (hlast.2 h)]
    obtain ⟨front, rfl⟩ := List.getLast?_eq_some_iff.1 h
    rw [decodeLossy_append_cons (by decide), List.dropLast_concat]
    exact List.dropLast_concat
  · rw [if_neg h, if_neg fun htext => h (hlast.1 htext)]

/-- The lines of a text are those of the bytes it was read from. -/
theorem lines_decodeLossy (bytes : Bytes) :
    lines (decodeLossy bytes) = (splitLines newlineByte returnByte bytes).map decodeLossy := by
  induction bytes using lines_induction newlineByte with
  -- The last line, if there is no newline behind it.
  | unended line hline =>
      rw [lines, splitLines_of_not_mem hline,
        splitLines_of_not_mem (newline_not_mem_decodeLossy hline)]
      by_cases hempty : line = []
      · rw [if_pos hempty, if_pos (toList_decodeLossy_eq_nil_iff.2 hempty)]
        rfl
      · rw [if_neg hempty, if_neg (mt toList_decodeLossy_eq_nil_iff.1 hempty),
          List.map_singleton, List.map_singleton, String.ofList_toList]
  | ended line more hline ih =>
      -- A newline is not part of any character, so both are cut at the same place.
      have htext : (decodeLossy (line ++ newlineByte :: more)).toList
          = (decodeLossy line).toList ++ '\n' :: (decodeLossy more).toList :=
        decodeLossy_append_cons (by decide) line more
      rw [lines, htext, splitLines_append (newline_not_mem_decodeLossy hline),
        splitLines_append hline, List.map_cons, List.map_cons, ← lines, ih, dropReturn_decodeLossy,
        String.ofList_toList]

/-- The lines of a text are those of its bytes. -/
theorem decodeLossy_splitLines (s : String) :
    (splitLines newlineByte returnByte (encode s)).map decodeLossy = lines s := by
  rw [← lines_decodeLossy, decode?_eq_some (decode?_encode s)]

/-- The bytes of a text end a line where the text does. -/
theorem endsLine_encode {s : String} (h : EndsLine '\n' s.toList) :
    EndsLine newlineByte (encode s) := by
  rcases h with hnil | hlast
  · exact Or.inl (by rw [encode_eq, hnil]; rfl)
  · rw [← decode?_eq_some (decode?_encode s)] at hlast
    exact Or.inr ((getLast?_toList_decodeLossy (b := newlineByte) (by decide)).1 hlast)

end Text

end CommandShell
