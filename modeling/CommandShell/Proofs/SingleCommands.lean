import CommandShell.Proofs.Courses
import CommandShell.Proofs.Segmentation
import CommandShell.Proofs.Values
import Mathlib.Data.List.Infix

/-!
# Lines of a Single Command

Most lines that are typed are one command: some words with a blank between each
two of them, no operator and no comment. Such a line is its own only segment,
and what it does is to run that command. This is put together here from its
parts, so that a statement on what a line does can begin at the words.

Whether a text is a single segment is not settled by its words alone, since two
of them that are harmless by themselves may form an operator where they meet. A
blank between them forms none. It makes a `#` behind it open a comment, but so
does the start of a text, and a text that is a single segment does not begin
with a `#`.

## Main definitions

* `IsWord`: What can be a word of a segment.
* `Unbroken`: A text that is its own only segment.
* `Plain`: A word that stands for itself in a line.

## Theorems

* `words_intercalate`: The words of a line are those it is put together from.
* `unbroken_iff`: What it takes for a text to be a single segment.
* `unbroken_intercalate`: Single segments with blanks between them are one.
* `evalLine_of_unbroken`: A line that is a single segment runs its command.
* `evalLine_of_plain`: A line of plain words runs them as they are.
-/

namespace CommandShell

namespace Line

open Text

/-! ### Words -/

/-- What can be a word of a segment: it is not empty, and no gap is in it. -/
structure IsWord (word : String) : Prop where
  ne_empty : word ≠ ""
  no_gap : ∀ c ∈ word.toList, isGap c = false

-- The characters of the word are looked at, and not all characters that there are.
instance (word : String) : Decidable (IsWord word) :=
  decidable_of_iff (word ≠ "" ∧ (word.toList.all fun c => !isGap c) = true)
    ⟨fun h => ⟨h.1, by simpa using h.2⟩, fun h => ⟨h.ne_empty, by simpa using h.no_gap⟩⟩

theorem words_of_isWord {word : String} (h : IsWord word) : words word = [word] := by
  have hne : word.toList ≠ [] := by simpa [String.toList_eq_nil_iff] using h.ne_empty
  simp [words, solidFields, fields_of_forall h.no_gap, hne]

/-- The words of a line are those it is put together from. -/
theorem words_intercalate {ws : List String} (h : ∀ w ∈ ws, IsWord w) :
    words (" ".intercalate ws) = ws := by
  induction ws with
  | nil => rfl
  | cons w more ih =>
      obtain ⟨hw, hmore⟩ := List.forall_mem_cons.1 h
      cases more with
      | nil => rw [String.intercalate_singleton, words_of_isWord hw]
      | cons v rest =>
          rw [String.intercalate_cons_cons]
          exact (words_append_gap (c := ' ') (by decide) w _).trans
            (congrArg₂ (· ++ ·) (words_of_isWord hw) (ih hmore))

theorem exists_fields_eq_cons (isSeparator : Char → Bool) (cs : List Char) :
    ∃ first more, fields isSeparator cs = first :: more :=
  List.exists_cons_of_ne_nil (fields_ne_nil cs)

/-- A text in which all separators are the same is put together from its fields. -/
theorem intercalate_fields {isSeparator : Char → Bool} {separator : Char} {cs : List Char}
    (h : ∀ c ∈ cs, isSeparator c = true → c = separator) :
    [separator].intercalate (fields isSeparator cs) = cs := by
  induction cs with
  | nil => rfl
  | cons c rest ih =>
      obtain ⟨hc, hrest⟩ := List.forall_mem_cons.1 h
      obtain ⟨first, more, hfields⟩ := exists_fields_eq_cons isSeparator rest
      have hjoined := ih hrest
      cases hcut : isSeparator c with
      | true =>
          -- All separators are the same, so the one that stands here is known.
          obtain rfl := hc hcut
          rw [fields_cons_of_separator hcut, hfields, List.intercalate_cons_cons, ← hfields,
            hjoined]
          rfl
      | false =>
          rw [fields_cons_of_not hcut hfields]
          rw [hfields] at hjoined
          cases more <;> simpa using hjoined

theorem isBlank_intercalate (ws : List String) :
    isBlank (" ".intercalate ws) = ws.all isBlank := by
  induction ws with
  | nil => rfl
  | cons w more ih =>
      cases more with
      | nil => simp
      | cons v rest =>
          have hgap : isBlank " " = true := by decide
          rw [List.all_cons, ← ih, String.intercalate_cons_cons]
          simp only [isBlank, String.toList_append, List.all_append] at hgap ⊢
          rw [hgap, Bool.and_true]

/-- Fields are made of the characters of their text. -/
theorem mem_of_mem_fields {isSeparator : Char → Bool} {cs field : List Char} {c : Char}
    (hfield : field ∈ fields isSeparator cs) (hc : c ∈ field) : c ∈ cs := by
  induction cs generalizing field with
  | nil =>
      obtain rfl : field = [] := by simpa [fields] using hfield
      exact hc
  | cons d rest ih =>
      cases hd : isSeparator d with
      | true =>
          rw [fields_cons_of_separator hd] at hfield
          rcases List.mem_cons.1 hfield with rfl | hfield
          -- A field that has ended is empty, and the others are those of the rest.
          · cases hc
          · exact List.mem_cons_of_mem d (ih hfield hc)
      | false =>
          obtain ⟨first, more, hfirst⟩ := exists_fields_eq_cons isSeparator rest
          rw [fields_cons_of_not hd hfirst] at hfield
          rcases List.mem_cons.1 hfield with rfl | hfield
          -- The character belongs to the first field or to one behind it.
          · rcases List.mem_cons.1 hc with rfl | hc
            · exact List.mem_cons_self
            · exact List.mem_cons_of_mem d (ih (hfirst ▸ List.mem_cons_self) hc)
          · exact List.mem_cons_of_mem d (ih (hfirst ▸ List.mem_cons_of_mem _ hfield) hc)

theorem isWord_of_mem_words {text word : String} (h : word ∈ words text) : IsWord word := by
  refine ⟨ne_empty_of_mem_words h, ?_⟩
  obtain ⟨field, hfield, rfl⟩ := List.mem_map.1 h
  rw [String.toList_ofList]
  exact not_mem_of_mem_fields (List.mem_of_mem_filter hfield)

/-- A character that is not in a text is in none of its words. -/
theorem not_mem_of_mem_words {text word : String} {c : Char} (hc : c ∉ text.toList)
    (h : word ∈ words text) : c ∉ word.toList := by
  obtain ⟨field, hfield, rfl⟩ := List.mem_map.1 h
  rw [String.toList_ofList]
  exact fun hmem => hc (mem_of_mem_fields (List.mem_of_mem_filter hfield) hmem)

/-! ### Single segments -/

/-- A text that is its own only segment. -/
def Unbroken (text : String) : Prop :=
  segments text = [⟨.opening, text⟩]

instance (text : String) : Decidable (Unbroken text) :=
  inferInstanceAs (Decidable (segments text = _))

/-- A text is a single segment if it holds no comment and no operator. -/
theorem unbroken_iff {text : String} :
    Unbroken text ↔ ¬ HoldsComment text.toList ∧
      ∀ op : Connector, op ≠ .opening → ¬ op.symbol <:+: text.toList := by
  constructor
  · intro h
    -- Nothing is dropped from a line that is its own only segment.
    have hkept : beforeComment text.toList = text.toList := by
      rw [← render_segments, h]
      simp [Segment.render, Connector.symbol]
    refine ⟨beforeComment_eq_self_iff.1 hkept, ?_⟩
    have hcut : Decomposes text.toList [⟨.opening, text⟩] :=
      decomposes_iff.2 (by rw [← hkept]; exact h.symm)
    exact hcut.solid _ List.mem_cons_self
  · rintro ⟨hcomment, hoperator⟩
    have hcut : Decomposes text.toList [⟨.opening, text⟩] :=
      ⟨by simp [Segment.render, Connector.symbol], ⟨_, _, rfl, rfl, List.forall_mem_nil _⟩,
        List.forall_mem_singleton.2 hoperator, List.IsChain.singleton _⟩
    rw [Unbroken, segments, beforeComment_eq_self_iff.2 hcomment]
    exact (decomposes_iff.1 hcut).symm

/-- The character of which an operator is made twice. -/
theorem eq_of_symbol_eq {op : Connector} {c : Char} (h : op.symbol = [c, c]) :
    c = '&' ∨ c = '|' := by
  cases op with
  | opening => cases h
  | conjunction => exact Or.inl (List.cons.inj h).1.symm
  | disjunction => exact Or.inr (List.cons.inj h).1.symm
  | sequence => cases (List.cons.inj h).2

/-- Two single segments are one, unless an operator is formed where they meet. -/
theorem Unbroken.append {s t : String} (hs : Unbroken s) (ht : Unbroken t)
    (hseam : ∀ c, s.toList.getLast? = some c → t.toList.head? = some c → c ≠ '&' ∧ c ≠ '|') :
    Unbroken (s ++ t) := by
  obtain ⟨hcomment, hoperator⟩ := unbroken_iff.1 hs
  obtain ⟨hcomment', hoperator'⟩ := unbroken_iff.1 ht
  have hkept : beforeComment s.toList = s.toList := beforeComment_eq_self_iff.2 hcomment
  have hkept' : ∀ free, beforeHash free t.toList = t.toList := by
    intro free
    -- The first character is no `#`, so it does not matter what stands before it.
    have h := beforeComment_eq_self_iff.2 hcomment'
    unfold beforeComment at h
    cases ht' : t.toList with
    | nil => rfl
    | cons c rest =>
        rw [ht', beforeHash] at h
        split at h
        · cases h
        · rename_i hc
          rw [beforeHash, if_neg (fun hfree => hc (by simp_all)), h]
  refine unbroken_iff.2 ⟨?_, fun op hop hinside => ?_⟩
  · rw [← beforeComment_eq_self_iff, String.toList_append, beforeComment, beforeHash_append hkept,
      hkept']
  · rw [String.toList_append, List.infix_append_iff] at hinside
    rcases hinside with h | h | ⟨front, back, hsymbol, hfront, hback⟩
    · exact hoperator op hop h
    · exact hoperator' op hop h
    · -- A character of the operator stands on each side.
      cases front with
      | nil => exact hoperator' op hop (hsymbol ▸ hback.isInfix)
      | cons c more =>
          cases back with
          | nil => exact hoperator op hop (by rw [hsymbol, List.append_nil]; exact hfront.isInfix)
          | cons d rest =>
              rcases Connector.symbol_cases hop with hone | ⟨e, htwo⟩
              · simp [hone] at hsymbol
              · rw [htwo] at hsymbol
                obtain ⟨rfl, hrest⟩ := List.cons.inj hsymbol
                obtain ⟨rfl, rfl, rfl⟩ : more = [] ∧ d = e ∧ rest = [] := by
                  cases more <;> simp_all
                obtain ⟨before, hbefore⟩ := hfront
                obtain ⟨after, hafter⟩ := hback
                rcases hseam d (by rw [← hbefore]; simp) (by rw [← hafter]; rfl) with ⟨hand, hor⟩
                rcases eq_of_symbol_eq htwo with heq | heq
                · exact hand heq
                · exact hor heq

/-- Single segments with blanks between them are one. -/
theorem unbroken_intercalate {ws : List String} (h : ∀ w ∈ ws, Unbroken w) :
    Unbroken (" ".intercalate ws) := by
  induction ws with
  | nil => exact (by decide : Unbroken "")
  | cons w more ih =>
      obtain ⟨hw, hmore⟩ := List.forall_mem_cons.1 h
      cases more with
      | nil => rwa [String.intercalate_singleton]
      | cons v rest =>
          rw [String.intercalate_cons_cons]
          -- A blank is neither half of an operator, so nothing is formed on either
          -- side of it.
          have hblank : Unbroken (w ++ " ") := by
            refine hw.append (by decide) fun c _ hc => ?_
            obtain rfl : ' ' = c := by simpa using hc
            decide
          refine hblank.append (ih hmore) fun c hc _ => ?_
          obtain rfl : ' ' = c := by simpa using hc
          decide

/-! ### Plain words -/

/-- A word that stands for itself in a line: no gap is in it, no reference and no
    operator, and it does not begin with a `#`. -/
structure Plain (word : String) : Prop extends IsWord word where
  no_reference : '$' ∉ word.toList
  no_sequence : ';' ∉ word.toList
  no_conjunction : ¬ ['&', '&'] <:+: word.toList
  no_disjunction : ¬ ['|', '|'] <:+: word.toList
  no_comment : word.toList.head? ≠ some '#'

instance (word : String) : Decidable (Plain word) :=
  decidable_of_iff (IsWord word ∧ '$' ∉ word.toList ∧ ';' ∉ word.toList ∧
      ¬ ['&', '&'] <:+: word.toList ∧ ¬ ['|', '|'] <:+: word.toList ∧
      word.toList.head? ≠ some '#')
    ⟨fun ⟨h, href, hseq, hand, hor, hhash⟩ => ⟨h, href, hseq, hand, hor, hhash⟩,
      fun h => ⟨h.toIsWord, h.no_reference, h.no_sequence, h.no_conjunction, h.no_disjunction,
        h.no_comment⟩⟩

theorem Plain.unbroken {word : String} (h : Plain word) : Unbroken word := by
  refine unbroken_iff.2 ⟨?_, fun op hop hinside => ?_⟩
  · rintro ⟨before, after, hword, hgap⟩
    cases hlast : before.getLast? with
    | none =>
        rw [List.getLast?_eq_none_iff] at hlast
        exact h.no_comment (by rw [hword, hlast]; rfl)
    | some c =>
        -- A comment behind the first character needs a gap before it.
        have hmem : c ∈ word.toList := by
          rw [hword]
          exact List.mem_append_left _ (List.mem_of_getLast? hlast)
        rw [hlast, Option.all_some, h.no_gap c hmem] at hgap
        exact Bool.false_ne_true hgap
  · cases op with
    | opening => exact hop rfl
    | conjunction => exact h.no_conjunction hinside
    | disjunction => exact h.no_disjunction hinside
    | sequence => exact h.no_sequence (List.IsInfix.subset hinside List.mem_cons_self)

end Line

open Line

/-- Words without references are run as they are, but for an alias in front. -/
theorem State.expandWords_of_not_mem (st : State) {raw : List String}
    (h : ∀ w ∈ raw, w ≠ "" ∧ '$' ∉ w.toList) :
    st.expandWords raw = st.aliases.substitute raw := by
  have hsame : raw.map st.parameters.expand = raw :=
    (List.map_congr_left fun w hw => expand_of_not_mem st.parameters (h w hw).2).trans
      (List.map_id raw)
  have hkept : raw.filter (· ≠ "") = raw :=
    List.filter_eq_self.2 fun w hw => decide_eq_true (h w hw).1
  rw [expandWords, hsame, hkept]

namespace Session

/-- The turns of a line that is a single segment. -/
theorem turnsOf_of_unbroken (m : Machine) (s : Session) {line : String} (hline : Unbroken line) :
    turnsOf m s line = [⟨m, s.begun line, ⟨.opening, line⟩⟩] := by
  rw [turnsOf, hline]
  rfl

/-- A line that is a single segment runs its command, and nothing else. -/
theorem evalLine_of_unbroken (m : Machine) {s : Session} {line leading : String}
    {args : List String} (hexit : s.state.exitRequest = none) (hline : Unbroken line)
    (hblank : Text.isBlank line = false)
    (hwords : s.state.expandWords (words line) = leading :: args) :
    (turnsOf m s line).map Turn.command = [leading :: args] ∧
      s.evalLine m line = ((s.begun line).runCommand m leading args).1.close
        ((s.begun line).runCommand m leading args).2 := by
  have hruns : (s.begun line).Runs ⟨.opening, line⟩ := ⟨hexit, hblank, rfl⟩
  have hcommand : (s.begun line).state.expandWords (words line) = leading :: args := hwords
  refine ⟨?_, ?_⟩
  · rw [turnsOf_of_unbroken m s hline, List.map_singleton, Turn.command, if_pos hruns, hcommand]
  · rw [evalLine, hline, List.foldl_cons, List.foldl_nil]
    exact (step_of_runs m hruns).trans (runSegment_of_cons m _ hcommand)

/-- A line of plain words runs the words as they are, but for an alias in front. -/
theorem evalLine_of_plain (m : Machine) {s : Session} {ws : List String} {leading : String}
    {args : List String} (hexit : s.state.exitRequest = none) (hplain : ∀ w ∈ ws, Plain w)
    (hblank : ws.all Text.isBlank = false)
    (hwords : s.state.aliases.substitute ws = leading :: args) :
    (turnsOf m s (" ".intercalate ws)).map Turn.command = [leading :: args] ∧
      s.evalLine m (" ".intercalate ws)
        = ((s.begun (" ".intercalate ws)).runCommand m leading args).1.close
          ((s.begun (" ".intercalate ws)).runCommand m leading args).2 := by
  have hline : Unbroken (" ".intercalate ws) :=
    unbroken_intercalate fun w hw => (hplain w hw).unbroken
  have hcommand : s.state.expandWords (words (" ".intercalate ws)) = leading :: args := by
    rw [words_intercalate fun w hw => (hplain w hw).toIsWord, State.expandWords_of_not_mem, hwords]
    exact fun w hw => ⟨(hplain w hw).ne_empty, (hplain w hw).no_reference⟩
  exact evalLine_of_unbroken m hexit hline (by rw [isBlank_intercalate, hblank]) hcommand

end Session

end CommandShell
