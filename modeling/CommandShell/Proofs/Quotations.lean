import CommandShell.Alias.Argument
import CommandShell.Proofs.SingleCommands
import Mathlib.Data.List.Chain

/-!
# Quotations Torn Apart and Put Together

Words know no quoting, so a value between quotes is torn apart at its gaps, and
`alias` has to put the pieces together again. It does so with single spaces, and
it has nothing but the quotes to go by: the first piece that ends with one is the
last of the value.

Two things can therefore be lost. The gaps themselves are, where they are tabs or
where there are several of them. And a quote inside the value ends it early, if a
gap is directly behind the quote. A value in which none of this happens comes
back as it was, whatever else is in it: quotes at its ends or inside its pieces,
blanks at its ends, or nothing at all.

What can be said of the pieces of a value is best said of each two of its
neighbouring characters, since that is where the pieces are cut and joined.

## Main definitions

* `assignment`: An alias as it is typed and as it is listed.
* `Quotable`: A value that survives to be quoted.
* `MayPrecede`: What may stand before a space in such a value.

## Theorems

* `isChain_intercalate_cons_cons`: What joining pieces asks of them.
* `takeQuoted_of_isChain`: A quotable value is taken as a whole.
* `isChain_takeQuoted`: Whatever is taken makes a quotable value.
* `eq_of_splitName?`: A word is cut at its first `=`.
* `parse_words_of_quotable`: A quotable value is read back.
* `exists_parse_words`: Whatever the value is, something quotable is read.
-/

namespace CommandShell

namespace Alias

open Text Line

/-- An alias as it is typed and as it is listed, with its value between quotes. -/
def assignment (name value : String) : String :=
  name ++ "='" ++ value ++ "'"

/-- A value that can be quoted: it holds no tab, no two spaces in a row, and no quote with
    a space directly behind it. -/
structure Quotable (value : String) : Prop where
  no_tab : '\t' ∉ value.toList
  no_two_spaces : ¬ [' ', ' '] <:+: value.toList
  no_quote_before_space : ¬ ['\'', ' '] <:+: value.toList

instance (value : String) : Decidable (Quotable value) :=
  decidable_of_iff ('\t' ∉ value.toList ∧ ¬ [' ', ' '] <:+: value.toList ∧
      ¬ ['\'', ' '] <:+: value.toList)
    ⟨fun h => ⟨h.1, h.2.1, h.2.2⟩,
      fun h => ⟨h.no_tab, h.no_two_spaces, h.no_quote_before_space⟩⟩

/-- What may stand directly before a character: before a space neither another one nor a
    quote, and before anything else everything. -/
def MayPrecede (c d : Char) : Prop :=
  d = ' ' → c ≠ ' ' ∧ c ≠ '\''

theorem isChain_mayPrecede_iff {cs : List Char} :
    cs.IsChain MayPrecede ↔ ¬ [' ', ' '] <:+: cs ∧ ¬ ['\'', ' '] <:+: cs := by
  constructor
  -- Two characters side by side are a piece of the list, and these two pieces are ruled out.
  · intro h
    have hpair : ∀ {c d : Char}, [c, d] <:+: cs → MayPrecede c d := fun hinside =>
      List.isChain_pair.1 <| List.IsChain.infix h hinside
    exact ⟨fun hinside => (hpair hinside rfl).1 rfl, fun hinside => (hpair hinside rfl).2 rfl⟩
  · rintro ⟨hspaces, hquote⟩
    refine (List.isChain_isInfix cs).imp fun c d hinside hd => ⟨?_, ?_⟩
    · rintro rfl
      exact hspaces (hd ▸ hinside)
    · rintro rfl
      exact hquote (hd ▸ hinside)

theorem quotable_iff {value : String} :
    Quotable value ↔ '\t' ∉ value.toList ∧ value.toList.IsChain MayPrecede := by
  rw [isChain_mayPrecede_iff]
  exact ⟨fun h => ⟨h.no_tab, h.no_two_spaces, h.no_quote_before_space⟩,
    fun h => ⟨h.1, h.2.1, h.2.2⟩⟩

/-! ### Pieces -/

/-- A piece of a text, in which there is no gap. -/
def IsPiece (piece : List Char) : Prop :=
  ∀ c ∈ piece, isGap c = false

theorem IsPiece.ne_space {piece : List Char} (h : IsPiece piece) {c : Char} (hc : c ∈ piece) :
    c ≠ ' ' := by
  rintro rfl
  exact absurd (h ' ' hc) (by decide)

theorem IsPiece.isChain {piece : List Char} (h : IsPiece piece) : piece.IsChain MayPrecede :=
  (List.isChain_isInfix piece).imp fun _ _ hinside hd =>
    absurd hd (h.ne_space (List.IsInfix.subset hinside (by simp)))

/-- Where the first piece is not the last, it may not end in a quote, and the second one
    may only be empty if it is the last. -/
theorem isChain_intercalate_cons_cons {first second : List Char} {more : List (List Char)}
    (hfirst : IsPiece first) (hsecond : IsPiece second) :
    ([' '].intercalate (first :: second :: more)).IsChain MayPrecede ↔
      first.getLast? ≠ some '\'' ∧ (second = [] → more = []) ∧
        ([' '].intercalate (second :: more)).IsChain MayPrecede := by
  have hlast : (∀ c ∈ first.getLast?, MayPrecede c ' ') ↔ first.getLast? ≠ some '\'' := by
    constructor
    · exact fun h hquote => (h '\'' hquote rfl).2 rfl
    · intro h c hc _
      exact ⟨hfirst.ne_space (List.mem_of_getLast? hc), fun heq => h (heq ▸ hc)⟩
  -- Behind the space comes the second piece, and only an empty one puts another space there.
  have hhead : (∀ d ∈ ([' '].intercalate (second :: more)).head?, MayPrecede ' ' d) ↔
      (second = [] → more = []) := by
    cases second with
    | cons d rest =>
        refine iff_of_true (fun e he hspace => ?_) (fun h => nomatch h)
        obtain rfl : d = e := by cases more <;> simpa using he
        exact absurd hspace (hsecond.ne_space List.mem_cons_self)
    | nil =>
        cases more with
        | nil => simp
        | cons piece rest => simp [MayPrecede]
  rw [List.intercalate_cons_cons, List.append_assoc, List.isChain_append]
  refine ⟨fun ⟨_, htail, hseam⟩ => ?_, fun ⟨hquote, hempty, hchain⟩ => ?_⟩
  -- The seam is where the first piece ends, and the rest is a chain by itself.
  · rw [List.singleton_append, List.isChain_cons] at htail
    exact ⟨hlast.1 fun c hc => hseam c hc ' ' rfl, hhead.1 htail.1, htail.2⟩
  · refine ⟨hfirst.isChain, List.isChain_cons.2 ⟨hhead.2 hempty, hchain⟩, ?_⟩
    intro c hc d hd
    obtain rfl : ' ' = d := by simpa using hd
    exact hlast.2 hquote c hc

/-- A piece in front of a text joins its first field. -/
theorem fields_append_of_isPiece {piece cs first : List Char} {more : List (List Char)}
    (hpiece : IsPiece piece) (h : fields isGap cs = first :: more) :
    fields isGap (piece ++ cs) = (piece ++ first) :: more := by
  induction piece with
  | nil => exact h
  | cons c rest ih =>
      obtain ⟨hc, hrest⟩ := List.forall_mem_cons.1 hpiece
      exact fields_cons_of_not hc (ih hrest)

/-! ### What is taken -/

theorem endsWith_ofList (piece : List Char) :
    endsWith '\'' (String.ofList piece).toList = true ↔ piece.getLast? = some '\'' := by
  simp [endsWith]

/-- Of a quotable value with a quote at its end all pieces are taken. The first piece is
    not the end of the value unless it is all of it. -/
theorem takeQuoted_of_isChain {first : List Char} {more : List (List Char)}
    (hpieces : ∀ p ∈ first :: more, IsPiece p)
    (hchain : ([' '].intercalate (first :: more)).IsChain MayPrecede)
    (hend : ([' '].intercalate (first :: more)).getLast? = some '\'') :
    takeQuoted '\'' (more.map String.ofList) = (more.map String.ofList, []) ∧
      (more ≠ [] → first.getLast? ≠ some '\'') ∧ ∀ p ∈ more, p ≠ [] := by
  induction more generalizing first with
  | nil => exact ⟨rfl, fun h => absurd rfl h, List.forall_mem_nil _⟩
  | cons second rest ih =>
      obtain ⟨hfirst, hothers⟩ := List.forall_mem_cons.1 hpieces
      have hsecond : IsPiece second := hothers second List.mem_cons_self
      obtain ⟨hquote, hempty, hchain'⟩ := (isChain_intercalate_cons_cons hfirst hsecond).1 hchain
      -- The quote at the end is not in the first piece, nor is it the space behind that.
      have hend' : ([' '].intercalate (second :: rest)).getLast? = some '\'' := by
        rw [List.intercalate_cons_cons, List.getLast?_append] at hend
        cases hrest : ([' '].intercalate (second :: rest)).getLast? with
        | none => simp [hrest] at hend
        | some c => simpa [hrest] using hend
      have hsolid : second ≠ [] := by
        intro hnil
        rw [hnil, hempty hnil] at hend'
        cases hend'
      obtain ⟨htaken, hinner, hmore⟩ := ih hothers hchain' hend'
      refine ⟨?_, fun _ => hquote, List.forall_mem_cons.2 ⟨hsolid, hmore⟩⟩
      rw [List.map_cons, takeQuoted]
      split
      · rename_i hends
        have hall : rest = [] := by
          by_contra hne
          exact hinner hne ((endsWith_ofList second).1 hends)
        rw [hall]
        rfl
      · rw [htaken]

/-- Whatever is taken behind a first piece that does not end in a quote makes a quotable
    value together with it. -/
theorem isChain_takeQuoted {first : List Char} {args : List String} (hfirst : IsPiece first)
    (hquote : first.getLast? ≠ some '\'') (hargs : ∀ w ∈ args, IsWord w) :
    ([' '].intercalate (first :: (takeQuoted '\'' args).1.map String.toList)).IsChain
      MayPrecede := by
  induction args generalizing first with
  | nil => simpa [takeQuoted] using hfirst.isChain
  | cons word rest ih =>
      obtain ⟨hword, hrest⟩ := List.forall_mem_cons.1 hargs
      have hne : word.toList ≠ [] := by simpa [String.toList_eq_nil_iff] using hword.ne_empty
      have hpiece : IsPiece word.toList := hword.no_gap
      rw [takeQuoted]
      split
      -- The word with the closing quote ends the pieces.
      · refine (isChain_intercalate_cons_cons hfirst hpiece).2
          ⟨hquote, fun _ => rfl, ?_⟩
        simpa using hpiece.isChain
      -- Any other word has no quote at its end, so a space may follow.
      · rename_i hends
        refine (isChain_intercalate_cons_cons hfirst hpiece).2
          ⟨hquote, fun hnil => absurd hnil hne, ih hpiece ?_ hrest⟩
        simpa [endsWith] using hends

/-! ### What is read -/

theorem splitName?_append {name : List Char} (h : '=' ∉ name) (value : List Char) :
    splitName? (name ++ '=' :: value) = some (name, value) := by
  induction name with
  | nil => simp [splitName?]
  | cons c rest ih =>
      obtain ⟨hc, hrest⟩ := not_or.1 (mt List.mem_cons.2 h)
      rw [List.cons_append, splitName?, if_neg (Ne.symm hc), ih hrest]
      rfl

theorem splitName?_eq_none_iff {word : List Char} : splitName? word = none ↔ '=' ∉ word := by
  induction word with
  | nil => simp [splitName?]
  | cons c rest ih =>
      rw [splitName?]
      by_cases hc : c = '='
      · simp [hc]
      · rw [if_neg hc, Option.map_eq_none_iff, ih, List.mem_cons, not_or]
        exact ⟨fun h => ⟨Ne.symm hc, h⟩, fun h => h.2⟩

/-- A word is cut at its first `=`. -/
theorem eq_of_splitName? {word name value : List Char}
    (h : splitName? word = some (name, value)) : word = name ++ '=' :: value ∧ '=' ∉ name := by
  induction word generalizing name with
  | nil => cases h
  | cons c rest ih =>
      rw [splitName?] at h
      by_cases hc : c = '='
      -- The name ends at the first equals sign.
      · rw [if_pos hc] at h
        cases h
        exact ⟨by rw [hc]; rfl, List.not_mem_nil⟩
      · rw [if_neg hc] at h
        obtain ⟨⟨front, back⟩, hrest, heq⟩ := Option.map_eq_some_iff.1 h
        cases heq
        obtain ⟨hsplit, hnot⟩ := ih hrest
        refine ⟨by rw [hsplit, List.cons_append], ?_⟩
        rw [List.mem_cons, not_or]
        exact ⟨Ne.symm hc, hnot⟩

/-- A value that is nothing but a quote is not closed by it. -/
theorem isClosed_cons {quote : Char} (value : List Char) :
    isClosed quote (quote :: value) = true ↔ value.getLast? = some quote := by
  cases value with
  | nil => simp [isClosed]
  | cons c rest => simp [isClosed, endsWith]

/-- A value without the quote at its start and the one at its end. -/
theorem stripQuotes_cons {quote : Char} (value : List Char) :
    stripQuotes quote (quote :: value)
      = if value.getLast? = some quote then value.dropLast else value := by
  simp [stripQuotes]

theorem intercalate_ofList_cons (c : Char) (first : List Char) (taken : List String) :
    (" ".intercalate (String.ofList (c :: first) :: taken)).toList
      = c :: [' '].intercalate (first :: taken.map String.toList) := by
  rw [String.toList_intercalate, List.map_cons, String.toList_ofList]
  cases taken <;> simp

/-- What is read of a word that begins a quotation, and of the words behind it. -/
theorem parse_cons_quoted {name : List Char} (hname : '=' ∉ name) (first : List Char)
    (rest : List String) :
    parse (String.ofList (name ++ '=' :: '\'' :: first) :: rest) =
      if first.getLast? = some '\'' then
        .define (String.ofList name) (String.ofList first.dropLast) :: parse rest
      else
        .define (String.ofList name) (String.ofList (stripQuotes '\'' ('\'' ::
          [' '].intercalate (first :: (takeQuoted '\'' rest).1.map String.toList))))
          :: parse (takeQuoted '\'' rest).2 := by
  have hquote : quote? ('\'' :: first) = some '\'' := by simp [quote?]
  rw [parse, String.toList_ofList, splitName?_append hname]
  simp only [hquote]
  by_cases hclosed : first.getLast? = some '\''
  -- The quote closes in the word itself, or it goes on into the next ones.
  · rw [if_pos ((isClosed_cons first).2 hclosed), if_pos hclosed, stripQuotes_cons, if_pos hclosed]
  · rw [if_neg (mt (isClosed_cons first).1 hclosed), if_neg hclosed, intercalate_ofList_cons]

/-- The words of an assignment, from the fields of the quoted value. -/
theorem words_assignment {name value : String} (hname : IsPiece name.toList)
    {first : List Char} {more : List (List Char)}
    (h : fields isGap (value.toList ++ ['\'']) = first :: more) :
    words (assignment name value) = String.ofList (name.toList ++ '=' :: '\'' :: first)
      :: (more.filter fun p => !p.isEmpty).map String.ofList := by
  have hfront : IsPiece (name.toList ++ ['=', '\'']) := by
    intro c hc
    -- What stands before the first field is the name, the equals sign and the quote.
    rcases List.mem_append.1 hc with hc | hc
    · exact hname c hc
    · simp only [List.mem_cons, List.not_mem_nil, or_false] at hc
      rcases hc with rfl | rfl <;> decide
  have htext : (assignment name value).toList
      = (name.toList ++ ['=', '\'']) ++ (value.toList ++ ['\'']) := by
    simp [assignment]
  rw [words, solidFields, htext, fields_append_of_isPiece hfront h]
  simp

/-- A valid name has no gap in it and no `=`. -/
theorem isPiece_of_isValidName {name : String} (h : Aliases.isValidName name = true) :
    IsPiece name.toList ∧ '=' ∉ name.toList := by
  simp only [Aliases.isValidName, Bool.and_eq_true, List.all_eq_true, decide_eq_true_eq,
    Bool.not_eq_true'] at h
  refine ⟨fun c hc => ?_, fun hmem => (h.2 '=' hmem).1 rfl⟩
  cases hgap : isGap c with
  | false => rfl
  | true => exact absurd (isWhiteSpace_of_isGap hgap) (by simp [(h.2 c hc).2])

/-- A quotable value is read back. -/
theorem parse_words_of_quotable {name value : String} (hname : Aliases.isValidName name = true)
    (hvalue : Quotable value) : parse (words (assignment name value)) = [.define name value] := by
  obtain ⟨hpiece, hequals⟩ := isPiece_of_isValidName hname
  obtain ⟨htab, hchain⟩ := quotable_iff.1 hvalue
  -- With the quote behind it the value is quotable still, and all gaps in it are spaces.
  have hspaces : ∀ c ∈ value.toList ++ ['\''], isGap c = true → c = ' ' := by
    intro c hc hgap
    refine (isGap_iff.1 hgap).resolve_right ?_
    rintro rfl
    exact htab (by simpa using hc)
  have hchain' : (value.toList ++ ['\'']).IsChain MayPrecede :=
    hchain.append (List.IsChain.singleton _) fun c _ d hd hspace => by
      obtain rfl : '\'' = d := by simpa using hd
      exact absurd hspace (by decide)
  obtain ⟨first, more, hfields⟩ := exists_fields_eq_cons isGap (value.toList ++ ['\''])
  have hjoined : [' '].intercalate (first :: more) = value.toList ++ ['\''] := by
    rw [← hfields, intercalate_fields hspaces]
  have hpieces : ∀ p ∈ first :: more, IsPiece p := fun p hp =>
    not_mem_of_mem_fields (hfields ▸ hp)
  obtain ⟨htaken, hinner, hsolid⟩ := takeQuoted_of_isChain hpieces (hjoined ▸ hchain')
    (by rw [hjoined]; simp)
  have hkept : (more.filter fun p => !p.isEmpty) = more :=
    List.filter_eq_self.2 fun p hp => by simpa using hsolid p hp
  rw [words_assignment hpiece hfields, hkept, parse_cons_quoted hequals]
  cases more with
  | nil =>
      -- The value is one piece, and closed by its own last character.
      rw [List.intercalate_singleton] at hjoined
      simp [hjoined, parse]
  | cons second rest =>
      have htoList : (String.toList ∘ String.ofList) = (id : List Char → List Char) :=
        funext fun cs => String.toList_ofList
      rw [if_neg (hinner (by simp)), htaken, List.map_map, htoList, List.map_id, hjoined,
        stripQuotes_cons]
      simp [parse]

/-- What is left of pieces that were put together, when something is taken off at the
    end. -/
theorem quotable_of_prefix {ps : List (List Char)} {cs : List Char} (hps : ∀ p ∈ ps, IsPiece p)
    (hchain : ([' '].intercalate ps).IsChain MayPrecede) (hfront : cs <+: [' '].intercalate ps) :
    Quotable (String.ofList cs) := by
  rw [quotable_iff, String.toList_ofList]
  refine ⟨fun htab => ?_, List.IsChain.prefix hchain hfront⟩
  rcases mem_of_mem_intercalate (List.IsPrefix.subset hfront htab) with hspace | ⟨p, hp, hc⟩
  · exact absurd hspace (by decide)
  · exact absurd (hps p hp '\t' hc) (by decide)

/-- Whatever the value is, something quotable is read first, and then requests that are
    made of the words behind it. -/
theorem exists_parse_words {name : String} (hname : Aliases.isValidName name = true)
    (value : String) :
    ∃ first rest read after,
      words (assignment name value) = String.ofList (name.toList ++ '=' :: '\'' :: first) :: rest ∧
      parse (words (assignment name value)) = .define name read :: parse after ∧
      Quotable read ∧ after <:+ rest := by
  obtain ⟨hpiece, hequals⟩ := isPiece_of_isValidName hname
  obtain ⟨first, more, hfields⟩ := exists_fields_eq_cons isGap (value.toList ++ ['\''])
  have hwords := words_assignment hpiece hfields
  generalize hrest : (more.filter fun p => !p.isEmpty).map String.ofList = rest at hwords
  have hfirst : IsPiece first := not_mem_of_mem_fields (hfields ▸ List.mem_cons_self)
  have hargs : ∀ w ∈ rest, IsWord w := fun w hw =>
    isWord_of_mem_words (hwords.symm ▸ List.mem_cons_of_mem _ hw)
  rw [hwords]
  refine ⟨first, rest, ?_⟩
  rw [parse_cons_quoted hequals, String.ofList_toList]
  by_cases hclosed : first.getLast? = some '\''
  -- The value closes in the first word, so nothing else belongs to the request.
  · rw [if_pos hclosed]
    have hfront : first.dropLast <+: [' '].intercalate [first] := by
      simpa using List.dropLast_prefix first
    have hread : Quotable (String.ofList first.dropLast) :=
      quotable_of_prefix (List.forall_mem_singleton.2 hfirst) (by simpa using hfirst.isChain) hfront
    exact ⟨_, rest, rfl, rfl, hread, List.suffix_rfl⟩
  · rw [if_neg hclosed]
    -- The words up to the closing quote are joined by single spaces, and the others are
    -- left.
    refine ⟨_, (takeQuoted '\'' rest).2, rfl, rfl, ?_, ?_⟩
    · refine quotable_of_prefix (List.forall_mem_cons.2 ⟨hfirst, fun p hp => ?_⟩)
        (isChain_takeQuoted hfirst hclosed hargs) ?_
      · obtain ⟨w, hw, rfl⟩ := List.mem_map.1 hp
        refine (hargs w ?_).no_gap
        rw [← takeQuoted_append '\'' rest]
        exact List.mem_append_left _ hw
      · rw [stripQuotes_cons]
        split
        · exact List.dropLast_prefix _
        · exact List.prefix_rfl
    · exact ⟨_, takeQuoted_append '\'' rest⟩

end Alias

end CommandShell
