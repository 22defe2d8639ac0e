/-!
# Fields

A text is cut at every separator, so `n` separators give `n + 1` fields, some
of them empty. Search paths, file paths and command lines are all read in this
way; they differ in the separator and in what is done with an empty field.

The cut is made on a list, by recursion on the list, so that what it does to a
concatenation can be read off. A text is cut as a list of characters, and a
path that need not be text as a list of bytes.

## Main definitions

* `fields`: The fields between separators.
* `solidFields`: The fields that are not empty.

## Theorems

* `fields_ne_nil`: There is always a field.
* `fields_append_cons`: A separator cuts a text into two that are cut apart.
* `solidFields_append_cons`: So it is for the fields that hold something.
* `fields_of_forall`: A text without a separator is its only field.
* `not_mem_of_mem_fields`: No field holds a separator.
* `mem_of_mem_intercalate`: What is in a joined list comes from its parts or between them.
-/

namespace CommandShell

namespace Text

variable {α : Type}

/-- The fields of a list, cut at each place that `isSeparator` picks. -/
def fields (isSeparator : α → Bool) : List α → List (List α)
  | [] => [[]]
  | c :: rest =>
      if isSeparator c then [] :: fields isSeparator rest
      else match fields isSeparator rest with
        | [] => [[c]]
        | field :: more => (c :: field) :: more

/-- The fields that hold something. -/
def solidFields (isSeparator : α → Bool) (cs : List α) : List (List α) :=
  (fields isSeparator cs).filter fun field => !field.isEmpty

variable {isSeparator : α → Bool}

theorem fields_ne_nil (cs : List α) : fields isSeparator cs ≠ [] := by
  cases cs with
  | nil => simp [fields]
  | cons c rest =>
      unfold fields
      split
      · simp
      · split <;> simp

theorem fields_cons_of_not {c : α} (hc : isSeparator c = false) {cs field : List α}
    {more : List (List α)} (h : fields isSeparator cs = field :: more) :
    fields isSeparator (c :: cs) = (c :: field) :: more := by
  simp [fields, hc, h]

theorem fields_cons_of_separator {c : α} (hc : isSeparator c = true) (cs : List α) :
    fields isSeparator (c :: cs) = [] :: fields isSeparator cs := by
  simp [fields, hc]

theorem fields_append_cons {c : α} (hc : isSeparator c = true) (cs ds : List α) :
    fields isSeparator (cs ++ c :: ds) = fields isSeparator cs ++ fields isSeparator ds := by
  induction cs with
  | nil => simp [fields, hc]
  | cons d rest ih =>
      cases hd : isSeparator d with
      | true => simp [fields, hd, ih]
      | false =>
          cases hf : fields isSeparator rest with
          | nil => exact absurd hf (fields_ne_nil rest)
          | cons field more =>
              rw [fields_cons_of_not hd hf, List.cons_append,
                fields_cons_of_not hd (by rw [ih, hf]; rfl)]
              rfl

theorem solidFields_append_cons {c : α} (hc : isSeparator c = true) (cs ds : List α) :
    solidFields isSeparator (cs ++ c :: ds)
      = solidFields isSeparator cs ++ solidFields isSeparator ds := by
  simp [solidFields, fields_append_cons hc]

theorem fields_of_forall {cs : List α} (h : ∀ c ∈ cs, isSeparator c = false) :
    fields isSeparator cs = [cs] := by
  induction cs with
  | nil => rfl
  | cons c rest ih =>
      exact fields_cons_of_not (h c (by simp)) (ih fun d hd => h d (by simp [hd]))

theorem not_mem_of_mem_fields {cs field : List α} (h : field ∈ fields isSeparator cs) :
    ∀ c ∈ field, isSeparator c = false := by
  induction cs generalizing field with
  | nil => simp only [fields, List.mem_singleton] at h; simp [h]
  | cons c rest ih =>
      cases hc : isSeparator c with
      | true =>
          rw [fields_cons_of_separator hc] at h
          rcases List.mem_cons.1 h with rfl | h
          · simp
          · exact ih h
      | false =>
          cases hf : fields isSeparator rest with
          | nil => exact absurd hf (fields_ne_nil rest)
          | cons first more =>
              rw [fields_cons_of_not hc hf] at h
              rcases List.mem_cons.1 h with rfl | h
              · intro d hd
                rcases List.mem_cons.1 hd with rfl | hd
                · exact hc
                · exact ih (by simp [hf]) d hd
              · exact ih (by simp [hf, h])

/-- What stands in joined lists stands in one of them or separates them. -/
theorem mem_of_mem_intercalate {separator : List α} {parts : List (List α)} {a : α}
    (h : a ∈ separator.intercalate parts) : a ∈ separator ∨ ∃ part ∈ parts, a ∈ part := by
  induction parts with
  | nil => cases h
  | cons first rest ih =>
      cases rest with
      | nil => exact Or.inr ⟨first, List.mem_cons_self, by simpa using h⟩
      | cons second more =>
          rw [List.intercalate_cons_cons, List.mem_append, List.mem_append] at h
          rcases h with (hfirst | hbetween) | hrest
          · exact Or.inr ⟨first, List.mem_cons_self, hfirst⟩
          · exact Or.inl hbetween
          · refine (ih hrest).imp_right ?_
            rintro ⟨part, hpart, ha⟩
            exact ⟨part, List.mem_cons_of_mem first hpart, ha⟩

end Text

end CommandShell
