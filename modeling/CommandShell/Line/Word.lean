import CommandShell.Text.Blank
import CommandShell.Text.Fields

/-!
# Words of a Segment

Words are the runs of characters between gaps. Quotes have no meaning here:
a quote is a character of its word like any other.

## Main definitions

* `words`: The words of a text.

## Theorems

* `ne_empty_of_mem_words`: No word is empty.
* `words_append_gap`: A gap separates the words on its two sides.
-/

namespace CommandShell

namespace Line

open Text

/-- The words of a text, which are its fields between gaps that are not empty. -/
def words (text : String) : List String :=
  (solidFields isGap text.toList).map String.ofList

theorem ne_empty_of_mem_words {text word : String} (h : word ∈ words text) : word ≠ "" := by
  simp only [words, solidFields, List.mem_map, List.mem_filter] at h
  obtain ⟨field, ⟨_, hfield⟩, rfl⟩ := h
  intro hempty
  rw [String.ofList_eq_empty_iff] at hempty
  simp [hempty] at hfield

theorem words_append_gap {c : Char} (hc : isGap c = true) (s t : String) :
    words (s ++ String.singleton c ++ t) = words s ++ words t := by
  simp [words, String.toList_append, solidFields_append_cons hc, List.append_assoc]

end Line

end CommandShell
