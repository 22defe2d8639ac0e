/-!
# Ranges of Characters

Classes of characters that a standard gives by enumeration are kept as ranges
of code points. The ranges ascend, so that a search can stop at the first one
that starts behind the character.

## Main definitions

* `Ranges`: A class of characters.
* `Ranges.holds`: Membership by a search that stops early.

## Theorems

* `holds_nil`: The class without ranges is empty.
* `holds_cons_of_le`: A code point in the first range is a member.
-/

namespace CommandShell

namespace Text

/-- Ranges of code points, ends included, in ascending order. -/
abbrev Ranges := List (Nat × Nat)

/-- Whether a code point lies in one of the ranges; the search ends at the first range
    that starts behind it. -/
def Ranges.holds : Ranges → Nat → Bool
  | [], _ => false
  | (low, high) :: more, n =>
      if n < low then false else n ≤ high || Ranges.holds more n

theorem Ranges.holds_nil (n : Nat) : Ranges.holds [] n = false := rfl

theorem Ranges.holds_cons_of_le {low high n : Nat} (more : Ranges) (hlow : low ≤ n)
    (hhigh : n ≤ high) : Ranges.holds ((low, high) :: more) n = true := by
  simp [Ranges.holds, Nat.not_lt.2 hlow, hhigh]

end Text

end CommandShell
