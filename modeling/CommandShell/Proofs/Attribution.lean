import CommandShell.Proofs.Effects
import Mathlib.Data.List.Induction

/-!
# To Whom an Interrupt Belongs

An interrupt that arrives while a program runs belongs to the program, and one that
arrives while the shell is idle belongs to the shell, which learns of it when it asks
the next time. The monitor has a single flag for both. It is cleared when a program
ends, so that the program's interrupts are forgotten with it, and no interrupt of a
program is ever mistaken for one of the shell.

The other direction fails. An interrupt of the shell that has not been asked for when
a program starts is in the same flag, and is forgotten along with those of the
program. The shell never learns of it. This is the only way to lose one: as long as no
program ends while an interrupt of the shell remains, the shell learns of all of them.

What happened to a monitor is kept as a list, oldest first. Whom an interrupt belongs
to, and whether it remains, is said of such a past without looking at the monitor.

## Main definitions

* `Occurrence`: Something that happens to a monitor.
* `Monitor.behind`: The monitor that a past leaves.
* `answer`: What the shell learns if it asks now.
* `activityAfter`: What the shell is doing behind a past.
* `Remains`: An interrupt of the shell is still there.
* `Taken`, `Forgotten`: What ends an interrupt, as it should be and as it is.

## Theorems

* `remains_append_singleton`: What one more occurrence does to an interrupt.
* `pending_behind`: The flag of an idle shell tells whether an interrupt remains.
* `answer_iff`: What the shell learns.
* `remains_taken_iff`: Nothing is lost as long as no program ends at the wrong time.
* `answer_append_raise`: The shell never learns of an interrupt of a program.
* `belongs_iff_not_forgotten`: The shell learns of its interrupts exactly if no program
  ends while one remains.
-/

namespace CommandShell

namespace Interrupt

/-- Something that happens to a monitor. -/
inductive Occurrence where
  /-- An interrupt arrives. -/
  | raise
  /-- A program starts. -/
  | enter
  /-- A program has ended. -/
  | leave
  /-- The shell asks whether there was an interrupt. -/
  | poll
deriving DecidableEq

/-- The monitor after something happened to it. -/
def Monitor.meet (m : Monitor) : Occurrence → Monitor
  | .raise => m.raise
  | .enter => m.enter
  | .leave => m.leave
  | .poll => m.poll.2

/-- A new monitor that is installed, after all that happened to it since. -/
def Monitor.behind (past : List Occurrence) : Monitor :=
  past.foldl Monitor.meet Monitor.new.install

/-- What the shell learns if it asks now. -/
def answer (past : List Occurrence) : Bool :=
  (Monitor.behind past).poll.1

/-! ### What a past says -/

/-- What the shell does next, after something happened. -/
def Activity.next (a : Activity) : Occurrence → Activity
  | .enter => .running
  | .leave => .idle
  | .raise | .poll => a

/-- What the shell is doing behind a past. -/
def activityAfter (past : List Occurrence) : Activity :=
  past.foldl Activity.next .idle

/-- An interrupt has arrived while the shell was idle, and nothing that has happened since
    has ended it. What ends an interrupt may depend on what was before. -/
def Remains (ends : List Occurrence → Occurrence → Prop) (past : List Occurrence) : Prop :=
  ∃ earlier later, past = earlier ++ .raise :: later ∧ activityAfter earlier = .idle ∧
    ∀ front x back, later = front ++ x :: back → ¬ ends (earlier ++ .raise :: front) x

/-- The idle shell asks, and so learns of the interrupt. -/
def Taken (past : List Occurrence) (x : Occurrence) : Prop :=
  x = .poll ∧ activityAfter past = .idle

/-- The idle shell asks, or else a program ends. -/
def Forgotten (past : List Occurrence) (x : Occurrence) : Prop :=
  Taken past x ∨ x = .leave

theorem activityAfter_append_singleton (past : List Occurrence) (x : Occurrence) :
    activityAfter (past ++ [x]) = (activityAfter past).next x :=
  List.foldl_append

theorem Monitor.behind_append_singleton (past : List Occurrence) (x : Occurrence) :
    Monitor.behind (past ++ [x]) = (Monitor.behind past).meet x :=
  List.foldl_append

variable {ends : List Occurrence → Occurrence → Prop}

theorem not_remains_nil : ¬ Remains ends [] := by
  rintro ⟨earlier, later, hpast, _⟩
  simp at hpast

/-- One more occurrence is an interrupt of the shell itself, or it ends those that were
    there, or they remain. -/
theorem remains_append_singleton (past : List Occurrence) (x : Occurrence) :
    Remains ends (past ++ [x]) ↔
      (x = .raise ∧ activityAfter past = .idle) ∨ (Remains ends past ∧ ¬ ends past x) := by
  constructor
  · rintro ⟨earlier, later, hpast, hidle, hkept⟩
    rcases later.eq_nil_or_concat with rfl | ⟨middle, last, rfl⟩
    · -- The interrupt is the new occurrence.
      have hlast := List.append_inj' hpast rfl
      obtain rfl : x = .raise := by simpa using hlast.2
      exact Or.inl ⟨rfl, hlast.1 ▸ hidle⟩
    · -- The interrupt was there before, and the new occurrence is the last one behind it.
      rw [List.concat_eq_append, ← List.cons_append, ← List.append_assoc] at hpast
      have hlast := List.append_inj' hpast rfl
      obtain rfl : x = last := by simpa using hlast.2
      refine Or.inr ⟨⟨earlier, middle, hlast.1, hidle, fun front y back hmiddle => ?_⟩, ?_⟩
      · refine hkept front y (back ++ [x]) ?_
        rw [hmiddle, List.concat_eq_append, List.append_assoc, List.cons_append]
      · rw [hlast.1]
        exact hkept middle x [] List.concat_eq_append
  · rintro (⟨rfl, hidle⟩ | ⟨⟨earlier, later, rfl, hidle, hkept⟩, hends⟩)
    · exact ⟨past, [], rfl, hidle, by simp⟩
    · refine ⟨earlier, later ++ [x], by simp, hidle, fun front y back hlater => ?_⟩
      -- What happened behind the interrupt is what was there before, or the new occurrence.
      rcases back.eq_nil_or_concat with rfl | ⟨rest, last, rfl⟩
      · have hlast := List.append_inj' hlater rfl
        obtain rfl : x = y := by simpa using hlast.2
        exact hlast.1 ▸ hends
      · rw [List.concat_eq_append, ← List.cons_append, ← List.append_assoc] at hlater
        exact hkept front y rest (List.append_inj' hlater rfl).1

/-! ### What the monitor says -/

/-- Whatever happens, a monitor knows what the shell does next. -/
theorem Monitor.activity_meet (m : Monitor) (x : Occurrence) :
    (m.meet x).activity = m.activity.next x := by
  cases x with
  | raise =>
      by_cases hinstalled : m.installed = true <;> simp [meet, raise, hinstalled, Activity.next]
  | enter => rfl
  | leave => rfl
  | poll => cases hactivity : m.activity <;> simp [meet, poll, hactivity, Activity.next]

theorem Monitor.installed_meet (m : Monitor) (x : Occurrence) :
    (m.meet x).installed = m.installed := by
  cases x with
  | raise => by_cases hinstalled : m.installed = true <;> simp [meet, raise, hinstalled]
  | enter => rfl
  | leave => rfl
  | poll => cases hactivity : m.activity <;> simp [meet, poll, hactivity]

/-- The monitor stays installed, and it knows what the shell is doing. -/
theorem installed_behind (past : List Occurrence) :
    (Monitor.behind past).installed = true ∧
      (Monitor.behind past).activity = activityAfter past := by
  induction past using List.reverseRecOn with
  | nil => exact ⟨rfl, rfl⟩
  | append_singleton past x ih =>
      rcases ih with ⟨hinstalled, hactivity⟩
      rw [Monitor.behind_append_singleton, activityAfter_append_singleton,
        Monitor.installed_meet, Monitor.activity_meet, hactivity]
      exact ⟨hinstalled, rfl⟩

/-- The flag of an idle shell tells whether an interrupt is there that has been neither
    taken nor forgotten. While a program runs the flag tells nothing. -/
theorem pending_behind (past : List Occurrence) (hidle : activityAfter past = .idle) :
    (Monitor.behind past).pending = true ↔ Remains Forgotten past := by
  induction past using List.reverseRecOn with
  | nil =>
      have hnone : (Monitor.behind []).pending = false := rfl
      rw [hnone]
      exact ⟨fun h => absurd h Bool.false_ne_true, fun h => absurd h not_remains_nil⟩
  | append_singleton past x ih =>
      rcases installed_behind past with ⟨hinstalled, hactivity⟩
      rw [Monitor.behind_append_singleton, remains_append_singleton]
      rw [activityAfter_append_singleton] at hidle
      cases x with
      | raise =>
          have hset : ((Monitor.behind past).meet .raise).pending = true := by
            simp [Monitor.meet, Monitor.raise, hinstalled]
          exact ⟨fun _ => Or.inl ⟨rfl, hidle⟩, fun _ => hset⟩
      | enter => cases hidle
      | leave =>
          -- Whatever was there is forgotten.
          have hclear : ((Monitor.behind past).meet .leave).pending = false := rfl
          simp [hclear, Forgotten]
      | poll =>
          have hasked : activityAfter past = .idle := hidle
          have hclear : ((Monitor.behind past).meet .poll).pending = false := by
            simp only [Monitor.meet, Monitor.poll, hactivity, hasked]
          simp [hclear, Forgotten, Taken, hasked]

/-- The shell learns of an interrupt if it is idle and one is there that has been neither
    taken nor forgotten. -/
theorem answer_iff (past : List Occurrence) :
    answer past = true ↔ activityAfter past = .idle ∧ Remains Forgotten past := by
  have hactivity := (installed_behind past).2
  unfold answer Monitor.poll
  by_cases hidle : activityAfter past = .idle
  · rw [hactivity, hidle, ← pending_behind past hidle]
    simp
  · cases hnow : activityAfter past with
    | idle => exact absurd hnow hidle
    | running =>
        rw [hactivity, hnow]
        simp

/-! ### Interrupts of the shell -/

/-- An idle shell has lost none of its interrupts, if no program has ended while one was
    there. -/
theorem remains_taken_iff {past : List Occurrence}
    (hkept : ∀ front, front ++ [.leave] <+: past → ¬ Remains Taken front)
    (hidle : activityAfter past = .idle) : Remains Taken past ↔ Remains Forgotten past := by
  constructor
  · intro hremains
    -- With the shell idle again, an interrupt that remains has only just arrived.
    induction past using List.reverseRecOn with
    | nil => exact absurd hremains not_remains_nil
    | append_singleton past x _ =>
        rw [activityAfter_append_singleton] at hidle
        rcases (remains_append_singleton past x).1 hremains with hnew | ⟨hbefore, hends⟩
        · exact (remains_append_singleton past x).2 (Or.inl hnew)
        · cases x with
          | raise => exact (remains_append_singleton past .raise).2 (Or.inl ⟨rfl, hidle⟩)
          | enter => cases hidle
          | leave => exact absurd hbefore (hkept past (List.prefix_refl _))
          | poll => exact absurd ⟨rfl, hidle⟩ hends
  · rintro ⟨earlier, later, hpast, harrived, hends⟩
    refine ⟨earlier, later, hpast, harrived, fun front x back hlater htaken => ?_⟩
    exact hends front x back hlater (Or.inl htaken)

/-! ### Interrupts of a program -/

/-- A second interrupt is not told from the first. -/
theorem Monitor.raise_raise (m : Monitor) : m.raise.raise = m.raise := by
  by_cases hinstalled : m.installed = true <;> simp [raise, hinstalled]

theorem Monitor.enter_raise (m : Monitor) : m.raise.enter = m.enter.raise := by
  by_cases hinstalled : m.installed = true <;> simp [raise, enter, hinstalled]

/-- While a program runs, an interrupt makes no difference to what the shell learns
    later. -/
theorem poll_foldl_meet_raise {m : Monitor} (h : m.activity = .running)
    (later : List Occurrence) :
    (later.foldl Monitor.meet m.raise).poll.1 = (later.foldl Monitor.meet m).poll.1 := by
  -- The two monitors differ in the flag, until the program ends or they are the same.
  induction later generalizing m with
  | nil =>
      unfold Monitor.raise
      split
      · simp [Monitor.poll, h]
      · rfl
  | cons x more ih =>
      rw [List.foldl_cons, List.foldl_cons]
      cases x with
      | raise =>
          have hagain : m.raise.meet .raise = m.meet .raise := m.raise_raise
          rw [hagain]
      | enter =>
          have hlater : m.raise.meet .enter = (m.meet .enter).raise := m.enter_raise
          rw [hlater]
          exact ih rfl
      | leave =>
          have hforgotten : m.raise.meet .leave = m.meet .leave := m.leave_raise
          rw [hforgotten]
      | poll =>
          -- Nothing is taken, since the shell is not idle.
          have hnothing : ∀ w : Monitor, w.activity = .running → w.meet .poll = w := by
            intro w hw
            simp [Monitor.meet, Monitor.poll, hw]
          have hraised : m.raise.activity = .running := (m.activity_meet .raise).trans h
          rw [hnothing _ hraised, hnothing m h]
          exact ih h

/-- The shell never learns of an interrupt of a program. -/
theorem answer_append_raise {past : List Occurrence} (hrunning : activityAfter past = .running)
    (later : List Occurrence) : answer (past ++ .raise :: later) = answer (past ++ later) := by
  have hactivity := (installed_behind past).2.trans hrunning
  unfold answer Monitor.behind
  rw [List.foldl_append, List.foldl_append, List.foldl_cons]
  exact poll_foldl_meet_raise hactivity later

/-- Whenever the shell asks it learns of the interrupts that arrived while it was idle and
    that it has not been told of, exactly if no program ends while such an interrupt is
    there. In any case it learns of those that no program has ended behind, and it never
    learns of one that arrived while a program was running. -/
theorem belongs_iff_not_forgotten (history : List Occurrence) :
    ((∀ past, past <+: history →
        (answer past = true ↔ activityAfter past = .idle ∧ Remains Taken past)) ↔
      ∀ past, past ++ [.leave] <+: history → ¬ Remains Taken past) ∧
    (∀ past, answer past = true ↔ activityAfter past = .idle ∧ Remains Forgotten past) ∧
    ∀ past later, activityAfter past = .running →
      answer (past ++ .raise :: later) = answer (past ++ later) := by
  refine ⟨⟨?_, ?_⟩, answer_iff, fun past later hrunning => answer_append_raise hrunning later⟩
  · -- Behind the end of a program the shell learns of nothing.
    intro hlearns past hended hremains
    have hstill : Remains Taken (past ++ [.leave]) :=
      (remains_append_singleton past .leave).2 (Or.inr ⟨hremains, fun htaken => nomatch htaken.1⟩)
    have hidle : activityAfter (past ++ [.leave]) = .idle :=
      activityAfter_append_singleton past .leave
    have htold := (hlearns (past ++ [.leave]) hended).2 ⟨hidle, hstill⟩
    have hforgotten := ((answer_iff (past ++ [.leave])).1 htold).2
    rcases (remains_append_singleton past .leave).1 hforgotten with ⟨hraise, _⟩ | ⟨_, hends⟩
    · cases hraise
    · exact hends (Or.inr rfl)
  · intro hkept past hpast
    rw [answer_iff]
    have hkept' : ∀ front, front ++ [.leave] <+: past → ¬ Remains Taken front :=
      fun front hfront => hkept front (hfront.trans hpast)
    exact and_congr_right fun hidle => (remains_taken_iff hkept' hidle).symm

/-- An interrupt is taken before a program starts, one that arrives while it runs is
    forgotten with it, and a third is there at the end. -/
theorem belongs_iff_not_forgotten_taken :
    let started : List Occurrence := [.raise, .poll, .enter]
    let history := started ++ [.raise, .leave, .raise]
    (∀ past, past ++ [.leave] <+: history → ¬ Remains Taken past) ∧
      activityAfter started = .running ∧ Remains Taken history ∧
      answer (started ++ [.raise, .leave]) = answer (started ++ [.leave]) := by
  intro started history
  have hkept : ∀ past, past ++ [.leave] <+: history → ¬ Remains Taken past := by
    intro past hended hremains
    have hlength := hended.length_le
    have htake := List.prefix_iff_eq_take.1 hended
    rw [List.length_append, List.length_singleton] at hlength htake
    -- Only one program ends.
    have hlast : (history.take (past.length + 1)).getLast? = some .leave := by
      rw [← htake]
      exact List.getLast?_concat
    have hplace : ∀ n < 6, (history.take (n + 1)).getLast? = some .leave → n = 4 := by decide
    rw [hplace past.length (Nat.lt_of_succ_le hlength) hlast] at htake
    obtain rfl : past = started ++ [.raise] := List.append_cancel_right htake
    -- The first interrupt has been taken, and the second is not one of the shell.
    rcases (remains_append_singleton started .raise).1 hremains with ⟨_, hidle⟩ | ⟨hbefore, _⟩
    · cases hidle
    · rcases (remains_append_singleton [.raise, .poll] .enter).1 hbefore with
        ⟨hraise, _⟩ | ⟨hfirst, _⟩
      · cases hraise
      · rcases (remains_append_singleton [.raise] .poll).1 hfirst with ⟨hraise, _⟩ | ⟨_, hasked⟩
        · cases hraise
        · exact hasked ⟨rfl, rfl⟩
  have hlaw := belongs_iff_not_forgotten history
  have hlearned : answer history = true := by decide
  exact ⟨hkept, rfl, ((hlaw.1.2 hkept history (List.prefix_refl _)).1 hlearned).2,
    hlaw.2.2 started [.leave] rfl⟩

/-- An interrupt of the shell is forgotten when a program starts and ends before the shell
    asks. -/
theorem not_answer_of_enter :
    ¬ ∀ past, answer past = true ↔ activityAfter past = .idle ∧ Remains Taken past := by
  intro h
  have hremains : Remains Taken [.raise, .enter, .leave] := by
    refine ⟨[], [.enter, .leave], rfl, rfl, fun front x back hlater htaken => ?_⟩
    -- Nobody asks.
    have hmem : x ∈ [Occurrence.enter, .leave] := by
      rw [hlater]
      exact List.mem_append_right front List.mem_cons_self
    rw [htaken.1] at hmem
    exact absurd hmem (by decide)
  exact absurd ((h [.raise, .enter, .leave]).2 ⟨rfl, hremains⟩) (by decide)

end Interrupt

end CommandShell
