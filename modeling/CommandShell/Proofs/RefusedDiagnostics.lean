import CommandShell.Proofs.Decoding
import CommandShell.Proofs.Effects
import CommandShell.Proofs.Likeness

/-!
# A Standard Error That Refuses

A diagnostic is written on the side and should not change what the shell does,
whether it arrives or not. Of all that writes diagnostics only two builtins ask
whether theirs arrived. `alias` and `unalias` take several requests, and when
one of them fails and the standard error refuses to take the reason, they give
up the call. The requests behind it are dropped, though they have nothing to
do with the one that failed.

A session on a standard error of limited room is compared here with one on a
standard error that takes everything, line by line and segment by segment. The
two do the same exactly as long as no dropped request would have had an effect.
The status tells nothing: it is 1 on both sides, on the one because a request
failed and on the other because a write did.

## Main definitions

* `Likeness.besideFree`: Sessions that agree apart from the standard error,
  which takes everything on the left.
* `Builtin.leftOver`: The requests behind one whose diagnostic is refused.
* `Session.Loses`: A segment drops requests that would have had an effect.
* `Session.AgreeThroughout`: Two sessions do the same at every stage.

## Theorems

* `inTurn_hindered`: Requests are met alike up to the first refused diagnostic.
* `step_hindered`: A segment keeps sessions aligned exactly if it loses
  nothing.
* `agreeThroughout_iff_losesNothing`: Sessions do the same at every stage
  exactly if nothing is lost.
-/

namespace CommandShell

open Line Text

/-! ### The two journals -/

namespace Journal

variable {j k : Journal} {both : Prop}

/-- The bytes of a text that the standard output would take. -/
def arriving (j : Journal) (text : String) : Bytes :=
  (encode text).take (takenOf j.outputRoom text.utf8ByteSize)

theorem received_write_output (j : Journal) (text : String) :
    (j.write .standardOutput text).1.received .standardOutput
      = j.received .standardOutput ++ j.arriving text := by
  simp [write, received, add, Event.received, room, arriving]

theorem outputRoom_write_output (j : Journal) (text : String) :
    (j.write .standardOutput text).1.outputRoom
      = roomAfter j.outputRoom (j.arriving text).length := by
  have hlength : (j.arriving text).length = takenOf j.outputRoom text.utf8ByteSize := by
    rw [arriving, List.length_take, length_encode]
    cases j.outputRoom <;> simp [takenOf]
  change roomAfter j.outputRoom text.utf8ByteSize = _
  rw [hlength]
  -- Without a limit there is none afterwards, and else what arrived is taken off.
  cases j.outputRoom with
  | none => rfl
  | some n =>
      simp only [roomAfter, takenOf, Option.map_some, Option.some.injEq]
      omega

/-- A text on one stream brings nothing onto the other. -/
theorem received_write_of_ne {stream other : Stream} (h : stream ≠ other) (text : String) :
    (j.write stream text).1.received other = j.received other := by
  cases stream <;> simp [write, received, add, Event.received, h]

/-- A text that goes to a stream without a limit arrives as a whole. -/
theorem received_write_of_room_none (stream : Stream) (h : j.room stream = none) (text : String) :
    (j.write stream text).1.received stream = j.received stream ++ encode text := by
  cases stream <;> simp [write, received, add, Event.received, h, takenOf, take_encode]

/-- Two journals that agree apart from the standard error. It takes everything on the
    left, and on the right as well if this is so for both. -/
structure AgreeBeside (both : Prop) (j k : Journal) : Prop where
  left_free : j.errorRoom = none
  right_free : both → k.errorRoom = none
  outputRoom_eq : k.outputRoom = j.outputRoom
  output_eq : k.received .standardOutput = j.received .standardOutput
  requests_eq : k.requests = j.requests

theorem AgreeBeside.writeLeft (h : AgreeBeside both j k) (text : String) :
    AgreeBeside both (j.write .standardError text).1 k := by
  refine ⟨?_, h.right_free, h.outputRoom_eq, ?_, ?_⟩
  · simp [write, roomAfter, h.left_free]
  · rw [received_write_of_ne (by decide), h.output_eq]
  · rw [requests_write, h.requests_eq]

theorem AgreeBeside.writeRight (h : AgreeBeside both j k) (text : String) :
    AgreeBeside both j (k.write .standardError text).1 := by
  refine ⟨h.left_free, ?_, h.outputRoom_eq, ?_, ?_⟩
  · intro hboth
    simp [write, roomAfter, h.right_free hboth]
  · rw [received_write_of_ne (by decide), h.output_eq]
  · rw [requests_write, h.requests_eq]

theorem AgreeBeside.print (h : AgreeBeside both j k) (text : String) :
    AgreeBeside both (j.write .standardOutput text).1 (k.write .standardOutput text).1 ∧
      (j.write .standardOutput text).2 = (k.write .standardOutput text).2 := by
  have hroom : k.room .standardOutput = j.room .standardOutput := h.outputRoom_eq
  have harriving : k.arriving text = j.arriving text := by
    rw [arriving, arriving, h.outputRoom_eq]
  refine ⟨⟨h.left_free, h.right_free, ?_, ?_, ?_⟩, ?_⟩
  -- Room and output are a matter of what arrives, and that is the same on both sides.
  · rw [outputRoom_write_output, outputRoom_write_output, h.outputRoom_eq, harriving]
  · rw [received_write_output, received_write_output, h.output_eq, harriving]
  · rw [requests_write, requests_write, h.requests_eq]
  · simp [write, hroom]

/-- The journal on a standard error that takes everything. -/
def unhindered (j : Journal) : Journal :=
  { j with errorRoom := none }

end Journal

/-- Sessions that agree apart from the standard error, which takes everything on the
    left. -/
def Likeness.besideFree (both : Prop) : Likeness where
  counters := fun _ _ => True
  journals := Journal.AgreeBeside both
  requests_eq := fun h => h.requests_eq
  output_eq := fun h => h.output_eq
  print := fun text h => h.print text
  report := fun _ _ _ _ _ h => (h.writeLeft _).writeRight _
  newline := fun h => (h.writeLeft _).writeRight _
  ran := by
    intro j k request answer h
    refine ⟨h.left_free, h.right_free, h.outputRoom_eq, ?_, ?_⟩
    · simpa [Journal.received, Journal.add, Journal.Event.received] using h.output_eq
    · rw [Journal.requests_add_ran, Journal.requests_add_ran, h.requests_eq]

/-- Where both sides take everything, a diagnostic arrives on both. -/
theorem Likeness.faithful_besideFree : (Likeness.besideFree True).Faithful := by
  intro j k _ _ _ _ _ h
  have hj : j.room .standardError = none := h.left_free
  have hk : k.room .standardError = none := h.right_free trivial
  rw [Journal.write_of_room_none hj, Journal.write_of_room_none hk]

namespace Session

/-- The session on a standard error that takes everything. -/
def unhindered (s : Session) : Session :=
  { s with journal := s.journal.unhindered }

/-- The limited side, once nothing hinders it, is like the free side. -/
theorem Alike.unhindered {s t : Session} (h : Alike (.besideFree False) t s) :
    Alike (.besideFree True) t s.unhindered := by
  rcases h with ⟨counter, line, journal, rfl, _, hj⟩
  exact ⟨counter, line, journal.unhindered, rfl, trivial,
    hj.left_free, fun _ => rfl, hj.outputRoom_eq, hj.output_eq, hj.requests_eq⟩

theorem alike_unhindered (s : Session) : Alike (.besideFree False) s.unhindered s :=
  ⟨s.state.counter, s.state.line, s.journal, rfl, trivial, rfl, False.elim, rfl, rfl, rfl⟩

theorem output_complain (s : Session) (reason : String) :
    (s.complain reason).journal.received .standardOutput
      = s.journal.received .standardOutput := by
  have hother : Stream.standardError ≠ .standardOutput := by decide
  exact Journal.received_write_of_ne hother _

/-- What only the free side complains about changes nothing. -/
theorem Alike.complainLeft {s t : Session} (h : Alike (.besideFree False) t s) (reason : String) :
    Alike (.besideFree False) (t.complain reason) s := by
  rcases h with ⟨counter, line, journal, rfl, hc, hj⟩
  exact ⟨counter, line, journal, rfl, hc, hj.writeLeft _⟩

/-- What only the limited side complains about changes nothing either. -/
theorem Alike.complainRight {s t : Session} (h : Alike (.besideFree False) t s) (reason : String) :
    Alike (.besideFree False) t (s.complain reason) := by
  rcases h with ⟨counter, line, journal, rfl, hc, hj⟩
  exact ⟨counter, line, _, rfl, hc, hj.writeRight _⟩

end Session

/-! ### Requests -/

namespace Builtin

open Session Relation

variable {b : Builtin} {s t : Session} {α : Type}
  {act : Session → α → Session × Except SystemError Bool}

theorem Effects.errorRoom_eq (h : Effects b s t) (hfree : s.journal.errorRoom = none) :
    t.journal.errorRoom = none := by
  induction h with
  | refl => exact hfree
  | @tail u _ _ heffect ih =>
      cases heffect with
      -- Only what is written on the standard error could take room there.
      | print text => simp [Session.print, Session.write, Journal.write, Journal.add, ih]
      | report reason =>
          simp [Session.report, Session.write, Journal.write, Journal.add, roomAfter, ih]
      | _ => exact ih

theorem roomAfter_append (room : Option Nat) (bytes more : Bytes) :
    roomAfter room (bytes ++ more).length
      = roomAfter (roomAfter room bytes.length) more.length := by
  cases room with
  | none => rfl
  | some n =>
      simp only [roomAfter, Option.map_some, Option.some.injEq, List.length_append]
      omega

/-- The room on the standard output shrinks by what arrives there. -/
theorem Effects.outputRoom_eq_roomAfter (h : Effects b s t) :
    ∃ arrived, t.journal.received .standardOutput = s.journal.received .standardOutput ++ arrived ∧
      t.journal.outputRoom = roomAfter s.journal.outputRoom arrived.length := by
  induction h with
  | refl => exact ⟨[], by simp, by cases s.journal.outputRoom <;> simp [roomAfter]⟩
  | @tail u _ _ heffect ih =>
      rcases ih with ⟨arrived, hreceived, hroom⟩
      cases heffect with
      | print text =>
          refine ⟨arrived ++ u.journal.arriving text, ?_, ?_⟩
          · rw [← List.append_assoc, ← hreceived]
            exact u.journal.received_write_output text
          · rw [roomAfter_append, ← hroom]
            exact u.journal.outputRoom_write_output text
      | report reason => exact ⟨arrived, (output_complain u reason).trans hreceived, hroom⟩
      -- Nothing else reaches a stream.
      | _ => exact ⟨arrived, hreceived, hroom⟩

theorem Effects.outputRoom_eq (h : Effects b s t)
    (hsame : t.journal.received .standardOutput = s.journal.received .standardOutput) :
    t.journal.outputRoom = s.journal.outputRoom := by
  rcases h.outputRoom_eq_roomAfter with ⟨arrived, hreceived, hroom⟩
  -- What is on the standard output has not changed, so nothing arrived there.
  have hnil : arrived = [] := by
    rw [hsame] at hreceived
    simpa using hreceived.symm
  rw [hroom, hnil]
  cases s.journal.outputRoom <;> simp [roomAfter]

/-- The requests behind the first one whose diagnostic is refused, with the session at
    that point. A request that would fail even on a free standard error does not count,
    since the standard output refuses it on both sides. -/
def leftOver (act : Session → α → Session × Except SystemError Bool) (s : Session) :
    List α → Option (Session × List α)
  | [] => none
  | request :: more =>
      match act s request, (act s.unhindered request).2 with
      | (s, .ok _), _ => leftOver act s more
      | (s, .error _), .ok _ => some (s, more)
      | (_, .error _), .error _ => none

/-- Requests would define or remove an alias, or show one. -/
def Matter (act : Session → α → Session × Except SystemError Bool) (s : Session)
    (requests : List α) : Prop :=
  let after := (inTurn act s.unhindered 1 requests).1
  after.state.aliases ≠ s.state.aliases ∨
    after.journal.received .standardOutput ≠ s.journal.received .standardOutput

/-- Requests are dropped that would have had an effect. -/
def LosesRequests (act : Session → α → Session × Except SystemError Bool) (s : Session)
    (requests : List α) : Prop :=
  ∃ after dropped, leftOver act s requests = some (after, dropped) ∧ Matter act after dropped

/-- Requests that begin with status 1 leave it, unless a stream refuses. -/
theorem inTurn_one (s : Session) (requests : List α) :
    (inTurn act s 1 requests).2 = .ok 1 ∨ ∃ e, (inTurn act s 1 requests).2 = .error (.write e) := by
  induction requests generalizing s with
  | nil => exact Or.inl rfl
  | cons request more ih =>
      unfold inTurn
      split
      -- Whatever becomes of a request, the status is 1 by now and stays so.
      · exact ih _
      · exact ih _
      · exact Or.inr ⟨_, rfl⟩

/-- Requests are met alike on both sides, up to the first whose diagnostic is refused.
    There the limited side ends with the error, and the free side goes on with the
    requests behind it. -/
theorem inTurn_hindered (hact : MeetsAlike act) (requests : List α) (status : Int)
    (h : Alike (.besideFree False) t s) :
    (leftOver act s requests = none ∧
      EndAlike (.besideFree False) (inTurn act t status requests) (inTurn act s status requests)) ∨
    ∃ t' s' dropped e, leftOver act s requests = some (s', dropped) ∧
      inTurn act s status requests = (s', .error (.write e)) ∧
      inTurn act t status requests = inTurn act t' 1 dropped ∧
      Alike (.besideFree False) t' s' := by
  induction requests generalizing s t status with
  | nil => exact Or.inl ⟨rfl, t, s, .ok status, rfl, rfl, h⟩
  | cons request more ih =>
      -- What the limited side would do if nothing hindered it is what the free side does.
      have hfree : (act s.unhindered request).2 = (act t request).2 := by
        rcases hact.endAlike Likeness.faithful_besideFree request h.unhindered with
          ⟨t', u', r, ht, hu, _⟩
        rw [ht, hu]
      rcases hact _ t s request h with hsame | ⟨reason, ht, hs⟩
      · rcases hsame with ⟨t', s', r, ht, hs, h'⟩
        simp only [leftOver, inTurn, hfree, ht, hs]
        cases r with
        | ok met =>
            cases met with
            | true => exact ih status h'
            | false => exact ih 1 h'
        | error e => exact Or.inl ⟨rfl, t', s', _, rfl, rfl, h'⟩
      · -- The request fails on both sides, and the free side can report it. The limited side
        -- goes on if it can report it as well.
        have h' := alike_report h reason
        have htold : act t request = ((t.report reason).1, .ok false) := by
          have hroom : t.journal.room .standardError = none := h.journals.left_free
          have hok : (t.report reason).2 = .ok () := Journal.write_of_room_none hroom _
          rw [ht, Session.fail, hok]
          rfl
        cases hr : (s.report reason).2 with
        | ok _ =>
            have hstold : act s request = ((s.report reason).1, .ok false) := by
              rw [hs, Session.fail, hr]
              rfl
            simp only [leftOver, inTurn, hfree, htold, hstold]
            exact ih 1 h'
        | error e =>
            have hrefused : act s request = ((s.report reason).1, .error e) := by
              rw [hs, Session.fail, hr]
              rfl
            simp only [leftOver, inTurn, hfree, htold, hrefused]
            exact Or.inr ⟨_, _, more, e, rfl, rfl, rfl, h'⟩

/-- The end of a builtin: an error is reported and becomes a status. -/
def finish : Session × Except Error Int → Session × Int
  | (s, .ok status) => (s, status)
  | (s, .error e) => (s.complain e.message, e.status)

theorem run_eq_finish (m : Machine) (b : Builtin) (args : List String) (s : Session) :
    b.run m args s = finish (b.execute m args s) := by
  unfold run finish
  split <;> simp_all

/-- Requests that begin with status 1 end with it, whether a stream refuses or not. -/
theorem finish_inTurn_one (s : Session) (requests : List α) :
    (finish (inTurn act s 1 requests)).2 = 1 ∧
      ((finish (inTurn act s 1 requests)).1 = (inTurn act s 1 requests).1 ∨
        ∃ reason, (finish (inTurn act s 1 requests)).1
          = (inTurn act s 1 requests).1.complain reason) := by
  have hresult := @inTurn_one α act s requests
  generalize inTurn act s 1 requests = ended at hresult
  rcases ended with ⟨after, r⟩
  rcases hresult with rfl | ⟨e, rfl⟩
  · exact ⟨rfl, Or.inl rfl⟩
  · exact ⟨rfl, Or.inr ⟨_, rfl⟩⟩

/-- Whether dropped requests matter can be seen on the free side, which carries them
    out. -/
theorem losesRequests_iff {requests dropped : List α} (hact : MeetsAlike act) {u : Session}
    (hleft : leftOver act u requests = some (s, dropped)) (h : Alike (.besideFree False) t s) :
    LosesRequests act u requests ↔
      (inTurn act t 1 dropped).1.state.aliases ≠ s.state.aliases ∨
        (inTurn act t 1 dropped).1.journal.received .standardOutput
          ≠ s.journal.received .standardOutput := by
  -- The requests that were left over are run on both sides, where nothing hinders them.
  rcases alike_inTurn Likeness.faithful_besideFree hact dropped 1 h.unhindered with
    ⟨t', u', r, ht, hu, hfree⟩
  have hmatter : Matter act s dropped ↔ t'.state.aliases ≠ s.state.aliases ∨
      t'.journal.received .standardOutput ≠ s.journal.received .standardOutput := by
    unfold Matter
    rw [hu]
    dsimp only
    rw [hfree.aliases_eq, hfree.journals.output_eq]
  rw [ht, ← hmatter]
  constructor
  -- The place where the call was broken off is the only one.
  · rintro ⟨after, requests', hleft', hdoes⟩
    rw [hleft] at hleft'
    simp only [Option.some.injEq, Prod.mk.injEq] at hleft'
    rw [hleft'.1, hleft'.2]
    exact hdoes
  · exact fun hdoes => ⟨s, dropped, hleft, hdoes⟩

/-- Two ends of a command on the two sides. The status is the same, and the sessions are
    alike unless something was lost, in which case it shows. -/
structure EndsHindered (lost : Prop) (x y : Session × Int) : Prop where
  status_eq : y.2 = x.2
  alike : ¬ lost → Alike (.besideFree False) x.1 y.1
  differ : lost → x.1.state.aliases ≠ y.1.state.aliases ∨
    x.1.journal.received .standardOutput ≠ y.1.journal.received .standardOutput

/-- The free side goes on with requests that do not matter, and stays like the limited
    side that drops them. -/
theorem alike_of_not_matter (hb : b = .defineAliases ∨ b = .removeAliases)
    (heffects : ∀ u request, Effects b u (act u request).1) {requests : List α}
    (h : Alike (.besideFree False) t s)
    (haliases : (inTurn act t 1 requests).1.state.aliases = s.state.aliases)
    (houtput : (inTurn act t 1 requests).1.journal.received .standardOutput
      = s.journal.received .standardOutput) :
    Alike (.besideFree False) (inTurn act t 1 requests).1 s := by
  have hdone : Effects b t (inTurn act t 1 requests).1 :=
    effects_inTurn heffects requests 1 ReflTransGen.refl
  generalize (inTurn act t 1 requests).1 = after at haliases houtput hdone
  have hj := h.journals
  -- The free side is where it was, but for what it wrote to its standard error.
  have hafter : after = { t with journal := after.journal } := by
    conv => lhs; rw [hdone.eq_of_aliases hb]
    rw [haliases, h.aliases_eq]
  have hroom := hdone.outputRoom_eq (houtput.trans hj.output_eq)
  have hagree : Journal.AgreeBeside False after.journal s.journal :=
    ⟨hdone.errorRoom_eq hj.left_free, False.elim, hj.outputRoom_eq.trans hroom.symm,
      houtput.symm, hj.requests_eq.trans hdone.requests_eq.symm⟩
  rw [hafter]
  rcases h with ⟨counter, line, journal, rfl, _, _⟩
  exact ⟨counter, line, journal, rfl, trivial, hagree⟩

/-- A call that takes requests ends alike on both sides unless it loses some. -/
theorem endsHindered_inTurn (hb : b = .defineAliases ∨ b = .removeAliases)
    (heffects : ∀ u request, Effects b u (act u request).1) (hact : MeetsAlike act)
    (requests : List α) (h : Alike (.besideFree False) t s) :
    EndsHindered (LosesRequests act s requests) (finish (inTurn act t 0 requests))
      (finish (inTurn act s 0 requests)) := by
  rcases inTurn_hindered hact requests 0 h with
    ⟨hnone, t', s', r, ht, hs, h'⟩ | ⟨t', s', dropped, e, hleft, hs, ht, h'⟩
  · -- Nothing is dropped.
    have hkept : ¬ LosesRequests act s requests := by
      rintro ⟨after, dropped, hleft, _⟩
      rw [hnone] at hleft
      simp at hleft
    rw [ht, hs]
    cases r with
    | ok status => exact ⟨rfl, fun _ => h', fun hlost => absurd hlost hkept⟩
    | error e => exact ⟨rfl, fun _ => alike_complain h' e.message, fun hlost => absurd hlost hkept⟩
  · -- The limited side stops, and the free side has the dropped requests to do.
    have hmatter := losesRequests_iff hact hleft h'
    rcases @finish_inTurn_one α act t' dropped with ⟨hstatus, hsession⟩
    rw [hs, ht]
    -- Either side may still complain about a write, which changes nothing that is compared.
    refine ⟨hstatus.symm, ?_, ?_⟩
    · intro hkept
      rw [hmatter, not_or, not_ne_iff, not_ne_iff] at hkept
      have halike := alike_of_not_matter hb heffects h' hkept.1 hkept.2
      rcases hsession with hsame | ⟨reason, hsame⟩
      · rw [hsame]
        exact halike.complainRight _
      · rw [hsame]
        exact (halike.complainLeft reason).complainRight _
    · intro hlost
      rw [hmatter] at hlost
      rcases hsession with hsame | ⟨reason, hsame⟩
      · rw [hsame]
        simpa [finish, output_complain] using hlost
      · rw [hsame]
        simpa [finish, output_complain] using hlost

/-- A call of a builtin drops requests that would have had an effect. -/
def Loses : Builtin → List String → Session → Prop
  | .defineAliases, args, s => LosesRequests carryOut s (Alias.parse args)
  | .removeAliases, args, s => LosesRequests removeOne s args
  | _, _, _ => False

theorem not_loses_of_not_takesRequests {args : List String}
    (hb : b.takesRequests args = false) : ¬ b.Loses args s := by
  cases b with
  -- Without arguments the call makes no requests, so none can be left over.
  | defineAliases =>
      have hargs : args = [] := by simpa [takesRequests] using hb
      rintro ⟨after, dropped, hleft, _⟩
      rw [hargs] at hleft
      simp [Alias.parse, leftOver] at hleft
  | removeAliases =>
      have hargs : args = [] := by simpa [takesRequests] using hb
      rintro ⟨after, dropped, hleft, _⟩
      rw [hargs] at hleft
      simp [leftOver] at hleft
  | _ => exact id

/-- A builtin ends alike on both sides unless it loses requests. -/
theorem endsHindered_run (m : Machine) (b : Builtin) (args : List String)
    (h : Alike (.besideFree False) t s) :
    EndsHindered (b.Loses args s) (b.run m args t) (b.run m args s) := by
  by_cases hb : b.takesRequests args = false
  -- A call without requests cannot lose any, and both sides do the same.
  · have hkept := not_loses_of_not_takesRequests (s := s) hb
    rcases alike_run_of_execute (alike_execute_of_not_takesRequests m b args hb h) with
      ⟨t', s', status, ht, hs, h'⟩
    rw [ht, hs]
    exact ⟨rfl, fun _ => h', fun hlost => absurd hlost hkept⟩
  -- With requests the two builtins for aliases may be broken off.
  · rw [run_eq_finish, run_eq_finish]
    cases b with
    | defineAliases =>
        have hargs : args.isEmpty = false := by simpa [takesRequests] using hb
        simp only [execute, runDefineAliases, hargs]
        exact endsHindered_inTurn (Or.inl rfl) effects_carryOut meetsAlike_carryOut _ h
    | removeAliases =>
        have hargs : args.isEmpty = false := by simpa [takesRequests] using hb
        simp only [execute, runRemoveAliases, hargs]
        exact endsHindered_inTurn (Or.inr rfl) effects_removeOne meetsAlike_removeOne _ h
    | _ => exact absurd rfl hb

end Builtin

/-! ### Segments and lines -/

namespace Session

variable {s t : Session}

/-- A segment is run, and its command drops requests that would have had an effect. -/
def Loses (s : Session) (x : Segment) : Prop :=
  s.Runs x ∧ ∃ leading args b, s.state.expandWords (words x.text) = leading :: args ∧
      Builtin.ofName? leading = some b ∧ b.Loses args (s.ready leading args)

/-- A command ends alike on both sides unless it loses requests. -/
theorem endsHindered_runCommand (m : Machine) (h : Aligned (.besideFree False) t s)
    (leading : String) (args : List String) :
    Builtin.EndsHindered
      (∃ b, Builtin.ofName? leading = some b ∧ b.Loses args (s.ready leading args))
      (t.runCommand m leading args) (s.runCommand m leading args) := by
  unfold runCommand
  cases hname : Builtin.ofName? leading with
  -- Only a builtin can lose requests, and it is the one that the first word names.
  | some b =>
      have hrun := Builtin.endsHindered_run m b args (h.ready leading args)
      have hlost : (∃ b', some b = some b' ∧ b'.Loses args (s.ready leading args)) ↔
          b.Loses args (s.ready leading args) := by simp
      exact ⟨hrun.status_eq, fun hkept => hrun.alike fun hl => hkept (hlost.2 hl),
        fun hl => hrun.differ (hlost.1 hl)⟩
  | none =>
      rcases alike_runProgram m (h.ready leading args) with ⟨t', s', status, ht, hs, h'⟩
      rw [ht, hs]
      exact ⟨rfl, fun _ => h', fun ⟨_, hb, _⟩ => by simp at hb⟩

/-- A segment that loses nothing keeps the sides aligned. -/
theorem aligned_step_of_not_loses (m : Machine) (h : Aligned (.besideFree False) t s) {x : Segment}
    (hkept : ¬ s.Loses x) : Aligned (.besideFree False) (t.step m x) (s.step m x) := by
  have hruns : s.Runs x ↔ t.Runs x := h.runs_iff rfl (by rw [h.status_eq])
  by_cases hrun : s.Runs x
  -- The command does not lose anything here either, as the words are the same.
  · rw [step_of_runs m hrun, step_of_runs m (hruns.1 hrun)]
    refine aligned_runSegment_of h rfl fun leading args hwords => ?_
    have hexpand : s.state.expandWords (words x.text) = leading :: args :=
      (Alike.expandWords_eq h (words x.text)).trans hwords
    have hends := endsHindered_runCommand m h leading args
    have hstill : ¬ ∃ b, Builtin.ofName? leading = some b ∧
        b.Loses args (s.ready leading args) := fun ⟨b, hname, hlost⟩ =>
      hkept ⟨hrun, leading, args, b, hexpand, hname, hlost⟩
    exact ⟨_, _, (t.runCommand m leading args).2, rfl, Prod.ext rfl hends.status_eq,
      hends.alike hstill⟩
  · rw [step_of_not_runs m hrun, step_of_not_runs m fun ht => hrun (hruns.2 ht)]
    exact h

/-- A segment that loses requests makes the sides differ. -/
theorem not_sameConduct_step_of_loses (m : Machine) (h : Aligned (.besideFree False) t s)
    {x : Segment} (hlost : s.Loses x) : ¬ SameConduct (t.step m x) (s.step m x) := by
  rcases hlost with ⟨hrun, leading, args, b, hwords, hname, hlost⟩
  have hruns : s.Runs x ↔ t.Runs x := h.runs_iff rfl (by rw [h.status_eq])
  have hwords' : t.state.expandWords (words x.text) = leading :: args :=
    (Alike.expandWords_eq h (words x.text)).symm.trans hwords
  have hends := (endsHindered_runCommand m h leading args).differ ⟨b, hname, hlost⟩
  rw [step_of_runs m hrun, step_of_runs m (hruns.1 hrun), runSegment_of_cons m s hwords,
    runSegment_of_cons m t hwords']
  intro hsame
  -- The aliases differ, or what has been shown of them does.
  rcases hends with haliases | houtput
  · exact haliases hsame.aliases_eq.symm
  · exact houtput hsame.output_eq.symm

/-- What a shell does with its lines, one thing at a time. -/
inductive Move where
  | begin (line : String)
  | segment (x : Segment)

/-- The things to do for some lines. -/
def movesOf (lines : List String) : List Move :=
  lines.flatMap fun line => .begin line :: (segments line).map .segment

def move (m : Machine) (s : Session) : Move → Session
  | .begin line => { s with state := s.state.beginLine line }
  | .segment x => s.step m x

theorem foldl_move_movesOf (m : Machine) (lines : List String) (s : Session) :
    (movesOf lines).foldl (move m) s = lines.foldl (evalLine m) s := by
  induction lines generalizing s with
  | nil => rfl
  | cons line more ih =>
      rw [movesOf, List.flatMap_cons, List.foldl_append, ← movesOf, ih, List.foldl_cons,
        List.foldl_cons, List.foldl_map]
      rfl

/-- Two sessions do the same at every stage of some moves. -/
def AgreeThroughout (m : Machine) (t s : Session) : List Move → Prop
  | [] => SameConduct t s
  | x :: more => SameConduct t s ∧ AgreeThroughout m (t.move m x) (s.move m x) more

/-- No segment on the way drops requests that would have had an effect. -/
def LosesNothing (m : Machine) (s : Session) : List Move → Prop
  | [] => True
  | .begin line :: more => LosesNothing m (s.move m (.begin line)) more
  | .segment x :: more => ¬ s.Loses x ∧ LosesNothing m (s.move m (.segment x)) more

theorem AgreeThroughout.sameConduct {m : Machine} {moves : List Move}
    (h : AgreeThroughout m t s moves) :
    SameConduct (moves.foldl (move m) t) (moves.foldl (move m) s) := by
  induction moves generalizing s t with
  | nil => exact h
  | cons x more ih => exact ih h.2

theorem AgreeThroughout.head {m : Machine} {moves : List Move}
    (h : AgreeThroughout m t s moves) : SameConduct t s := by
  cases moves with
  | nil => exact h
  | cons x more => exact h.1

/-- Two sides agree at every stage exactly if nothing is lost on the way. -/
theorem agreeThroughout_iff (m : Machine) (moves : List Move)
    (h : Aligned (.besideFree False) t s) :
    AgreeThroughout m t s moves ↔ LosesNothing m s moves := by
  induction moves generalizing s t with
  | nil => exact ⟨fun _ => trivial, fun _ => h.sameConduct⟩
  | cons x more ih =>
      cases x with
      -- A line that begins does nothing that could be hindered.
      | begin line =>
          have hbegun : Aligned (.besideFree False) (t.move m (.begin line))
              (s.move m (.begin line)) := h.beginLine (fun _ => trivial) line
          exact ⟨fun hagree => (ih hbegun).1 hagree.2,
            fun hnothing => ⟨h.sameConduct, (ih hbegun).2 hnothing⟩⟩
      | segment x =>
          by_cases hlost : s.Loses x
          · -- The sides differ right behind the segment.
            have hdiffer := not_sameConduct_step_of_loses m h hlost
            exact ⟨fun hagree => absurd hagree.2.head hdiffer,
              fun hnothing => absurd hlost hnothing.1⟩
          -- The sides are still in step behind the segment.
          · have hstep := aligned_step_of_not_loses m h hlost
            exact ⟨fun hagree => ⟨hlost, (ih hstep).1 hagree.2⟩,
              fun hnothing => ⟨h.sameConduct, (ih hstep).2 hnothing.2⟩⟩

/-- A session does the same on its standard error as on one that takes everything, at
    every stage of some lines, exactly if no call of `alias` or `unalias` drops requests
    that would have had an effect; and then it has done the same in the end. -/
theorem agreeThroughout_iff_losesNothing (m : Machine) (s : Session) (lines : List String) :
    (AgreeThroughout m s.unhindered s (movesOf lines) ↔ LosesNothing m s (movesOf lines)) ∧
      (LosesNothing m s (movesOf lines) →
        SameConduct (lines.foldl (evalLine m) s.unhindered) (lines.foldl (evalLine m) s)) := by
  have hiff := agreeThroughout_iff m (movesOf lines) (alike_unhindered s).aligned
  refine ⟨hiff, fun hnothing => ?_⟩
  have hend := (hiff.2 hnothing).sameConduct
  rwa [foldl_move_movesOf, foldl_move_movesOf] at hend

/-- An alias outlives its removal if the name before it is unknown and the standard error
    is full. -/
theorem not_sameConduct_of_refused :
    ¬ ∀ (m : Machine) (s : Session) (lines : List String),
      SameConduct (lines.foldl (evalLine m) s.unhindered) (lines.foldl (evalLine m) s) := by
  intro h
  have hsame := h (Machine.bare fun _ _ => .quiet (.ok (.exited 0)))
    { fresh Environment.empty with
      state := { (fresh Environment.empty).state with aliases := Aliases.ofList [("ll", "ls")] }
      journal := Journal.new none (some 0) }
    ["unalias nope ll"]
  exact absurd hsame.aliases_eq (by decide +kernel)

end Session

end CommandShell
