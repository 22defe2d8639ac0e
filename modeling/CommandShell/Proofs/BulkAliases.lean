import CommandShell.Proofs.Composition
import Mathlib.Data.List.Induction

/-!
# Several Aliases in One Call

One call of `alias` or `unalias` may hold many requests, and the same name may occur in
several of them. What becomes of a request depends on those before it: a name that is
removed twice is absent the second time, and an alias is shown as it was defined last. It
does not depend on those after it, and no request keeps another from being carried out.

Each request gets one reply. It is silence, a line, or a complaint, and the status is 1
exactly if there was a complaint. A reply is determined by the turn of its request, which
is the request together with the earlier ones, and by the aliases at the start. So the
session behind a call can be written down without running it (`inTurn_replied`).

## Main definitions

* `Builtin.Turn`: A request with those before it.
* `Builtin.Reply`: What a request is answered with.
* `Session.replied`: A session with other aliases and with replies on its streams.
* `Builtin.removal`, `Builtin.answer`: The replies of `unalias` and of `alias`.
* `Builtin.lastDefinition?`: The text that a name is given last.

## Theorems

* `mem_turns_iff`: The turns of a call are the places where its requests can be cut.
* `get?_without`, `get?_defining`: The aliases behind a call.
* `inTurn_replied`: A call gives the replies of its turns.
* `run_removeAliases`, `run_defineAliases`: What the two builtins do.
* `alias_requests_in_bulk`: The aliases, the replies and the status behind a call.
-/

namespace CommandShell

open Alias

namespace Builtin

/-! ### Turns and replies -/

/-- A request with those before it. -/
structure Turn (α : Type) where
  earlier : List α
  request : α

variable {α : Type}

/-- The turns of requests that come after some others. -/
def turnsAfter (earlier : List α) : List α → List (Turn α)
  | [] => []
  | request :: more => ⟨earlier, request⟩ :: turnsAfter (earlier ++ [request]) more

/-- The turns of the requests of a call. -/
def turns (requests : List α) : List (Turn α) :=
  turnsAfter [] requests

theorem mem_turnsAfter_iff {earlier requests : List α} {turn : Turn α} :
    turn ∈ turnsAfter earlier requests ↔
      ∃ between later, requests = between ++ turn.request :: later ∧
        turn.earlier = earlier ++ between := by
  induction requests generalizing earlier with
  | nil => simp [turnsAfter]
  | cons request more ih =>
      rw [turnsAfter, List.mem_cons, ih]
      constructor
      -- The turn is the first one, with nothing between, or a later one.
      · rintro (rfl | ⟨between, later, rfl, hearlier⟩)
        · exact ⟨[], more, rfl, (List.append_nil earlier).symm⟩
        · exact ⟨request :: between, later, rfl, by simp [hearlier]⟩
      · rintro ⟨between, later, hrequests, hearlier⟩
        cases between with
        | nil =>
            injection hrequests with hrequest _
            left
            cases turn
            simp_all
        | cons first between =>
            injection hrequests with hfirst hmore
            exact .inr ⟨between, later, hmore, by simp [hearlier, hfirst]⟩

/-- The turns of a call are the places where its requests can be cut. -/
theorem mem_turns_iff {requests : List α} {turn : Turn α} :
    turn ∈ turns requests ↔ ∃ later, requests = turn.earlier ++ turn.request :: later := by
  rw [turns, mem_turnsAfter_iff]
  constructor
  · rintro ⟨between, later, hrequests, hearlier⟩
    rw [List.nil_append] at hearlier
    exact ⟨later, by rw [hearlier, hrequests]⟩
  · rintro ⟨later, hrequests⟩
    exact ⟨turn.earlier, later, hrequests, rfl⟩

/-- What a request is answered with. -/
inductive Reply where
  | silence
  /-- A line on the standard output. -/
  | line (text : String)
  /-- A diagnostic of the running command. -/
  | complaint (reason : String)
deriving DecidableEq

/-- Whether a reply says that the request has failed. -/
def Reply.isComplaint : Reply → Bool
  | .complaint _ => true
  | .silence | .line _ => false

/-- A reply as it arrives on its stream. -/
def Reply.event? (st : State) : Reply → Option Event
  | .silence => none
  | .line text => some (.arrived .standardOutput text)
  | .complaint reason => some (.arrived .standardError (st.diagnostic reason ++ "\n"))

end Builtin

open Builtin

/-- The session with other aliases and with some replies on its streams. -/
def Session.replied (s : Session) (aliases : Aliases) (replies : List Reply) : Session :=
  { s with
    state.aliases := aliases
    journal.events := s.journal.events ++ (replies.filterMap (Reply.event? s.state)).toArray }

variable {s : Session} {aliases : Aliases} {replies : List Reply}

namespace Session

theorem replied_nil (s : Session) : s.replied s.state.aliases [] = s := by
  simp [replied]

theorem replied_silence (s : Session) (aliases : Aliases) (replies : List Reply) :
    s.replied aliases (replies ++ [.silence]) = s.replied aliases replies := by
  simp [replied, Reply.event?, List.filterMap_append, List.filterMap_cons]

theorem print_replied (hs : s.journal.Unlimited) (text : String) :
    (s.replied aliases replies).print text =
      (s.replied aliases (replies ++ [.line text]), .ok ()) := by
  have hunlimited : (s.replied aliases replies).journal.Unlimited := hs
  rw [print, write, Journal.write_eq_of_unlimited hunlimited]
  simp [replied, Journal.add, Reply.event?]

/-- A diagnostic does not depend on the aliases. -/
theorem report_replied (hs : s.journal.Unlimited) (reason : String) :
    (s.replied aliases replies).report reason =
      (s.replied aliases (replies ++ [.complaint reason]), .ok ()) := by
  have hunlimited : (s.replied aliases replies).journal.Unlimited := hs
  rw [report, write, Journal.write_eq_of_unlimited hunlimited]
  simp [replied, Journal.add, Reply.event?, State.diagnostic]

end Session

namespace Builtin

/-- If every request leaves the aliases and the reply that belong to its turn, then a call
    leaves the aliases behind all of its requests and the replies of its turns. -/
theorem inTurn_replied {α : Type} {act : Session → α → Session × Except SystemError Bool}
    (after : List α → Aliases) {reply : Turn α → Reply}
    (hact : ∀ earlier request replies, act (s.replied (after earlier) replies) request =
      (s.replied (after (earlier ++ [request])) (replies ++ [reply ⟨earlier, request⟩]),
        .ok !(reply ⟨earlier, request⟩).isComplaint))
    (earlier requests : List α) (replies : List Reply) (status : Int) :
    inTurn act (s.replied (after earlier) replies) status requests =
      (s.replied (after (earlier ++ requests))
          (replies ++ (turnsAfter earlier requests).map reply),
        .ok (if ((turnsAfter earlier requests).map reply).any Reply.isComplaint then 1
          else status)) := by
  induction requests generalizing earlier replies status with
  | nil => simp [inTurn, turnsAfter]
  | cons request more ih =>
      rw [inTurn, hact, turnsAfter, List.map_cons, List.any_cons]
      have hmore := ih (earlier ++ [request]) (replies ++ [reply ⟨earlier, request⟩])
      cases (reply ⟨earlier, request⟩).isComplaint with
      | false => simpa using hmore status
      | true =>
          -- From here on the status is 1, whatever comes.
          simpa using hmore 1

/-! ### Removing -/

/-- The aliases without those of some names. -/
def without (aliases : Aliases) (names : List String) : Aliases :=
  names.foldl Aliases.remove aliases

theorem get?_without (aliases : Aliases) (names : List String) (name : String) :
    (without aliases names).get? name = if name ∈ names then none else aliases.get? name := by
  induction names generalizing aliases with
  | nil => rfl
  | cons first rest ih =>
      rw [without, List.foldl_cons, ← without, ih, Aliases.get?_remove]
      -- The name itself is removed first, and any other one is not touched by that.
      by_cases hfirst : name = first
      · simp [hfirst]
      · simp [hfirst]

/-- Removing a name that is not there changes nothing. -/
theorem remove_of_get?_none {aliases : Aliases} {name : String} (h : aliases.get? name = none) :
    aliases.remove name = aliases := by
  refine Aliases.ext_get? fun n => ?_
  rw [Aliases.get?_remove]
  by_cases hn : n = name
  · rw [if_pos hn, hn, h]
  · rw [if_neg hn]

theorem without_of_get?_none {aliases : Aliases} {names : List String}
    (h : ∀ name ∈ names, aliases.get? name = none) : without aliases names = aliases := by
  induction names with
  | nil => rfl
  | cons first rest ih =>
      rw [List.forall_mem_cons] at h
      rw [without, List.foldl_cons, remove_of_get?_none h.1]
      exact ih h.2

/-- A name is absent when its turn comes: it was so from the start, or it has been removed
    since. -/
def Turn.IsAbsent (aliases : Aliases) (turn : Turn String) : Prop :=
  turn.request ∈ turn.earlier ∨ aliases.get? turn.request = none

instance (aliases : Aliases) (turn : Turn String) : Decidable (turn.IsAbsent aliases) :=
  inferInstanceAs (Decidable (_ ∨ _))

/-- The reply of `unalias`. -/
def removal (aliases : Aliases) (turn : Turn String) : Reply :=
  if turn.IsAbsent aliases then .complaint (turn.request ++ ": not found") else .silence

/-- A name is absent exactly if it is not found among the aliases as they are then. -/
theorem get?_without_eq_none_iff {aliases : Aliases} {turn : Turn String} :
    (without aliases turn.earlier).get? turn.request = none ↔ turn.IsAbsent aliases := by
  rw [get?_without, Turn.IsAbsent]
  by_cases hearlier : turn.request ∈ turn.earlier
  · simp [hearlier]
  · simp [hearlier]

/-- A name is removed, or complained of, as its turn says. -/
theorem removeOne_replied (hs : s.journal.Unlimited) (earlier : List String) (name : String)
    (replies : List Reply) :
    removeOne (s.replied (without aliases earlier) replies) name =
      (s.replied (without aliases (earlier ++ [name]))
          (replies ++ [removal aliases ⟨earlier, name⟩]),
        .ok !(removal aliases ⟨earlier, name⟩).isComplaint) := by
  have hnow : (s.replied (without aliases earlier) replies).state.aliases =
      without aliases earlier := rfl
  have hafter : without aliases (earlier ++ [name]) = (without aliases earlier).remove name :=
    List.foldl_append
  unfold removeOne removal
  rw [hnow, hafter]
  by_cases habsent : (Turn.mk earlier name).IsAbsent aliases
  · -- Nothing is removed, so the aliases are those without the name all the same.
    have hnone : (without aliases earlier).get? name = none := get?_without_eq_none_iff.2 habsent
    rw [hnone, remove_of_get?_none hnone, if_pos habsent]
    simp [Session.report_replied hs, Reply.isComplaint, Except.map]
  -- The alias is there and is removed without a word.
  · have hsome : (without aliases earlier).get? name ≠ none :=
      fun hnone => habsent (get?_without_eq_none_iff.1 hnone)
    rcases Option.ne_none_iff_exists'.1 hsome with ⟨text, htext⟩
    rw [htext, if_neg habsent, Session.replied_silence]
    rfl

/-! ### Defining and showing -/

/-- The text that a request gives to a name. -/
def definition? (name : String) : Argument → Option String
  | .define n text => if n = name ∧ Aliases.isValidName n = true then some text else none
  | .reveal _ => none

/-- The text that a name is given last. -/
def lastDefinition? (name : String) (requests : List Argument) : Option String :=
  (requests.filterMap (definition? name)).getLast?

/-- The aliases behind one request. -/
def defined (aliases : Aliases) : Argument → Aliases
  | .define name text =>
      if Aliases.isValidName name then aliases.put name text else aliases
  | .reveal _ => aliases

/-- The aliases behind some requests. -/
def defining (aliases : Aliases) (requests : List Argument) : Aliases :=
  requests.foldl defined aliases

theorem get?_defined (aliases : Aliases) (request : Argument) (name : String) :
    (defined aliases request).get? name = (definition? name request).or (aliases.get? name) := by
  cases request with
  | reveal _ => rfl
  | define n text =>
      unfold defined definition?
      -- A name that is refused defines nothing, so the earlier aliases decide.
      by_cases hvalid : Aliases.isValidName n = true
      · by_cases hn : n = name
        · subst hn
          simp [hvalid, Aliases.get?_put]
        · simp [hvalid, hn, Aliases.get?_put, Ne.symm hn]
      · simp [hvalid]

theorem lastDefinition?_append_singleton (name : String) (front : List Argument)
    (request : Argument) :
    lastDefinition? name (front ++ [request]) =
      (definition? name request).or (lastDefinition? name front) := by
  rw [lastDefinition?, List.filterMap_append]
  cases hdefinition : definition? name request with
  | none => simp [hdefinition, lastDefinition?]
  | some text => simp [hdefinition]

theorem get?_defining (aliases : Aliases) (requests : List Argument) (name : String) :
    (defining aliases requests).get? name =
      (lastDefinition? name requests).or (aliases.get? name) := by
  induction requests using List.reverseRecOn with
  | nil => rfl
  | append_singleton front request ih =>
      rw [defining, List.foldl_append, List.foldl_cons, List.foldl_nil, get?_defined, ← defining,
        ih, lastDefinition?_append_singleton, Option.or_assoc]

/-- The reply of `alias`. -/
def answer (aliases : Aliases) (turn : Turn Argument) : Reply :=
  match turn.request with
  | .define name _ =>
      if Aliases.isValidName name then .silence
      else .complaint (Aliases.InvalidName.message ⟨name⟩)
  | .reveal name =>
      match (lastDefinition? name turn.earlier).or (aliases.get? name) with
      | some text => .line (aliasLine name text)
      | none => .complaint (name ++ ": not found")

/-- A request to `alias` is carried out as its turn says. -/
theorem carryOut_replied (hs : s.journal.Unlimited) (earlier : List Argument)
    (request : Argument) (replies : List Reply) :
    carryOut (s.replied (defining aliases earlier) replies) request =
      (s.replied (defining aliases (earlier ++ [request]))
          (replies ++ [answer aliases ⟨earlier, request⟩]),
        .ok !(answer aliases ⟨earlier, request⟩).isComplaint) := by
  have hnow : (s.replied (defining aliases earlier) replies).state.aliases =
      defining aliases earlier := rfl
  have hafter : defining aliases (earlier ++ [request]) =
      defined (defining aliases earlier) request := List.foldl_append
  unfold carryOut answer
  rw [hafter]
  -- A definition is answered if the name is refused, and a question always is.
  cases request with
  | define name text =>
      dsimp only
      rw [hnow, Aliases.set, defined]
      by_cases hvalid : Aliases.isValidName name = true
      · rw [if_pos hvalid, if_pos hvalid, if_pos hvalid, Session.replied_silence]
        rfl
      · rw [if_neg hvalid, if_neg hvalid, if_neg hvalid]
        simp [Session.report_replied hs, Reply.isComplaint, Except.map]
  | reveal name =>
      dsimp only
      rw [hnow, get?_defining, defined]
      cases (lastDefinition? name earlier).or (aliases.get? name) with
      | none => simp [Session.report_replied hs, Reply.isComplaint, Except.map]
      | some text => simp [Session.print_replied hs, Reply.isComplaint, Except.map]

/-! ### Calls -/

/-- The status of a call with some replies. -/
def statusOf (replies : List Reply) : Int :=
  if replies.any Reply.isComplaint then 1 else 0

theorem run_of_execute {m : Machine} {b : Builtin} {args : List String} {s t : Session}
    {status : Int} (h : b.execute m args s = (t, .ok status)) : b.run m args s = (t, status) := by
  rw [run, h]

/-- What `unalias` does with the names it is given. -/
theorem run_removeAliases (m : Machine) (hs : s.journal.Unlimited) {names : List String}
    (hnames : names ≠ []) :
    removeAliases.run m names s =
      (s.replied (without s.state.aliases names) ((turns names).map (removal s.state.aliases)),
        statusOf ((turns names).map (removal s.state.aliases))) := by
  have hturns := inTurn_replied (without s.state.aliases)
    (removeOne_replied hs) [] names [] 0
  have hstart : s.replied (without s.state.aliases []) [] = s := s.replied_nil
  rw [hstart] at hturns
  refine run_of_execute ?_
  rw [execute, runRemoveAliases, List.isEmpty_eq_false_iff.2 hnames]
  exact hturns

/-- What `alias` does with the requests it is given. -/
theorem run_defineAliases (m : Machine) (hs : s.journal.Unlimited) {args : List String}
    (hargs : args ≠ []) :
    defineAliases.run m args s =
      (s.replied (defining s.state.aliases (parse args))
          ((turns (parse args)).map (answer s.state.aliases)),
        statusOf ((turns (parse args)).map (answer s.state.aliases))) := by
  have hturns := inTurn_replied (defining s.state.aliases)
    (carryOut_replied hs) [] (parse args) [] 0
  have hstart : s.replied (defining s.state.aliases []) [] = s := s.replied_nil
  rw [hstart] at hturns
  refine run_of_execute ?_
  rw [execute, runDefineAliases, List.isEmpty_eq_false_iff.2 hargs]
  exact hturns

/-- The status is 1 exactly if some turn is answered with a complaint. -/
theorem statusOf_map_turns {reply : Turn α → Reply} {requests : List α} :
    (statusOf ((turns requests).map reply) = 1 ↔
      ∃ earlier request later, requests = earlier ++ request :: later ∧
        (reply ⟨earlier, request⟩).isComplaint = true) ∧
    (statusOf ((turns requests).map reply) = 1 ∨ statusOf ((turns requests).map reply) = 0) := by
  unfold statusOf
  cases hany : ((turns requests).map reply).any Reply.isComplaint with
  -- Without a complaint among the replies no request can have been answered with one.
  | false =>
      refine ⟨⟨fun h => absurd h (by decide), ?_⟩, .inr rfl⟩
      rintro ⟨earlier, request, later, hrequests, hcomplaint⟩
      have hmem : ⟨earlier, request⟩ ∈ turns requests := mem_turns_iff.2 ⟨later, hrequests⟩
      rw [List.any_eq_false] at hany
      exact absurd hcomplaint (hany _ (List.mem_map_of_mem hmem))
  -- A complaint among the replies belongs to some request.
  | true =>
      refine ⟨⟨fun _ => ?_, fun _ => rfl⟩, .inl rfl⟩
      rcases List.any_eq_true.1 hany with ⟨given, hgiven, hcomplaint⟩
      rcases List.mem_map.1 hgiven with ⟨turn, hturn, rfl⟩
      rcases mem_turns_iff.1 hturn with ⟨later, hrequests⟩
      exact ⟨turn.earlier, turn.request, later, hrequests, hcomplaint⟩

theorem isComplaint_removal_iff {aliases : Aliases} {turn : Turn String} :
    (removal aliases turn).isComplaint = true ↔ turn.IsAbsent aliases := by
  unfold removal
  by_cases habsent : turn.IsAbsent aliases
  · simp [habsent, Reply.isComplaint]
  · simp [habsent, Reply.isComplaint]

/-- `alias` complains of a name that is shown and has no text, and of a name that is
    defined and is not valid. -/
theorem isComplaint_answer_iff {aliases : Aliases} {turn : Turn Argument} :
    (answer aliases turn).isComplaint = true ↔
      (∃ name, turn.request = .reveal name ∧ lastDefinition? name turn.earlier = none ∧
        aliases.get? name = none) ∨
      ∃ name text, turn.request = .define name text ∧ Aliases.isValidName name = false := by
  rcases turn with ⟨earlier, request⟩
  unfold answer
  cases request with
  | define name text =>
      by_cases hvalid : Aliases.isValidName name = true
      · simp [hvalid, Reply.isComplaint]
      · simp [hvalid, Reply.isComplaint]
  | reveal name =>
      dsimp only
      cases htext : (lastDefinition? name earlier).or (aliases.get? name) with
      | none => simpa [Reply.isComplaint] using Option.or_eq_none_iff.1 htext
      | some text =>
          -- One of the two has the alias, so it is not true that neither does.
          have hnot : ¬ (lastDefinition? name earlier = none ∧ aliases.get? name = none) := by
            rw [← Option.or_eq_none_iff, htext]
            simp
          simpa [Reply.isComplaint] using hnot

/-- What has been removed is absent, so `unalias` with the same names leaves the aliases
    alone and fails. -/
theorem run_removeAliases_again (m : Machine) {s : Session} (hs : s.journal.Unlimited)
    {names : List String} (hnames : names ≠ [])
    (habsent : ∀ name ∈ names, s.state.aliases.get? name = none) :
    (removeAliases.run m names s).1.state.aliases = s.state.aliases ∧
      (removeAliases.run m names s).2 = 1 := by
  rw [run_removeAliases m hs hnames]
  constructor
  · exact without_of_get?_none habsent
  -- The first name is not there, so at least one request is answered with a complaint.
  · cases names with
    | nil => exact absurd rfl hnames
    | cons first rest =>
        have hfirst : (Turn.mk [] first).IsAbsent s.state.aliases :=
          .inr (habsent first List.mem_cons_self)
        exact statusOf_map_turns.1.2 ⟨[], first, rest, rfl, isComplaint_removal_iff.2 hfirst⟩

/-- On streams that take everything, `unalias` removes the names it is given and no
    others, and complains once, in order, for each turn at which the name is absent.
    Called again, it leaves the aliases alone and fails. `alias` gives each name the text
    of its last valid definition, and shows an alias with the text that it has by then.
    The status of either is 1 or 0, and it is 1 exactly if there was a complaint. -/
theorem alias_requests_in_bulk (m : Machine) {s : Session} (hs : s.journal.Unlimited)
    {args : List String} (hargs : args ≠ []) :
    (∃ (aliases : Aliases) (status : Int),
      removeAliases.run m args s =
        (s.replied aliases ((turns args).map (removal s.state.aliases)), status) ∧
      (∀ name, aliases.get? name = if name ∈ args then none else s.state.aliases.get? name) ∧
      (status = 1 ∨ status = 0) ∧
      (status = 1 ↔ ∃ earlier name later, args = earlier ++ name :: later ∧
        (name ∈ earlier ∨ s.state.aliases.get? name = none)) ∧
      (removeAliases.run m args (removeAliases.run m args s).1).1.state.aliases = aliases ∧
      (removeAliases.run m args (removeAliases.run m args s).1).2 = 1) ∧
    ∃ (aliases : Aliases) (status : Int),
      defineAliases.run m args s =
        (s.replied aliases ((turns (parse args)).map (answer s.state.aliases)), status) ∧
      (∀ name, aliases.get? name =
        (lastDefinition? name (parse args)).or (s.state.aliases.get? name)) ∧
      (status = 1 ∨ status = 0) ∧
      (status = 1 ↔
        (∃ earlier name later, parse args = earlier ++ .reveal name :: later ∧
          lastDefinition? name earlier = none ∧ s.state.aliases.get? name = none) ∨
        ∃ name text, .define name text ∈ parse args ∧ Aliases.isValidName name = false) := by
  constructor
  -- After the first call none of the names is there, so the second one changes nothing.
  · have hrun := run_removeAliases m hs hargs
    have hget := get?_without s.state.aliases args
    have hs' : (removeAliases.run m args s).1.journal.Unlimited := by
      rw [hrun]
      exact hs
    have hgone : ∀ name ∈ args,
        (removeAliases.run m args s).1.state.aliases.get? name = none := by
      intro name hname
      rw [hrun]
      exact (hget name).trans (if_pos hname)
    have hagain := run_removeAliases_again m hs' hargs hgone
    refine ⟨_, _, hrun, hget, statusOf_map_turns.2, ?_, ?_, hagain.2⟩
    · simp only [statusOf_map_turns.1, isComplaint_removal_iff, Turn.IsAbsent]
    · rw [hagain.1, hrun]
      rfl
  · refine ⟨_, _, run_defineAliases m hs hargs, get?_defining s.state.aliases (parse args),
      statusOf_map_turns.2, ?_⟩
    simp only [statusOf_map_turns.1, isComplaint_answer_iff]
    constructor
    -- A complaint is about a name that has no alias by then or about one that is refused.
    · rintro ⟨earlier, request, later, hrequests, ⟨name, rfl, hnone⟩ | ⟨name, text, rfl, hname⟩⟩
      · exact .inl ⟨earlier, name, later, hrequests, hnone⟩
      · refine .inr ⟨name, text, ?_, hname⟩
        rw [hrequests]
        exact List.mem_append_right earlier List.mem_cons_self
    -- Both cases give a place in the list, which a turn of its own belongs to.
    · rintro (⟨earlier, name, later, hrequests, hnone⟩ | ⟨name, text, hmem, hname⟩)
      · exact ⟨earlier, _, later, hrequests, .inl ⟨name, rfl, hnone⟩⟩
      · rcases List.append_of_mem hmem with ⟨earlier, later, hrequests⟩
        exact ⟨earlier, _, later, hrequests, .inr ⟨name, text, rfl, hname⟩⟩

/-- One list of words for both builtins. `alias` shows an alias before and after it is
    defined anew, and a name that cannot be defined is between them. For `unalias` the
    words are names, one of which comes twice. -/
theorem alias_requests_in_bulk_mixed :
    let m : Machine := Machine.bare fun _ _ => .quiet (.ok (.exited 0))
    let s : Session := { Session.fresh Environment.empty with
      state.aliases := Aliases.ofList [("gs", "git"), ("ll", "ls -l")] }
    let args := ["ll", "ll='a", "b'", "=x", "ll", "gs"]
    s.journal.Unlimited ∧ args ≠ [] ∧
      (removeAliases.run m args s).1.state.aliases.get? "ll" = none ∧
      (removeAliases.run m args s).2 = 1 ∧
      (defineAliases.run m args s).1.state.aliases.get? "ll" = some "a b" ∧
      (defineAliases.run m args s).1.journal.attempted .standardOutput =
        ["ll='ls -l'\n", "ll='a b'\n", "gs='git'\n"] := by
  intro m s args
  have hs : s.journal.Unlimited := ⟨rfl, rfl⟩
  have hargs : args ≠ [] := List.cons_ne_nil _ _
  rcases alias_requests_in_bulk m hs hargs with
    ⟨⟨removed, status, hremove, hgone, -, hfails, -⟩, defined, status', hdefine, hget, -, -⟩
  have hremoved : (removeAliases.run m args s).2 = 1 := by
    rw [hremove]
    exact hfails.2 ⟨["ll", "ll='a", "b'", "=x"], "ll", ["gs"], rfl, .inl List.mem_cons_self⟩
  -- What is shown does not depend on the aliases behind the call.
  have hshown : ∀ aliases, (s.replied aliases ((turns (parse args)).map
      (answer s.state.aliases))).journal.attempted .standardOutput =
        ["ll='ls -l'\n", "ll='a b'\n", "gs='git'\n"] := by
    intro aliases
    change (s.replied s.state.aliases _).journal.attempted .standardOutput = _
    decide +kernel
  rw [hdefine]
  refine ⟨hs, hargs, ?_, hremoved, (hget "ll").trans (by decide +kernel), hshown defined⟩
  rw [hremove]
  exact hgone "ll"

end Builtin

end CommandShell
