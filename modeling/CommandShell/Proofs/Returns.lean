import CommandShell.Proofs.Moves
import CommandShell.Proofs.RefusedDiagnostics

/-!
# Going Back and Forth

`cd -` leads back to the directory that was left last, and if it is repeated it leads
back and forth between two directories. It goes by the variable `OLDPWD` alone. Whether
that is right is decided by the move before, which has set the variable to the directory
where the session stood by then, whatever the variables said before. So it does not
matter how the session came to the second directory: along a link, from a directory
that `PWD` does not know, or by staying where it was.

What a session has to know in order to go back is kept by every return with the two
directories exchanged. The directories are known by the texts of their paths from then
on, so it has to be possible to enter them by these. A text is the path itself where all
names are text.

## Main definitions

* `Tree.EntersByPath`: A directory that can be entered by the text of its absolute path.
* `Builtin.callTimes`: A builtin is called several times.
* `alternate`: One of two things after some exchanges.
* `Builtin.CameFrom`: The session stands in one directory and came from another one.

## Theorems

* `enter_toPath`: An absolute path leads to the same place from everywhere.
* `CameFrom.goBack`: A return exchanges the two directories.
* `cameFrom_of_run`: A move that succeeds can be undone.
* `back_and_forth`: Returns lead back and forth.
-/

namespace CommandShell

open Text

namespace File

/-- A directory that can be entered by the text of its absolute path. -/
def Tree.EntersByPath (tree : Tree) (directory : Location) : Prop :=
  tree.enter [] directory.toPath = .ok directory

instance (tree : Tree) (directory : Location) : Decidable (tree.EntersByPath directory) :=
  inferInstanceAs (Decidable (_ = _))

theorem Tree.currentPath?_eq_some_iff {tree : Tree} {here : Location} {path : String} :
    tree.currentPath? here = some path ↔ tree.isDirectory here = true ∧ here.toPath = path := by
  rw [currentPath?_eq]
  cases tree.isDirectory here <;> simp

/-- An absolute path leads to the same place from everywhere. -/
theorem Tree.enter_toPath (tree : Tree) (here directory : Location) :
    tree.enter here directory.toPath = tree.enter [] directory.toPath := by
  have hstart : ∀ origin : Location, start origin directory.toPath = [] := fun _ =>
    if_pos directory.isAbsolute_toPath
  simp only [enter, locate, hstart]

end File

/-- The one of two things after an even number of exchanges, and the other one after an
    odd number. -/
def alternate {α : Type} (n : Nat) (a b : α) : α :=
  if n % 2 = 0 then a else b

theorem alternate_succ {α : Type} (n : Nat) (a b : α) :
    alternate (n + 1) a b = alternate n b a := by
  unfold alternate
  by_cases h : n % 2 = 0
  · rw [if_pos h, if_neg (by omega)]
  · rw [if_neg h, if_pos (by omega)]

theorem apply_alternate {α β : Type} (f : α → β) (n : Nat) (a b : α) :
    f (alternate n a b) = alternate n (f a) (f b) :=
  apply_ite f (n % 2 = 0) a b

namespace Builtin

/-- A builtin is called several times with the same arguments. The statuses of the calls
    are kept in their order. -/
def callTimes (m : Machine) (b : Builtin) (args : List String) :
    Nat → Session → Session × List Int
  | 0, s => (s, [])
  | n + 1, s =>
      let (t, status) := b.run m args s
      let (u, statuses) := callTimes m b args n t
      (u, status :: statuses)

/-- The session stands in one directory and came there from another one, its variables
    tell so, and its standard output takes everything. -/
structure CameFrom (left here : File.Location) (s : Session) : Prop where
  directory_eq : s.directory = here
  pwd_eq : s.state.environment.get? "PWD" = some here.toPath
  oldpwd_eq : s.state.environment.get? "OLDPWD" = some left.toPath
  room_eq : s.journal.outputRoom = none

/-- What returns leave behind in the session and on its standard output. -/
structure Returned (left here : File.Location) (announced : List String) (s t : Session) :
    Prop where
  cameFrom : CameFrom left here t
  other_eq : ∀ name, name ≠ "PWD" → name ≠ "OLDPWD" →
    t.state.environment.get? name = s.state.environment.get? name
  received_eq : t.journal.received .standardOutput
    = s.journal.received .standardOutput ++ announced.flatMap fun path => encode (path ++ "\n")

variable {m : Machine} {args : List String} {s t : Session} {left here : File.Location}

/-- A return exchanges the two directories. -/
theorem CameFrom.goBack (h : CameFrom left here s) (hhere : m.files.isDirectory here = true)
    (hleft : m.files.isDirectory left = true) (henters : m.files.EntersByPath left) :
    Returned here left [left.toPath] s (Builtin.changeDirectory.run m ["-"] s).1 ∧
      (Builtin.changeDirectory.run m ["-"] s).2 = 0 := by
  have hne : left.toPath ≠ "" := left.toPath_ne_empty
  have htarget : target m s.state.environment ["-"] = .ok ⟨.text left.toPath, true⟩ := by
    simp [target, h.oldpwd_eq, hne]
  have henter : m.files.enter s.directory (.text left.toPath) = .ok left :=
    (m.files.enter_toPath s.directory left).trans henters
  have hpath : enteredPath m ⟨.text left.toPath, true⟩ left = left.toPath := by
    simp [enteredPath, File.Tree.currentPath?_eq, hleft]
  have hprevious : m.files.currentPath? s.directory = some here.toPath := by
    rw [h.directory_eq, File.Tree.currentPath?_eq, if_pos hhere]
  have hroom : s.journal.room .standardOutput = none := h.room_eq
  have htaken : (s.print (left.toPath ++ "\n")).2 = .ok () := Journal.write_of_room_none hroom _
  obtain ⟨hmoved, hannounced⟩ := run_changeDirectory_of_entered htarget henter
  rw [hpath] at hannounced
  generalize Builtin.changeDirectory.run m ["-"] s = ran at hmoved hannounced ⊢
  obtain ⟨t, status⟩ := ran
  -- The path is written out, since nothing keeps the standard output from taking it.
  cases hannounced with
  | silent hword => exact absurd rfl hword
  | refused _ hrefused =>
      rw [htaken] at hrefused
      cases hrefused
  | written _ _ hjournal =>
      refine ⟨⟨⟨hmoved.directory_eq, ?_, ?_, ?_⟩, hmoved.other_eq, ?_⟩, rfl⟩
      · rw [hmoved.pwd_eq, hpath]
      · rw [hmoved.oldpwd_eq, hprevious]
        rfl
      · rw [hjournal]
        exact (s.journal.outputRoom_write_output _).trans (by rw [h.room_eq]; rfl)
      · rw [hjournal, List.flatMap_singleton]
        exact s.journal.received_write_of_room_none .standardOutput hroom _

theorem Returned.trans {u : Session} {left' here' : File.Location} {first second : List String}
    (h : Returned left here first s t) (h' : Returned left' here' second t u) :
    Returned left' here' (first ++ second) s u where
  cameFrom := h'.cameFrom
  other_eq := fun name hpwd hold => (h'.other_eq name hpwd hold).trans (h.other_eq name hpwd hold)
  received_eq := by
    rw [h'.received_eq, h.received_eq, List.flatMap_append, List.append_assoc]

/-- So several returns exchange them several times. -/
theorem CameFrom.goBackTimes (h : CameFrom left here s) (hhere : m.files.isDirectory here = true)
    (hleft : m.files.isDirectory left = true) (hentersHere : m.files.EntersByPath here)
    (hentersLeft : m.files.EntersByPath left) (n : Nat) :
    Returned (alternate n left here) (alternate n here left)
        ((List.range n).map fun k => alternate k left.toPath here.toPath) s
        (callTimes m .changeDirectory ["-"] n s).1 ∧
      (callTimes m .changeDirectory ["-"] n s).2 = List.replicate n 0 := by
  induction n generalizing left here s with
  | zero => exact ⟨⟨h, fun _ _ _ => rfl, (List.append_nil _).symm⟩, rfl⟩
  | succ n ih =>
      -- Behind the first return the two directories have changed places.
      obtain ⟨hback, hstatus⟩ := h.goBack hhere hleft hentersLeft
      obtain ⟨hmore, hstatuses⟩ := ih hback.cameFrom hleft hhere hentersLeft hentersHere
      simp only [callTimes]
      rw [hstatus, hstatuses]
      refine ⟨?_, rfl⟩
      have hfirst : alternate 0 left.toPath here.toPath = left.toPath := rfl
      rw [List.range_succ_eq_map, List.map_cons, List.map_map, hfirst]
      simpa only [Function.comp_def, alternate_succ, List.singleton_append] using hback.trans hmore

/-- A move that succeeds can be undone. -/
theorem cameFrom_of_run (hknown : m.files.isDirectory s.directory = true)
    (hmove : Builtin.changeDirectory.run m args s = (t, 0))
    (hentered : m.files.isDirectory t.directory = true) (hroom : s.journal.outputRoom = none) :
    CameFrom s.directory t.directory t ∧ ∀ name, name ≠ "PWD" → name ≠ "OLDPWD" →
      t.state.environment.get? name = s.state.environment.get? name := by
  -- The move reported 0, so it was none of the calls that stay.
  have hstayed : ∀ e, ¬ Stays m args s e := by
    intro e hstays
    have hstatus : (2 : Int) = 0 :=
      congrArg Prod.snd ((run_changeDirectory_of_stays hstays).symm.trans hmove)
    exact absurd hstatus (by decide)
  cases htarget : target m s.state.environment args with
  | error e => exact absurd (.noTarget (target_eq_error_iff.1 htarget)) (hstayed e)
  | ok goal =>
      cases henter : m.files.enter s.directory goal.path with
      | error cause => exact absurd (.cannotEnter htarget henter) (hstayed _)
      | ok directory =>
          obtain ⟨hmoved, _⟩ := run_changeDirectory_of_entered htarget henter
          have heffects := run_effects m .changeDirectory args s
          rw [hmove] at hmoved heffects
          obtain rfl := hmoved.directory_eq
          -- Nothing limits the output, so going back will be able to write the
          -- directory out.
          obtain ⟨arrived, _, hleft⟩ := heffects.outputRoom_eq_roomAfter
          refine ⟨⟨rfl, ?_, ?_, ?_⟩, hmoved.other_eq⟩
          · rw [hmoved.pwd_eq, enteredPath, File.Tree.currentPath?_eq, if_pos hentered]
            rfl
          · rw [hmoved.oldpwd_eq, File.Tree.currentPath?_eq, if_pos hknown]
            rfl
          · rw [hleft, hroom]
            rfl

/-- A move to a directory is followed by returns, and both directories can be entered by
    their paths. Then every return succeeds and writes out the directory that it leads to,
    and the session ends up in the one directory or in the other, as the number of returns
    is even or odd. The variables tell so, and no others have been changed since before
    the move. -/
theorem back_and_forth (m : Machine) (args : List String) {s t : Session} {p q : String}
    (hleft : m.files.currentPath? s.directory = some p)
    (hmove : Builtin.changeDirectory.run m args s = (t, 0))
    (hentered : m.files.currentPath? t.directory = some q)
    (hp : m.files.EntersByPath s.directory) (hq : m.files.EntersByPath t.directory)
    (hroom : s.journal.outputRoom = none) (n : Nat) :
    let ran := callTimes m .changeDirectory ["-"] n t
    ran.2 = List.replicate n 0 ∧
      ran.1.directory = alternate n t.directory s.directory ∧
      ran.1.state.environment.get? "PWD" = some (alternate n q p) ∧
      ran.1.state.environment.get? "OLDPWD" = some (alternate n p q) ∧
      ran.1.journal.received .standardOutput = t.journal.received .standardOutput
        ++ (List.range n).flatMap (fun k => encode (alternate k p q ++ "\n")) ∧
      ∀ name, name ≠ "PWD" → name ≠ "OLDPWD" →
        ran.1.state.environment.get? name = s.state.environment.get? name := by
  obtain ⟨hknown, rfl⟩ := File.Tree.currentPath?_eq_some_iff.1 hleft
  obtain ⟨hthere, rfl⟩ := File.Tree.currentPath?_eq_some_iff.1 hentered
  obtain ⟨hcame, hother⟩ := cameFrom_of_run hknown hmove hthere hroom
  obtain ⟨hreturned, hstatuses⟩ := hcame.goBackTimes hthere hknown hq hp n
  refine ⟨hstatuses, hreturned.cameFrom.directory_eq, ?_, ?_, ?_, fun name hpwd hold => ?_⟩
  · rw [hreturned.cameFrom.pwd_eq, apply_alternate File.Location.toPath]
  · rw [hreturned.cameFrom.oldpwd_eq, apply_alternate File.Location.toPath]
  · rw [hreturned.received_eq, List.flatMap_map]
  · exact (hreturned.other_eq name hpwd hold).trans (hother name hpwd hold)

/-- The directory is entered along a link, and the variables were wrong before. -/
theorem back_and_forth_link :
    let m : Machine :=
      { Machine.bare fun _ _ => .quiet (.ok (.exited 0)) with
        files := .ofEntries [(["a"], .directory), (["b"], .directory), (["l"], .link "b")] }
    let s : Session :=
      { Session.fresh ((Environment.empty.put "PWD" "/x").put "OLDPWD" "y") with
        directory := ["a"] }
    let t := (Builtin.changeDirectory.run m ["../l"] s).1
    m.files.currentPath? s.directory = some "/a" ∧
      Builtin.changeDirectory.run m ["../l"] s = (t, 0) ∧
      m.files.currentPath? t.directory = some "/b" ∧
      m.files.EntersByPath s.directory ∧ m.files.EntersByPath t.directory ∧
      (callTimes m .changeDirectory ["-"] 3 t).2 = [0, 0, 0] ∧
      (callTimes m .changeDirectory ["-"] 3 t).1.directory = ["a"] ∧
      (callTimes m .changeDirectory ["-"] 3 t).1.journal.received .standardOutput
        = encode "/a\n/b\n/a\n" := by
  intro m s t
  have hleft : m.files.currentPath? s.directory = some "/a" := by decide +kernel
  have hmove : Builtin.changeDirectory.run m ["../l"] s = (t, 0) :=
    Prod.ext rfl (by decide +kernel)
  have hentered : m.files.currentPath? t.directory = some "/b" := by decide +kernel
  have hp : m.files.EntersByPath s.directory := by decide +kernel
  have hq : m.files.EntersByPath t.directory := by decide +kernel
  have hreturns := back_and_forth m ["../l"] hleft hmove hentered hp hq rfl 3
  have hend : alternate 3 t.directory s.directory = ["a"] := by decide +kernel
  have hshown : t.journal.received .standardOutput
      ++ (List.range 3).flatMap (fun k => encode (alternate k "/a" "/b" ++ "\n"))
        = encode "/a\n/b\n/a\n" := by
    decide +kernel
  rw [hend, hshown] at hreturns
  -- The session is not looked at any more, so nothing has to be run again.
  dsimp only at hreturns
  generalize callTimes m .changeDirectory ["-"] 3 t = ran at hreturns ⊢
  exact ⟨hleft, hmove, hentered, hp, hq, hreturns.1, hreturns.2.1, hreturns.2.2.2.2.1⟩

end Builtin

end CommandShell
