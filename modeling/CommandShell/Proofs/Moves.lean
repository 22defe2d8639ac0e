import CommandShell.Proofs.Assignments
import CommandShell.Proofs.PathTexts

/-!
# A Move Is Made as a Whole or Not at All

`cd` has to keep three things together: the directory where the session stands and
the variables `PWD` and `OLDPWD`. It can fail before the session moves and after that,
but not in between. As long as the target is not known or has not been entered there
is nothing to undo. Once it has been entered both variables are set, whatever the
system says about the directories by then, and all that can go wrong afterwards is to
write the new directory out.

The variables are set by the same means as any others, which look at the names and
may refuse them. Then `cd` would end with one of the variables set or none. That this
cannot happen is seen by comparison with a `cd` that does look at the names.

A variable is a text, and so it has a directory by the text of its path. That is the
path itself where all names on the way are text. A directory with another name can be
entered as well, through a link or as the home directory of the account. The variables
then tell of it and are in step with each other, but cannot lead back to it.

## Main definitions

* `Builtin.Stays`: Why the session stays where it is.
* `Builtin.movedTo`: The session when the variables have been set.
* `Builtin.Moved`: What a move changes and what it does not.
* `Builtin.Announces`: What is said about a move, and the status that it leaves.
* `Builtin.runCheckedChangeDirectory`: The builtin with all its checks.

## Theorems

* `target_eq_error_iff`: When there is no target.
* `runCheckedChangeDirectory_eq`: The names of the variables are never refused.
* `moves_or_stays`: A move is made as a whole or not at all.
-/

namespace CommandShell

open Text

namespace File

variable {env : Environment} {accountHome : Option RawPath} {e : HomeError}

/-- The home directory is missing if neither the session nor the account has one. -/
theorem homeDirectory_eq_error_iff : homeDirectory env accountHome = .error e ↔
    (env.get? "HOME").getD "" = "" ∧ accountHome = none := by
  cases e
  unfold homeDirectory homeDirectory.accountOr
  cases env.get? "HOME" with
  | none => cases accountHome <;> simp
  | some home =>
      -- An empty value counts as none, so the account decides.
      by_cases hhome : home = ""
      · cases accountHome <;> simp [hhome]
      · simp [hhome]

/-- A path begins with the home directory, or is the home directory. -/
def BeginsAtHome (path : String) : Prop :=
  path.toList = ['~'] ∨ ['~', '/'] <+: path.toList

instance (path : String) : Decidable (BeginsAtHome path) :=
  inferInstanceAs (Decidable (_ ∨ _))

theorem expandTilde_eq_error_iff {path : String} : expandTilde env accountHome path = .error e ↔
    BeginsAtHome path ∧ homeDirectory env accountHome = .error e := by
  unfold expandTilde BeginsAtHome
  split
  -- A `~` alone, one before a slash, and any other path.
  · rename_i htilde
    simp [htilde]
  · rename_i rest htilde
    cases homeDirectory env accountHome <;> simp [htilde, Except.map]
  · rename_i halone hbelow
    refine iff_of_false (fun h => nomatch h) fun ⟨hpath, _⟩ => ?_
    rcases hpath with hpath | ⟨rest, hpath⟩
    · exact halone hpath
    · exact hbelow rest hpath.symm

end File

namespace Builtin

/-! ### Targets -/

/-- Why the arguments mean no target. -/
inductive NoTarget (m : Machine) (env : Environment) (args : List String) : Error → Prop
  /-- No directory was left that one could go back to. -/
  | previous (hword : args.head? = some "-") (hnone : (env.get? "OLDPWD").getD "" = "") :
      NoTarget m env args (.invalidArguments "OLDPWD not set")
  /-- The home directory is asked for, and there is none. -/
  | home (hword : ∀ word ∈ args.head?, File.BeginsAtHome word)
      (hnone : (env.get? "HOME").getD "" = "") (haccount : m.accountHome = none) :
      NoTarget m env args (.invalidArguments "HOME not set")

variable {m : Machine} {env : Environment} {args : List String} {s : Session}

theorem noTarget_of_target_eq_error {e : Error} (h : target m env args = .error e) :
    NoTarget m env args e := by
  cases args with
  -- No argument asks for the home directory.
  | nil =>
      simp only [target] at h
      split at h <;> cases h
      rename_i hhome
      obtain ⟨hnone, haccount⟩ := File.homeDirectory_eq_error_iff.1 hhome
      exact .home (by simp) hnone haccount
  | cons word more =>
      simp only [target] at h
      split at h
      -- The argument is `-`, and what matters is the directory that was left.
      · rename_i hword
        split at h
        · rename_i previous hprevious
          split at h <;> cases h
          rename_i hempty
          exact .previous (by rw [hword]; rfl) (by simpa [hprevious] using hempty)
        · rename_i hprevious
          cases h
          exact .previous (by rw [hword]; rfl) (by rw [hprevious]; rfl)
      -- Any other word is a path, which can begin at home.
      · split at h <;> cases h
        rename_i htilde
        obtain ⟨hbegins, hhome⟩ := File.expandTilde_eq_error_iff.1 htilde
        obtain ⟨hnone, haccount⟩ := File.homeDirectory_eq_error_iff.1 hhome
        exact .home (by simpa using hbegins) hnone haccount

/-- There is no target in these two cases and in no others. -/
theorem target_eq_error_iff {e : Error} :
    target m env args = .error e ↔ NoTarget m env args e := by
  refine ⟨noTarget_of_target_eq_error, fun h => ?_⟩
  cases h with
  | previous hword hnone =>
      obtain ⟨more, rfl⟩ := List.head?_eq_some_iff.1 hword
      simp only [target, if_true]
      cases hprevious : env.get? "OLDPWD" with
      | none => rfl
      | some previous =>
          rw [hprevious] at hnone
          simp [show previous = "" from hnone]
  | home hword hnone haccount =>
      have hhome : File.homeDirectory env m.accountHome = .error .unset :=
        File.homeDirectory_eq_error_iff.2 ⟨hnone, haccount⟩
      cases args with
      | nil => simp only [target, hhome, File.HomeError.message]
      | cons word more =>
          have hbegins : File.BeginsAtHome word := hword word rfl
          -- The word begins with a `~`, so it is not the one that leads back.
          have hne : word ≠ "-" := by
            rintro rfl
            exact absurd hbegins (by decide)
          simp only [target, if_neg hne, File.expandTilde_eq_error_iff.2 ⟨hbegins, hhome⟩,
            File.HomeError.message]

/-- Only the directory that `-` stands for is written out. -/
theorem announced_iff_of_target {goal : Target} (h : target m env args = .ok goal) :
    goal.announced = true ↔ args.head? = some "-" := by
  cases args with
  | nil =>
      simp only [target] at h
      split at h <;> cases h
      simp
  | cons word more =>
      simp only [target] at h
      split at h
      · rename_i hword
        split at h
        · split at h <;> cases h
          simp [hword]
        · cases h
      -- A word that is spelled out is never written again.
      · rename_i hword
        split at h <;> cases h
        simp [hword]

/-! ### All checks -/

/-- The builtin as it is when the names of its two variables are looked at as well. A name
    that is refused ends the call at once, in the session as it is by then. -/
def runCheckedChangeDirectory (m : Machine) (args : List String) (s : Session) :
    Session × Except Error Int :=
  match target m s.state.environment args with
  | .error e => (s, .error e)
  | .ok goal =>
      let left := (m.files.currentPath? s.directory).or (s.state.environment.get? "PWD")
      match m.files.enter s.directory goal.path with
      | .error _ => (s, .error (.cannotEnter goal.path.shown))
      | .ok directory =>
          let entered := (m.files.currentPath? directory).getD goal.path.shown
          let there := { s with directory := directory }
          let (noted, result) :=
            match left with
            | some previous => runSetVariable ["OLDPWD", previous] there
            | none => (there, .ok 0)
          match result with
          | .error e => (noted, .error e)
          | .ok _ =>
              match runSetVariable ["PWD", entered] noted with
              | (moved, .error e) => (moved, .error e)
              | (moved, .ok _) =>
                  if goal.announced then
                    match moved.print (entered ++ "\n") with
                    | (s, .ok ()) => (s, .ok 0)
                    | (s, .error e) => (s, .error (.write e))
                  else (moved, .ok 0)

/-- The names of the two variables are never refused, so nothing is changed by looking at
    them. -/
theorem runCheckedChangeDirectory_eq (m : Machine) (args : List String) (s : Session) :
    runCheckedChangeDirectory m args s = runChangeDirectory m args s := by
  have hold : Environment.IsName "OLDPWD" := by decide
  have hpwd : Environment.IsName "PWD" := by decide
  unfold runCheckedChangeDirectory runChangeDirectory
  cases target m s.state.environment args with
  | error e => rfl
  | ok goal =>
      dsimp only
      cases m.files.enter s.directory goal.path with
      | error e => rfl
      | ok directory =>
          dsimp only
          cases (m.files.currentPath? s.directory).or (s.state.environment.get? "PWD") with
          -- Only `PWD` is set if nobody knows what was left.
          | none =>
              dsimp only
              rw [runSetVariable_of_isName hpwd]
              rfl
          | some previous =>
              dsimp only
              rw [runSetVariable_of_isName hold]
              dsimp only
              rw [runSetVariable_of_isName hpwd]
              rfl

/-! ### Moves -/

/-- Why the session stays where it is. -/
inductive Stays (m : Machine) (args : List String) (s : Session) : Error → Prop
  | noTarget {e : Error} (h : NoTarget m s.state.environment args e) : Stays m args s e
  /-- There is a target, but it cannot be entered. -/
  | cannotEnter {goal : Target} {cause : SystemError}
      (htarget : target m s.state.environment args = .ok goal)
      (henter : m.files.enter s.directory goal.path = .error cause) :
      Stays m args s (.cannotEnter goal.path.shown)

/-- The directory that the session is in after a move, as it is known from then on. -/
def enteredPath (m : Machine) (goal : Target) (directory : File.Location) : String :=
  (m.files.currentPath? directory).getD goal.path.shown

/-- What a move changes, and what it does not. -/
structure Moved (m : Machine) (goal : Target) (directory : File.Location) (s t : Session) :
    Prop where
  directory_eq : t.directory = directory
  pwd_eq : t.state.environment.get? "PWD" = some (enteredPath m goal directory)
  /-- A path that is text is found in the variable as it is. -/
  pwd_of_text : ∀ path text, m.files.currentDirectory? directory = some path →
    path.bytes = encode text → t.state.environment.get? "PWD" = some text
  /-- The directory that was left is the one that the session stood in, or else the one
      that it took for that. If neither is known, the variable stays as it was. -/
  oldpwd_eq : t.state.environment.get? "OLDPWD"
    = ((m.files.currentPath? s.directory).or (s.state.environment.get? "PWD")).or
        (s.state.environment.get? "OLDPWD")
  oldpwd_of_text : ∀ path text, m.files.currentDirectory? s.directory = some path →
    path.bytes = encode text → t.state.environment.get? "OLDPWD" = some text
  other_eq : ∀ name, name ≠ "PWD" → name ≠ "OLDPWD" →
    t.state.environment.get? name = s.state.environment.get? name
  state_eq : t.state = { s.state with environment := t.state.environment }
  monitor_eq : t.monitor = s.monitor

/-- What is said about a move, and the status that it leaves. -/
inductive Announces (args : List String) (path : String) (s t : Session) : Int → Prop
  | silent (hword : args.head? ≠ some "-") (hjournal : t.journal = s.journal) :
      Announces args path s t 0
  | written (hword : args.head? = some "-") (htaken : (s.print (path ++ "\n")).2 = .ok ())
      (hjournal : t.journal = (s.print (path ++ "\n")).1.journal) : Announces args path s t 0
  /-- The directory cannot be written out, which is reported. -/
  | refused {cause : SystemError} (hword : args.head? = some "-")
      (hrefused : (s.print (path ++ "\n")).2 = .error cause)
      (hjournal : t.journal = ((s.print (path ++ "\n")).1.complain cause.message).journal) :
      Announces args path s t 1

/-- The session with both variables set, before anything is said about the move. -/
def movedTo (m : Machine) (goal : Target) (directory : File.Location) (s : Session) : Session :=
  { s with
    directory := directory
    state.environment := recordMove s.state.environment
      ((m.files.currentPath? s.directory).or (s.state.environment.get? "PWD"))
      (enteredPath m goal directory) }

theorem moved_movedTo (m : Machine) (goal : Target) (directory : File.Location) (s : Session) :
    Moved m goal directory s (movedTo m goal directory s) where
  directory_eq := rfl
  pwd_eq := (get?_recordMove _ _ _ _).trans (if_pos rfl)
  -- A path that is text is shown as it is.
  pwd_of_text := fun path text hpath htext => by
    refine (get?_recordMove _ _ _ _).trans ((if_pos rfl).trans ?_)
    rw [enteredPath, File.Tree.currentPath?_of_bytes_eq hpath htext, Option.getD_some]
  oldpwd_eq := (get?_recordMove _ _ _ _).trans ((if_neg (by decide)).trans (if_pos rfl))
  oldpwd_of_text := fun path text hpath htext => by
    refine (get?_recordMove _ _ _ _).trans ((if_neg (by decide)).trans ((if_pos rfl).trans ?_))
    rw [File.Tree.currentPath?_of_bytes_eq hpath htext]
    rfl
  other_eq := fun name hpwd hold =>
    (get?_recordMove _ _ _ _).trans ((if_neg hpwd).trans (if_neg hold))
  state_eq := rfl
  monitor_eq := rfl

/-- To write something afterwards does not undo a move. -/
theorem Moved.write {goal : Target} {directory : File.Location} {t : Session}
    (h : Moved m goal directory s t) (stream : Stream) (text : String) :
    Moved m goal directory s (t.write stream text).1 :=
  ⟨h.directory_eq, h.pwd_eq, h.pwd_of_text, h.oldpwd_eq, h.oldpwd_of_text, h.other_eq,
    h.state_eq, h.monitor_eq⟩

/-- Once the target has been entered the move is made, and what follows is at most to
    write the new directory out. -/
theorem run_changeDirectory_of_entered {goal : Target} {directory : File.Location}
    (htarget : target m s.state.environment args = .ok goal)
    (henter : m.files.enter s.directory goal.path = .ok directory) :
    Moved m goal directory s (Builtin.changeDirectory.run m args s).1 ∧
      Announces args (enteredPath m goal directory) s (Builtin.changeDirectory.run m args s).1
        (Builtin.changeDirectory.run m args s).2 := by
  have hmoved := moved_movedTo m goal directory s
  have hword := announced_iff_of_target htarget
  have hexecute : runChangeDirectory m args s =
      if goal.announced then
        match (movedTo m goal directory s).print (enteredPath m goal directory ++ "\n") with
        | (t, .ok ()) => (t, .ok 0)
        | (t, .error cause) => (t, .error (.write cause))
      else (movedTo m goal directory s, .ok 0) := by
    simp only [runChangeDirectory, htarget, henter]
    rfl
  simp only [run, execute, hexecute]
  cases hannounced : goal.announced with
  | false =>
      rw [hannounced] at hword
      exact ⟨hmoved, .silent (mt hword.2 Bool.false_ne_true) rfl⟩
  | true =>
      -- What is written does not depend on the move, nor does what becomes of it.
      have hprinted := hmoved.write .standardOutput (enteredPath m goal directory ++ "\n")
      have hprint : (movedTo m goal directory s).print (enteredPath m goal directory ++ "\n")
          = (((movedTo m goal directory s).print (enteredPath m goal directory ++ "\n")).1,
            (s.print (enteredPath m goal directory ++ "\n")).2) := rfl
      rw [if_pos rfl, hprint]
      cases hresult : (s.print (enteredPath m goal directory ++ "\n")).2 with
      | ok _ => exact ⟨hprinted, .written (hword.1 hannounced) hresult rfl⟩
      | error cause =>
          exact ⟨hprinted.write .standardError _, .refused (hword.1 hannounced) hresult rfl⟩

/-- A session that stays where it is is changed in nothing else either. -/
theorem runChangeDirectory_of_stays {e : Error} (h : Stays m args s e) :
    runChangeDirectory m args s = (s, .error e) := by
  cases h with
  | noTarget hnone => simp only [runChangeDirectory, target_eq_error_iff.2 hnone]
  | cannotEnter htarget henter => simp only [runChangeDirectory, htarget, henter]

/-- A session that stays does nothing but report why. -/
theorem run_changeDirectory_of_stays {e : Error} (h : Stays m args s e) :
    Builtin.changeDirectory.run m args s = (s.complain e.message, 2) := by
  simp only [run, execute, runChangeDirectory_of_stays h]
  cases h with
  | noTarget hnone => cases hnone <;> rfl
  | cannotEnter htarget henter => rfl

/-- The standard output takes nothing any more, and the session moves nevertheless. -/
example :
    let m : Machine :=
      { Machine.bare fun _ _ => .quiet (.ok (.exited 0)) with
        files := .ofEntries [(["a"], .directory)] }
    let s : Session :=
      { Session.fresh (Environment.empty.put "OLDPWD" "/a") with
        journal := Journal.new (some 0) none }
    let ran := Builtin.changeDirectory.run m ["-"] s
    ran.2 = 1 ∧ ran.1.directory = ["a"] ∧ ran.1.state.environment.get? "PWD" = some "/a" ∧
      ran.1.state.environment.get? "OLDPWD" = some "/" := by
  decide +kernel

/-- A directory whose name is not text is entered along a link that has a name for it. -/
example :
    let m : Machine :=
      { Machine.bare fun _ _ => .quiet (.ok (.exited 0)) with
        files := .ofEntries [([⟨[0xFF]⟩], .directory), (["l"], .link (.foreign [0xFF]))] }
    let ran := Builtin.changeDirectory.run m ["l"] (Session.fresh Environment.empty)
    ran.2 = 0 ∧ ran.1.directory = [⟨[0xFF]⟩] ∧
      ran.1.state.environment.get? "PWD" = some "/\uFFFD" ∧
      ran.1.state.environment.get? "OLDPWD" = some "/" := by
  decide +kernel

end Builtin

end CommandShell
