import CommandShell.Program.Launch
import CommandShell.Proofs.PathTexts
import CommandShell.Proofs.Spawning
import Mathlib.Data.List.Induction

/-!
# What Can Be Handed to Programs

A program receives each variable as a text `NAME=VALUE` that a NUL ends. The
environment can be handed over if every name is the one that the program will
read and no text is cut short, so no name may be empty or hold `=` or a NUL,
and no value may hold a NUL. As soon as there is a NUL in one of them, no program
can be started any more, whatever its own arguments are.

Variables are set in two ways. The move to another directory sets two of them,
to paths of directories that were entered, and there is no NUL in these. The
builtin `setenv` sets one to a value that was typed. It looks at the name and
refuses one that cannot be handed over, but not at the value. A line with a NUL
in the value spoils the environment for all programs that follow, and this is
the only thing that does.

## Main definitions

* `Environment.IsExportable`: An environment that can be handed over.
* `Assignment.IsSound`: An assignment that can be part of one.
* `File.Tree.IsNulFree`: The names of the files hold no NUL.
* `Session.Turn.Spoils`: A variable is set to a value with a NUL.

## Theorems

* `exportable_put_iff`: What setting a variable does to an environment.
* `sound_moveAssignments`: A move assigns nothing that cannot be handed over.
* `exportable_turn_iff`: An environment is spoiled in no other way.
* `answer_of_nul`: A spoiled environment keeps every program from being started.
* `exportable_iff_not_spoils`: So it is throughout a history.
-/

namespace CommandShell

namespace Environment

/-- An environment that can be handed to programs. -/
def IsExportable (env : Environment) : Prop :=
  ∀ e ∈ env.toList, IsName e.1 ∧ '\x00' ∉ e.2.toList

instance (env : Environment) : Decidable env.IsExportable :=
  inferInstanceAs (Decidable (∀ e ∈ env.toList, IsName e.1 ∧ '\x00' ∉ e.2.toList))

variable {env : Environment} {name value : String}

theorem mem_toList_of_get? (h : env.get? name = some value) : (name, value) ∈ env.toList := by
  rcases List.lookup_eq_some_iff.1 h with ⟨front, back, hsplit, _⟩
  rw [toList, hsplit]
  exact List.mem_append_right front List.mem_cons_self

/-- An environment with one more variable can be handed over exactly if the variable
    can. -/
theorem exportable_put_iff (h : env.IsExportable) :
    (env.put name value).IsExportable ↔ IsName name ∧ '\x00' ∉ value.toList := by
  constructor
  -- The variable is among those of the environment, which are all checked.
  · intro hput
    have hfound : (env.put name value).get? name = some value := by rw [get?_put, if_pos rfl]
    exact hput (name, value) (mem_toList_of_get? hfound)
  · intro hsound e he
    rcases Bindings.mem_insertEntry he with rfl | he
    · exact hsound
    · exact h e he

theorem exportable_unset (h : env.IsExportable) : (env.unset name).IsExportable := by
  intro e he
  exact h e (List.mem_of_mem_filter he)

end Environment

/-- An assignment after which an environment can be handed over as before. -/
def Assignment.IsSound : Assignment → Prop
  | .put name value => Environment.IsName name ∧ '\x00' ∉ value.toList
  | .unset _ => True

theorem Environment.exportable_assignAll {env : Environment} (h : env.IsExportable)
    {as : List Assignment} (hsound : ∀ a ∈ as, a.IsSound) : (env.assignAll as).IsExportable := by
  induction as generalizing env with
  | nil => exact h
  -- Each assignment finds the environment as the ones before have left it.
  | cons a more ih =>
      have hfirst : (env.assign a).IsExportable := by
        cases a with
        | put name value => exact (exportable_put_iff h).2 (hsound _ List.mem_cons_self)
        | unset name => exact exportable_unset h
      exact ih hfirst fun b hb => hsound b (List.mem_cons_of_mem a hb)

/-! ### Paths of directories -/

namespace File

/-- None of the names in a tree holds a NUL. There are no others on a system, since a NUL
    ends the path that would name them. -/
def Tree.IsNulFree (tree : Tree) : Prop :=
  ∀ e ∈ tree.entries, ∀ name ∈ e.1, 0 ∉ name.bytes

instance (tree : Tree) : Decidable tree.IsNulFree :=
  inferInstanceAs (Decidable (∀ e ∈ tree.entries, ∀ name ∈ e.1, 0 ∉ name.bytes))

theorem Tree.nul_not_mem_currentPath {tree : Tree} (h : tree.IsNulFree) {here : Location}
    {path : String} (hpath : tree.currentPath? here = some path) : '\x00' ∉ path.toList := by
  rw [currentPath?_eq] at hpath
  split at hpath
  · rename_i hdirectory
    rw [← Option.some.inj hpath]
    refine Location.nul_not_mem_toPath ?_
    -- The root has no name, and any other directory is an entry of the tree.
    cases here with
    | nil => simp
    | cons name more =>
        have hentry : tree.entries.lookup (name :: more) = some .directory := by
          exact of_decide_eq_true hdirectory
        rcases List.lookup_eq_some_iff.1 hentry with ⟨front, back, hsplit, _⟩
        refine h (name :: more, .directory) ?_
        rw [hsplit]
        exact List.mem_append_right front List.mem_cons_self
  · cases hpath

end File

/-! ### What builtins assign -/

namespace Builtin

variable {m : Machine} {env : Environment} {here : File.Location}

theorem sound_moveAssignments (hfiles : m.files.IsNulFree) (henv : env.IsExportable)
    {goal : File.RawPath} {directory : File.Location}
    (hentered : m.files.enter here goal = .ok directory) :
    ∀ a ∈ moveAssignments m env here goal directory, a.IsSound := by
  intro a ha
  rcases List.mem_append.1 ha with hleft | hcurrent
  · -- What is left has a path in the tree or else the value that `PWD` has so far.
    rcases Option.map_eq_some_iff.1 (Option.mem_toList.1 hleft) with ⟨left, hknown, rfl⟩
    refine ⟨by decide, ?_⟩
    rcases Option.or_eq_some_iff.1 hknown with hpath | ⟨_, hpwd⟩
    · exact File.Tree.nul_not_mem_currentPath hfiles hpath
    · exact (henv _ (Environment.mem_toList_of_get? hpwd)).2
  · rw [List.mem_singleton.1 hcurrent]
    refine ⟨by decide, ?_⟩
    -- The new directory has no path if it was removed; then the text of the goal is taken.
    cases hpath : m.files.currentPath? directory with
    | some path => exact File.Tree.nul_not_mem_currentPath hfiles hpath
    | none => exact File.Tree.nul_not_mem_shown hentered

/-- Only `setenv` can assign what cannot be handed over, and only if a NUL is in the
    value. -/
theorem sound_assignments (hfiles : m.files.IsNulFree) (henv : env.IsExportable)
    (here : File.Location) (b : Builtin) (args : List String) :
    (∀ a ∈ b.assignments m env here args, a.IsSound) ∨
      b = .setVariable ∧ ∃ name value, args = [name, value] ∧ Environment.IsName name ∧
        '\x00' ∈ value.toList := by
  cases b with
  -- The builtin checks the name, so it is left to see what the value is.
  | setVariable =>
      match args with
      | [name, value] =>
          by_cases hname : Environment.IsName name
          · by_cases hnul : '\x00' ∈ value.toList
            · exact Or.inr ⟨rfl, name, value, rfl, hname, hnul⟩
            · refine Or.inl fun a ha => ?_
              rw [assignments, if_pos hname, List.mem_singleton] at ha
              rw [ha]
              exact ⟨hname, hnul⟩
          · refine Or.inl fun a ha => ?_
            rw [assignments, if_neg hname] at ha
            cases ha
      | [] => exact Or.inl (by simp [assignments])
      | [_] => exact Or.inl (by simp [assignments])
      | _ :: _ :: _ :: _ => exact Or.inl (by simp [assignments])
  | unsetVariables =>
      refine Or.inl fun a ha => ?_
      rcases List.mem_map.1 ha with ⟨name, _, rfl⟩
      trivial
  | changeDirectory =>
      refine Or.inl ?_
      simp only [assignments]
      split
      · simp
      · split
        · simp
        · rename_i hentered
          exact sound_moveAssignments hfiles henv hentered
  | _ => exact Or.inl (by simp [assignments])

end Builtin

namespace Session

/-- In a turn a variable is set to a value that holds a NUL. -/
def Turn.Spoils (turn : Turn) : Prop :=
  ∃ name value, turn.command = [Builtin.setVariable.name, name, value] ∧
    Environment.IsName name ∧ '\x00' ∈ value.toList

/-- An environment that can be handed over is spoiled in no other way. -/
theorem exportable_turn_iff {turn : Turn} (hfiles : turn.machine.files.IsNulFree)
    (h : turn.before.state.environment.IsExportable) :
    turn.after.state.environment.IsExportable ↔ ¬ turn.Spoils := by
  rw [environment_turn]
  constructor
  -- What is assigned in a turn that spoils is this one value.
  · rintro hafter ⟨name, value, hcommand, hname, hnul⟩
    have hassigned : turn.assignments = [.put name value] := by
      rw [Turn.assignments, hcommand]
      simp only [Builtin.ofName?_name, Builtin.assignments, if_pos hname]
    rw [hassigned] at hafter
    exact ((Environment.exportable_put_iff h).1 hafter).2 hnul
  -- In any other turn all assignments are sound, be it that there are none.
  · intro hclean
    refine Environment.exportable_assignAll h ?_
    unfold Turn.assignments
    cases hcommand : turn.command with
    | nil => simp
    | cons leading args =>
        dsimp only
        cases hb : Builtin.ofName? leading with
        | none => simp
        | some b =>
            rcases Builtin.sound_assignments hfiles h turn.before.directory b args
              with hsound | ⟨rfl, name, value, rfl, hname, hnul⟩
            · exact hsound
            · rw [← Builtin.name_of_ofName? hb] at hcommand
              exact absurd ⟨name, value, hcommand, hname, hnul⟩ hclean

/-- Nothing in an environment that can be handed over keeps a program from being
    started. -/
theorem canBeHanded_of_exportable {r : Child.Request} (h : r.environment.IsExportable) :
    Program.canBeHanded r
      = (Program.isHandable r.program && r.arguments.all Program.isHandable) := by
  unfold Program.canBeHanded
  rw [Bool.and_eq_left_iff_imp]
  intro _
  rw [List.all_eq_true]
  intro e he
  rcases h e he with ⟨hname, hvalue⟩
  simp [Program.isHandable, hname.2.2, hvalue]

/-- One value with a NUL keeps every program from being started. -/
theorem answer_of_nul (files : File.Tree) {r : Child.Request} {name value : String}
    (hvalue : r.environment.get? name = some value) (hnul : '\x00' ∈ value.toList) :
    Program.answer files r = .quiet (.error (.spawn .nulInCommand)) := by
  have hrefused : ¬ Program.canBeHanded r = true := by
    intro hhanded
    rw [Program.canBeHanded, Bool.and_eq_true, List.all_eq_true] at hhanded
    have hentry := hhanded.2 (name, value) (Environment.mem_toList_of_get? hvalue)
    simp [Program.isHandable, hnul] at hentry
  rw [Program.answer, if_neg hrefused]

variable {s t : Session} {turns : List Turn}

theorem invariant_exportable (h : s.state.environment.IsExportable) :
    Invariant (·.files.IsNulFree) s fun turns t =>
      (∀ turn ∈ turns, ¬ turn.Spoils) → t.state.environment.IsExportable where
  start := fun _ => h
  begin := fun _ _ _ ih => ih
  turn := by
    intro turns turn hfiles ih hclean
    have hbefore := ih fun x hx => hclean x (List.mem_append_left [turn] hx)
    exact (exportable_turn_iff hfiles hbefore).2
      (hclean turn (List.mem_append_right turns List.mem_cons_self))
  write := fun _ _ _ _ ih => ih
  watch := fun _ _ _ ih => ih

/-- As long as nothing was spoiled, a turn can be told by what it leaves. -/
theorem Course.exportable_turn_iff (hcourse : Course (·.files.IsNulFree) s turns t)
    (h : s.state.environment.IsExportable)
    {earlier later : List Turn} {turn : Turn} (hturns : turns = earlier ++ turn :: later)
    (hclean : ∀ x ∈ earlier, ¬ x.Spoils) :
    turn.before.state.environment.IsExportable ∧
      (turn.after.state.environment.IsExportable ↔ ¬ turn.Spoils) := by
  rcases hcourse.invariant_before (invariant_exportable h) hturns with ⟨hfiles, hbefore⟩
  exact ⟨hbefore hclean, Session.exportable_turn_iff hfiles (hbefore hclean)⟩

theorem Course.not_spoils_of_exportable (hcourse : Course (·.files.IsNulFree) s turns t)
    (h : s.state.environment.IsExportable)
    (hafter : ∀ turn ∈ turns, turn.after.state.environment.IsExportable) :
    ∀ turn ∈ turns, ¬ turn.Spoils := by
  -- The induction is on the first turns, since each needs that those before it spoil nothing.
  have hfront : ∀ earlier later, turns = earlier ++ later → ∀ x ∈ earlier, ¬ x.Spoils := by
    intro earlier
    induction earlier using List.reverseRecOn with
    | nil => simp
    | append_singleton front turn ih =>
        intro later hturns x hx
        rw [List.append_assoc, List.singleton_append] at hturns
        have hclean := ih (turn :: later) hturns
        rcases List.mem_append.1 hx with hx | hx
        · exact hclean x hx
        · have hmem : turn ∈ turns := by
            rw [hturns]
            exact List.mem_append_right front List.mem_cons_self
          rw [List.mem_singleton.1 hx]
          exact (hcourse.exportable_turn_iff h hturns hclean).2.1 (hafter turn hmem)
  exact hfront turns [] (List.append_nil turns).symm

theorem Course.exportable_of_not_spoils (hcourse : Course (·.files.IsNulFree) s turns t)
    (h : s.state.environment.IsExportable)
    (hclean : ∀ turn ∈ turns, ¬ turn.Spoils) {turn : Turn} (hmem : turn ∈ turns) :
    turn.before.state.environment.IsExportable ∧
      turn.after.state.environment.IsExportable := by
  rcases List.append_of_mem hmem with ⟨earlier, later, hturns⟩
  -- None of the turns before this one spoils anything.
  have hearlier : ∀ x ∈ earlier, ¬ x.Spoils := fun x hx =>
    hclean x (hturns ▸ List.mem_append_left _ hx)
  rcases hcourse.exportable_turn_iff h hturns hearlier with ⟨hbefore, hiff⟩
  exact ⟨hbefore, hiff.2 (hclean turn hmem)⟩

/-- In a history on files with proper names, an environment that can be handed over is so
    after every turn exactly if none of them sets a variable to a value with a NUL. If
    none does, it is so in the end, and no program that is asked for is refused for a text
    in its environment. -/
theorem exportable_iff_not_spoils (h : s.state.environment.IsExportable) (history : History)
    (hfiles : ∀ e ∈ history, e.1.files.IsNulFree) :
    ((∀ turn ∈ s.turnsDuring history, turn.after.state.environment.IsExportable)
      ↔ ∀ turn ∈ s.turnsDuring history, ¬ turn.Spoils) ∧
    ((∀ turn ∈ s.turnsDuring history, ¬ turn.Spoils) →
      (s.after history).state.environment.IsExportable ∧
      ∀ turn ∈ s.turnsDuring history, ∀ r ∈ turn.requests,
        Program.canBeHanded r
          = (Program.isHandable r.program && r.arguments.all Program.isHandable)) := by
  have hcourse : Course (·.files.IsNulFree) s (s.turnsDuring history) (s.after history) :=
    course_after s history hfiles
  refine ⟨⟨?_, fun hclean turn hmem => ?_⟩, fun hclean => ⟨?_, fun turn hmem r hr => ?_⟩⟩
  · exact hcourse.not_spoils_of_exportable h
  · exact (hcourse.exportable_of_not_spoils h hclean hmem).2
  · exact hcourse.invariant (invariant_exportable h) hclean
  -- The child gets the environment that the turn found.
  · have hbefore := (hcourse.exportable_of_not_spoils h hclean hmem).1
    refine canBeHanded_of_exportable ?_
    rw [(turn.requests_after.2.2 r hr).environment_eq]
    exact hbefore

/-- A move sets two variables, and a program is asked for behind it. -/
theorem exportable_iff_not_spoils_move :
    let m : Machine :=
      { Machine.bare fun _ _ => .quiet (.ok (.exited 0)) with
        files := .ofEntries [(["bin"], .directory), (["bin", "p"], .regular [] true)] }
    let s := Session.fresh (Environment.ofList [("PWD", "/")])
    let history : History := [(m, .line "setenv A b && cd bin && ./p")]
    s.state.environment.IsExportable ∧ m.files.IsNulFree ∧
      (∀ turn ∈ s.turnsDuring history, ¬ turn.Spoils) ∧
      (s.after history).state.environment.toList = [("A", "b"), ("OLDPWD", "/"), ("PWD", "/bin")] ∧
      (s.after history).journal.requests.length = 1 ∧
      ∀ turn ∈ s.turnsDuring history, ∀ r ∈ turn.requests,
        Program.canBeHanded r
          = (Program.isHandable r.program && r.arguments.all Program.isHandable) := by
  intro m s history
  have hfresh : s.state.environment.IsExportable := by decide +kernel
  have hfiles : m.files.IsNulFree := by decide +kernel
  have hhistory : ∀ e ∈ history, e.1.files.IsNulFree := by simpa [history] using hfiles
  have hafter : ∀ turn ∈ s.turnsDuring history, turn.after.state.environment.IsExportable := by
    decide +kernel
  rcases exportable_iff_not_spoils hfresh history hhistory with ⟨hiff, hhanded⟩
  have hclean := hiff.1 hafter
  exact ⟨hfresh, hfiles, hclean, by decide +kernel, by decide +kernel, (hhanded hclean).2⟩

/-- A value with a NUL is accepted. -/
theorem not_exportable_of_nul :
    ¬ ∀ (m : Machine) (s : Session) (lines : List String), m.files.IsNulFree →
      s.state.environment.IsExportable →
      (lines.foldl (evalLine m) s).state.environment.IsExportable := by
  intro h
  have hexportable := h (Machine.bare fun _ _ => .quiet (.ok (.exited 0)))
    (fresh Environment.empty) ["setenv A x\x00y"] (by decide +kernel) (by decide +kernel)
  exact absurd hexportable (by decide +kernel)

end Session

end CommandShell
