import CommandShell.Bindings
import CommandShell.Text.Utf8

/-!
# The Environment

The variables that a session keeps for itself and hands to every program it
starts. A program receives each variable as `NAME=VALUE`, ended by a NUL, so
a name that is set has to be free of both characters and must not be empty.
The values are not checked.

A session begins with the variables of the process it runs in, each an entry
of bytes `NAME=VALUE`. An entry is cut at its first `=`, its first byte not
counted. Entries of which the name or the value is not UTF-8 are left out, and
the programs that the session starts do not see them either.

## Main definitions

* `Environment`: The variables of a session.
* `Environment.NameError`: Why a name is refused.
* `Environment.set`: The environment with one variable set.
* `Environment.unset`: The environment without one variable.
* `splitEntry?`: The name and the value in an entry.
* `Environment.inherited`: The variables of the process, as far as they are
  text.
* `Environment.firstValue?`: The value that the system itself finds in the
  entries of a process.

## Theorems

* `get?_set`: What is found after a variable has been set.
* `get?_unset`: What is found after a variable has been removed.
-/

namespace CommandShell

open Text

/-- The variables of a session. -/
@[ext]
structure Environment where
  bindings : Bindings
deriving DecidableEq

namespace Environment

/-- Why a name is refused. -/
inductive NameError where
  | empty
  /-- The name holds `=` or a NUL. -/
  | invalid (name : String)
deriving DecidableEq

/-- The wording of a refusal. -/
def NameError.message : NameError → String
  | .empty => "empty variable name"
  | .invalid name => "invalid variable name: " ++ name

/-- The environment without variables. -/
def empty : Environment :=
  ⟨Bindings.empty⟩

/-- The value of a variable, if it is set. -/
def get? (env : Environment) (name : String) : Option String :=
  env.bindings.get? name

/-- The variables in the order of their names. -/
def toList (env : Environment) : List (String × String) :=
  env.bindings.toList

/-- The number of variables. -/
def size (env : Environment) : Nat :=
  env.bindings.size

/-- The environment with a variable set to a value, whatever its name. -/
def put (env : Environment) (name value : String) : Environment :=
  ⟨env.bindings.insert name value⟩

/-- The environment with a variable set to a value, if the name is fit for one. -/
def set (env : Environment) (name value : String) : Except NameError Environment :=
  if name = "" then .error .empty
  else if name.toList.any fun c => c = '=' || c = '\x00' then .error (.invalid name)
  else .ok (env.put name value)

/-- The environment without a variable. -/
def unset (env : Environment) (name : String) : Environment :=
  ⟨env.bindings.erase name⟩

/-- The environment of a list of variables, of which later ones win; those without a name
    are left out. -/
def ofList (pairs : List (String × String)) : Environment :=
  ⟨Bindings.ofList (pairs.filter fun e => e.1 ≠ "")⟩

/-- The byte between the name and the value of an entry. -/
def equalsByte : UInt8 := 0x3D

/-- The name and the value in an entry: the parts before and after the first `=` behind
    the first byte. -/
def splitEntry? : Bytes → Option (Bytes × Bytes)
  | [] => none
  | first :: rest =>
      match rest.dropWhile (· ≠ equalsByte) with
      | [] => none
      | _ :: value => some (first :: rest.takeWhile (· ≠ equalsByte), value)

/-- The variable in an entry, if both its name and its value are text. -/
def readEntry? (entry : Bytes) : Option (String × String) :=
  match splitEntry? entry with
  | none => none
  | some (name, value) =>
      match decode? name, decode? value with
      | some n, some v => some (n, v)
      | _, _ => none

/-- The variables of a process that are text. -/
def inherited (entries : List Bytes) : Environment :=
  ofList (entries.filterMap readEntry?)

/-- The entry for a variable. -/
def entry (name value : Bytes) : Bytes :=
  name ++ equalsByte :: value

/-- What stands behind `name=` in the first entry that begins so. -/
def firstValue? (name : Bytes) (entries : List Bytes) : Option Bytes :=
  (entries.find? (entry name []).isPrefixOf).map (·.drop (name.length + 1))

theorem get?_put (env : Environment) (name value n : String) :
    (env.put name value).get? n = if n = name then some value else env.get? n :=
  env.bindings.get?_insert name value n

theorem get?_unset (env : Environment) (name n : String) :
    (env.unset name).get? n = if n = name then none else env.get? n :=
  env.bindings.get?_erase name n

theorem set_eq_ok_iff {env env' : Environment} {name value : String} :
    env.set name value = .ok env'
      ↔ name ≠ "" ∧ '=' ∉ name.toList ∧ '\x00' ∉ name.toList ∧ env' = env.put name value := by
  unfold set
  split
  · simp_all
  · split
    · rename_i hempty hany
      simp only [List.any_eq_true, Bool.or_eq_true, decide_eq_true_eq] at hany
      obtain ⟨c, hc, rfl | rfl⟩ := hany <;> simp [hc]
    · rename_i hempty hany
      simp only [List.any_eq_true, Bool.or_eq_true, decide_eq_true_eq, not_exists, not_and,
        not_or] at hany
      have heq : '=' ∉ name.toList := fun h => (hany _ h).1 rfl
      have hnul : '\x00' ∉ name.toList := fun h => (hany _ h).2 rfl
      simp [hempty, heq, hnul, eq_comm]

theorem get?_set {env env' : Environment} {name value : String}
    (h : env.set name value = .ok env') (n : String) :
    env'.get? n = if n = name then some value else env.get? n := by
  obtain ⟨_, _, _, rfl⟩ := set_eq_ok_iff.1 h
  exact env.get?_put name value n

/-- An environment is determined by the values of its variables. -/
theorem ext_get? {a b : Environment} (h : ∀ name, a.get? name = b.get? name) : a = b :=
  Environment.ext (Bindings.ext_get? h)

end Environment

end CommandShell
