import CommandShell.File.Search
import CommandShell.Proofs.SingleCommands

/-!
# The Order of a Search

A name without a slash is looked for along the search path, and the first entry that
has a program of that name wins. What else is called by that name in earlier entries
makes no difference, be it a directory or a file that cannot be run.

A search path is one text. It is cut at every colon, so that an entry is empty where
two colons meet and where a colon begins or ends the text, and such an entry stands for
the directory where one stands. An entry always yields a path with a slash in it. If
that is given instead of the name it leads to the same program, without a search. The
other rule for names with a slash, which tells a file that cannot be run from one that
is missing, has no part in the search: along a search path nothing is ever denied.

## Main definitions

* `pathEntries`: The entries of a search path.
* `candidate`: The path that is tried for a name in an entry.
* `Tree.searchIn`: The program that a name means in some entries.
* `Tree.Missing`: There is no program of a name.

## Theorems

* `intercalate_pathEntries`, `pathEntries_append`: A search path is cut at its colons.
* `searchIn_eq_ok_iff`: The first entry that has the program wins.
* `resolve_eq_notFound_iff`: When a search is in vain.
* `resolve_eq_permissionDenied_iff`: Only a name with a slash can be denied.
* `search_in_order`: How a name is looked for along a search path.
-/

namespace CommandShell

namespace File

open Text Line

/-! ### Search paths -/

/-- The entries of a search path. -/
def pathEntries (path : String) : List String :=
  (fields isColon path.toList).map String.ofList

/-- The path that is tried for a name in an entry; an empty entry is written `.`. -/
def candidate (name entry : String) : String :=
  join (if entry = "" then "." else entry) name

theorem pathEntries_append (p q : String) :
    pathEntries (p ++ ":" ++ q) = pathEntries p ++ pathEntries q := by
  have h : (p ++ ":" ++ q).toList = p.toList ++ ':' :: q.toList := by simp
  rw [pathEntries, h, fields_append_cons (by decide), List.map_append]
  rfl

theorem pathEntries_of_not_mem {path : String} (h : ':' ∉ path.toList) :
    pathEntries path = [path] := by
  have hplain : ∀ c ∈ path.toList, isColon c = false := by
    intro c hc
    refine decide_eq_false ?_
    rintro rfl
    exact h hc
  rw [pathEntries, fields_of_forall hplain, List.map_singleton, String.ofList_toList]

/-- A search path is put together from its entries. -/
theorem intercalate_pathEntries (path : String) : ":".intercalate (pathEntries path) = path := by
  have hcolons : ∀ c ∈ path.toList, isColon c = true → c = ':' := fun _ _ hc =>
    of_decide_eq_true hc
  apply String.toList_injective
  rw [String.toList_intercalate, pathEntries, List.map_map]
  simpa using intercalate_fields hcolons

theorem pathEntries_ne_nil (path : String) : pathEntries path ≠ [] :=
  mt List.map_eq_nil_iff.1 (fields_ne_nil path.toList)

theorem colon_not_mem_of_mem_pathEntries {path entry : String} (h : entry ∈ pathEntries path) :
    ':' ∉ entry.toList := by
  obtain ⟨field, hfield, rfl⟩ := List.mem_map.1 h
  rw [String.toList_ofList]
  exact fun hmem => absurd (not_mem_of_mem_fields hfield ':' hmem) (by decide)

/-- The directories that a search path lists are its entries, the empty ones written
    out. -/
theorem searchPath_eq (path : String) :
    searchPath path = (pathEntries path).map fun entry => if entry = "" then "." else entry := by
  rw [searchPath, pathEntries, List.map_map]
  refine List.map_congr_left fun field _ => ?_
  cases field with
  | nil => rfl
  | cons c rest => simp

/-- What is tried in an entry is a path, even where the entry is empty. -/
theorem slash_mem_candidate {name : String} (hslash : '/' ∉ name.toList) (entry : String) :
    '/' ∈ (candidate name entry).toList := by
  have hrelative : isAbsolute name = false := by
    refine decide_eq_false fun hhead => hslash ?_
    exact List.mem_of_mem_head? hhead
  -- An empty entry stands for the current directory, so the name is put below something.
  have hne : (if entry = "" then "." else entry) ≠ "" := by
    split
    · decide
    · assumption
  unfold candidate
  generalize (if entry = "" then "." else entry) = directory at hne
  unfold join
  rw [hrelative, if_neg Bool.false_ne_true]
  cases hends : endsInSlash directory with
  | true =>
      have hlast : directory.toList.getLast? = some '/' := of_decide_eq_true hends
      simp [List.mem_of_getLast? hlast]
  | false => simp [hne]

/-! ### Searches -/

namespace Tree

variable {tree : Tree} {here : Location} {env : Environment} {name : String}

/-- The program that a name means in some entries of a search path. -/
def searchIn (tree : Tree) (here : Location) (name : String) (entries : List String) :
    Except SearchError String :=
  match (entries.map (candidate name)).find? (tree.isExecutable here) with
  | some program => .ok program
  | none => .error .notFound

theorem searchIn_append (es fs : List String) :
    tree.searchIn here name (es ++ fs) =
      match tree.searchIn here name es with
      | .ok program => .ok program
      | .error _ => tree.searchIn here name fs := by
  simp only [searchIn, List.map_append, List.find?_append]
  cases (es.map (candidate name)).find? (tree.isExecutable here) <;> rfl

theorem searchIn_singleton (entry : String) :
    tree.searchIn here name [entry] =
      if tree.isExecutable here (candidate name entry) then .ok (candidate name entry)
      else .error .notFound := by
  cases h : tree.isExecutable here (candidate name entry) <;> simp [searchIn, h]

/-- The first entry that has the program wins. -/
theorem searchIn_eq_ok_iff {es : List String} {program : String} :
    tree.searchIn here name es = .ok program ↔
      ∃ earlier entry later, es = earlier ++ entry :: later ∧ candidate name entry = program ∧
        tree.isExecutable here program = true ∧
        ∀ e ∈ earlier, tree.isExecutable here (candidate name e) = false := by
  have hfind : tree.searchIn here name es = .ok program ↔
      (es.map (candidate name)).find? (tree.isExecutable here) = some program := by
    unfold searchIn
    cases (es.map (candidate name)).find? (tree.isExecutable here) <;> simp
  rw [hfind, List.find?_eq_some_iff_append]
  constructor
  · rintro ⟨hruns, before, after, hsplit, hbefore⟩
    obtain ⟨earlier, rest, rfl, rfl, hrest⟩ := List.map_eq_append_iff.1 hsplit
    -- The entry is recovered from its candidate.
    obtain ⟨entry, later, rfl, rfl, _⟩ := List.map_eq_cons_iff.1 hrest
    exact ⟨earlier, entry, later, rfl, rfl, hruns, by simpa using hbefore⟩
  · rintro ⟨earlier, entry, later, rfl, rfl, hruns, hearlier⟩
    exact ⟨hruns, earlier.map (candidate name), later.map (candidate name), by simp,
      by simpa using hearlier⟩

theorem searchIn_eq_notFound_iff {es : List String} :
    tree.searchIn here name es = .error .notFound ↔
      ∀ entry ∈ es, tree.isExecutable here (candidate name entry) = false := by
  unfold searchIn
  cases h : (es.map (candidate name)).find? (tree.isExecutable here) with
  | none => simpa using h
  | some program =>
      refine iff_of_false (by simp) fun hnone => ?_
      obtain ⟨entry, hentry, rfl⟩ := List.mem_map.1 (List.mem_of_find?_eq_some h)
      exact Bool.false_ne_true ((hnone entry hentry).symm.trans (List.find?_some h))

/-- There is no program of a name: nothing stands where the name leads to, or no entry of
    the search path has a program of that name. -/
def Missing (tree : Tree) (here : Location) (env : Environment) (name : String) : Prop :=
  name = "" ∨
    if '/' ∈ name.toList then tree.exists? here name = false
    else ∀ path, env.get? "PATH" = some path →
      ∀ entry ∈ pathEntries path, tree.isExecutable here (candidate name entry) = false

/-- A name that is no path is looked for in the entries of the search path. -/
theorem resolve_eq_searchIn (hname : name ≠ "") (hslash : '/' ∉ name.toList) {path : String}
    (hpath : env.get? "PATH" = some path) :
    tree.resolve here env name = tree.searchIn here name (pathEntries path) := by
  have hcandidates :
      (searchPath path).map (join · name) = (pathEntries path).map (candidate name) := by
    rw [searchPath_eq, List.map_map]
    rfl
  simp only [resolve, if_neg hname, if_neg hslash, hpath, firstExecutable?, hcandidates]
  rfl

/-- A path that leads to a program means it, whatever the variables are. -/
theorem resolve_of_isExecutable {program : String} (hslash : '/' ∈ program.toList)
    (hruns : tree.isExecutable here program = true) (env : Environment) :
    tree.resolve here env program = .ok program := by
  have hne : program ≠ "" := by
    rintro rfl
    simp at hslash
  simp [resolve, hne, hslash, exists?_of_isExecutable hruns, hruns]

theorem resolve_eq_notFound_iff :
    tree.resolve here env name = .error .notFound ↔ tree.Missing here env name := by
  unfold Missing
  by_cases hname : name = ""
  · simp [resolve, hname]
  · by_cases hslash : '/' ∈ name.toList
    · simp only [resolve, if_pos hslash, hname, false_or]
      -- Denied and not found differ in whether there is anything under the name.
      cases tree.exists? here name <;> cases tree.isExecutable here name <;> simp
    · simp only [hname, if_neg hslash, false_or]
      cases hpath : env.get? "PATH" with
      | none => simp [resolve, hname, hslash, hpath]
      | some path =>
          rw [resolve_eq_searchIn hname hslash hpath, searchIn_eq_notFound_iff]
          simp

/-- What is denied was asked for by its path, and is something that cannot be run. -/
theorem resolve_eq_permissionDenied_iff :
    tree.resolve here env name = .error .permissionDenied ↔
      '/' ∈ name.toList ∧ tree.exists? here name = true ∧ tree.isExecutable here name = false := by
  by_cases hslash : '/' ∈ name.toList
  · have hne : name ≠ "" := by
      rintro rfl
      simp at hslash
    simp only [resolve, if_neg hne, if_pos hslash]
    cases tree.exists? here name <;> cases tree.isExecutable here name <;> simp [hslash]
  · refine iff_of_false (fun hdenied => ?_) fun h => hslash h.1
    unfold resolve at hdenied
    rw [if_neg hslash] at hdenied
    -- No way through the search ends with this error.
    split at hdenied
    · cases hdenied
    · split at hdenied
      · cases hdenied
      · split at hdenied <;> cases hdenied

/-- A name that is no path is looked for along the search path, entry by entry, and the
    first entry that has a program of that name wins; what cannot be run is passed over.
    Two search paths with a colon between them are searched one after the other. Nothing
    is denied, and what is found is found as well when it is asked for by its path. -/
theorem search_in_order (tree : Tree) (here : Location) (env : Environment) {name : String}
    (hname : name ≠ "") (hslash : '/' ∉ name.toList) :
    let found := fun path => tree.resolve here (env.put "PATH" path) name
    (∀ p q, found (p ++ ":" ++ q) =
      match found p with
      | .ok program => .ok program
      | .error _ => found q) ∧
    (∀ path, ':' ∉ path.toList →
      found path =
        if tree.isExecutable here (candidate name path) then .ok (candidate name path)
        else .error .notFound) ∧
    (∀ path, ∃ es, es ≠ [] ∧ (∀ entry ∈ es, ':' ∉ entry.toList) ∧ ":".intercalate es = path ∧
      ∀ program, found path = .ok program ↔
        ∃ earlier entry later, es = earlier ++ entry :: later ∧ candidate name entry = program ∧
          tree.isExecutable here program = true ∧
          ∀ e ∈ earlier, tree.isExecutable here (candidate name e) = false) ∧
    (∀ path, found path ≠ .error .permissionDenied) ∧
    ∀ path program env', found path = .ok program →
      tree.resolve here env' program = .ok program := by
  intro found
  have hfound : ∀ path, found path = tree.searchIn here name (pathEntries path) := fun path =>
    resolve_eq_searchIn hname hslash ((env.get?_put "PATH" path "PATH").trans (if_pos rfl))
  refine ⟨fun p q => ?_, fun path hcolon => ?_, fun path => ?_, fun path => ?_, ?_⟩
  · simp only [hfound, pathEntries_append]
    exact searchIn_append (pathEntries p) (pathEntries q)
  · rw [hfound, pathEntries_of_not_mem hcolon]
    exact searchIn_singleton path
  · refine ⟨pathEntries path, pathEntries_ne_nil path,
      fun _ => colon_not_mem_of_mem_pathEntries, intercalate_pathEntries path, ?_⟩
    intro program
    rw [hfound]
    exact searchIn_eq_ok_iff
  · exact fun hdenied => hslash (resolve_eq_permissionDenied_iff.1 hdenied).1
  -- A program that was found has a slash in its path, so it is not searched for again.
  · intro path program env' hok
    rw [hfound] at hok
    obtain ⟨_, entry, _, _, rfl, hruns, _⟩ := searchIn_eq_ok_iff.1 hok
    exact resolve_of_isExecutable (slash_mem_candidate hslash entry) hruns env'

/-- A file that cannot be run and a directory are passed over, and the program is found
    where one stands, as an entry is empty before the one that has it as well. -/
theorem search_in_order_passes_over :
    let tree : Tree :=
      .ofEntries [(["a"], .directory), (["a", "t"], .regular [] false), (["b"], .directory),
        (["b", "t"], .directory), (["c"], .directory), (["c", "t"], .regular [] true),
        (["d"], .directory), (["d", "t"], .regular [] true)]
    let env := Environment.empty.put "PATH" "/a:/b/::/d"
    "t" ≠ "" ∧ '/' ∉ "t".toList ∧ tree.resolve ["c"] env "t" = .ok "./t" ∧
      tree.resolve ["c"] Environment.empty "./t" = .ok "./t" := by
  intro tree env
  have hname : "t" ≠ "" := by decide
  have hslash : '/' ∉ "t".toList := by decide
  have hfound : tree.resolve ["c"] env "t" = .ok "./t" := by decide +kernel
  have hsearch := search_in_order tree ["c"] Environment.empty hname hslash
  exact ⟨hname, hslash, hfound, hsearch.2.2.2.2 "/a:/b/::/d" "./t" Environment.empty hfound⟩

end Tree

end File

end CommandShell
