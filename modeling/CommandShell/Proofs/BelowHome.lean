import CommandShell.File.Home

/-!
# Paths Below the Home Directory

What stands behind `~/` is put below the home directory name by name. Putting a name below
a path is not as harmless as it looks: an absolute name takes the place of the whole path.
So `~//etc` would be `/etc` if everything behind the first slash were put below the home
directory at once. No name is absolute, since names are what is between the slashes.

The other thing to see is where slashes are added. Whether one is depends on the end of the
path so far, and only for the first name is that the end of the home directory, which may
be a slash. Each later name comes behind another one, which does not end in a slash.

## Main definitions

* `components`: The texts between slashes that are not empty.
* `pathBelow`: The path of some components below a directory.

## Theorems

* `names_eq_components`: The names in a path are its components.
* `foldl_join`: Components are put below a directory one after the other.
* `tilde_below_home`: What becomes of a `~` at the start of a path.
-/

namespace CommandShell

namespace File

open Text

/-- The texts between the slashes of a path, without the empty ones. -/
def components (path : String) : List String :=
  ((path.toList.splitOn '/').filter (· ≠ [])).map String.ofList

/-- A directory with a slash at its end. -/
def withSlash (directory : String) : String :=
  if endsInSlash directory then directory else directory ++ "/"

/-- Components below a directory, joined with single slashes. -/
def pathBelow (directory : String) : List String → String
  | [] => directory
  | first :: rest => withSlash directory ++ "/".intercalate (first :: rest)

/-! ### Components -/

theorem fields_eq_splitOn (cs : List Char) : fields isSlash cs = cs.splitOn '/' := by
  induction cs with
  | nil => rfl
  | cons c rest ih =>
      rw [List.splitOn_cons_eq_if_modifyHead, ← ih]
      -- A slash opens a new field in both; another character joins the first one.
      by_cases hc : c = '/'
      · have hslash : isSlash c = true := decide_eq_true hc
        rw [if_pos (beq_iff_eq.2 hc), fields_cons_of_separator hslash]
      · have hslash : isSlash c = false := decide_eq_false hc
        rw [if_neg (mt beq_iff_eq.1 hc)]
        cases hfields : fields isSlash rest with
        | nil => exact absurd hfields (fields_ne_nil rest)
        | cons field more => exact fields_cons_of_not hslash hfields

/-- The names in a path are its components. -/
theorem names_eq_components (path : String) : names path = components path := by
  have hsolid : (fun field : List Char => !field.isEmpty) = fun field => decide (field ≠ []) := by
    funext field
    cases field <;> rfl
  rw [names, solidFields, fields_eq_splitOn, hsolid, components]

/-- What a component is: it holds something, and no slash. -/
structure IsComponent (name : String) : Prop where
  ne_empty : name ≠ ""
  no_slash : '/' ∉ name.toList

theorem isComponent_of_mem {path name : String} (h : name ∈ components path) :
    IsComponent name := by
  rw [← names_eq_components, names] at h
  obtain ⟨field, hfield, rfl⟩ := List.mem_map.1 h
  obtain ⟨hmem, hsolid⟩ := List.mem_filter.1 hfield
  refine ⟨fun hempty => ?_, fun hslash => ?_⟩
  · rw [String.ofList_eq_empty_iff] at hempty
    rw [hempty] at hsolid
    cases hsolid
  · rw [String.toList_ofList] at hslash
    have hnot := not_mem_of_mem_fields hmem '/' hslash
    cases hnot

theorem IsComponent.isAbsolute {name : String} (h : IsComponent name) :
    isAbsolute name = false :=
  decide_eq_false fun hhead => h.no_slash (List.mem_of_head? hhead)

theorem IsComponent.endsInSlash_append {name : String} (h : IsComponent name) (base : String) :
    endsInSlash (base ++ name) = false := by
  refine decide_eq_false fun hlast => ?_
  have hsolid : name.toList ≠ [] := by simpa using h.ne_empty
  rw [String.toList_append, List.getLast?_append, List.getLast?_eq_some_getLast hsolid,
    Option.some_or, ← List.getLast?_eq_some_getLast hsolid] at hlast
  exact h.no_slash (List.mem_of_getLast? hlast)

/-! ### Putting components below a directory -/

/-- One component is put below a directory. -/
theorem IsComponent.join {name base : String} (h : IsComponent name) (hbase : base ≠ "") :
    File.join base name = withSlash base ++ name := by
  unfold File.join withSlash
  rw [h.isAbsolute]
  by_cases hend : endsInSlash base = true
  · simp [hend]
  · simp [hbase, hend]

/-- The first of several components may be put below the directory before the others. -/
theorem IsComponent.pathBelow_cons {first : String} (h : IsComponent first) (base : String)
    (rest : List String) :
    pathBelow base (first :: rest) = pathBelow (withSlash base ++ first) rest := by
  cases rest with
  | nil => rw [pathBelow, pathBelow, String.intercalate_singleton]
  | cons second more =>
      -- The component in front has no slash at its end, so that one is added.
      have hend : withSlash (withSlash base ++ first) = withSlash base ++ first ++ "/" := by
        rw [withSlash, h.endsInSlash_append, if_neg Bool.false_ne_true]
      rw [pathBelow, pathBelow, hend, String.intercalate_cons_cons]
      simp only [String.append_assoc]

/-- Components are put below a directory one after the other. -/
theorem foldl_join {base : String} (hbase : base ≠ "") {cs : List String}
    (h : ∀ name ∈ cs, IsComponent name) : cs.foldl join base = pathBelow base cs := by
  induction cs generalizing base with
  | nil => rfl
  | cons first rest ih =>
      obtain ⟨hfirst, hrest⟩ := List.forall_mem_cons.1 h
      -- Where one component has been put below, the next one is put below the result.
      have hnext : withSlash base ++ first ≠ "" := by
        simpa using fun _ => hfirst.ne_empty
      rw [List.foldl_cons, hfirst.join hbase, ih hnext hrest, ← hfirst.pathBelow_cons]

theorem foldl_below (base : String) (cs : List String) :
    cs.foldl RawPath.below (.text base) = .text (cs.foldl join base) := by
  induction cs generalizing base with
  | nil => rfl
  | cons first rest ih => exact ih (join base first)

/-- A path is put below a directory that is text. -/
theorem descend_text {base : String} (hbase : base ≠ "") (path : String) :
    descend (.text base) path = .text (pathBelow base (components path)) := by
  rw [descend, names_eq_components, foldl_below,
    foldl_join hbase fun _ hname => isComponent_of_mem hname]

/-- A path below a directory begins with the directory. -/
theorem pathBelow_eq_append (base : String) (cs : List String) :
    ∃ rest, pathBelow base cs = base ++ rest := by
  cases cs with
  | nil => exact ⟨"", String.append_empty.symm⟩
  | cons first more =>
      by_cases hend : endsInSlash base = true
      · exact ⟨_, by rw [pathBelow, withSlash, if_pos hend]⟩
      · exact ⟨_, by rw [pathBelow, withSlash, if_neg hend, String.append_assoc]⟩

theorem isAbsolute_append {base : String} (hbase : base ≠ "") (rest : String) :
    isAbsolute (base ++ rest) = isAbsolute base := by
  have hsolid : base.toList ≠ [] := by simpa using hbase
  rw [isAbsolute, isAbsolute, String.toList_append, List.head?_append,
    List.head?_eq_some_head hsolid, Option.some_or]

/-! ### The home directory -/

variable {env : Environment} {accountHome : Option RawPath}

theorem homeDirectory_of_get? {home : String} (h : env.get? "HOME" = some home)
    (hhome : home ≠ "") : homeDirectory env accountHome = .ok (.text home) := by
  rw [homeDirectory, h]
  exact if_pos hhome

/-- What stands behind `~/` is put below the home directory. -/
theorem expandTilde_slash (env : Environment) (accountHome : Option RawPath) (s : String) :
    expandTilde env accountHome ("~/" ++ s) =
      (homeDirectory env accountHome).map (descend · s) := by
  have hpath : ("~/" ++ s).toList = '~' :: '/' :: s.toList := String.toList_append
  unfold expandTilde
  rw [hpath]
  simp only [String.ofList_toList]

/-- Before anything but a slash a `~` has no meaning. -/
theorem expandTilde_of_prefix {path : String} {c : Char} (h : ['~', c] <+: path.toList)
    (hc : c ≠ '/') : expandTilde env accountHome path = .ok (.text path) := by
  obtain ⟨rest, hpath⟩ := h
  unfold expandTilde
  rw [← hpath]
  -- Neither of the two forms that are expanded has another character behind the tilde.
  split
  · rename_i halone
    cases halone
  · rename_i hslash
    cases hslash
    exact absurd rfl hc
  · rfl

/-- Behind `~/` the components of a text are put below the home directory. Whatever
    slashes there are in the text, the path begins with the home directory and is absolute
    only if that is, and texts with the same components give the same path. A path that
    does not begin with a `~`, or that has something else than a slash behind it, stays as
    it is. -/
theorem tilde_below_home (env : Environment) (accountHome : Option RawPath) :
    (∀ home, env.get? "HOME" = some home → home ≠ "" → ∀ s : String,
      expandTilde env accountHome ("~/" ++ s) = .ok (.text (pathBelow home (components s))) ∧
      (∃ rest, pathBelow home (components s) = home ++ rest) ∧
      isAbsolute (pathBelow home (components s)) = isAbsolute home) ∧
    (∀ s t : String, components s = components t →
      expandTilde env accountHome ("~/" ++ s) = expandTilde env accountHome ("~/" ++ t)) ∧
    (∀ path : String, ¬ ['~'] <+: path.toList →
      expandTilde env accountHome path = .ok (.text path)) ∧
    ∀ (path : String) (c : Char), ['~', c] <+: path.toList → c ≠ '/' →
      expandTilde env accountHome path = .ok (.text path) := by
  refine ⟨fun home hhome hne s => ?_, fun s t hst => ?_, fun path hpath => ?_,
    fun path c hpath hc => expandTilde_of_prefix hpath hc⟩
  · have hpath : expandTilde env accountHome ("~/" ++ s) =
        .ok (.text (pathBelow home (components s))) := by
      rw [expandTilde_slash, homeDirectory_of_get? hhome hne, ← descend_text hne]
      rfl
    obtain ⟨rest, hrest⟩ := pathBelow_eq_append home (components s)
    refine ⟨hpath, ⟨rest, hrest⟩, ?_⟩
    rw [hrest, isAbsolute_append hne]
  -- Only the components count in descending, whatever the base.
  · have hdescend : (descend · s) = (descend · t) := by
      funext base
      rw [descend, descend, names_eq_components, names_eq_components, hst]
    rw [expandTilde_slash, expandTilde_slash, hdescend]
  · refine expandTilde_of_head_ne fun hhead => hpath ?_
    obtain ⟨rest, hlist⟩ := List.head?_eq_some_iff.1 hhead
    exact ⟨rest, hlist.symm⟩

/-- The home directory is no absolute path and ends in a slash, and many more slashes are
    typed. -/
theorem tilde_below_home_slashes :
    let env := Environment.ofList [("HOME", "h/")]
    let s := "//etc//..//~/"
    env.get? "HOME" = some "h/" ∧ "h/" ≠ "" ∧
      expandTilde env none ("~/" ++ s) = .ok (.text "h/etc/../~") ∧
      components s = components "etc/../~" ∧
      expandTilde env none ("~/" ++ s) = expandTilde env none ("~/" ++ "etc/../~") ∧
      ¬ ['~'] <+: "/~".toList ∧ expandTilde env none "/~" = .ok (.text "/~") ∧
      ['~', 'r'] <+: "~root".toList ∧ expandTilde env none "~root" = .ok (.text "~root") := by
  intro env s
  have hhome : env.get? "HOME" = some "h/" := by decide +kernel
  have hbelow : pathBelow "h/" (components s) = "h/etc/../~" := by decide +kernel
  have hcomponents : components s = components "etc/../~" := by decide +kernel
  have hall := tilde_below_home env none
  have hpath := (hall.1 "h/" hhome (by decide) s).1
  rw [hbelow] at hpath
  exact ⟨hhome, by decide, hpath, hcomponents, hall.2.1 s "etc/../~" hcomponents, by decide,
    hall.2.2.1 "/~" (by decide), by decide, hall.2.2.2 "~root" 'r' (by decide) (by decide)⟩

end File

end CommandShell
