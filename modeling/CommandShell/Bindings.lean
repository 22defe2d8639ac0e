/-!
# Bindings of Names to Values

The environment and the aliases are both tables of names with values, and
both are listed in the order of their names. The table is kept as a list of
pairs in that order, each name once, and the order is part of the type. A
table is then determined by what it holds: two tables with the same value at
every name are equal, so a statement that an operation changes one name and
nothing else can be read as an equation.

Names are ordered by code points, which is also the order of their UTF-8
bytes.

## Main definitions

* `Bindings`: A table of names with values, in the order of the names.
* `Bindings.get?`: The value of a name.
* `Bindings.insert`: The table with a value for one name.
* `Bindings.erase`: The table without one name.

## Theorems

* `get?_insert`: What is found after an insertion.
* `get?_erase`: What is found after a removal.
* `Bindings.ext_get?`: A table is determined by its values.
* `ofList_toList`: A table is that of the pairs in it.
-/

namespace CommandShell

/-- The pairs come in strictly ascending order of their names. -/
def Ascending (entries : List (String × String)) : Prop :=
  entries.Pairwise fun a b => a.1 < b.1

/-- A table of names with values, in the order of the names. -/
structure Bindings where
  toList : List (String × String)
  ascending : Ascending toList

namespace Bindings

@[ext]
theorem ext {a b : Bindings} (h : a.toList = b.toList) : a = b := by
  cases a
  cases b
  simp_all

instance : DecidableEq Bindings := fun a b =>
  if h : a.toList = b.toList then isTrue (ext h)
  else isFalse fun heq => h (congrArg toList heq)

/-- The pairs with a value for one name: an old value is replaced, and a new name goes
    before the first greater one. -/
def insertEntry (name value : String) : List (String × String) → List (String × String)
  | [] => [(name, value)]
  | (n, v) :: rest =>
      if name < n then (name, value) :: (n, v) :: rest
      else if name = n then (name, value) :: rest
      else (n, v) :: insertEntry name value rest

theorem mem_insertEntry {name value : String} {e : String × String}
    {entries : List (String × String)} (h : e ∈ insertEntry name value entries) :
    e = (name, value) ∨ e ∈ entries := by
  induction entries with
  | nil => simpa [insertEntry] using h
  | cons first rest ih =>
      obtain ⟨n, v⟩ := first
      unfold insertEntry at h
      split at h
      · simpa using h
      · split at h
        · rcases List.mem_cons.1 h with h | h
          · exact Or.inl h
          · exact Or.inr (List.mem_cons_of_mem _ h)
        · rcases List.mem_cons.1 h with h | h
          · exact Or.inr (by simp [h])
          · exact (ih h).imp_right (List.mem_cons_of_mem _)

theorem ascending_insertEntry (name value : String) {entries : List (String × String)}
    (h : Ascending entries) : Ascending (insertEntry name value entries) := by
  induction entries with
  | nil => simp [insertEntry, Ascending]
  | cons first rest ih =>
      obtain ⟨n, v⟩ := first
      obtain ⟨hfirst, hrest⟩ := List.pairwise_cons.1 h
      unfold insertEntry
      split
      · -- The new name goes to the front and is less than all names there.
        rename_i hlt
        refine List.pairwise_cons.2 ⟨fun e he => ?_, h⟩
        rcases List.mem_cons.1 he with rfl | he
        · exact hlt
        · exact String.lt_trans hlt (hfirst e he)
      · split
        · rename_i heq
          subst heq
          exact List.pairwise_cons.2 ⟨hfirst, hrest⟩
        · -- The new name goes further back, so the first one stays the least.
          rename_i hge hne
          refine List.pairwise_cons.2 ⟨fun e he => ?_, ih hrest⟩
          rcases mem_insertEntry he with rfl | he
          · exact String.not_le.1 fun hle => hne (String.le_antisymm hle (String.not_lt.1 hge))
          · exact hfirst e he

/-- The table with nothing in it. -/
def empty : Bindings :=
  ⟨[], List.Pairwise.nil⟩

/-- The table with a value for one name; an old value is replaced. -/
def insert (b : Bindings) (name value : String) : Bindings :=
  ⟨insertEntry name value b.toList, ascending_insertEntry name value b.ascending⟩

/-- The table without a name. -/
def erase (b : Bindings) (name : String) : Bindings :=
  ⟨b.toList.filter fun e => e.1 ≠ name, List.Pairwise.filter _ b.ascending⟩

/-- The value of a name, if it has one. -/
def get? (b : Bindings) (name : String) : Option String :=
  b.toList.lookup name

/-- Whether a name has a value. -/
def contains (b : Bindings) (name : String) : Bool :=
  (b.get? name).isSome

/-- The number of names. -/
def size (b : Bindings) : Nat :=
  b.toList.length

/-- The table of a list of pairs, of which later ones win. -/
def ofList (pairs : List (String × String)) : Bindings :=
  pairs.foldl (fun b e => b.insert e.1 e.2) empty

@[simp]
theorem get?_empty (name : String) : empty.get? name = none := rfl

theorem lookup_cons_eq_ite (e : String × String) (rest : List (String × String)) (n : String) :
    (e :: rest).lookup n = if n = e.1 then some e.2 else rest.lookup n := by
  obtain ⟨m, v⟩ := e
  rw [List.lookup_cons]
  by_cases h : n = m
  · simp [h]
  · have hbeq : (n == m) = false := by simpa using h
    simp [h, hbeq]

theorem lookup_insertEntry (name value : String) (entries : List (String × String)) (n : String) :
    (insertEntry name value entries).lookup n
      = if n = name then some value else entries.lookup n := by
  induction entries with
  | nil => rw [insertEntry, lookup_cons_eq_ite]
  | cons first rest ih =>
      obtain ⟨m, v⟩ := first
      unfold insertEntry
      split
      · simp [lookup_cons_eq_ite]
      · split
        · rename_i heq
          subst heq
          grind [lookup_cons_eq_ite]
        · grind [lookup_cons_eq_ite]

theorem lookup_filter_ne (name n : String) (entries : List (String × String)) :
    (entries.filter fun e => e.1 ≠ name).lookup n
      = if n = name then none else entries.lookup n := by
  induction entries with
  | nil => simp
  | cons first rest ih =>
      obtain ⟨m, v⟩ := first
      by_cases hm : m = name
      · rw [List.filter_cons_of_neg (by simpa using hm)]
        grind [lookup_cons_eq_ite]
      · rw [List.filter_cons_of_pos (by simpa using hm)]
        grind [lookup_cons_eq_ite]

/-- After an insertion the name has the new value, and the others have what they had. -/
theorem get?_insert (b : Bindings) (name value n : String) :
    (b.insert name value).get? n = if n = name then some value else b.get? n :=
  lookup_insertEntry name value b.toList n

/-- After a removal the name has no value, and the others have what they had. -/
theorem get?_erase (b : Bindings) (name n : String) :
    (b.erase name).get? n = if n = name then none else b.get? n :=
  lookup_filter_ne name n b.toList

theorem lookup_eq_none_of_forall_lt {entries : List (String × String)} {n : String}
    (h : ∀ e ∈ entries, n < e.1) : entries.lookup n = none := by
  rw [List.lookup_eq_none_iff]
  intro e he
  have : n ≠ e.1 := fun heq => String.lt_irrefl n (heq ▸ h e he)
  simpa using this

theorem le_of_lookup_isSome {e : String × String} {rest : List (String × String)} {n : String}
    (hasc : Ascending (e :: rest)) (h : ((e :: rest).lookup n).isSome = true) : e.1 ≤ n := by
  refine Decidable.byContradiction fun hle => ?_
  have hlt : n < e.1 := String.not_le.1 hle
  have : (e :: rest).lookup n = none := lookup_eq_none_of_forall_lt fun d hd => by
    rcases List.mem_cons.1 hd with rfl | hd
    · exact hlt
    · exact String.lt_trans hlt ((List.pairwise_cons.1 hasc).1 d hd)
  simp [this] at h

theorem eq_of_lookup_eq {xs ys : List (String × String)} (hx : Ascending xs)
    (hy : Ascending ys) (h : ∀ n, xs.lookup n = ys.lookup n) : xs = ys := by
  induction xs generalizing ys with
  | nil =>
      cases ys with
      | nil => rfl
      | cons y ys => simpa [lookup_cons_eq_ite] using h y.1
  | cons x xs ih =>
      cases ys with
      | nil => simpa [lookup_cons_eq_ite] using h x.1
      | cons y ys =>
          -- Each first name is found in the other list, so neither is less.
          have hname : x.1 = y.1 := String.le_antisymm
            (le_of_lookup_isSome hx (by rw [h]; simp [lookup_cons_eq_ite]))
            (le_of_lookup_isSome hy (by rw [← h]; simp [lookup_cons_eq_ite]))
          have hvalue : x.2 = y.2 := by
            simpa [lookup_cons_eq_ite, hname] using h x.1
          obtain rfl : x = y := Prod.ext hname hvalue
          obtain ⟨hxs, hx⟩ := List.pairwise_cons.1 hx
          obtain ⟨hys, hy⟩ := List.pairwise_cons.1 hy
          -- The rests agree at the first name too, as neither holds it.
          congr 1
          refine ih hx hy fun n => ?_
          by_cases hn : n = x.1
          · rw [lookup_eq_none_of_forall_lt (hn ▸ hxs), lookup_eq_none_of_forall_lt (hn ▸ hys)]
          · simpa [lookup_cons_eq_ite, hn] using h n

/-- A table is determined by the values of its names. -/
theorem ext_get? {a b : Bindings} (h : ∀ name, a.get? name = b.get? name) : a = b :=
  ext (eq_of_lookup_eq a.ascending b.ascending h)

/-- A name that is greater than all others goes to the end. -/
theorem insertEntry_of_forall_lt {name value : String} {entries : List (String × String)}
    (h : ∀ e ∈ entries, e.1 < name) :
    insertEntry name value entries = entries ++ [(name, value)] := by
  induction entries with
  | nil => rfl
  | cons first rest ih =>
      obtain ⟨hfirst, hrest⟩ := List.forall_mem_cons.1 h
      have hlt : ¬ name < first.1 := String.lt_asymm hfirst
      have hne : name ≠ first.1 := fun heq => String.lt_irrefl name (heq ▸ hfirst)
      rw [insertEntry, if_neg hlt, if_neg hne, ih hrest]
      rfl

theorem toList_foldl_insert {entries : List (String × String)} {b : Bindings}
    (h : Ascending (b.toList ++ entries)) :
    (entries.foldl (fun b e => b.insert e.1 e.2) b).toList = b.toList ++ entries := by
  induction entries generalizing b with
  | nil => rw [List.append_nil]; rfl
  | cons e rest ih =>
      -- The names come in order, so each of them is greater than those that are there.
      have hinsert : (b.insert e.1 e.2).toList = b.toList ++ [e] :=
        insertEntry_of_forall_lt fun d hd =>
          (List.pairwise_append.1 h).2.2 d hd e List.mem_cons_self
      have hsame : (b.insert e.1 e.2).toList ++ rest = b.toList ++ e :: rest := by
        rw [hinsert, List.append_assoc]
        rfl
      rw [List.foldl_cons, ih (hsame ▸ h), hsame]

/-- A table is that of the pairs in it. -/
theorem ofList_toList (b : Bindings) : ofList b.toList = b :=
  ext (toList_foldl_insert (b := empty) b.ascending)

end Bindings

end CommandShell
