import TokenGrammar.Value

/-!
# Namespaces

The attributes that a parse produces: a finite map from names to values, kept in ascending order
of the names, so that two namespaces with the same attributes are equal. An attribute that was
never written is missing; there is no value for "nothing".

* `get?_set_self`, `get?_set_of_ne`: what writing one attribute does to each;
* `get?_remove_self`, `get?_remove_of_ne`: the same for removal;
* `Namespace.ext_get?`: a namespace is determined by its attributes.
-/

namespace TokenGrammar

/-- Attributes by name, in ascending order of the names. -/
structure Namespace where
  entries : List (String × Value)
  sorted : entries.Pairwise fun a b => a.1 < b.1
deriving DecidableEq

namespace Namespace

/-- The namespace without attributes. -/
def empty : Namespace := ⟨[], .nil⟩

instance : Inhabited Namespace := ⟨empty⟩

/-- The value of an attribute. -/
def get? (ns : Namespace) (name : String) : Option Value := ns.entries.lookup name

/-- Whether the attribute is there. -/
def contains (ns : Namespace) (name : String) : Bool := (ns.get? name).isSome

/-- How many attributes there are. -/
def size (ns : Namespace) : Nat := ns.entries.length

/-- Whether there are no attributes. -/
def isEmpty (ns : Namespace) : Bool := ns.entries.isEmpty

/-- The names, in ascending order. -/
def names (ns : Namespace) : List String := ns.entries.map (·.1)

/-- Writes an entry into a list in ascending order. -/
def insertEntry (name : String) (value : Value) : List (String × Value) → List (String × Value)
  | [] => [(name, value)]
  | e :: es =>
    if name < e.1 then (name, value) :: e :: es
    else if e.1 < name then e :: insertEntry name value es
    else (name, value) :: es

theorem mem_insertEntry {name : String} {value : Value} {es : List (String × Value)}
    {e : String × Value} (h : e ∈ insertEntry name value es) : e = (name, value) ∨ e ∈ es := by
  induction es with
  | nil => exact .inl (List.mem_singleton.mp h)
  | cons d ds ih =>
    rw [insertEntry] at h
    split at h
    · exact List.mem_cons.mp h
    · split at h
      · rcases List.mem_cons.mp h with rfl | h
        · exact .inr List.mem_cons_self
        · exact (ih h).imp_right (List.mem_cons_of_mem d)
      · exact (List.mem_cons.mp h).imp_right (List.mem_cons_of_mem d)

theorem sorted_insertEntry (name : String) (value : Value) {es : List (String × Value)}
    (h : es.Pairwise fun a b => a.1 < b.1) :
    (insertEntry name value es).Pairwise fun a b => a.1 < b.1 := by
  induction es with
  | nil => exact List.pairwise_singleton _ _
  | cons d ds ih =>
    obtain ⟨hd, hds⟩ := List.pairwise_cons.mp h
    rw [insertEntry]
    split
    · rename_i hlt
      refine List.pairwise_cons.mpr ⟨fun e he => ?_, h⟩
      rcases List.mem_cons.mp he with rfl | he
      · exact hlt
      · exact String.lt_trans hlt (hd e he)
    · split
      · rename_i hlt
        refine List.pairwise_cons.mpr ⟨fun e he => ?_, ih hds⟩
        rcases mem_insertEntry he with rfl | he
        · exact hlt
        · exact hd e he
      · rename_i hle hge
        refine List.pairwise_cons.mpr ⟨fun e he => ?_, hds⟩
        have heq : name = d.1 := String.le_antisymm hge hle
        exact heq ▸ hd e he

/-- Writes an attribute, whether or not it is there already. -/
def set (ns : Namespace) (name : String) (value : Value) : Namespace :=
  ⟨insertEntry name value ns.entries, sorted_insertEntry name value ns.sorted⟩

/-- Removes an attribute if it is there. -/
def remove (ns : Namespace) (name : String) : Namespace :=
  ⟨ns.entries.filter (·.1 ≠ name), ns.sorted.filter _⟩

/-- The namespace of a list of attributes; of two with one name the later one counts. -/
def ofList (entries : List (String × Value)) : Namespace :=
  entries.foldl (fun ns e => ns.set e.1 e.2) empty

/-- Equality that compares floating point numbers by value. -/
def same (ns ms : Namespace) : Bool :=
  ns.names = ms.names && Value.sameList (ns.entries.map (·.2)) (ms.entries.map (·.2))

/-- The texts among the items of a list attribute. -/
def texts? (ns : Namespace) (name : String) : Option (List String) :=
  ((ns.get? name).bind Value.asList?).map (·.filterMap Value.asText?)

theorem lookup_entry (name : String) (e : String × Value) (es : List (String × Value)) :
    (e :: es).lookup name = if name = e.1 then some e.2 else es.lookup name := by
  obtain ⟨other, value⟩ := e
  rw [List.lookup_cons]
  by_cases h : name = other
  · simp [h]
  · simp [h, beq_false_of_ne h]

theorem lookup_insertEntry (name other : String) (value : Value) (es : List (String × Value)) :
    (insertEntry name value es).lookup other =
      if other = name then some value else es.lookup other := by
  induction es with
  | nil => rw [insertEntry, lookup_entry]
  | cons d ds ih =>
    rw [insertEntry]
    split
    · rw [lookup_entry]
    · split
      · rename_i hlt
        rw [lookup_entry, lookup_entry, ih]
        split
        · rename_i heq
          subst heq
          rw [if_neg fun h => String.lt_irrefl _ (h ▸ hlt)]
        · rfl
      · rename_i hle hge
        have heq : name = d.1 := String.le_antisymm hge hle
        rw [lookup_entry, lookup_entry, heq]
        split <;> rfl

@[simp]
theorem get?_empty (name : String) : empty.get? name = none := rfl

/-- Writing an attribute changes it and no other. -/
theorem get?_set (ns : Namespace) (name other : String) (value : Value) :
    (ns.set name value).get? other = if other = name then some value else ns.get? other :=
  lookup_insertEntry name other value ns.entries

@[simp]
theorem get?_set_self (ns : Namespace) (name : String) (value : Value) :
    (ns.set name value).get? name = some value := by
  simp [get?_set]

theorem contains_set_self (ns : Namespace) (name : String) (value : Value) :
    (ns.set name value).contains name = true :=
  congrArg Option.isSome (ns.get?_set_self name value)

theorem get?_set_of_ne (ns : Namespace) {name other : String} (value : Value)
    (h : other ≠ name) : (ns.set name value).get? other = ns.get? other := by
  simp [get?_set, h]

/-- Removing an attribute changes it and no other. -/
theorem get?_remove (ns : Namespace) (name other : String) :
    (ns.remove name).get? other = if other = name then none else ns.get? other := by
  simp only [get?, remove]
  induction ns.entries with
  | nil => simp
  | cons d ds ih =>
    rw [lookup_entry]
    by_cases hd : d.1 = name
    · rw [List.filter_cons_of_neg (by simpa using hd), ih]
      subst hd
      split <;> rfl
    · rw [List.filter_cons_of_pos (by simpa using hd), lookup_entry, ih]
      by_cases ho : other = name
      · subst ho
        simp [Ne.symm hd]
      · simp [ho]

@[simp]
theorem get?_remove_self (ns : Namespace) (name : String) :
    (ns.remove name).get? name = none := by
  simp [get?_remove]

theorem get?_remove_of_ne (ns : Namespace) {name other : String} (h : other ≠ name) :
    (ns.remove name).get? other = ns.get? other := by
  simp [get?_remove, h]

/-- The names of a list in ascending order are above its first name. -/
theorem lookup_of_lt {es : List (String × Value)} {name : String}
    (h : ∀ e ∈ es, name < e.1) : es.lookup name = none := by
  refine List.lookup_eq_none_iff.mpr fun e he => ?_
  have := h e he
  simp only [bne_iff_ne, ne_eq]
  rintro rfl
  exact String.lt_irrefl _ this

/-- Lists of entries in ascending order are equal if they give each name the same value. -/
theorem eq_of_lookup_eq {es ds : List (String × Value)}
    (hes : es.Pairwise fun a b => a.1 < b.1) (hds : ds.Pairwise fun a b => a.1 < b.1)
    (h : ∀ name, es.lookup name = ds.lookup name) : es = ds := by
  induction es generalizing ds with
  | nil =>
    cases ds with
    | nil => rfl
    | cons d ds => have := h d.1; simp [lookup_entry] at this
  | cons e es ih =>
    obtain ⟨he, hes⟩ := List.pairwise_cons.mp hes
    cases ds with
    | nil => have := h e.1; simp [lookup_entry] at this
    | cons d ds =>
      obtain ⟨hd, hds⟩ := List.pairwise_cons.mp hds
      have first {a b : String × Value} {as bs : List (String × Value)}
          (hb : ∀ x ∈ bs, b.1 < x.1) (hab : (a :: as).lookup a.1 = (b :: bs).lookup a.1) :
          ¬ a.1 < b.1 := by
        intro hlt
        have : (b :: bs).lookup a.1 = none := lookup_of_lt fun x hx => by
          rcases List.mem_cons.mp hx with rfl | hx
          · exact hlt
          · exact String.lt_trans hlt (hb x hx)
        rw [this, lookup_entry] at hab
        simp at hab
      have hname : e.1 = d.1 :=
        String.le_antisymm (first he (h d.1).symm) (first hd (h e.1))
      have hvalue : e.2 = d.2 := by
        have := h e.1
        simpa [lookup_entry, hname] using this
      have hrest : es = ds := ih hes hds fun name => by
        by_cases hn : name = e.1
        · subst hn
          rw [lookup_of_lt he, lookup_of_lt (hname ▸ hd)]
        · have := h name
          simpa [lookup_entry, hn, ← hname] using this
      rw [hrest, Prod.ext hname hvalue]

/-- A namespace is determined by the values of its attributes. -/
theorem ext_get? {ns ms : Namespace} (h : ∀ name, ns.get? name = ms.get? name) : ns = ms := by
  obtain ⟨es, hes⟩ := ns
  obtain ⟨ds, hds⟩ := ms
  have := eq_of_lookup_eq hes hds h
  subst this
  rfl

end Namespace

end TokenGrammar
