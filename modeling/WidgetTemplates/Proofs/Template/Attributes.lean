import WidgetTemplates.Template.Node

/-!
# Reading and writing attributes

What `Element.set` and `Element.remove` do to the attributes of an element, seen through `find?`, through
membership, and through the attributes of certain names (`select`). Both leave every other field alone, which `rfl`
shows.
-/

namespace WidgetTemplates.Template

open Script (Expr Stmt)

namespace Element

variable {el : Element} {name other : String} {value : Expr} {a : Attribute}

/-! ## Looking attributes up -/

/-- An attribute that is found is one of the element. -/
theorem find?_mem (h : el.find? name = some a) : a ∈ el.attributes :=
  List.mem_of_find?_eq_some h

/-- An attribute that is found has the name that is asked for. -/
theorem find?_name (h : el.find? name = some a) : a.name = name := by
  simpa using List.find?_some h

/-- An attribute is not found exactly if the element has none of the name. -/
theorem find?_eq_none : el.find? name = none ↔ el.has name = false := by
  simp [find?, has]

/-- An element has an attribute exactly if it is found. -/
theorem has_eq_isSome (el : Element) (name : String) : el.has name = (el.find? name).isSome := by
  rw [has, find?, ← List.isSome_find?]

/-- An element has every attribute whose value it has. -/
theorem has_of_value? {el : Element} {name : String} {e : Expr} (h : el.value? name = some e) : el.has name = true := by
  obtain ⟨a, found, -⟩ := Option.bind_eq_some_iff.mp h
  rw [has_eq_isSome, found]
  rfl

/-- What is found under a name decides whether the element has the attribute. -/
theorem has_congr {el' : Element} (h : el'.find? name = el.find? name) : el'.has name = el.has name := by
  rw [has_eq_isSome, has_eq_isSome, h]

/-! ## Setting attributes -/

/-- An attribute that is set is found. -/
theorem find?_setIn_self (name : String) (value : Expr) (as : List Attribute) :
    (setIn name value as).find? (·.name == name) = some ⟨name, some value⟩ := by
  induction as with
  | nil => simp [setIn]
  | cons b rest ih =>
    by_cases h : b.name = name
    · simp [setIn, h]
    · simpa [setIn, h] using ih

/-- Setting an attribute does not change the others. -/
theorem find?_setIn_ne (h : other ≠ name) (value : Expr) (as : List Attribute) :
    (setIn name value as).find? (·.name == other) = as.find? (·.name == other) := by
  induction as with
  | nil => simp [setIn, h.symm]
  | cons b rest ih =>
    by_cases hb : b.name = name
    · simp [setIn, hb, h.symm]
    · by_cases ho : b.name = other
      · subst ho
        simp [setIn, h]
      · simpa [setIn, hb, ho] using ih

/-- The attribute just set is the one that is found. -/
@[simp] theorem find?_set_self (el : Element) (name : String) (value : Expr) :
    (el.set name value).find? name = some ⟨name, some value⟩ :=
  find?_setIn_self name value el.attributes

/-- Setting an attribute leaves those of other names alone. -/
theorem find?_set_ne (h : other ≠ name) : (el.set name value).find? other = el.find? other :=
  find?_setIn_ne h value el.attributes

/-- An attribute after setting one is the one that was set, or was there before. -/
theorem mem_setIn {as : List Attribute} (h : a ∈ setIn name value as) : a = ⟨name, some value⟩ ∨ a ∈ as := by
  induction as with
  | nil => simpa [setIn] using h
  | cons b rest ih =>
    by_cases hb : b.name = name <;> grind [setIn]

/-- After an attribute is set, any attribute is that one or one that was there. -/
theorem mem_set (h : a ∈ (el.set name value).attributes) : a = ⟨name, some value⟩ ∨ a ∈ el.attributes := mem_setIn h

/-- The attribute just set is there. -/
theorem mem_setIn_self (name : String) (value : Expr) (as : List Attribute) :
    ⟨name, some value⟩ ∈ setIn name value as :=
  List.mem_of_find?_eq_some (find?_setIn_self name value as)

/-- An attribute of another name stays. -/
theorem mem_setIn_of_ne {as : List Attribute} (h : a ∈ as) (ne : a.name ≠ name) (value : Expr) :
    a ∈ setIn name value as := by
  induction as with
  | nil => exact nomatch h
  | cons b rest ih =>
    by_cases hb : b.name = name <;> grind [setIn]

/-- An attribute is set behind those that have other names. -/
theorem setIn_append {as : List Attribute} (apart : ∀ b ∈ as, b.name ≠ name) (value : Expr) (more : List Attribute) :
    setIn name value (as ++ more) = as ++ setIn name value more := by
  induction as with
  | nil => rfl
  | cons b rest ih =>
    obtain ⟨hb, hrest⟩ := List.forall_mem_cons.mp apart
    rw [List.cons_append, setIn, if_neg (by simpa using hb), ih hrest]
    rfl

/-- Setting an attribute repeats no name. -/
theorem nodup_names_setIn {as : List Attribute} (distinct : (as.map (·.name)).Nodup) (name : String) (value : Expr) :
    ((setIn name value as).map (·.name)).Nodup := by
  induction as with
  | nil => simp [setIn]
  | cons b rest ih =>
    obtain ⟨hb, hrest⟩ := List.nodup_cons.mp distinct
    by_cases hname : b.name = name
    · subst hname
      simpa [setIn] using ⟨by simpa using hb, hrest⟩
    · simp only [setIn, beq_iff_eq, hname, if_false, List.map_cons, List.nodup_cons]
      refine ⟨?_, ih hrest⟩
      intro hmem
      obtain ⟨c, hc, heq⟩ := List.mem_map.mp hmem
      rcases mem_setIn hc with rfl | hc
      · exact hname heq.symm
      · exact hb (List.mem_map.mpr ⟨c, hc, heq⟩)

/-! ## Removing attributes -/

/-- Removing an attribute adds none. -/
theorem mem_of_mem_remove (h : a ∈ (el.remove name).attributes) : a ∈ el.attributes :=
  List.mem_of_mem_eraseP h

/-- Removing an attribute that is not there changes nothing. -/
theorem remove_of_find?_none (h : el.find? name = none) : el.remove name = el := by
  rw [find?, List.find?_eq_none] at h
  simp only [remove, List.eraseP_of_forall_not h]

/-- Removing an attribute does not change the others. -/
theorem find?_eraseP_ne (h : other ≠ name) (as : List Attribute) :
    (as.eraseP (·.name == name)).find? (·.name == other) = as.find? (·.name == other) := by
  induction as with
  | nil => rfl
  | cons b rest ih =>
    by_cases hb : b.name = name
    · simp [hb, h.symm]
    · by_cases ho : b.name = other
      · subst ho
        simp [h]
      · simpa [hb, ho] using ih

/-- Removing an attribute leaves those of other names alone. -/
theorem find?_remove_ne (h : other ≠ name) : (el.remove name).find? other = el.find? other :=
  find?_eraseP_ne h el.attributes

/-- Removing an attribute repeats no name. -/
theorem nodup_names_remove (distinct : el.names.Nodup) : (el.remove name).names.Nodup :=
  distinct.sublist ((List.eraseP_sublist (l := el.attributes)).map _)

/-- If no name is repeated, a removed attribute is gone. -/
theorem find?_remove_self (distinct : el.names.Nodup) : (el.remove name).find? name = none := by
  have aux : ∀ as : List Attribute, (as.map (·.name)).Nodup →
      (as.eraseP (·.name == name)).find? (·.name == name) = none := by
    intro as
    induction as with
    | nil => exact fun _ => rfl
    | cons b rest ih =>
      intro h
      obtain ⟨hb, hrest⟩ := List.nodup_cons.mp h
      by_cases hname : b.name = name
      · subst hname
        simpa using hb
      · simpa [hname] using ih hrest
  exact aux el.attributes distinct

/-! ## Attributes by name -/

section Select

variable {q : String → Bool}

/-- The attributes whose names satisfy `q`, in order. -/
def select (el : Element) (q : String → Bool) : List Attribute := el.attributes.filter (q ·.name)

/-- The attributes of one name tell which attribute of this name there is. -/
theorem find?_eq_head?_select (el : Element) (name : String) : el.find? name = (el.select (· == name)).head? :=
  List.head?_filter.symm

/-- Elements with the same attributes of a name find the same one. -/
theorem find?_congr_select {el el' : Element} (h : el'.select (· == name) = el.select (· == name)) :
    el'.find? name = el.find? name := by
  rw [find?_eq_head?_select, find?_eq_head?_select, h]

/-- Removing another attribute leaves them alone. -/
theorem select_remove (other : q name = false) : (el.remove name).select q = el.select q := by
  rw [select, select, remove]
  induction el.attributes with
  | nil => rfl
  | cons b rest ih =>
    by_cases hb : b.name = name
    · simp [hb, other]
    · rw [List.eraseP_cons_of_neg (by simpa using hb), List.filter_cons, List.filter_cons, ih]

/-- Setting another attribute leaves them alone. -/
theorem select_set (other : q name = false) (value : Expr) : (el.set name value).select q = el.select q := by
  rw [select, select, set]
  induction el.attributes with
  | nil => simp [setIn, other]
  | cons b rest ih =>
    rw [setIn]
    by_cases hb : b.name = name
    · simp [hb, other]
    · rw [if_neg (by simpa using hb), List.filter_cons, List.filter_cons, ih]

end Select

end Element

end WidgetTemplates.Template
