import CandleRelay.Json.Record

/-!
# What a record reads of an object

A record asks an object for its fields by name. What it gets hangs on three things alone: whether
every key stands for a text, whether no field stands twice (`Orderly`), and which values stand under
the names of the fields (`valuesUnder`). Where a member stands among the others is no part of it.

What is proved:
  1. `Orderly.fieldsOf?`, `orderly_of_fieldsOf?`: the fields of an object can be read exactly if it
     is orderly, and under each name there is then the value that stands there.
  2. `others_all_iff`: what is asked of the members that are no fields.
  3. `valuesUnder_perm`, `orderly_perm`: the order of the members does not matter.
-/

namespace CandleRelay.Json

/-- The values that stand under a name, in order. -/
def valuesUnder (name : String) (members : List Member) : List Doc :=
  (members.filter fun m => m.1.text? == some name).map (·.2)

/-- Every key stands for a text, and no field stands more than once. -/
structure Orderly (fields : List String) (members : List Member) : Prop where
  texts : ∀ m ∈ members, m.1.text?.isSome = true
  single : ∀ f ∈ fields, (valuesUnder f members).length ≤ 1

/-! ## Members by name -/

theorem named?_cons_iff {k : Literal} {d : Doc} {members : List Member}
    {ns : List (String × Doc)} :
    named? ((k, d) :: members) = some ns ↔
      ∃ name rest, k.text? = some name ∧ named? members = some rest ∧ ns = (name, d) :: rest := by
  simp only [named?]
  constructor
  · intro h
    split at h
    · next name rest hname hrest => exact ⟨name, rest, hname, hrest, (Option.some.inj h).symm⟩
    · cases h
  · rintro ⟨name, rest, hname, hrest, rfl⟩
    rw [hname, hrest]

theorem valuesUnder_cons (name : String) (m : Member) (members : List Member) :
    valuesUnder name (m :: members) =
      (if m.1.text? = some name then [m.2] else []) ++ valuesUnder name members := by
  by_cases h : m.1.text? = some name <;> simp [valuesUnder, h]

theorem valuesUnder_append (name : String) (members more : List Member) :
    valuesUnder name (members ++ more) = valuesUnder name members ++ valuesUnder name more := by
  simp [valuesUnder]

theorem isSome_named?_iff (members : List Member) :
    (named? members).isSome = true ↔ ∀ m ∈ members, m.1.text?.isSome = true := by
  induction members with
  | nil => simp [named?]
  | cons m members ih =>
    obtain ⟨k, d⟩ := m
    rw [List.forall_mem_cons, ← ih]
    simp only [Option.isSome_iff_exists, named?_cons_iff]
    constructor
    · rintro ⟨_, name, rest, hname, hrest, -⟩
      exact ⟨⟨name, hname⟩, rest, hrest⟩
    · rintro ⟨⟨name, hname⟩, rest, hrest⟩
      exact ⟨_, name, rest, hname, hrest, rfl⟩

variable {fields : List String} {members members' : List Member} {ns : List (String × Doc)}

theorem valuesUnder_of_named? (h : named? members = some ns) (name : String) :
    valuesUnder name members = (ns.filter (·.1 == name)).map (·.2) := by
  induction members generalizing ns with
  | nil =>
    cases h
    rfl
  | cons m members ih =>
    obtain ⟨k, d⟩ := m
    obtain ⟨key, rest, hkey, hrest, rfl⟩ := named?_cons_iff.1 h
    rw [valuesUnder_cons, ih hrest, hkey]
    by_cases hname : key = name <;> simp [hname]

theorem lookup_eq_head? (ns : List (String × Doc)) (name : String) :
    ns.lookup name = ((ns.filter (·.1 == name)).map (·.2)).head? := by
  induction ns with
  | nil => rfl
  | cons n ns ih =>
    obtain ⟨key, d⟩ := n
    by_cases hname : key = name
    · simp [hname]
    · have hne : (name == key) = false := by simpa using fun h => hname h.symm
      simp [List.lookup_cons, hname, hne, ih]

theorem lookup_filter_fields (ns : List (String × Doc)) {name : String} (h : name ∈ fields) :
    (ns.filter (fields.contains ·.1)).lookup name = ns.lookup name := by
  have hboth : (ns.filter (fields.contains ·.1)).filter (·.1 == name) =
      ns.filter (·.1 == name) := by
    rw [List.filter_filter]
    apply List.filter_congr
    intro n _
    by_cases hname : n.1 = name
    · simp [hname, h]
    · simp [hname]
  rw [lookup_eq_head?, lookup_eq_head?, hboth]

theorem isSingle_iff (h : named? members = some ns) :
    isSingle fields ns = true ↔ ∀ f ∈ fields, (valuesUnder f members).length ≤ 1 := by
  rw [isSingle, List.all_eq_true]
  apply forall₂_congr
  intro f _
  rw [valuesUnder_of_named? h, List.length_map, decide_eq_true_iff]

/-! ## Fields -/

/-- The fields of an orderly object, each with the value that stands under its name. -/
theorem Orderly.fieldsOf? (h : Orderly fields members) : ∃ r, fieldsOf? fields members = some r ∧
    ∀ f ∈ fields, r.lookup f = (valuesUnder f members).head? := by
  obtain ⟨ns, hns⟩ := Option.isSome_iff_exists.1 ((isSome_named?_iff members).2 h.texts)
  have hsingle := (isSingle_iff hns).2 h.single
  refine ⟨ns.filter (fields.contains ·.1), ?_, ?_⟩
  · simp only [Json.fieldsOf?, hns, hsingle, ite_true]
  · intro f hf
    rw [lookup_filter_fields ns hf, lookup_eq_head?, valuesUnder_of_named? hns]

theorem orderly_of_fieldsOf? {r : List (String × Doc)} (h : fieldsOf? fields members = some r) :
    Orderly fields members := by
  unfold Json.fieldsOf? at h
  split at h
  · next ns hns =>
    split at h
    · next hsingle =>
      refine ⟨(isSome_named?_iff members).1 ?_, (isSingle_iff hns).1 hsingle⟩
      rw [hns]
      rfl
    · cases h
  · cases h

theorem fieldsOf?_eq_none (h : ¬ Orderly fields members) : fieldsOf? fields members = none := by
  cases hfields : fieldsOf? fields members with
  | none => rfl
  | some r => exact absurd (orderly_of_fieldsOf? hfields) h

theorem others_all_iff (h : ∀ m ∈ members, m.1.text?.isSome = true) (p : Doc → Bool) :
    ((othersOf fields members).all (p ·.2)) = true ↔
      ∀ m ∈ members, ∀ name, m.1.text? = some name → name ∉ fields → p m.2 = true := by
  obtain ⟨ns, hns⟩ := Option.isSome_iff_exists.1 ((isSome_named?_iff members).2 h)
  rw [othersOf, hns, Option.getD_some]
  clear h
  induction members generalizing ns with
  | nil =>
    cases hns
    simp
  | cons m members ih =>
    obtain ⟨k, d⟩ := m
    obtain ⟨key, rest, hkey, hrest, rfl⟩ := named?_cons_iff.1 hns
    rw [List.forall_mem_cons, ← ih rest hrest, hkey]
    by_cases hname : key ∈ fields <;> simp [hname]

/-! ## The order of the members -/

theorem valuesUnder_perm (h : members.Perm members') (name : String) :
    (valuesUnder name members).Perm (valuesUnder name members') :=
  (h.filter _).map _

theorem orderly_perm (h : members.Perm members') (horderly : Orderly fields members) :
    Orderly fields members' where
  texts m hm := horderly.texts m (h.mem_iff.2 hm)
  single f hf := by
    rw [← (valuesUnder_perm h f).length_eq]
    exact horderly.single f hf

/-- Of a field that stands once at most, the order of the members leaves nothing open. -/
theorem Orderly.valuesUnder_eq (horderly : Orderly fields members) (h : members.Perm members')
    {f : String} (hf : f ∈ fields) : valuesUnder f members = valuesUnder f members' := by
  have hperm := valuesUnder_perm h f
  have hsingle := horderly.single f hf
  cases hvalues : valuesUnder f members with
  | nil =>
    rw [hvalues] at hperm
    exact (List.nil_perm.1 hperm).symm
  | cons d rest =>
    rw [hvalues] at hperm hsingle
    obtain rfl : rest = [] := by simpa using hsingle
    exact List.singleton_perm.1 hperm

end CandleRelay.Json
