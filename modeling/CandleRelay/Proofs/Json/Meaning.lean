import CandleRelay.Json.Meaning
import CandleRelay.Proofs.Json.Acceptance
import CandleRelay.Proofs.Json.Fields

/-!
# Reading what a value says

Whoever reads a document asks it for texts, for the members under a name, and whether all of it can
be read. All of that hangs on the value alone: not on the spelling of the strings, and not on the
bytes that write the document.

What is proved:
  1. `Literal.Spells.text?`: a string is read as the characters that it spells.
  2. `Doc.Means.isReadable_iff`, `Doc.Means.text?_eq_some_iff`, `Doc.Means.texts?_eq_some_iff`,
     `named_under`, `exists_named?`: what is asked of a document, answered by the value that it
     says.
-/

namespace CandleRelay.Json

/-! ## Spelling -/

theorem standsFor_pair {c : Char} (hc : 0x10000 ≤ c.toNat) :
    StandsFor [.unit (Literal.highHalf c), .unit (Literal.lowHalf c)]
      (String.utf8EncodeChar c) := by
  have hvalid : c.toNat < 0xD800 ∨ (0xDFFF < c.toNat ∧ c.toNat < 0x110000) := c.valid
  have hhigh : (Literal.highHalf c).toNat = 0xD800 + (c.toNat - 0x10000) / 0x400 := by
    rw [Literal.highHalf, UInt16.toNat_ofNat']
    omega
  have hlow : (Literal.lowHalf c).toNat = 0xDC00 + (c.toNat - 0x10000) % 0x400 := by
    rw [Literal.lowHalf, UInt16.toNat_ofNat']
    omega
  have hfirst : Literal.isHigh (Literal.highHalf c) = true := by
    simp only [Literal.isHigh, Bool.and_eq_true, decide_eq_true_eq, UInt16.le_iff_toNat_le,
      UInt16.lt_iff_toNat_lt, hhigh]
    show 0xD800 ≤ _ ∧ _ < 0xDC00
    omega
  have hsecond : Literal.isLow (Literal.lowHalf c) = true := by
    simp only [Literal.isLow, Bool.and_eq_true, decide_eq_true_eq, UInt16.le_iff_toNat_le,
      UInt16.lt_iff_toNat_lt, hlow]
    show 0xDC00 ≤ _ ∧ _ < 0xE000
    omega
  have hchar : Literal.paired (Literal.highHalf c) (Literal.lowHalf c) = c := by
    rw [Literal.paired, hhigh, hlow]
    have hnumber : 0x10000 + (0xD800 + (c.toNat - 0x10000) / 0x400 - 0xD800) * 0x400 +
        (0xDC00 + (c.toNat - 0x10000) % 0x400 - 0xDC00) = c.toNat := by
      omega
    rw [hnumber, Char.ofNat_toNat]
  intro more
  simp [Literal.bytes?, hfirst, hsecond, hchar]

namespace Literal

theorem Spells.standsFor {l : Literal} {cs : List Char} (h : l.Spells cs) :
    StandsFor l (cs.flatMap String.utf8EncodeChar) := by
  induction h with
  | nil =>
    intro more
    simp
  | bytes c _ ih => exact (standsFor_plain _).append ih
  | unit hc _ ih => exact (standsFor_unit hc).append ih
  | pair hc _ ih => exact (standsFor_pair hc).append ih

theorem Spells.text? {l : Literal} {s : String} (h : l.Spells s.toList) : l.text? = some s :=
  StandsFor.text? h.standsFor

end Literal

namespace Literal

theorem Spells.append {l l' : Literal} {cs cs' : List Char} (h : l.Spells cs) (h' : l'.Spells cs') :
    Spells (l ++ l') (cs ++ cs') := by
  induction h with
  | nil => exact h'
  | bytes c _ ih =>
    rw [List.append_assoc]
    exact .bytes c ih
  | unit hc _ ih => exact .unit hc ih
  | pair hc _ ih => exact .pair hc ih

theorem spells_plain (s : String) : (plain s).Spells s.toList := by
  rw [plain, Text.Utf8.encode]
  induction s.toList with
  | nil => exact .nil
  | cons c cs ih =>
    rw [List.flatMap_cons, List.map_append]
    exact .bytes c ih

end Literal

/-! ## Documents and values -/

section

variable {d : Doc} {v : Value}

theorem Doc.Means.text?_eq_some_iff (h : d.Means v) (s : String) :
    d.text? = some s ↔ v = .text s := by
  cases h with
  | text h => simp [Doc.text?, h.text?]
  | _ => simp [Doc.text?]

theorem mapM_text?_eq_some_iff {items : List Doc} {values : List Value}
    (h : List.Forall₂ Doc.Means items values) (texts : List String) :
    items.mapM Doc.text? = some texts ↔ values = texts.map .text := by
  induction h generalizing texts with
  | nil => cases texts <;> simp
  | @cons d v items values hd _ ih =>
    simp only [List.mapM_cons, Option.bind_eq_bind, Option.bind_eq_some_iff, Option.pure_def,
      Option.some.injEq]
    constructor
    · rintro ⟨s, hs, rest, hrest, rfl⟩
      rw [List.map_cons, (hd.text?_eq_some_iff s).1 hs, (ih rest).1 hrest]
    · intro hvalues
      cases texts with
      | nil => cases hvalues
      | cons s rest =>
        obtain ⟨hv, hvalues⟩ := List.cons.inj hvalues
        exact ⟨s, (hd.text?_eq_some_iff s).2 hv, rest, (ih rest).2 hvalues, rfl⟩

theorem Doc.Means.texts?_eq_some_iff (h : d.Means v) (texts : List String) :
    d.items? Doc.text? = some texts ↔ v = .array (texts.map .text) := by
  cases h with
  | array h => simp [Doc.items?, mapM_text?_eq_some_iff h]
  | _ => simp [Doc.items?]

end

/-- A document is nested as deep as the value that it says. -/
theorem Doc.Means.nesting_eq (d : Doc) : ∀ v, d.Means v → d.nesting = v.nesting := by
  induction d using Doc.induction with
  | array items ih =>
    intro v h
    cases h with
    | array h =>
      rw [Doc.nesting, Value.nesting, Nat.add_right_cancel_iff]
      induction h with
      | nil => rfl
      | cons hd _ ihs =>
        rw [Doc.nestingOfItems, Value.nestingOfItems, ih _ List.mem_cons_self _ hd,
          ihs fun d hd => ih d (List.mem_cons_of_mem _ hd)]
  | object members ih =>
    intro v h
    cases h with
    | object h =>
      rw [Doc.nesting, Value.nesting, Nat.add_right_cancel_iff]
      induction h with
      | nil => rfl
      | cons hm _ ihs =>
        cases hm with
        | mk hkey hd =>
          rw [Doc.nestingOfMembers, Value.nestingOfMembers, ih _ List.mem_cons_self _ hd,
            ihs fun m hm => ih m (List.mem_cons_of_mem _ hm)]
  | _ =>
    intro v h
    cases h
    rfl

theorem Doc.Means.every_eq (fits : Numeral → Bool) (d : Doc) :
    ∀ v, d.Means v → d.every (·.text?.isSome) fits = v.numbers.all fits := by
  induction d using Doc.induction with
  | array items ih =>
    intro v h
    cases h with
    | array h =>
      rw [Doc.every, Value.numbers]
      induction h with
      | nil => rfl
      | cons hd _ ihs =>
        rw [Doc.everyItem, Value.numbersOfItems, List.all_append, ih _ List.mem_cons_self _ hd,
          ihs fun d hd => ih d (List.mem_cons_of_mem _ hd)]
  | object members ih =>
    intro v h
    cases h with
    | object h =>
      rw [Doc.every, Value.numbers]
      induction h with
      | nil => rfl
      | cons hm _ ihs =>
        cases hm with
        | mk hkey hd =>
          rw [Doc.everyMember, Value.numbersOfMembers, List.all_append, hkey.text?,
            ih _ List.mem_cons_self _ hd, ihs fun m hm => ih m (List.mem_cons_of_mem _ hm)]
          rfl
  | text l =>
    intro v h
    cases h with
    | text h => simp [Doc.every, Value.numbers, h.text?]
  | number n =>
    intro v h
    cases h
    simp [Doc.every, Value.numbers]
  | _ =>
    intro v h
    cases h
    rfl

/-- Whether a document is read whole is a matter of the value that it says. -/
theorem Doc.Means.isReadable_iff {d : Doc} {v : Value} (h : d.Means v) (around : Nat) :
    d.isReadable around = true ↔
      around + v.nesting ≤ Doc.nestingLimit ∧ ∀ n ∈ v.numbers, n.fitsDouble = true := by
  rw [Doc.isReadable, Doc.Means.nesting_eq d v h, Doc.Means.every_eq _ d v h, Bool.and_eq_true,
    decide_eq_true_iff, List.all_eq_true]

theorem named_plain (s : String) {d : Doc} {v : Value} (h : d.Means v) :
    Named Doc.Means (.plain s, d) (s, v) :=
  .mk (Literal.spells_plain s) h

theorem means_plain (s : String) : Doc.Means (.text (.plain s)) (.text s) :=
  .text (Literal.spells_plain s)

/-! ## Inside a value -/

namespace Value

theorem nesting_le_items {v : Value} {items : List Value} (h : v ∈ items) :
    v.nesting ≤ nestingOfItems items := by
  induction items with
  | nil => cases h
  | cons w items ih =>
    rw [nestingOfItems]
    rcases List.mem_cons.1 h with rfl | h
    · exact Nat.le_max_left _ _
    · exact Nat.le_trans (ih h) (Nat.le_max_right _ _)

theorem nestingOfMembers_eq (members : List (String × Value)) :
    nestingOfMembers members = nestingOfItems (members.map (·.2)) := by
  induction members with
  | nil => rfl
  | cons m members ih =>
    rw [nestingOfMembers, ih]
    rfl

theorem nesting_le_members {v : Value} {name : String} {members : List (String × Value)}
    (h : v ∈ under name members) : v.nesting ≤ nestingOfMembers members := by
  rw [nestingOfMembers_eq]
  apply nesting_le_items
  obtain ⟨m, hm, rfl⟩ := List.mem_map.1 h
  exact List.mem_map_of_mem (List.mem_of_mem_filter hm)

end Value

/-! ## Members -/

section

variable {members : List Member} {values : List (String × Value)}

theorem texts_of_named (h : List.Forall₂ (Named Doc.Means) members values) :
    ∀ m ∈ members, m.1.text?.isSome = true := by
  induction h with
  | nil => nofun
  | cons hm _ ih =>
    intro m hmem
    rcases List.mem_cons.1 hmem with rfl | hmem
    · cases hm with
      | mk hkey _ =>
        rw [hkey.text?]
        rfl
    · exact ih m hmem

/-- What stands under a name in the document says what stands there in the value. -/
theorem named_under (h : List.Forall₂ (Named Doc.Means) members values) (name : String) :
    List.Forall₂ Doc.Means (valuesUnder name members) (Value.under name values) := by
  induction h with
  | nil => exact .nil
  | cons hm _ ih =>
    cases hm with
    | @mk k key d v hkey hd =>
      rw [valuesUnder_cons, hkey.text?, Value.under]
      by_cases hname : key = name
      · rw [if_pos (congrArg some hname), List.filter_cons_of_pos (by simpa using hname)]
        exact .cons hd ih
      · rw [if_neg (mt Option.some.inj hname), List.filter_cons_of_neg (by simpa using hname)]
        exact ih

theorem exists_named? (h : List.Forall₂ (Named Doc.Means) members values) :
    ∃ ds, named? members = some ((values.map (·.1)).zip ds) ∧
      List.Forall₂ Doc.Means ds (values.map (·.2)) := by
  induction h with
  | nil => exact ⟨[], rfl, .nil⟩
  | cons hm _ ih =>
    obtain ⟨ds, hnamed, hds⟩ := ih
    cases hm with
    | mk hkey hd => exact ⟨_, by rw [named?, hkey.text?, hnamed]; rfl, .cons hd hds⟩

end

end CandleRelay.Json
