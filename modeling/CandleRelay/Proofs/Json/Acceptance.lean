import CandleRelay.Proofs.Json.Quoting
import CandleRelay.Proofs.Json.Tokens

/-!
# The reader accepts the grammar

A text is read as a document exactly if the grammar writes that document so. Reading is followed
through what the automaton holds between two bytes. In one direction, what is written is read to its
end, whatever stands around it (`readsWhole`); a number is the one value whose end the automaton
learns from the byte behind it, so a state that holds a value (`Holds`) is either past the value or
in a number that may end there. In the other direction, each state tells how the bytes so far were
written (`Reached`), and one more byte keeps that true (`reached_step`).

What is proved:
  1. `parse?_of_written`: each way to write a document is read as that document.
  2. `written_of_parse?`: what is read as a document is a way to write it.
  3. `parse?_eq_some_iff`: both together, and with that the grammar is unambiguous
     (`Doc.WrittenAs.unique`).
-/

namespace CandleRelay.Json

/-! ## Waiting -/

namespace Reader

/-- Blanks do not move the automaton. -/
def Waits (r : Reader) : Prop := ∀ b, Byte.isBlank b = true → r.step? b = some r

theorem Waits.run? {r : Reader} (hr : Waits r) {w : Bytes} (hw : Blank w) : r.run? w = some r := by
  induction w with
  | nil => rfl
  | cons b w ih =>
    have hb := hr b (hw b List.mem_cons_self)
    simp only [Reader.run?, hb]
    exact ih fun c hc => hw c (List.mem_cons_of_mem _ hc)

theorem Waits.run?_append {r : Reader} (hr : Waits r) {w : Bytes} (hw : Blank w) (rest : Bytes) :
    r.run? (w ++ rest) = r.run? rest := by
  rw [Reader.run?_append, hr.run? hw]
  rfl

theorem run?_cons {r r' : Reader} {b : UInt8} (h : r.step? b = some r') (rest : Bytes) :
    r.run? (b :: rest) = r'.run? rest := by
  simp only [Reader.run?, h]

theorem waits_value (st : List Container) : Waits ⟨.value, st⟩ := by
  intro b hb
  simp [step?, hb]

theorem waits_firstItem (st : List Container) : Waits ⟨.firstItem, st⟩ := by
  intro b hb
  simp [step?, hb]

theorem waits_firstKey (st : List Container) : Waits ⟨.firstKey, st⟩ := by
  intro b hb
  simp [step?, hb]

theorem waits_key (members : List Member) (st : List Container) : Waits ⟨.key members, st⟩ := by
  intro b hb
  simp [step?, hb]

theorem waits_colon (members : List Member) (key : Literal) (st : List Container) :
    Waits ⟨.colon members key, st⟩ := by
  intro b hb
  simp [step?, hb]

theorem step?_complete (d : Doc) (st : List Container) (b : UInt8) :
    (complete d st).step? b = (complete d st).between? b := by
  cases st with
  | nil => rfl
  | cons c st => cases c <;> rfl

theorem waits_complete (d : Doc) (st : List Container) : Waits (complete d st) := by
  intro b hb
  rw [step?_complete]
  simp [between?, hb]

end Reader

/-! ## What is written is read -/

/-- Induction on a document: what is inside an array or an object comes first. -/
theorem Doc.induction {motive : Doc → Prop} (null : motive .null) (bool : ∀ b, motive (.bool b))
    (number : ∀ n, motive (.number n)) (text : ∀ l, motive (.text l))
    (array : ∀ items, (∀ d ∈ items, motive d) → motive (.array items))
    (object : ∀ members : List Member, (∀ m ∈ members, motive m.2) → motive (.object members)) :
    ∀ d, motive d
  | .null => null
  | .bool b => bool b
  | .number n => number n
  | .text l => text l
  | .array items => array items fun d hd => by
    have := List.sizeOf_lt_of_mem hd
    exact Doc.induction null bool number text array object d
  | .object members => object members fun m hm => by
    have := List.sizeOf_lt_of_mem hm
    have : sizeOf m.2 < sizeOf m := by
      obtain ⟨k, d⟩ := m
      rw [Prod.mk.sizeOf_spec]
      show sizeOf d < _
      omega
    exact Doc.induction null bool number text array object m.2
termination_by d => sizeOf d

namespace Reader

variable {st : List Container}

/-- A phase inside a string: its bytes are the string's affair up to the closing quote. -/
structure Hosts (wrap : OpenText → Phase) (st : List Container) (close : Literal → Reader) :
    Prop where
  closes : ∀ pieces, step? ⟨wrap (.plain pieces), st⟩ Byte.quote = some (close pieces.reverse)
  inside : ∀ t b, (∀ pieces, t = .plain pieces → b ≠ Byte.quote) →
    step? ⟨wrap t, st⟩ b = (t.step? b).map fun t => ⟨wrap t, st⟩

theorem hosts_text (st : List Container) :
    Hosts .text st fun l => complete (.text l) st where
  closes pieces := by simp [step?]
  inside t b hquote := by
    cases t with
    | plain pieces => simp [step?, hquote pieces rfl]
    | escape pieces => rfl
    | unit pieces left value => rfl

theorem hosts_keyText (members : List Member) (st : List Container) :
    Hosts (.keyText members) st fun k => ⟨.colon members k, st⟩ where
  closes pieces := by simp [step?]
  inside t b hquote := by
    cases t with
    | plain pieces => simp [step?, hquote pieces rfl]
    | escape pieces => rfl
    | unit pieces left value => rfl

namespace Hosts

variable {wrap : OpenText → Phase} {close : Literal → Reader}

theorem run? (hosts : Hosts wrap st close) {t t' : OpenText} {w : Bytes} (h : t.GoesAll w t') :
    Reader.run? ⟨wrap t, st⟩ w = some ⟨wrap t', st⟩ := by
  induction w generalizing t with
  | nil =>
    cases h
    rfl
  | cons b w ih =>
    obtain ⟨t₁, ⟨hstep, hquote⟩, hw⟩ := h
    have hb : step? ⟨wrap t, st⟩ b = some ⟨wrap t₁, st⟩ := by
      rw [hosts.inside t b hquote, hstep]
      rfl
    rw [run?_cons hb]
    exact ih hw

theorem run?_literal (hosts : Hosts wrap st close) {l : Literal} {w : Bytes} (h : l.Written w)
    (rest : Bytes) :
    Reader.run? ⟨wrap (.plain []), st⟩ (w ++ Byte.quote :: rest) = (close l).run? rest := by
  have hend := hosts.closes (l.reverse ++ [])
  rw [List.append_nil, List.reverse_reverse] at hend
  rw [Reader.run?_append, hosts.run? (OpenText.goesAll_literal h []), Option.bind_some,
    List.append_nil, run?_cons hend]

theorem cases (hosts : Hosts wrap st close) {t : OpenText} {b : UInt8} {r : Reader}
    (h : step? ⟨wrap t, st⟩ b = some r) :
    (∃ pieces, t = .plain pieces ∧ b = Byte.quote ∧ r = close pieces.reverse) ∨
      ∃ t', t.Goes b t' ∧ r = ⟨wrap t', st⟩ := by
  by_cases hclose : (∃ pieces, t = .plain pieces) ∧ b = Byte.quote
  · obtain ⟨⟨pieces, rfl⟩, rfl⟩ := hclose
    rw [hosts.closes] at h
    exact Or.inl ⟨pieces, rfl, rfl, (Option.some.inj h).symm⟩
  · have hquote : ∀ pieces, t = .plain pieces → b ≠ Byte.quote :=
      fun pieces ht hb => hclose ⟨⟨pieces, ht⟩, hb⟩
    rw [hosts.inside t b hquote] at h
    obtain ⟨t', hstep, rfl⟩ := Option.map_eq_some_iff.1 h
    exact Or.inr ⟨t', ⟨hstep, hquote⟩, rfl⟩

end Hosts

theorem run?_number {n n' : Numeral} {w : Bytes} (h : n.continueAll? w = some n')
    (st : List Container) : run? ⟨.number n, st⟩ w = some ⟨.number n', st⟩ := by
  induction w generalizing n with
  | nil =>
    cases h
    rfl
  | cons b w ih =>
    obtain ⟨n₁, hb, hw⟩ := Option.bind_eq_some_iff.1 h
    have hstep : step? ⟨.number n, st⟩ b = some ⟨.number n₁, st⟩ := by
      simp only [step?, hb]
    rw [run?_cons hstep]
    exact ih hw

/-- The automaton holds a value: it is past its end, or in a number that may end here. -/
def Holds (d : Doc) (st : List Container) (r : Reader) : Prop :=
  r = complete d st ∨ ∃ n, n.isWhole = true ∧ d = .number n.inOrder ∧ r = ⟨.number n, st⟩

/-- The bytes that end a number without being part of it. -/
def EndsValue (b : UInt8) : Prop :=
  Byte.isBlank b = true ∨ b = Byte.comma ∨ b = Byte.rightBracket ∨ b = Byte.rightBrace

theorem continue?_of_endsValue {b : UInt8} (hb : EndsValue b) (n : Numeral) :
    n.continue? b = none := by
  have hnone : Byte.digit? b = none ∧ b ∉ [Byte.point, 0x65, 0x45, Byte.plus, Byte.minus] := by
    simp only [EndsValue, Byte.isBlank, Bool.or_eq_true, beq_iff_eq] at hb
    rcases hb with ((((rfl | rfl) | rfl) | rfl) | rfl | rfl | rfl) <;> decide
  obtain ⟨hdigit, hother⟩ := hnone
  simp only [List.mem_cons, List.not_mem_nil, or_false, not_or] at hother
  simp only [Numeral.continue?, hdigit]
  split
  · simp [hother]
  · simp [hother]
  · rfl

/-- What holds a value takes the byte behind it as if past its end. -/
theorem Holds.step? {d : Doc} {r : Reader} (h : Holds d st r) {b : UInt8} (hb : EndsValue b) :
    r.step? b = (complete d st).step? b := by
  rcases h with rfl | ⟨n, hn, rfl, rfl⟩
  · rfl
  · rw [step?_complete]
    simp only [Reader.step?, continue?_of_endsValue hb, hn, ite_true]

theorem Holds.blank {d : Doc} {r : Reader} (h : Holds d st r) {w : Bytes} (hw : Blank w) :
    ∃ r', r.run? w = some r' ∧ Holds d st r' := by
  cases w with
  | nil => exact ⟨r, rfl, h⟩
  | cons b w =>
    have hb := hw b List.mem_cons_self
    have hwait := waits_complete d st
    have hstep : r.step? b = some (complete d st) := by
      rw [h.step? (Or.inl hb)]
      exact hwait b hb
    refine ⟨complete d st, ?_, Or.inl rfl⟩
    rw [run?_cons hstep]
    exact hwait.run? fun c hc => hw c (List.mem_cons_of_mem _ hc)

/-- The bytes that may begin a value. -/
def Begins (b : UInt8) : Prop := Byte.isBlank b = false ∧ b ≠ Byte.rightBracket

/-- The automaton awaits an item behind these. -/
structure AwaitsItem (items : List Doc) (st : List Container) (r : Reader) : Prop where
  waits : Waits r
  begins : ∀ b, Begins b → r.step? b = step? ⟨.value, .array items :: st⟩ b

/-- The automaton awaits a key behind these members. -/
structure AwaitsKey (members : List Member) (st : List Container) (r : Reader) : Prop where
  waits : Waits r
  begins : r.step? Byte.quote = some ⟨.keyText members (.plain []), st⟩

theorem awaitsItem_value (items : List Doc) (st : List Container) :
    AwaitsItem items st ⟨.value, .array items :: st⟩ :=
  ⟨waits_value _, fun _ _ => rfl⟩

theorem awaitsItem_first (st : List Container) : AwaitsItem [] st ⟨.firstItem, st⟩ := by
  refine ⟨waits_firstItem st, ?_⟩
  rintro b ⟨hblank, hclose⟩
  simp [step?, hblank, hclose]

theorem awaitsKey_key (members : List Member) (st : List Container) :
    AwaitsKey members st ⟨.key members, st⟩ :=
  ⟨waits_key _ _, rfl⟩

theorem awaitsKey_first (st : List Container) : AwaitsKey [] st ⟨.firstKey, st⟩ :=
  ⟨waits_firstKey _, rfl⟩

/-- Where a value may begin, this one is read to its end. -/
def ReadsWhole (d : Doc) : Prop := ∀ w, d.Written w → ∀ st, ∃ r,
  run? ⟨.value, st⟩ w = some r ∧ Holds d st r

theorem step?_minus (st : List Container) :
    step? ⟨.value, st⟩ Byte.minus = some ⟨.number ⟨true, [], none, none⟩, st⟩ :=
  rfl

theorem begins_byte (d : Digit) : Begins d.byte := by
  have hall : ∀ d : Digit, Byte.isBlank d.byte = false ∧ d.byte ≠ Byte.rightBracket := by decide
  exact hall d

theorem step?_byte (d : Digit) (st : List Container) :
    step? ⟨.value, st⟩ d.byte = some ⟨.number ⟨false, [d], none, none⟩, st⟩ := by
  have hall : ∀ d : Digit, d.byte ∉
      [Byte.leftBrace, Byte.leftBracket, Byte.quote, Byte.minus, 0x74, 0x66, 0x6E] := by
    decide
  have hother := hall d
  simp only [List.mem_cons, List.not_mem_nil, or_false, not_or] at hother
  simp [step?, (begins_byte d).1, begin?, hother, digit?_byte]

theorem run?_numeral {n : Numeral} {w : Bytes} (h : n.Written w) :
    (∃ b v, w = b :: v ∧ Begins b) ∧
      ∀ st, run? ⟨.value, st⟩ w = some ⟨.number n.latestFirst, st⟩ := by
  obtain ⟨hwell, letter, hletter, rfl⟩ := h
  have hparts := Numeral.continueAll?_bytes hwell hletter
  obtain ⟨negative, whole, fraction, exponent⟩ := n
  dsimp only at hparts
  cases negative with
  | true =>
    refine ⟨⟨Byte.minus, _, rfl, by decide, by decide⟩, fun st => ?_⟩
    have hrun := run?_number hparts st
    rw [List.append_assoc] at hrun
    show run? _ (Byte.minus :: _) = _
    rw [run?_cons (step?_minus st)]
    simpa using hrun
  | false =>
    cases whole with
    | nil => exact absurd rfl hwell.whole
    | cons d ds =>
      refine ⟨⟨d.byte, _, rfl, begins_byte d⟩, fun st => ?_⟩
      -- The first digit makes the number that the others continue.
      have hfirst : ∀ rest, Numeral.continueAll? ⟨false, [], none, none⟩ (d.byte :: rest) =
          Numeral.continueAll? ⟨false, [d], none, none⟩ rest := by
        intro rest
        show (Numeral.continue? _ _).bind _ = _
        rw [Numeral.continue?_byte]
        rfl
      have hrun := run?_number ((hfirst _).symm.trans hparts) st
      show run? _ (d.byte :: _) = _
      rw [run?_cons (step?_byte d st)]
      exact hrun

theorem begins_written {d : Doc} {w : Bytes} (h : d.Written w) : ∃ b v, w = b :: v ∧ Begins b := by
  cases h with
  | null => exact ⟨_, _, rfl, by decide, by decide⟩
  | true => exact ⟨_, _, rfl, by decide, by decide⟩
  | false => exact ⟨_, _, rfl, by decide, by decide⟩
  | number h => exact (run?_numeral h).1
  | text h => exact ⟨_, _, rfl, by decide, by decide⟩
  | array h => exact ⟨_, _, rfl, by decide, by decide⟩
  | object h => exact ⟨_, _, rfl, by decide, by decide⟩

theorem AwaitsItem.run?_item {before : List Doc} {r : Reader} (hr : AwaitsItem before st r)
    {d : Doc} (hd : ReadsWhole d) {a w b : Bytes} (ha : Blank a) (hw : d.Written w) (hb : Blank b) :
    ∃ r', r.run? (a ++ w ++ b) = some r' ∧ Holds d (.array before :: st) r' := by
  obtain ⟨c, v, rfl, hc⟩ := begins_written hw
  obtain ⟨r₁, hrun, hholds⟩ := hd _ hw (.array before :: st)
  obtain ⟨r', hblank, hholds⟩ := hholds.blank hb
  refine ⟨r', ?_, hholds⟩
  have hsame : r.run? (c :: v) = run? ⟨.value, .array before :: st⟩ (c :: v) := by
    simp only [Reader.run?, hr.begins c hc]
  rw [List.append_assoc, hr.waits.run?_append ha, Reader.run?_append, hsame, hrun,
    Option.bind_some, hblank]

theorem AwaitsKey.run?_member {before : List Member} {r : Reader} (hr : AwaitsKey before st r)
    {m : Member} (hm : ReadsWhole m.2) {a w b : Bytes} (ha : Blank a)
    (hw : Keyed Doc.Written m w) (hb : Blank b) :
    ∃ r', r.run? (a ++ w ++ b) = some r' ∧ Holds m.2 (.object before m.1 :: st) r' := by
  cases hw with
  | @mk k d u x y v hkey hx hy hvalue =>
    obtain ⟨r₁, hrun, hholds⟩ := hm v hvalue (.object before k :: st)
    obtain ⟨r', hblank, hholds⟩ := hholds.blank hb
    refine ⟨r', ?_, hholds⟩
    have hbytes : a ++ (Byte.quote :: u ++ Byte.quote :: x ++ Byte.colon :: y ++ v) ++ b =
        a ++ Byte.quote :: (u ++ Byte.quote :: (x ++ Byte.colon :: (y ++ (v ++ b)))) := by
      simp
    have hcolon : step? ⟨.colon before k, st⟩ Byte.colon =
        some ⟨.value, .object before k :: st⟩ := rfl
    rw [hbytes, hr.waits.run?_append ha, run?_cons hr.begins,
      (hosts_keyText before st).run?_literal hkey, (waits_colon before k st).run?_append hx,
      run?_cons hcolon, (waits_value _).run?_append hy, Reader.run?_append, hrun,
      Option.bind_some, hblank]

/-- Entries are read one after the other, if each is read to its end and the comma behind it leads
to the next one. -/
theorem run?_separated {α : Type} {P : α → Bytes → Prop} (awaits : List α → Reader → Prop)
    (holds : α → List α → Reader → Prop)
    (comma : ∀ x before r, holds x before r →
      ∃ r', r.step? Byte.comma = some r' ∧ awaits (x :: before) r')
    {items : List α} {w : Bytes} (h : Separated P items w) (hne : items ≠ [])
    (item : ∀ x ∈ items, ∀ before r a w b, awaits before r → Blank a → P x w → Blank b →
      ∃ r', r.run? (a ++ w ++ b) = some r' ∧ holds x before r') :
    ∀ before r, awaits before r → ∃ x front r', r.run? w = some r' ∧
      x :: front = items.reverse ++ before ∧ holds x front r' := by
  induction h with
  | none => exact absurd rfl hne
  | @one x a w b ha hx hb =>
    intro before r hr
    obtain ⟨r', hrun, hholds⟩ := item x List.mem_cons_self before r a w b hr ha hx hb
    exact ⟨x, before, r', hrun, rfl, hholds⟩
  | @more x y rest a w b v ha hx hb others ih =>
    intro before r hr
    obtain ⟨r₁, hrun, hholds⟩ := item x List.mem_cons_self before r a w b hr ha hx hb
    obtain ⟨r₂, hcomma, hawaits⟩ := comma x before r₁ hholds
    obtain ⟨z, front, r', hrest, hfront, hholds⟩ := ih (List.cons_ne_nil _ _)
      (fun z hz => item z (List.mem_cons_of_mem _ hz)) (x :: before) r₂ hawaits
    refine ⟨z, front, r', ?_, ?_, hholds⟩
    · rw [Reader.run?_append, hrun, Option.bind_some, run?_cons hcomma, hrest]
    · rw [hfront]
      simp

theorem readsWhole_text (l : Literal) : ReadsWhole (.text l) := by
  intro w hw st
  cases hw with
  | @text _ w hl =>
    refine ⟨complete (.text l) st, ?_, Or.inl rfl⟩
    have hopen : step? ⟨.value, st⟩ Byte.quote = some ⟨.text (.plain []), st⟩ := rfl
    show run? _ (Byte.quote :: (w ++ [Byte.quote])) = _
    rw [run?_cons hopen, (hosts_text st).run?_literal hl]
    rfl

theorem readsWhole_array {items : List Doc} (hitems : ∀ d ∈ items, ReadsWhole d) :
    ReadsWhole (.array items) := by
  intro w hw st
  cases hw with
  | @array _ w hw =>
    refine ⟨complete (.array items) st, ?_, Or.inl rfl⟩
    have hopen : step? ⟨.value, st⟩ Byte.leftBracket = some ⟨.firstItem, st⟩ := rfl
    show run? _ (Byte.leftBracket :: (w ++ [Byte.rightBracket])) = _
    rw [run?_cons hopen, Reader.run?_append]
    cases items with
    | nil =>
      cases hw with
      | none hblank =>
        rw [(waits_firstItem st).run? hblank]
        rfl
    | cons d items =>
      obtain ⟨x, front, r', hrun, hfront, hholds⟩ :=
        run?_separated (fun before => AwaitsItem before st)
          (fun d before => Holds d (.array before :: st))
          (fun x before r hx => ⟨⟨.value, .array (x :: before) :: st⟩,
            hx.step? (Or.inr (Or.inl rfl)), awaitsItem_value _ _⟩)
          hw (List.cons_ne_nil _ _)
          (fun x hx before r a w b hr ha hw hb => hr.run?_item (hitems x hx) ha hw hb)
          [] ⟨.firstItem, st⟩ (awaitsItem_first st)
      have hend : r'.step? Byte.rightBracket = some (complete (.array (d :: items)) st) := by
        rw [hholds.step? (Or.inr (Or.inr (Or.inl rfl)))]
        show some (complete (.array (x :: front).reverse) st) = _
        rw [hfront, List.append_nil, List.reverse_reverse]
      rw [hrun, Option.bind_some, run?_cons hend]
      rfl

theorem readsWhole_object {members : List Member} (hmembers : ∀ m ∈ members, ReadsWhole m.2) :
    ReadsWhole (.object members) := by
  intro w hw st
  cases hw with
  | @object _ w hw =>
    refine ⟨complete (.object members) st, ?_, Or.inl rfl⟩
    have hopen : step? ⟨.value, st⟩ Byte.leftBrace = some ⟨.firstKey, st⟩ := rfl
    show run? _ (Byte.leftBrace :: (w ++ [Byte.rightBrace])) = _
    rw [run?_cons hopen, Reader.run?_append]
    cases members with
    | nil =>
      cases hw with
      | none hblank =>
        rw [(waits_firstKey st).run? hblank]
        rfl
    | cons m members =>
      obtain ⟨x, front, r', hrun, hfront, hholds⟩ :=
        run?_separated (fun before => AwaitsKey before st)
          (fun m before => Holds m.2 (.object before m.1 :: st))
          (fun x before r hx => ⟨⟨.key (x :: before), st⟩,
            hx.step? (Or.inr (Or.inl rfl)), awaitsKey_key _ _⟩)
          hw (List.cons_ne_nil _ _)
          (fun x hx before r a w b hr ha hw hb => hr.run?_member (hmembers x hx) ha hw hb)
          [] ⟨.firstKey, st⟩ (awaitsKey_first st)
      have hend : r'.step? Byte.rightBrace = some (complete (.object (m :: members)) st) := by
        rw [hholds.step? (Or.inr (Or.inr (Or.inr rfl)))]
        show some (complete (.object (x :: front).reverse) st) = _
        rw [hfront, List.append_nil, List.reverse_reverse]
      rw [hrun, Option.bind_some, run?_cons hend]
      rfl

/-- Where a value may begin, each way to write one is read to its end. -/
theorem readsWhole (d : Doc) : ReadsWhole d := by
  induction d using Doc.induction with
  | null =>
    intro w hw st
    cases hw
    exact ⟨_, rfl, Or.inl rfl⟩
  | bool b =>
    intro w hw st
    cases hw <;> exact ⟨_, rfl, Or.inl rfl⟩
  | number n =>
    intro w hw st
    cases hw with
    | number hn =>
      refine ⟨_, (run?_numeral hn).2 st, Or.inr ⟨n.latestFirst, ?_, ?_, rfl⟩⟩
      · exact Numeral.isWhole_latestFirst hn.1
      · rw [Numeral.inOrder_latestFirst]
  | text l => exact readsWhole_text l
  | array items ih => exact readsWhole_array ih
  | object members ih => exact readsWhole_object ih

end Reader

/-- Each way to write a document is read as that document. -/
theorem parse?_of_written {d : Doc} {input : Bytes} (h : d.WrittenAs input) :
    parse? input = some d := by
  obtain ⟨a, w, b, ha, hw, hb, rfl⟩ := h
  obtain ⟨r₁, hrun, hholds⟩ := Reader.readsWhole d w hw []
  obtain ⟨r, hblank, hholds⟩ := hholds.blank hb
  have hall : Reader.start.run? (a ++ w ++ b) = some r := by
    show Reader.run? ⟨.value, []⟩ _ = _
    rw [List.append_assoc, (Reader.waits_value []).run?_append ha, Reader.run?_append, hrun,
      Option.bind_some, hblank]
  rw [parse?, hall, Option.bind_some]
  rcases hholds with rfl | ⟨n, hn, rfl, rfl⟩
  · rfl
  · simp only [Reader.result?, hn, ite_true]

/-! ## What is read was written -/

theorem Separated.concat {α : Type} {P : α → Bytes → Prop} {items : List α} {v : Bytes}
    (h : Separated P items v) (hne : items ≠ []) {x : α} {a w b : Bytes} (ha : Blank a)
    (hx : P x w) (hb : Blank b) :
    Separated P (items ++ [x]) (v ++ Byte.comma :: (a ++ w ++ b)) := by
  induction h with
  | none => exact absurd rfl hne
  | one ha' hx' hb' => exact .more ha' hx' hb' (.one ha hx hb)
  | @more y z rest a' w' b' v ha' hy hb' others ih =>
    have hmore := Separated.more ha' hy hb' (ih (List.cons_ne_nil _ _))
    simpa using hmore

theorem Separated.blank {α : Type} {P : α → Bytes → Prop} {items : List α} {v : Bytes}
    (h : Separated P items v) {b : Bytes} (hb : Blank b) : Separated P items (v ++ b) := by
  induction h with
  | none h => exact .none (h.append hb)
  | @one x a w b' ha hx hb' =>
    rw [List.append_assoc]
    exact .one ha hx (hb'.append hb)
  | @more x y rest a w b' v ha hx hb' others ih =>
    rw [List.append_assoc, List.cons_append]
    exact .more ha hx hb' ih

/-- The bytes behind an opening bracket where an entry may follow those so far. -/
inductive Awaited {α : Type} (P : α → Bytes → Prop) : List α → Bytes → Prop
  | first {a : Bytes} (h : Blank a) : Awaited P [] a
  | next {items : List α} {v a : Bytes} (h : Separated P items v) (hne : items ≠ [])
      (ha : Blank a) : Awaited P items (v ++ Byte.comma :: a)

theorem Awaited.blank {α : Type} {P : α → Bytes → Prop} {items : List α} {v : Bytes}
    (h : Awaited P items v) {b : Bytes} (hb : Blank b) : Awaited P items (v ++ b) := by
  cases h with
  | first h => exact .first (h.append hb)
  | next h hne ha =>
    rw [List.append_assoc, List.cons_append]
    exact .next h hne (ha.append hb)

theorem Awaited.push {α : Type} {P : α → Bytes → Prop} {items : List α} {v : Bytes}
    (h : Awaited P items v) {x : α} {w b : Bytes} (hx : P x w) (hb : Blank b) :
    Separated P (items ++ [x]) (v ++ w ++ b) := by
  cases h with
  | first h => exact .one h hx hb
  | next h hne ha =>
    have hall := h.concat hne ha hx hb
    simpa using hall

/-- The bytes before a value inside these containers. -/
def Opened : List Container → Bytes → Prop
  | [], p => Blank p
  | .array items :: st, p => ∃ q v, Opened st q ∧ Awaited Doc.Written items.reverse v ∧
      p = q ++ Byte.leftBracket :: v
  | .object members key :: st, p => ∃ q v u a b, Opened st q ∧
      Awaited (Keyed Doc.Written) members.reverse v ∧ key.Written u ∧ Blank a ∧ Blank b ∧
      p = q ++ Byte.leftBrace :: v ++ Byte.quote :: u ++ Byte.quote :: a ++ Byte.colon :: b

/-- The bytes before a key of the innermost object. -/
def OpenedKey (members : List Member) (st : List Container) (p : Bytes) : Prop :=
  ∃ q v, Opened st q ∧ Awaited (Keyed Doc.Written) members.reverse v ∧ p = q ++ Byte.leftBrace :: v

/-- The bytes that led the automaton here. -/
def Reached : Reader → Bytes → Prop
  | ⟨.value, st⟩, p => Opened st p
  | ⟨.firstItem, st⟩, p => Opened (.array [] :: st) p
  | ⟨.items items, st⟩, p => ∃ q v, Opened st q ∧ Separated Doc.Written items.reverse v ∧
      items ≠ [] ∧ p = q ++ Byte.leftBracket :: v
  | ⟨.firstKey, st⟩, p => OpenedKey [] st p
  | ⟨.key members, st⟩, p => OpenedKey members st p
  | ⟨.keyText members t, st⟩, p => ∃ q w, OpenedKey members st q ∧ t.Written w ∧
      p = q ++ Byte.quote :: w
  | ⟨.colon members key, st⟩, p => ∃ q u a, OpenedKey members st q ∧ key.Written u ∧ Blank a ∧
      p = q ++ Byte.quote :: u ++ Byte.quote :: a
  | ⟨.members members, st⟩, p => ∃ q v, Opened st q ∧
      Separated (Keyed Doc.Written) members.reverse v ∧ members ≠ [] ∧ p = q ++ Byte.leftBrace :: v
  | ⟨.text t, st⟩, p => ∃ q w, Opened st q ∧ t.Written w ∧ p = q ++ Byte.quote :: w
  | ⟨.number n, st⟩, p => ∃ q w, Opened st q ∧ n.Begun w ∧ p = q ++ w
  | ⟨.word rest d, st⟩, p => ∃ q w, Opened st q ∧ d.Written (w ++ rest) ∧ p = q ++ w
  | ⟨.finished d, _⟩, p => d.WrittenAs p

theorem Opened.blank {st : List Container} {p : Bytes} (h : Opened st p) {b : Bytes}
    (hb : Blank b) : Opened st (p ++ b) := by
  cases st with
  | nil => exact Blank.append h hb
  | cons c st =>
    cases c with
    | array items =>
      obtain ⟨q, v, hq, hv, rfl⟩ := h
      exact ⟨q, v ++ b, hq, hv.blank hb, by simp⟩
    | object members key =>
      obtain ⟨q, v, u, x, y, hq, hv, hu, hx, hy, rfl⟩ := h
      exact ⟨q, v, u, x, y ++ b, hq, hv, hu, hx, hy.append hb, by simp⟩

theorem OpenedKey.blank {members : List Member} {st : List Container} {p : Bytes}
    (h : OpenedKey members st p) {b : Bytes} (hb : Blank b) : OpenedKey members st (p ++ b) := by
  obtain ⟨q, v, hq, hv, rfl⟩ := h
  exact ⟨q, v ++ b, hq, hv.blank hb, by simp⟩

theorem reached_complete {st : List Container} {q w b : Bytes} {d : Doc} (hq : Opened st q)
    (hw : d.Written w) (hb : Blank b) : Reached (Reader.complete d st) (q ++ w ++ b) := by
  cases st with
  | nil => exact ⟨q, w, b, hq, hw, hb, rfl⟩
  | cons c st =>
    cases c with
    | array items =>
      obtain ⟨p, v, hp, hv, rfl⟩ := hq
      refine ⟨p, v ++ w ++ b, hp, ?_, List.cons_ne_nil _ _, by simp⟩
      rw [List.reverse_cons]
      exact hv.push hw hb
    | object members key =>
      obtain ⟨p, v, u, x, y, hp, hv, hu, hx, hy, rfl⟩ := hq
      have hmember : Keyed Doc.Written (key, d)
          (Byte.quote :: u ++ Byte.quote :: x ++ Byte.colon :: y ++ w) := .mk hu hx hy hw
      refine ⟨p, v ++ (Byte.quote :: u ++ Byte.quote :: x ++ Byte.colon :: y ++ w) ++ b, hp, ?_,
        List.cons_ne_nil _ _, by simp⟩
      rw [List.reverse_cons]
      exact hv.push hmember hb

section

variable {st : List Container} {p : Bytes} {b : UInt8} {r r' : Reader}

/-- A value has just been completed. -/
inductive Settled : Phase → Prop
  | items (items : List Doc) : Settled (.items items)
  | members (members : List Member) : Settled (.members members)
  | finished (d : Doc) : Settled (.finished d)

theorem settled_complete (d : Doc) (st : List Container) :
    Settled (Reader.complete d st).phase := by
  cases st with
  | nil => exact .finished d
  | cons c st =>
    cases c with
    | array items => exact .items _
    | object members key => exact .members _

theorem reached_between (hr : Settled r.phase) (h : Reached r p)
    (hstep : r.between? b = some r') : Reached r' (p ++ [b]) := by
  obtain ⟨phase, st⟩ := r
  unfold Reader.between? at hstep
  split at hstep
  · next hblank =>
    cases hstep
    have hb := blank_one hblank
    cases hr with
    | items items =>
      obtain ⟨q, v, hq, hv, hne, rfl⟩ := h
      exact ⟨q, v ++ [b], hq, hv.blank hb, hne, by simp⟩
    | members members =>
      obtain ⟨q, v, hq, hv, hne, rfl⟩ := h
      exact ⟨q, v ++ [b], hq, hv.blank hb, hne, by simp⟩
    | finished d =>
      obtain ⟨a, w, c, ha, hw, hc, rfl⟩ := h
      exact ⟨a, w, c ++ [b], ha, hw, hc.append hb, by simp⟩
  cases hr with
  | items items =>
    obtain ⟨q, v, hq, hv, hne, rfl⟩ := h
    dsimp only at hstep
    split at hstep
    · next hcomma =>
      cases hstep
      rw [beq_iff_eq.1 hcomma]
      have hnext : Awaited Doc.Written items.reverse (v ++ Byte.comma :: []) :=
        .next hv (by simpa using hne) blank_nil
      exact ⟨q, _, hq, hnext, by simp⟩
    split at hstep
    · next hclose =>
      cases hstep
      rw [beq_iff_eq.1 hclose]
      have hdone := reached_complete hq (.array hv) blank_nil
      simpa using hdone
    · cases hstep
  | members members =>
    obtain ⟨q, v, hq, hv, hne, rfl⟩ := h
    dsimp only at hstep
    split at hstep
    · next hcomma =>
      cases hstep
      rw [beq_iff_eq.1 hcomma]
      have hnext : Awaited (Keyed Doc.Written) members.reverse (v ++ Byte.comma :: []) :=
        .next hv (by simpa using hne) blank_nil
      exact ⟨q, _, hq, hnext, by simp⟩
    split at hstep
    · next hclose =>
      cases hstep
      rw [beq_iff_eq.1 hclose]
      have hdone := reached_complete hq (.object hv) blank_nil
      simpa using hdone
    · cases hstep
  | finished d => cases hstep

theorem reached_begin (h : Opened st p) (hstep : Reader.begin? b st = some r') :
    Reached r' (p ++ [b]) := by
  unfold Reader.begin? at hstep
  split at hstep
  · next hb =>
    cases hstep
    rw [beq_iff_eq.1 hb]
    exact ⟨p, [], h, .first blank_nil, rfl⟩
  split at hstep
  · next hb =>
    cases hstep
    rw [beq_iff_eq.1 hb]
    exact ⟨p, [], h, .first blank_nil, rfl⟩
  split at hstep
  · next hb =>
    cases hstep
    rw [beq_iff_eq.1 hb]
    exact ⟨p, [], h, .nil, rfl⟩
  split at hstep
  · next hb =>
    cases hstep
    rw [beq_iff_eq.1 hb]
    exact ⟨p, [Byte.minus], h, Numeral.begun_minus, rfl⟩
  split at hstep
  · next hb =>
    cases hstep
    rw [beq_iff_eq.1 hb]
    exact ⟨p, [0x74], h, .true, rfl⟩
  split at hstep
  · next hb =>
    cases hstep
    rw [beq_iff_eq.1 hb]
    exact ⟨p, [0x66], h, .false, rfl⟩
  split at hstep
  · next hb =>
    cases hstep
    rw [beq_iff_eq.1 hb]
    exact ⟨p, [0x6E], h, .null, rfl⟩
  · obtain ⟨d, hd, rfl⟩ := Option.map_eq_some_iff.1 hstep
    rw [byte_of_digit? hd]
    exact ⟨p, [d.byte], h, Numeral.begun_digit d, rfl⟩

theorem reached_step (h : Reached r p) (hstep : r.step? b = some r') : Reached r' (p ++ [b]) := by
  obtain ⟨phase, st⟩ := r
  cases phase with
  | value =>
    simp only [Reader.step?] at hstep
    split at hstep
    · next hblank =>
      cases hstep
      exact Opened.blank h (blank_one hblank)
    · exact reached_begin h hstep
  | firstItem =>
    simp only [Reader.step?] at hstep
    split at hstep
    · next hblank =>
      cases hstep
      exact Opened.blank h (blank_one hblank)
    split at hstep
    · next hclose =>
      cases hstep
      rw [beq_iff_eq.1 hclose]
      obtain ⟨q, v, hq, hv, rfl⟩ := h
      cases hv with
      | first hblank =>
        have hdone := reached_complete hq (.array (.none hblank)) blank_nil
        simpa using hdone
      | next _ hne _ => exact absurd rfl hne
    · exact reached_begin h hstep
  | items items => exact reached_between (.items items) h hstep
  | members members => exact reached_between (.members members) h hstep
  | finished d => exact reached_between (.finished d) h hstep
  | firstKey =>
    simp only [Reader.step?] at hstep
    split at hstep
    · next hblank =>
      cases hstep
      exact OpenedKey.blank h (blank_one hblank)
    split at hstep
    · next hquote =>
      cases hstep
      rw [beq_iff_eq.1 hquote]
      exact ⟨p, [], h, .nil, rfl⟩
    split at hstep
    · next hclose =>
      cases hstep
      rw [beq_iff_eq.1 hclose]
      obtain ⟨q, v, hq, hv, rfl⟩ := h
      cases hv with
      | first hblank =>
        have hdone := reached_complete hq (.object (.none hblank)) blank_nil
        simpa using hdone
      | next _ hne _ => exact absurd rfl hne
    · cases hstep
  | key members =>
    simp only [Reader.step?] at hstep
    split at hstep
    · next hblank =>
      cases hstep
      exact OpenedKey.blank h (blank_one hblank)
    split at hstep
    · next hquote =>
      cases hstep
      rw [beq_iff_eq.1 hquote]
      exact ⟨p, [], h, .nil, rfl⟩
    · cases hstep
  | keyText members t =>
    obtain ⟨q, w, hq, hw, rfl⟩ := h
    rcases (Reader.hosts_keyText members st).cases hstep with
      ⟨pieces, rfl, rfl, rfl⟩ | ⟨t', ht, rfl⟩
    · exact ⟨q, w, [], hq, hw, blank_nil, by simp⟩
    · exact ⟨q, w ++ [b], hq, hw.goes ht, by simp⟩
  | colon members key =>
    obtain ⟨q, u, a, hq, hu, ha, rfl⟩ := h
    simp only [Reader.step?] at hstep
    split at hstep
    · next hblank =>
      cases hstep
      exact ⟨q, u, a ++ [b], hq, hu, ha.append (blank_one hblank), by simp⟩
    split at hstep
    · next hcolon =>
      cases hstep
      rw [beq_iff_eq.1 hcolon]
      obtain ⟨p, v, hp, hv, rfl⟩ := hq
      exact ⟨p, v, u, a, [], hp, hv, hu, ha, blank_nil, by simp⟩
    · cases hstep
  | text t =>
    obtain ⟨q, w, hq, hw, rfl⟩ := h
    rcases (Reader.hosts_text st).cases hstep with ⟨pieces, rfl, rfl, rfl⟩ | ⟨t', ht, rfl⟩
    · have hdone := reached_complete hq (.text hw) blank_nil
      simpa using hdone
    · exact ⟨q, w ++ [b], hq, hw.goes ht, by simp⟩
  | number n =>
    obtain ⟨q, w, hq, hw, rfl⟩ := h
    simp only [Reader.step?] at hstep
    split at hstep
    · next n' hn =>
      cases hstep
      exact ⟨q, w ++ [b], hq, hw.goes hn, by simp⟩
    split at hstep
    · next hwhole =>
      have hdone := reached_complete hq (.number (hw.written hwhole)) blank_nil
      rw [List.append_nil] at hdone
      exact reached_between (settled_complete _ _) hdone hstep
    · cases hstep
  | word rest d =>
    obtain ⟨q, w, hq, hw, rfl⟩ := h
    rcases rest with _ | ⟨last, _ | ⟨following, rest⟩⟩
    · cases hstep
    · simp only [Reader.step?] at hstep
      split at hstep
      · next hlast =>
        cases hstep
        rw [beq_iff_eq.1 hlast]
        have hdone := reached_complete hq hw blank_nil
        simpa using hdone
      · cases hstep
    · simp only [Reader.step?] at hstep
      split at hstep
      · next hnext =>
        cases hstep
        rw [beq_iff_eq.1 hnext]
        exact ⟨q, w ++ [last], hq, by simpa using hw, by simp⟩
      · cases hstep

/-- All the bytes in turn. -/
theorem reached_run {w : Bytes} (h : Reached r p) (hrun : r.run? w = some r') :
    Reached r' (p ++ w) := by
  induction w generalizing r p with
  | nil =>
    cases hrun
    rwa [List.append_nil]
  | cons b w ih =>
    cases hstep : r.step? b with
    | none => simp [Reader.run?, hstep] at hrun
    | some r₁ =>
      rw [Reader.run?_cons hstep] at hrun
      have hall := ih (reached_step h hstep) hrun
      rwa [List.append_assoc] at hall

end

/-- What is read as a document is a way to write it. -/
theorem written_of_parse? {d : Doc} {input : Bytes} (h : parse? input = some d) :
    d.WrittenAs input := by
  obtain ⟨r, hrun, hresult⟩ := Option.bind_eq_some_iff.1 h
  have hstart : Reached Reader.start [] := blank_nil
  have hreached := reached_run hstart hrun
  rw [List.nil_append] at hreached
  obtain ⟨phase, st⟩ := r
  unfold Reader.result? at hresult
  split at hresult
  · next hphase hst =>
    cases hphase
    cases hst
    cases hresult
    exact hreached
  · next n hphase hst =>
    cases hphase
    cases hst
    split at hresult
    · next hwhole =>
      cases hresult
      obtain ⟨q, w, hq, hw, rfl⟩ := hreached
      exact ⟨q, w, [], hq, .number (hw.written hwhole), blank_nil, by simp⟩
    · cases hresult
  · cases hresult

/-- The reader accepts exactly the grammar. -/
theorem parse?_eq_some_iff (input : Bytes) (d : Doc) : parse? input = some d ↔ d.WrittenAs input :=
  ⟨written_of_parse?, parse?_of_written⟩

/-- No input writes two documents. -/
theorem Doc.WrittenAs.unique {d d' : Doc} {input : Bytes} (h : d.WrittenAs input)
    (h' : d'.WrittenAs input) : d = d' := by
  rw [← parse?_eq_some_iff] at h h'
  exact Option.some.inj (h.symm.trans h')

end CandleRelay.Json
