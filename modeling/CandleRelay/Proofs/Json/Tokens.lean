import CandleRelay.Json.Grammar

/-!
# Tokens byte by byte

How the automaton goes through a blank, a string or a number, and what the bytes that it has gone
through write. A string is followed from piece to piece: whatever is a way to write the piece leads
over it (`goesAll_literal`), and the bytes behind an open string tell how its pieces so far were
written (`OpenText.Written`), which one more byte keeps true (`Written.goes`). A number is followed
part by part in the same two ways (`continueAll?_bytes`, `Begun.goes`).

What is proved:
  1. `goesAll_literal`, `continueAll?_bytes`: what is written as a string or as a number is taken to
     its end, with the pieces and digits that it writes.
  2. `OpenText.Written.goes`, `Numeral.Begun.goes`: what was taken byte by byte was written.
-/

namespace CandleRelay.Json

/-! ## Blanks -/

theorem Blank.append {v w : Bytes} (hv : Blank v) (hw : Blank w) : Blank (v ++ w) := by
  intro b hb
  rcases List.mem_append.1 hb with h | h
  · exact hv b h
  · exact hw b h

theorem blank_nil : Blank [] := by
  intro b hb
  cases hb

theorem blank_one {b : UInt8} (h : Byte.isBlank b = true) : Blank [b] := by
  intro c hc
  rw [List.mem_singleton.1 hc]
  exact h

/-! ## Strings -/

theorem escaped?_of_short {letter b : UInt8} (h : (letter, b) ∈ shortEscapes) :
    Byte.escaped? letter = some b := by
  simp only [shortEscapes, List.mem_cons, Prod.mk.injEq, List.not_mem_nil, or_false] at h
  rcases h with ⟨rfl, rfl⟩ | ⟨rfl, rfl⟩ | ⟨rfl, rfl⟩ | ⟨rfl, rfl⟩ | ⟨rfl, rfl⟩ | ⟨rfl, rfl⟩ |
    ⟨rfl, rfl⟩ | ⟨rfl, rfl⟩ <;> rfl

theorem forall_byte {P : UInt8 → Prop} (h : ∀ n : Fin 256, P (UInt8.ofNat n)) (b : UInt8) :
    P b := by
  have hb := h ⟨b.toNat, b.toNat_lt⟩
  rwa [UInt8.ofNat_toNat] at hb

theorem short_of_escaped? {letter b : UInt8} (h : Byte.escaped? letter = some b) :
    (letter, b) ∈ shortEscapes := by
  have hall : ∀ letter, (Byte.escaped? letter).all fun b => (letter, b) ∈ shortEscapes := by
    apply forall_byte
    decide +kernel
  have hletter := hall letter
  rw [h] at hletter
  simpa using hletter

theorem hex?_of_hexDigit {b : UInt8} {k : Nat} (h : HexDigit b k) :
    Byte.hex? b = some (UInt16.ofNat k) := by
  have hdecimal : ∀ k : Fin 10, Byte.hex? (UInt8.ofNat (0x30 + k)) = some (UInt16.ofNat k) := by
    decide
  have hupper : ∀ k : Fin 6, Byte.hex? (UInt8.ofNat (0x41 + k)) = some (UInt16.ofNat (10 + k)) := by
    decide
  have hlower : ∀ k : Fin 6, Byte.hex? (UInt8.ofNat (0x61 + k)) = some (UInt16.ofNat (10 + k)) := by
    decide
  cases h with
  | decimal hk => exact hdecimal ⟨_, hk⟩
  | upper hk => exact hupper ⟨_, hk⟩
  | lower hk => exact hlower ⟨_, hk⟩

theorem hexDigit_of_hex? {b : UInt8} {u : UInt16} (h : Byte.hex? b = some u) :
    ∃ k, HexDigit b k ∧ u = UInt16.ofNat k := by
  have hall : ∀ b : UInt8, (Byte.hex? b).all fun u =>
      (∃ k : Fin 10, b = UInt8.ofNat (0x30 + k) ∧ u = UInt16.ofNat k) ∨
      (∃ k : Fin 6, b = UInt8.ofNat (0x41 + k) ∧ u = UInt16.ofNat (10 + k)) ∨
      (∃ k : Fin 6, b = UInt8.ofNat (0x61 + k) ∧ u = UInt16.ofNat (10 + k)) := by
    apply forall_byte
    decide +kernel
  have hb := hall b
  rw [h] at hb
  simp only [Option.all_some, decide_eq_true_eq] at hb
  rcases hb with ⟨k, hb, hu⟩ | ⟨k, hb, hu⟩ | ⟨k, hb, hu⟩
  · exact ⟨k, hb ▸ .decimal k.isLt, hu⟩
  · exact ⟨10 + k, hb ▸ .upper k.isLt, hu⟩
  · exact ⟨10 + k, hb ▸ .lower k.isLt, hu⟩

theorem Literal.Written.append {l l' : Literal} {v w : Bytes} (h : l.Written v)
    (h' : l'.Written w) : Literal.Written (l ++ l') (v ++ w) := by
  induction h with
  | nil => exact h'
  | cons first _ ih =>
    rw [List.append_assoc]
    exact .cons first ih

theorem Literal.Written.concat {l : Literal} {p : Piece} {v w : Bytes} (h : l.Written v)
    (hp : p.Written w) : Literal.Written (l ++ [p]) (v ++ w) := by
  have hone : Literal.Written [p] (w ++ []) := .cons hp .nil
  rw [List.append_nil] at hone
  exact h.append hone

namespace OpenText

/-- A byte goes on with the string; it is not the closing quote. -/
def Goes (t : OpenText) (b : UInt8) (t' : OpenText) : Prop :=
  t.step? b = some t' ∧ ∀ pieces, t = .plain pieces → b ≠ Byte.quote

/-- Bytes go on with the string. -/
def GoesAll (t : OpenText) : Bytes → OpenText → Prop
  | [], t' => t = t'
  | b :: rest, t' => ∃ t₁, t.Goes b t₁ ∧ t₁.GoesAll rest t'

theorem GoesAll.append {t t₁ t' : OpenText} {v w : Bytes} (h : t.GoesAll v t₁)
    (h' : t₁.GoesAll w t') : t.GoesAll (v ++ w) t' := by
  induction v generalizing t with
  | nil =>
    cases h
    exact h'
  | cons b v ih =>
    obtain ⟨t₂, hb, hv⟩ := h
    exact ⟨t₂, hb, ih hv⟩

theorem goes_of_ne {t t' : OpenText} {b : UInt8} (h : t.step? b = some t') (hb : b ≠ Byte.quote) :
    t.Goes b t' :=
  ⟨h, fun _ _ => hb⟩

theorem goes_escape {pieces : Literal} {t' : OpenText} {b : UInt8}
    (h : (escape pieces).step? b = some t') : (escape pieces).Goes b t' :=
  ⟨h, by simp⟩

theorem goes_unit {pieces : Literal} {left : Nat} {value u : UInt16} {b : UInt8}
    (h : Byte.hex? b = some u) :
    (unit pieces left value).Goes b
      (match left with
      | 0 => plain (.unit (value * 16 + u) :: pieces)
      | left + 1 => unit pieces left (value * 16 + u)) := by
  refine ⟨?_, by simp⟩
  cases left <;> simp [step?, h]

/-- A piece is read as it was written. -/
theorem goesAll_piece {p : Piece} {w : Bytes} (h : p.Written w) (pieces : Literal) :
    (plain pieces).GoesAll w (plain (p :: pieces)) := by
  cases h with
  | bare h =>
    obtain ⟨hquote, hslash, hcontrol⟩ := h
    refine ⟨_, goes_of_ne ?_ hquote, rfl⟩
    simp [step?, hslash, hcontrol]
  | short h =>
    have hescaped := escaped?_of_short h
    refine ⟨escape pieces, goes_of_ne rfl (by decide), _, goes_escape ?_, rfl⟩
    rename_i letter _
    have hletter : letter ≠ 0x75 := by
      rintro rfl
      simp [shortEscapes] at h
    simp [step?, hletter, hescaped]
  | unit ha hb hc hd =>
    refine ⟨escape pieces, goes_of_ne rfl (by decide), unit pieces 3 0, goes_escape rfl, ?_⟩
    refine ⟨_, goes_unit (hex?_of_hexDigit ha), _, goes_unit (hex?_of_hexDigit hb), _,
      goes_unit (hex?_of_hexDigit hc), _, goes_unit (hex?_of_hexDigit hd), ?_⟩
    show plain _ = plain _
    simp [UInt16.ofNat_add, UInt16.ofNat_mul]

/-- The inside of a string is read as it was written. -/
theorem goesAll_literal {l : Literal} {w : Bytes} (h : l.Written w) (pieces : Literal) :
    (plain pieces).GoesAll w (plain (l.reverse ++ pieces)) := by
  induction h generalizing pieces with
  | nil => rfl
  | @cons p l v w first others ih =>
    have hrest := ih (p :: pieces)
    rw [List.reverse_cons, List.append_assoc]
    exact (goesAll_piece first pieces).append hrest

/-- Hexadecimal digits and the unit that they write. -/
inductive HexRun : Bytes → UInt16 → Prop
  | none : HexRun [] 0
  | more {digits : Bytes} {value : UInt16} {b : UInt8} {k : Nat} (h : HexRun digits value)
      (hb : HexDigit b k) : HexRun (digits ++ [b]) (value * 16 + UInt16.ofNat k)

/-- Four digits are a `\u` escape. -/
theorem HexRun.written {digits : Bytes} {value : UInt16} (h : HexRun digits value)
    (hlength : digits.length = 4) :
    Piece.Written (.unit value) (Byte.backslash :: 0x75 :: digits) := by
  rcases h with _ | ⟨h₃, hd⟩
  · cases hlength
  rcases h₃ with _ | ⟨h₂, hc⟩
  · cases hlength
  rcases h₂ with _ | ⟨h₁, hb⟩
  · cases hlength
  rcases h₁ with _ | ⟨h₀, ha⟩
  · cases hlength
  rcases h₀ with _ | ⟨h, he⟩
  · have hunit := Piece.Written.unit ha hb hc hd
    simpa [UInt16.ofNat_add, UInt16.ofNat_mul] using hunit
  · simp at hlength

/-- The bytes are what was read of the string. -/
def Written : OpenText → Bytes → Prop
  | .plain pieces, w => Literal.Written pieces.reverse w
  | .escape pieces, w => ∃ v, Literal.Written pieces.reverse v ∧ w = v ++ [Byte.backslash]
  | .unit pieces left value, w => ∃ v digits, Literal.Written pieces.reverse v ∧
      HexRun digits value ∧ digits.length + left = 3 ∧ w = v ++ Byte.backslash :: 0x75 :: digits

theorem Written.goes {t t' : OpenText} {w : Bytes} {b : UInt8} (h : t.Written w)
    (hb : t.Goes b t') : t'.Written (w ++ [b]) := by
  obtain ⟨hstep, hquote⟩ := hb
  cases t with
  | plain pieces =>
    have hquote := hquote pieces rfl
    simp only [step?, beq_iff_eq] at hstep
    split at hstep
    · next hslash =>
      cases hstep
      exact ⟨w, h, by rw [hslash]⟩
    split at hstep
    · cases hstep
    · next hslash hcontrol =>
      cases hstep
      show Literal.Written (Piece.byte b :: pieces).reverse _
      rw [List.reverse_cons]
      exact Literal.Written.concat h (.bare ⟨hquote, hslash, hcontrol⟩)
  | escape pieces =>
    obtain ⟨v, hv, rfl⟩ := h
    simp only [step?, beq_iff_eq] at hstep
    split at hstep
    · next hu =>
      cases hstep
      exact ⟨v, [], hv, .none, rfl, by simp [hu]⟩
    · obtain ⟨e, he, rfl⟩ := Option.map_eq_some_iff.1 hstep
      show Literal.Written (Piece.byte e :: pieces).reverse _
      rw [List.reverse_cons, List.append_assoc]
      exact Literal.Written.concat hv (.short (short_of_escaped? he))
  | unit pieces left value =>
    obtain ⟨v, digits, hv, hdigits, hlength, rfl⟩ := h
    simp only [step?] at hstep
    split at hstep
    · cases hstep
    next u hhex =>
    obtain ⟨k, hk, rfl⟩ := hexDigit_of_hex? hhex
    have hbytes : v ++ Byte.backslash :: 0x75 :: digits ++ [b] =
        v ++ Byte.backslash :: 0x75 :: (digits ++ [b]) := by
      simp
    have hmore := hdigits.more hk
    rw [hbytes]
    cases left with
    | zero =>
      cases hstep
      show Literal.Written (Piece.unit _ :: pieces).reverse _
      rw [List.reverse_cons]
      apply Literal.Written.concat hv
      apply hmore.written
      rw [List.length_append, List.length_singleton]
      omega
    | succ left =>
      cases hstep
      refine ⟨v, digits ++ [b], hv, hmore, ?_, rfl⟩
      rw [List.length_append, List.length_singleton]
      omega

end OpenText

/-! ## Numbers -/

theorem digit?_byte (d : Digit) : Byte.digit? d.byte = some d := by
  revert d
  decide

theorem byte_of_digit? {b : UInt8} {d : Digit} (h : Byte.digit? b = some d) : b = d.byte := by
  have hall : ∀ b : UInt8, (Byte.digit? b).all fun d => b = d.byte := by
    apply forall_byte
    decide +kernel
  have hb := hall b
  rw [h] at hb
  simpa using hb

namespace Numeral

/-- A number, its digits latest first, after further bytes. -/
def continueAll? (n : Numeral) : Bytes → Option Numeral
  | [] => some n
  | b :: rest => (n.continue? b).bind (·.continueAll? rest)

theorem continueAll?_append (n : Numeral) (v w : Bytes) :
    n.continueAll? (v ++ w) = (n.continueAll? v).bind (·.continueAll? w) := by
  induction v generalizing n with
  | nil => rfl
  | cons b v ih =>
    simp only [List.cons_append, continueAll?]
    cases n.continue? b with
    | none => rfl
    | some n' => exact ih n'

theorem continue?_byte (n : Numeral) (d : Digit) : n.continue? d.byte = n.push? d := by
  rw [continue?, digit?_byte]

theorem continueAll?_digits (n : Numeral) (d : Digit) (ds : List Digit) :
    n.continueAll? (digitBytes (d :: ds)) =
      (n.push? d).bind (·.continueAll? (digitBytes ds)) := by
  rw [← continue?_byte]
  rfl

variable {negative : Bool} {whole : List Digit}

theorem continueAll?_whole (ds front : List Digit) (h : LeadsWell (front.reverse ++ ds)) :
    continueAll? ⟨negative, front, none, none⟩ (digitBytes ds) =
      some ⟨negative, ds.reverse ++ front, none, none⟩ := by
  induction ds generalizing front with
  | nil => rfl
  | cons d ds ih =>
    -- No digit follows a zero that leads.
    have hzero : front ≠ [0] := by
      rintro rfl
      have := h rfl
      simp at this
    have hpush : push? ⟨negative, front, none, none⟩ d =
        some ⟨negative, d :: front, none, none⟩ := by
      simp [push?, hzero]
    have hrest : LeadsWell ((d :: front).reverse ++ ds) := by
      rw [List.reverse_cons, List.append_assoc]
      exact h
    rw [continueAll?_digits, hpush, Option.bind_some, ih _ hrest, List.reverse_cons,
      List.append_assoc]
    rfl

theorem continueAll?_fraction (ds front : List Digit) :
    continueAll? ⟨negative, whole, some front, none⟩ (digitBytes ds) =
      some ⟨negative, whole, some (ds.reverse ++ front), none⟩ := by
  induction ds generalizing front with
  | nil => rfl
  | cons d ds ih =>
    rw [continueAll?_digits]
    show continueAll? ⟨negative, whole, some (d :: front), none⟩ _ = _
    rw [ih, List.reverse_cons, List.append_assoc]
    rfl

variable {fraction : Option (List Digit)}

theorem continueAll?_exponent (sign : Option Bool) (ds front : List Digit) :
    continueAll? ⟨negative, whole, fraction, some ⟨sign, front⟩⟩ (digitBytes ds) =
      some ⟨negative, whole, fraction, some ⟨sign, ds.reverse ++ front⟩⟩ := by
  induction ds generalizing front with
  | nil => rfl
  | cons d ds ih =>
    rw [continueAll?_digits]
    show continueAll? ⟨negative, whole, fraction, some ⟨sign, d :: front⟩⟩ _ = _
    rw [ih, List.reverse_cons, List.append_assoc]
    rfl

theorem continue?_point (hwhole : whole ≠ []) :
    continue? ⟨negative, whole, none, none⟩ Byte.point = some ⟨negative, whole, some [], none⟩ := by
  have hdigit : Byte.digit? Byte.point = none := by decide
  simp [continue?, hdigit, isWhole, hwhole]

theorem continue?_letter {letter : UInt8} (hletter : IsLetter letter)
    (hwhole : isWhole ⟨negative, whole, fraction, none⟩ = true) :
    continue? ⟨negative, whole, fraction, none⟩ letter =
      some ⟨negative, whole, fraction, some ⟨none, []⟩⟩ := by
  rcases hletter with rfl | rfl
  · have hdigit : Byte.digit? 0x65 = none := by decide
    have hpoint : (0x65 : UInt8) ≠ Byte.point := by decide
    simp [continue?, hdigit, hpoint, hwhole]
  · have hdigit : Byte.digit? 0x45 = none := by decide
    have hpoint : (0x45 : UInt8) ≠ Byte.point := by decide
    simp [continue?, hdigit, hpoint, hwhole]

theorem continueAll?_sign (sign : Option Bool) :
    continueAll? ⟨negative, whole, fraction, some ⟨none, []⟩⟩ (signBytes sign) =
      some ⟨negative, whole, fraction, some ⟨sign, []⟩⟩ := by
  cases sign with
  | none => rfl
  | some minus => cases minus <;> rfl

/-- The number with its digits latest first. -/
def latestFirst (n : Numeral) : Numeral :=
  { n with
    whole := n.whole.reverse
    fraction := n.fraction.map List.reverse
    exponent := n.exponent.map fun e => { e with digits := e.digits.reverse } }

theorem inOrder_latestFirst (n : Numeral) : n.latestFirst.inOrder = n := by
  obtain ⟨negative, whole, fraction, exponent⟩ := n
  cases fraction <;> cases exponent <;> simp [latestFirst, inOrder]

theorem isWhole_latestFirst {n : Numeral} (h : n.WellFormed) : n.latestFirst.isWhole = true := by
  obtain ⟨negative, whole, fraction, exponent⟩ := n
  have hwhole := h.whole
  have hfraction := h.fraction
  have hexponent := h.exponent
  cases fraction <;> cases exponent <;> simp_all [latestFirst, isWhole]

/-- What follows the sign of a number is taken, one part after the other. -/
theorem continueAll?_bytes {n : Numeral} (h : n.WellFormed) {letter : UInt8}
    (hletter : IsLetter letter) :
    continueAll? ⟨n.negative, [], none, none⟩
      (digitBytes n.whole ++ fractionBytes n.fraction ++ exponentBytes letter n.exponent) =
      some n.latestFirst := by
  obtain ⟨negative, whole, fraction, exponent⟩ := n
  have hwhole : whole.reverse ≠ [] := by simpa using h.whole
  have hfraction : continueAll? ⟨negative, whole.reverse, none, none⟩ (fractionBytes fraction) =
      some ⟨negative, whole.reverse, fraction.map List.reverse, none⟩ := by
    cases fraction with
    | none => rfl
    | some ds =>
      show (continue? _ _).bind _ = _
      rw [continue?_point hwhole, Option.bind_some, continueAll?_fraction, List.append_nil]
      rfl
  have hends : isWhole ⟨negative, whole.reverse, fraction.map List.reverse, none⟩ = true :=
    isWhole_latestFirst (n := ⟨negative, whole, fraction, none⟩)
      ⟨h.whole, h.leads, h.fraction, by simp⟩
  have hexponent : continueAll? ⟨negative, whole.reverse, fraction.map List.reverse, none⟩
      (exponentBytes letter exponent) =
        some (latestFirst ⟨negative, whole, fraction, exponent⟩) := by
    cases exponent with
    | none => rfl
    | some e =>
      show (continue? _ _).bind _ = _
      rw [continue?_letter hletter hends, Option.bind_some, continueAll?_append,
        continueAll?_sign, Option.bind_some, continueAll?_exponent, List.append_nil]
      rfl
  have hdigits : continueAll? ⟨negative, [], none, none⟩ (digitBytes whole) =
      some ⟨negative, whole.reverse, none, none⟩ := by
    rw [continueAll?_whole whole [] h.leads, List.append_nil]
  show continueAll? _ (digitBytes whole ++ fractionBytes fraction ++ exponentBytes letter exponent)
    = _
  rw [continueAll?_append, continueAll?_append, hdigits, Option.bind_some, hfraction,
    Option.bind_some, hexponent]

/-- The bytes are what was read of the number, its digits latest first. -/
def Begun (n : Numeral) (w : Bytes) : Prop :=
  LeadsWell n.whole.reverse ∧ ∃ letter, IsLetter letter ∧ w = n.inOrder.bytes letter

theorem begun_minus : Begun ⟨true, [], none, none⟩ [Byte.minus] :=
  ⟨by simp [LeadsWell], 0x65, Or.inl rfl, rfl⟩

theorem begun_digit (d : Digit) : Begun ⟨false, [d], none, none⟩ [d.byte] :=
  ⟨by simp [LeadsWell], 0x65, Or.inl rfl, rfl⟩

theorem LeadsWell.concat {whole : List Digit} (h : LeadsWell whole) (hzero : whole ≠ [0])
    (d : Digit) : LeadsWell (whole ++ [d]) := by
  cases whole with
  | nil => simp [LeadsWell]
  | cons z zs =>
    intro hhead
    exact absurd (h hhead) hzero

theorem Begun.push {n n' : Numeral} {w : Bytes} {d : Digit} (h : n.Begun w)
    (hpush : n.push? d = some n') : n'.Begun (w ++ [d.byte]) := by
  obtain ⟨hleads, letter, hletter, rfl⟩ := h
  obtain ⟨negative, whole, fraction, exponent⟩ := n
  cases exponent with
  | some e =>
    cases hpush
    refine ⟨hleads, letter, hletter, ?_⟩
    simp [inOrder, bytes, exponentBytes, digitBytes]
  | none =>
    cases fraction with
    | some ds =>
      cases hpush
      refine ⟨hleads, letter, hletter, ?_⟩
      simp [inOrder, bytes, exponentBytes, fractionBytes, digitBytes]
    | none =>
      simp only [push?, beq_iff_eq] at hpush
      split at hpush
      · cases hpush
      next hzero =>
      cases hpush
      refine ⟨?_, letter, hletter, ?_⟩
      · show LeadsWell (d :: whole).reverse
        rw [List.reverse_cons]
        exact LeadsWell.concat hleads (fun h => hzero (List.reverse_eq_iff.1 h)) d
      · simp [inOrder, bytes, exponentBytes, fractionBytes, digitBytes]

theorem Begun.goes {n n' : Numeral} {w : Bytes} {b : UInt8} (h : n.Begun w)
    (hb : n.continue? b = some n') : n'.Begun (w ++ [b]) := by
  unfold continue? at hb
  split at hb
  · next d hd =>
    rw [byte_of_digit? hd]
    exact h.push hb
  next hdigit =>
  obtain ⟨hleads, letter, hletter, rfl⟩ := h
  obtain ⟨negative, whole, fraction, exponent⟩ := n
  dsimp only at hb
  split at hb
  · split at hb
    · next hpoint =>
      simp only [Bool.and_eq_true, beq_iff_eq, Option.isNone_iff_eq_none] at hpoint
      obtain ⟨⟨rfl, -⟩, rfl⟩ := hpoint
      cases hb
      refine ⟨hleads, letter, hletter, ?_⟩
      simp [inOrder, bytes, exponentBytes, fractionBytes, digitBytes]
    split at hb
    · next hmark =>
      cases hb
      refine ⟨hleads, b, ?_, ?_⟩
      · simp only [Bool.and_eq_true, Bool.or_eq_true, beq_iff_eq] at hmark
        exact hmark.1
      · simp [inOrder, bytes, exponentBytes, signBytes, digitBytes]
    · cases hb
  · split at hb
    · next hplus =>
      cases hb
      refine ⟨hleads, letter, hletter, ?_⟩
      simp [inOrder, bytes, exponentBytes, signBytes, digitBytes, beq_iff_eq.1 hplus]
    split at hb
    · next hminus =>
      cases hb
      refine ⟨hleads, letter, hletter, ?_⟩
      simp [inOrder, bytes, exponentBytes, signBytes, digitBytes, beq_iff_eq.1 hminus]
    · cases hb
  · cases hb

/-- A number that may end was written. -/
theorem Begun.written {n : Numeral} {w : Bytes} (h : n.Begun w) (hwhole : n.isWhole = true) :
    n.inOrder.Written w := by
  obtain ⟨hleads, hletter⟩ := h
  obtain ⟨negative, whole, fraction, exponent⟩ := n
  refine ⟨⟨?_, hleads, ?_, ?_⟩, hletter⟩
  all_goals
    cases fraction <;> cases exponent <;> simp_all [isWhole, inOrder]

end Numeral

end CandleRelay.Json
