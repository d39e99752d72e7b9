import CandleRelay.Json.Grammar
import CandleRelay.Json.Quoted
import CandleRelay.Json.Value

/-!
# What is quoted is read back

A text that is written between quotes, with the escapes that JSON asks for, is the text that a
reader finds there: the automaton goes from the opening quote to the closing one, whatever the text
holds, and the string that it has read stands for just that text.

What is proved:
  1. `decode?_encode`: the bytes of a text are read as that text.
  2. `run?_quoted`, `run?_quotedList`, `run?_toDigits`: how the automaton reads a quoted text, a
     list of them, and a number.
  3. `parse?_quoted`: a quoted text alone is a document.
-/

namespace CandleRelay

/-! ## Characters and bytes -/

namespace Text.Utf8

theorem toNat_ofNat {n : Nat} (hn : n < 256) : (UInt8.ofNat n).toNat = n := by
  rw [UInt8.toNat_ofNat']
  exact Nat.mod_eq_of_lt hn

theorem le_ofNat_iff {m n : Nat} (hm : m < 256) (hn : n < 256) :
    UInt8.ofNat m ≤ UInt8.ofNat n ↔ m ≤ n := by
  rw [UInt8.le_iff_toNat_le, toNat_ofNat hm, toNat_ofNat hn]

theorem ofNat_lt_iff {m n : Nat} (hm : m < 256) (hn : n < 256) :
    UInt8.ofNat m < UInt8.ofNat n ↔ m < n := by
  rw [UInt8.lt_iff_toNat_lt, toNat_ofNat hm, toNat_ofNat hn]

theorem continuation?_ofNat {n : Nat} (hn : n < 64) :
    continuation? (UInt8.ofNat (n + 128)) = some n := by
  have hlow : (0x80 : UInt8) ≤ UInt8.ofNat (n + 128) := (le_ofNat_iff (by decide) (by omega)).2
    (Nat.le_add_left ..)
  have hhigh : UInt8.ofNat (n + 128) < (0xC0 : UInt8) :=
    (ofNat_lt_iff (by omega) (by decide)).2 (show n + 128 < 192 by omega)
  rw [continuation?, decide_eq_true hlow, decide_eq_true hhigh, toNat_ofNat (by omega)]
  simp

theorem scalar?_self {least : Nat} {c : Char} (h : least ≤ c.val.toNat) :
    scalar? least c.val.toNat = some c := by
  have hself : Char.ofNat c.val.toNat = c := Char.ofNat_toNat c
  have hvalid : c.val.toNat.isValidChar := c.valid
  rw [scalar?, decide_eq_true h, decide_eq_true hvalid, hself]
  rfl

theorem pair?_ofNat {x y : Nat} (hx : x < 32) (hy : y < 64) :
    pair? (UInt8.ofNat (x + 192)) (UInt8.ofNat (y + 128)) = scalar? 0x80 (x * 64 + y) := by
  have hlow : (0xC0 : UInt8) ≤ UInt8.ofNat (x + 192) :=
    (le_ofNat_iff (by decide) (by omega)).2 (Nat.le_add_left ..)
  have hhigh : UInt8.ofNat (x + 192) < (0xE0 : UInt8) :=
    (ofNat_lt_iff (by omega) (by decide)).2 (show x + 192 < 224 by omega)
  rw [pair?, decide_eq_true hlow, decide_eq_true hhigh, continuation?_ofNat hy,
    toNat_ofNat (by omega), Nat.add_sub_cancel]
  rfl

theorem triple?_ofNat {x y z : Nat} (hx : x < 16) (hy : y < 64) (hz : z < 64) :
    triple? (UInt8.ofNat (x + 224)) (UInt8.ofNat (y + 128)) (UInt8.ofNat (z + 128)) =
      scalar? 0x800 ((x * 64 + y) * 64 + z) := by
  have hlow : (0xE0 : UInt8) ≤ UInt8.ofNat (x + 224) :=
    (le_ofNat_iff (by decide) (by omega)).2 (Nat.le_add_left ..)
  have hhigh : UInt8.ofNat (x + 224) < (0xF0 : UInt8) :=
    (ofNat_lt_iff (by omega) (by decide)).2 (show x + 224 < 240 by omega)
  rw [triple?, decide_eq_true hlow, decide_eq_true hhigh, continuation?_ofNat hy,
    continuation?_ofNat hz, toNat_ofNat (by omega), Nat.add_sub_cancel]
  rfl

theorem quadruple?_ofNat {w x y z : Nat} (hw : w < 8) (hx : x < 64) (hy : y < 64) (hz : z < 64) :
    quadruple? (UInt8.ofNat (w + 240)) (UInt8.ofNat (x + 128)) (UInt8.ofNat (y + 128))
      (UInt8.ofNat (z + 128)) = scalar? 0x10000 (((w * 64 + x) * 64 + y) * 64 + z) := by
  have hlow : (0xF0 : UInt8) ≤ UInt8.ofNat (w + 240) :=
    (le_ofNat_iff (by decide) (by omega)).2 (Nat.le_add_left ..)
  have hhigh : UInt8.ofNat (w + 240) < (0xF8 : UInt8) :=
    (ofNat_lt_iff (by omega) (by decide)).2 (show w + 240 < 248 by omega)
  rw [quadruple?, decide_eq_true hlow, decide_eq_true hhigh, continuation?_ofNat hx,
    continuation?_ofNat hy, continuation?_ofNat hz, toNat_ofNat (by omega), Nat.add_sub_cancel]
  rfl

section

variable {n : Nat} {done : List Char} {b c d : UInt8} {rest : Bytes}

theorem charsAfter?_one (hn : n < 128) : charsAfter? done (UInt8.ofNat n :: rest) =
    charsAfter? (Char.ofNat n :: done) rest := by
  have hlow : UInt8.ofNat n < (0x80 : UInt8) := (ofNat_lt_iff (by omega) (by decide)).2 hn
  rw [charsAfter?.eq_def]
  simp only [hlow, ite_true, toNat_ofNat (show n < 256 by omega)]

theorem charsAfter?_two (hlow : 128 ≤ n) (hhigh : n < 224) {ch : Char}
    (hch : pair? (UInt8.ofNat n) b = some ch) :
    charsAfter? done (UInt8.ofNat n :: b :: rest) = charsAfter? (ch :: done) rest := by
  have h80 : ¬ UInt8.ofNat n < (0x80 : UInt8) := fun h =>
    Nat.not_lt_of_le hlow ((ofNat_lt_iff (by omega) (by decide)).1 h)
  have hE0 : UInt8.ofNat n < (0xE0 : UInt8) := (ofNat_lt_iff (by omega) (by decide)).2 hhigh
  rw [charsAfter?.eq_def]
  simp only [h80, hE0, hch, ite_true, ite_false]

theorem charsAfter?_three (hlow : 224 ≤ n) (hhigh : n < 240) {ch : Char}
    (hch : triple? (UInt8.ofNat n) b c = some ch) :
    charsAfter? done (UInt8.ofNat n :: b :: c :: rest) = charsAfter? (ch :: done) rest := by
  have h80 : ¬ UInt8.ofNat n < (0x80 : UInt8) := fun h =>
    Nat.not_lt_of_le (Nat.le_trans (by decide) hlow) ((ofNat_lt_iff (by omega) (by decide)).1 h)
  have hE0 : ¬ UInt8.ofNat n < (0xE0 : UInt8) := fun h =>
    Nat.not_lt_of_le hlow ((ofNat_lt_iff (by omega) (by decide)).1 h)
  have hF0 : UInt8.ofNat n < (0xF0 : UInt8) := (ofNat_lt_iff (by omega) (by decide)).2 hhigh
  rw [charsAfter?.eq_def]
  simp only [h80, hE0, hF0, hch, ite_true, ite_false]

theorem charsAfter?_four (hlow : 240 ≤ n) (hhigh : n < 256) {ch : Char}
    (hch : quadruple? (UInt8.ofNat n) b c d = some ch) :
    charsAfter? done (UInt8.ofNat n :: b :: c :: d :: rest) = charsAfter? (ch :: done) rest := by
  have h80 : ¬ UInt8.ofNat n < (0x80 : UInt8) := fun h =>
    Nat.not_lt_of_le (Nat.le_trans (by decide) hlow) ((ofNat_lt_iff hhigh (by decide)).1 h)
  have hE0 : ¬ UInt8.ofNat n < (0xE0 : UInt8) := fun h =>
    Nat.not_lt_of_le (Nat.le_trans (by decide) hlow) ((ofNat_lt_iff hhigh (by decide)).1 h)
  have hF0 : ¬ UInt8.ofNat n < (0xF0 : UInt8) := fun h =>
    Nat.not_lt_of_le hlow ((ofNat_lt_iff hhigh (by decide)).1 h)
  rw [charsAfter?.eq_def]
  simp only [h80, hE0, hF0, hch, ite_false]

end

theorem charsAfter?_encodeChar (done : List Char) (c : Char) (rest : Bytes) :
    charsAfter? done (String.utf8EncodeChar c ++ rest) = charsAfter? (c :: done) rest := by
  have hchar : Char.ofNat c.val.toNat = c := Char.ofNat_toNat c
  have hself : ∀ {least n}, n = c.val.toNat → least ≤ c.val.toNat →
      scalar? least n = some c := fun hn hleast => hn ▸ scalar?_self hleast
  have hbound : c.val.toNat < 0x110000 := by
    rcases c.valid with h | h
    · exact Nat.lt_trans h (by decide)
    · exact h.2
  -- The cases are the lengths that the bytes of a character may have.
  simp only [String.utf8EncodeChar]
  generalize c.val.toNat = v at hchar hself hbound
  split
  · exact (charsAfter?_one (by omega)).trans (by rw [hchar]; rfl)
  split
  · refine charsAfter?_two (by omega) (by omega) ?_
    rw [pair?_ofNat (by omega) (by omega)]
    exact hself (by omega) (by omega)
  split
  · refine charsAfter?_three (by omega) (by omega) ?_
    rw [triple?_ofNat (by omega) (by omega) (by omega)]
    exact hself (by omega) (by omega)
  · refine charsAfter?_four (by omega) (by omega) ?_
    rw [quadruple?_ofNat (by omega) (by omega) (by omega) (by omega)]
    exact hself (by omega) (by omega)

theorem charsAfter?_encode (done cs : List Char) :
    charsAfter? done (cs.flatMap String.utf8EncodeChar) = some (done.reverse ++ cs) := by
  induction cs generalizing done with
  | nil => simp [charsAfter?]
  | cons c cs ih => rw [List.flatMap_cons, charsAfter?_encodeChar, ih]; simp

/-- The bytes of a text are read as that text. -/
theorem decode?_encode (s : String) : decode? (encode s) = some s := by
  rw [decode?, encode, charsAfter?_encode]
  simp

end Text.Utf8

/-! ## Inside a string -/

namespace Json

theorem Reader.run?_append (r : Reader) (xs ys : Bytes) :
    r.run? (xs ++ ys) = (r.run? xs).bind (·.run? ys) := by
  induction xs generalizing r with
  | nil => rfl
  | cons x xs ih =>
    simp only [List.cons_append, Reader.run?]
    cases r.step? x with
    | none => rfl
    | some r' => exact ih r'

/-- Inside a string the bytes are read as these pieces. -/
def Reads (l : Literal) (bs : Bytes) : Prop := ∀ ps st,
  Reader.run? ⟨.text (.plain ps), st⟩ bs = some ⟨.text (.plain (l.reverse ++ ps)), st⟩

/-- The pieces stand for these bytes, whatever follows them. -/
def StandsFor (l : Literal) (bs : Bytes) : Prop := ∀ more,
  Literal.bytes? (l ++ more) = (Literal.bytes? more).map (bs ++ ·)

theorem Reads.append {l l' : Literal} {bs bs' : Bytes} (h : Reads l bs) (h' : Reads l' bs') :
    Reads (l ++ l') (bs ++ bs') := by
  intro ps st
  rw [Reader.run?_append, h ps st, Option.bind_some, h', List.reverse_append, List.append_assoc]

theorem StandsFor.append {l l' : Literal} {bs bs' : Bytes} (h : StandsFor l bs)
    (h' : StandsFor l' bs') : StandsFor (l ++ l') (bs ++ bs') := by
  intro more
  rw [List.append_assoc, h, h', Option.map_map]
  simp [Function.comp_def]

theorem StandsFor.text? {l : Literal} {s : String} (h : StandsFor l (Text.Utf8.encode s)) :
    l.text? = some s := by
  have hbytes : l.bytes? = some (Text.Utf8.encode s) := by
    simpa [Literal.bytes?] using h []
  rw [Literal.text?, hbytes, Option.bind_some, Text.Utf8.decode?_encode]

theorem reads_plain {bs : Bytes} (h : ∀ b ∈ bs, Bare b) : Reads (bs.map .byte) bs := by
  induction bs with
  | nil => exact fun _ _ => rfl
  | cons b bs ih =>
    obtain ⟨hquote, hslash, hcontrol⟩ := h b List.mem_cons_self
    have hb : Reads [.byte b] [b] := by
      intro ps st
      simp [Reader.run?, Reader.step?, OpenText.step?, hquote, hslash, hcontrol]
    exact hb.append (ih fun b' hb' => h b' (List.mem_cons_of_mem _ hb'))

theorem standsFor_plain (bs : Bytes) : StandsFor (bs.map .byte) bs := by
  induction bs with
  | nil => intro more; simp
  | cons b bs ih =>
    have hb : StandsFor [.byte b] [b] := fun _ => rfl
    exact hb.append ih

theorem toNat_of_mem {c : Char} {b : UInt8} (hb : b ∈ String.utf8EncodeChar c) :
    b.toNat = c.toNat ∨ 128 ≤ b.toNat := by
  have hlarge : ∀ {n : Nat}, b = UInt8.ofNat n → 128 ≤ n → n < 256 → 128 ≤ b.toNat := by
    rintro n rfl hlow hhigh
    rwa [Text.Utf8.toNat_ofNat hhigh]
  simp only [String.utf8EncodeChar] at hb
  split at hb
  · next hascii =>
    rw [List.mem_singleton.1 hb, Text.Utf8.toNat_ofNat (by omega)]
    exact Or.inl rfl
  · right
    split at hb
    · simp only [List.mem_cons, List.not_mem_nil, or_false] at hb
      rcases hb with hb | hb <;> exact hlarge hb (by omega) (by omega)
    split at hb
    · simp only [List.mem_cons, List.not_mem_nil, or_false] at hb
      rcases hb with hb | hb | hb <;> exact hlarge hb (by omega) (by omega)
    · simp only [List.mem_cons, List.not_mem_nil, or_false] at hb
      rcases hb with hb | hb | hb | hb <;> exact hlarge hb (by omega) (by omega)

theorem bare_of_mem {c : Char} (hquote : c ≠ '"') (hslash : c ≠ '\\') (hcontrol : ¬ c.toNat < 32)
    {b : UInt8} (hb : b ∈ String.utf8EncodeChar c) : Bare b := by
  have hne : ∀ d : Char, c ≠ d → d.toNat < 128 → b.toNat ≠ d.toNat := by
    intro d hd hlt heq
    rcases toNat_of_mem hb with hsame | hlarge
    · exact hd (Char.toNat_inj.1 (hsame.symm.trans heq))
    · omega
  refine ⟨?_, ?_, ?_⟩
  · rintro rfl
    exact hne '"' hquote (by decide) rfl
  · rintro rfl
    exact hne '\\' hslash (by decide) rfl
  · intro hlt
    have hlt : b.toNat < 32 := UInt8.lt_iff_toNat_lt.1 hlt
    rcases toNat_of_mem hb with hsame | hlarge
    · omega
    · omega

/-! An escape is read as what it stands for. -/

theorem hex?_hexDigit : ∀ k < 16, ∃ b, String.utf8EncodeChar (hexDigit k) = [b] ∧
    Byte.hex? b = some (UInt16.ofNat k) := by
  intro k hk
  have hdigits : ∀ k : Fin 16, ∃ b, String.utf8EncodeChar (hexDigit k) = [b] ∧
      Byte.hex? b = some (UInt16.ofNat k) := by
    intro k
    refine ⟨(String.utf8EncodeChar (hexDigit k)).headD 0, ?_⟩
    revert k
    decide
  exact hdigits ⟨k, hk⟩

theorem reads_unit {n : Nat} (hn : n < 256) : Reads [.unit (UInt16.ofNat n)]
    (['\\', 'u', '0', '0', hexDigit (n / 16), hexDigit (n % 16)].flatMap
      String.utf8EncodeChar) := by
  obtain ⟨x, hx, hxhex⟩ := hex?_hexDigit (n / 16) (by omega)
  obtain ⟨y, hy, hyhex⟩ := hex?_hexDigit (n % 16) (by omega)
  have hbytes : ['\\', 'u', '0', '0', hexDigit (n / 16), hexDigit (n % 16)].flatMap
      String.utf8EncodeChar = [0x5C, 0x75, 0x30, 0x30, x, y] := by
    simp only [List.flatMap_cons, hx, hy]
    rfl
  have hvalue : (0 * 16 + UInt16.ofNat (n / 16)) * 16 + UInt16.ofNat (n % 16) =
      UInt16.ofNat n := by
    refine UInt16.toNat_inj.1 ?_
    simp only [UInt16.toNat_add, UInt16.toNat_mul, UInt16.toNat_ofNat']
    simp
    omega
  rw [hbytes]
  intro ps st
  -- Four bytes lead into the escape, and two digits out of it.
  show Reader.run? ⟨.text (.unit ps 1 0), st⟩ [x, y] = _
  simp [Reader.run?, Reader.step?, OpenText.step?, hxhex, hyhex, ← hvalue]

theorem standsFor_unit {c : Char} (hc : c.toNat < 0x10000) :
    StandsFor [.unit (UInt16.ofNat c.toNat)] (String.utf8EncodeChar c) := by
  have hnat : (UInt16.ofNat c.toNat).toNat = c.toNat := by
    rw [UInt16.toNat_ofNat']
    omega
  -- No character is half of a surrogate pair.
  have hvalid : c.toNat < 0xD800 ∨ (0xDFFF < c.toNat ∧ c.toNat < 0x110000) := c.valid
  have hhigh : Literal.isHigh (UInt16.ofNat c.toNat) = false := by
    simp only [Literal.isHigh, Bool.and_eq_false_iff, decide_eq_false_iff_not,
      UInt16.le_iff_toNat_le, UInt16.lt_iff_toNat_lt, hnat]
    show ¬ 0xD800 ≤ c.toNat ∨ ¬ c.toNat < 0xDC00
    omega
  have hlow : Literal.isLow (UInt16.ofNat c.toNat) = false := by
    simp only [Literal.isLow, Bool.and_eq_false_iff, decide_eq_false_iff_not,
      UInt16.le_iff_toNat_le, UInt16.lt_iff_toNat_lt, hnat]
    show ¬ 0xDC00 ≤ c.toNat ∨ ¬ c.toNat < 0xE000
    omega
  intro more
  cases more with
  | nil => simp [Literal.bytes?, hhigh, hlow, hnat]
  | cons p more => cases p <;> simp [Literal.bytes?, hhigh, hlow, hnat]

/-- Each character is written so that it is read again. -/
theorem exists_reads (c : Char) : ∃ l, Reads l ((escape c).flatMap String.utf8EncodeChar) ∧
    StandsFor l (String.utf8EncodeChar c) := by
  unfold escape
  split
  · next h =>
    obtain rfl : c = '"' := by simpa using h
    exact ⟨[.byte 0x22], fun _ _ => rfl, fun _ => rfl⟩
  next hquote =>
  split
  · next h =>
    obtain rfl : c = '\\' := by simpa using h
    exact ⟨[.byte 0x5C], fun _ _ => rfl, fun _ => rfl⟩
  next hslash =>
  split
  · next h =>
    obtain rfl : c = '\x08' := by simpa using h
    exact ⟨[.byte 0x08], fun _ _ => rfl, fun _ => rfl⟩
  split
  · next h =>
    obtain rfl : c = '\x0C' := by simpa using h
    exact ⟨[.byte 0x0C], fun _ _ => rfl, fun _ => rfl⟩
  split
  · next h =>
    obtain rfl : c = '\n' := by simpa using h
    exact ⟨[.byte 0x0A], fun _ _ => rfl, fun _ => rfl⟩
  split
  · next h =>
    obtain rfl : c = '\r' := by simpa using h
    exact ⟨[.byte 0x0D], fun _ _ => rfl, fun _ => rfl⟩
  split
  · next h =>
    obtain rfl : c = '\t' := by simpa using h
    exact ⟨[.byte 0x09], fun _ _ => rfl, fun _ => rfl⟩
  split
  · next hcontrol =>
    exact ⟨_, reads_unit (by omega), standsFor_unit (by omega)⟩
  · next hcontrol =>
    rw [List.flatMap_cons, List.flatMap_nil, List.append_nil]
    refine ⟨_, reads_plain fun b hb => ?_, standsFor_plain _⟩
    exact bare_of_mem (by simpa using hquote) (by simpa using hslash) hcontrol hb

/-- A text that is written with escapes is read as that text. -/
theorem exists_reads_text (cs : List Char) :
    ∃ l, Reads l ((cs.flatMap escape).flatMap String.utf8EncodeChar) ∧
      StandsFor l (cs.flatMap String.utf8EncodeChar) := by
  induction cs with
  | nil => exact ⟨[], fun _ _ => rfl, fun more => by simp⟩
  | cons c cs ih =>
    obtain ⟨l, hl, hstands⟩ := exists_reads c
    obtain ⟨l', hl', hstands'⟩ := ih
    rw [List.flatMap_cons, List.flatMap_append, List.flatMap_cons]
    exact ⟨l ++ l', hl.append hl', hstands.append hstands'⟩

/-! ## Texts and lists of texts -/

variable {r : Reader} {st : List Container} {rest : Bytes}

theorem encode_append (s t : String) :
    Text.Utf8.encode (s ++ t) = Text.Utf8.encode s ++ Text.Utf8.encode t := by
  simp [Text.Utf8.encode]

/-- Where a text may begin, a quoted one is read to its end. -/
theorem run?_quoted (s : String) (hr : r.step? Byte.quote = some ⟨.text (.plain []), st⟩) :
    ∃ l : Literal, l.text? = some s ∧ ∀ rest,
      r.run? (Text.Utf8.encode (quoted s) ++ rest) =
        (Reader.complete (.text l) st).run? rest := by
  obtain ⟨l, hreads, hstands⟩ := exists_reads_text s.toList
  refine ⟨l, hstands.text?, ?_⟩
  intro rest
  have hbytes : Text.Utf8.encode (quoted s) =
      Byte.quote :: ((s.toList.flatMap escape).flatMap String.utf8EncodeChar ++ [Byte.quote]) := by
    simp only [Text.Utf8.encode, quoted, String.toList_ofList, List.cons_append, List.flatMap_cons,
      List.flatMap_append]
    rfl
  rw [hbytes, List.cons_append, Reader.run?, hr]
  show Reader.run? _ (_ ++ _ ++ rest) = _
  rw [List.append_assoc, Reader.run?_append, hreads, Option.bind_some, List.append_nil]
  show Reader.run? _ (Byte.quote :: rest) = _
  rw [Reader.run?]
  simp [Reader.step?]

/-- A quoted text is a document, and is read as that text. -/
theorem parse?_quoted (s : String) :
    (parse? (Text.Utf8.encode (quoted s))).bind Doc.text? = some s := by
  have hstart : Reader.start.step? Byte.quote = some ⟨.text (.plain []), []⟩ := rfl
  obtain ⟨l, hl, hrun⟩ := run?_quoted s hstart
  have hwhole := hrun []
  rw [List.append_nil] at hwhole
  rw [parse?, hwhole]
  exact hl

theorem encode_intercalate (a b : String) (l : List String) :
    Text.Utf8.encode (",".intercalate (a :: b :: l)) =
      Text.Utf8.encode a ++ Byte.comma :: Text.Utf8.encode (",".intercalate (b :: l)) := by
  simp only [Text.Utf8.encode, String.toList_intercalate, List.map_cons, List.intercalate,
    List.intersperse_cons_cons, List.flatten_cons, List.flatMap_append]
  rfl

theorem run?_quotedItems (s : String) (texts : List String) (items : List Doc)
    (hr : r.step? Byte.quote = some ⟨.text (.plain []), .array items :: st⟩) :
    ∃ ds : List Doc, ds.mapM Doc.text? = some (s :: texts) ∧ ∀ rest,
      r.run? (Text.Utf8.encode (",".intercalate ((s :: texts).map quoted)) ++ rest) =
        Reader.run? ⟨.items (ds.reverse ++ items), st⟩ rest := by
  induction texts generalizing s r items with
  | nil =>
    obtain ⟨l, hl, hrun⟩ := run?_quoted s hr
    refine ⟨[.text l], by simp [Doc.text?, hl], ?_⟩
    intro rest
    have hone : ",".intercalate ([s].map quoted) = quoted s := by
      simp
    rw [hone, hrun]
    rfl
  | cons s' texts ih =>
    obtain ⟨l, hl, hrun⟩ := run?_quoted s hr
    -- After the comma the next item may begin.
    have hnext : Reader.step? ⟨.value, .array (.text l :: items) :: st⟩ Byte.quote =
        some ⟨.text (.plain []), .array (.text l :: items) :: st⟩ := rfl
    obtain ⟨ds, hds, hitems⟩ := ih s' (.text l :: items) hnext
    refine ⟨.text l :: ds, by simp [Doc.text?, hl, hds], ?_⟩
    intro rest
    rw [List.map_cons, List.map_cons, encode_intercalate, List.append_assoc, hrun,
      List.reverse_cons, List.append_assoc]
    exact hitems rest

/-- Where a value may begin, a list of texts is read to its end. -/
theorem run?_quotedList (texts : List String) (st : List Container) :
    ∃ ds : List Doc, ds.mapM Doc.text? = some texts ∧ ∀ rest,
      Reader.run? ⟨.value, st⟩ (Text.Utf8.encode (quotedList texts) ++ rest) =
        (Reader.complete (.array ds) st).run? rest := by
  cases texts with
  | nil => exact ⟨[], rfl, fun _ => rfl⟩
  | cons s texts =>
    have hfirst : Reader.step? ⟨.firstItem, st⟩ Byte.quote =
        some ⟨.text (.plain []), .array [] :: st⟩ := rfl
    obtain ⟨ds, hds, hitems⟩ := run?_quotedItems s texts [] hfirst
    refine ⟨ds, hds, ?_⟩
    intro rest
    have hbytes : Text.Utf8.encode (quotedList (s :: texts)) ++ rest = Byte.leftBracket ::
        (Text.Utf8.encode (",".intercalate ((s :: texts).map quoted)) ++
          Byte.rightBracket :: rest) := by
      rw [quotedList, encode_append, encode_append, List.append_assoc, List.append_assoc]
      rfl
    rw [hbytes]
    show Reader.run? ⟨.firstItem, st⟩ _ = _
    rw [hitems, List.append_nil]
    show (Reader.complete (.array ds.reverse.reverse) st).run? rest = _
    rw [List.reverse_reverse]

/-! ## Numbers -/

theorem digit?_digitChar {k : Nat} (hk : k < 10) : ∃ (b : UInt8) (d : Digit),
    String.utf8EncodeChar (Nat.digitChar k) = [b] ∧ Byte.digit? b = some d ∧ d.val = k ∧
      ∀ st, Reader.step? ⟨.value, st⟩ b = some ⟨.number ⟨false, [d], none, none⟩, st⟩ := by
  have hdigits : ∀ k : Fin 10, ∃ b, String.utf8EncodeChar (Nat.digitChar k) = [b] ∧
      Byte.digit? b = some k ∧ Byte.isBlank b = false ∧
        b ∉ [Byte.leftBrace, Byte.leftBracket, Byte.quote, Byte.minus, 0x74, 0x66, 0x6E] := by
    intro k
    refine ⟨(String.utf8EncodeChar (Nat.digitChar k)).headD 0, ?_⟩
    revert k
    decide
  obtain ⟨b, hb, hd, hblank, hother⟩ := hdigits ⟨k, hk⟩
  refine ⟨b, _, hb, hd, rfl, fun st => ?_⟩
  simp only [List.mem_cons, List.not_mem_nil, or_false, not_or] at hother
  simp [Reader.step?, Reader.begin?, hblank, hother, hd]

theorem value_concat (ds : List Digit) (d : Digit) :
    Numeral.value (ds ++ [d]) = Numeral.value ds * 10 + d.val := by
  rw [Numeral.value, List.foldl_append]
  rfl

theorem run?_toDigits (n : Nat) (st : List Container) : ∃ ds : List Digit,
    ds ≠ [] ∧ (ds = [0] → n = 0) ∧ Numeral.value ds.reverse = n ∧
      Reader.run? ⟨.value, st⟩ ((Nat.toDigits 10 n).flatMap String.utf8EncodeChar) =
        some ⟨.number ⟨false, ds, none, none⟩, st⟩ := by
  induction n using Nat.strongRecOn with
  | ind n ih =>
    by_cases hn : n < 10
    · obtain ⟨b, d, hb, -, hval, hstep⟩ := digit?_digitChar hn
      refine ⟨[d], by simp, ?_, ?_, ?_⟩
      · intro hzero
        rw [← hval, List.singleton_inj.1 hzero]
        rfl
      · simpa [Numeral.value] using hval
      · rw [Nat.toDigits_of_lt_base hn, List.flatMap_cons, hb]
        simp [Reader.run?, hstep st]
    · -- The last digit comes after a number that is not zero.
      obtain ⟨ds, hne, hzero, hvalue, hrun⟩ := ih (n / 10) (by omega)
      obtain ⟨b, d, hb, hd, hval, -⟩ := digit?_digitChar (show n % 10 < 10 by omega)
      have hwhole : ds ≠ [0] := fun h => by have := hzero h; omega
      refine ⟨d :: ds, by simp, fun h => absurd (List.cons.inj h).2 hne, ?_, ?_⟩
      · rw [List.reverse_cons, value_concat, hvalue, hval]
        omega
      · rw [Nat.toDigits_of_base_le (by decide) (by omega), List.flatMap_append, Reader.run?_append,
          hrun, Option.bind_some, List.flatMap_cons, hb]
        simp [Reader.run?, Reader.step?, Numeral.continue?, Numeral.push?, hd, hwhole]

theorem step?_brace {ds : List Digit} (hne : ds ≠ []) (members : List Member) (key : Literal)
    (st : List Container) :
    Reader.step? ⟨.number ⟨false, ds, none, none⟩, .object members key :: st⟩ Byte.rightBrace =
      some (Reader.complete (.object
        ((key, .number (Numeral.inOrder ⟨false, ds, none, none⟩)) :: members).reverse) st) := by
  have hends : Numeral.continue? ⟨false, ds, none, none⟩ Byte.rightBrace = none := rfl
  have hwhole : Numeral.isWhole ⟨false, ds, none, none⟩ = true := by
    simp [Numeral.isWhole, hne]
  simp only [Reader.step?, hends, hwhole, ite_true]
  rfl

end Json

end CandleRelay
