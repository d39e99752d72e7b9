import CandleRelay.Bus.Message
import CandleRelay.Json.Names
import CandleRelay.Proofs.Control
import CandleRelay.Proofs.Json.Quoting
import CandleRelay.Proofs.Universe
import Mathlib.Data.List.DropRight

/-!
# One name for a channel

A channel is named by the feed, which publishes under a symbol, by clients, who ask for a topic, by
the bus of another process, which hands the name of a channel back, and by documents that hold
symbols and topics. Each of them has its own way from a text to a name. They meet because each way
ends in the canonical form, and the canonical form is left alone by all of them.

What is proved:
  1. `strips_iff`: trimming gives the one part of a text that stands between blanks and has none at
     its ends (`Strips`).
  2. `canonical_eq_iff`: two texts have one canonical form if and only if they are the same name
     (`SameName`): their trimmed parts are equal but for the case of ASCII letters.
  3. `Topic.comes_back`: a topic survives the way over the bus and the way through a client's
     request (`Topic.ComesBack`), and `Topic.document`, `Symbol.document`: both survive the way
     through JSON.
  4. `names_meet`: the ways together.
-/

namespace CandleRelay

namespace Text

/-! ## Without the blanks around it -/

/-- The text is `core` between blanks, and `core` neither begins nor ends with a blank. -/
structure Strips (text core : List Char) : Prop where
  around : ∃ front back, text = front ++ core ++ back ∧
    (∀ c ∈ front, isBlank c = true) ∧ ∀ c ∈ back, isBlank c = true
  first : ∀ c ∈ core.head?, isBlank c = false
  last : ∀ c ∈ core.getLast?, isBlank c = false

theorem trim_append {front back : List Char} (hfront : ∀ c ∈ front, isBlank c = true)
    (hback : ∀ c ∈ back, isBlank c = true) (cs : List Char) :
    trim (front ++ cs ++ back) = trim cs := by
  have hbehind : ∀ c ∈ back.reverse, isBlank c = true :=
    fun c hc => hback c (List.mem_reverse.1 hc)
  rw [trim, List.append_assoc, List.dropWhile_append_of_pos hfront, List.dropWhile_append]
  split
  · next hnone =>
    -- The text is blank, and so is everything with it.
    have hblank : cs.dropWhile isBlank = [] := List.isEmpty_iff.1 hnone
    rw [List.dropWhile_eq_nil_iff.2 hback, trim, hblank]
  · rw [List.reverse_append, List.dropWhile_append_of_pos hbehind, trim]

theorem strips_trim (cs : List Char) : Strips cs (trim cs) := by
  refine ⟨⟨cs.takeWhile isBlank, (cs.dropWhile isBlank).rtakeWhile isBlank, ?_, ?_, ?_⟩,
    head?_trim cs, getLast?_trim cs⟩
  · have hback : trim cs ++ (cs.dropWhile isBlank).rtakeWhile isBlank = cs.dropWhile isBlank :=
      List.rdropWhile_append_rtakeWhile ..
    rw [List.append_assoc, hback, List.takeWhile_append_dropWhile]
  · exact fun c hc => List.mem_takeWhile_imp hc
  · exact fun c hc => List.mem_rtakeWhile_imp hc

/-- Trimming gives the one part between blanks that has none at its ends. -/
theorem strips_iff {text core : List Char} : Strips text core ↔ trim text = core := by
  constructor
  · rintro ⟨⟨front, back, rfl, hfront, hback⟩, hfirst, hlast⟩
    rw [trim_append hfront hback, trim_eq_self hfirst hlast]
  · rintro rfl
    exact strips_trim text

/-! ## But for the case of letters -/

/-- An ASCII letter in upper case and the same one in lower case. -/
def CasesOf (upper lower : Char) : Prop :=
  'A'.toNat ≤ upper.toNat ∧ upper.toNat ≤ 'Z'.toNat ∧ lower.toNat = upper.toNat + 32

/-- Two characters are equal but for the case of an ASCII letter. -/
def SameLetter (c d : Char) : Prop := c = d ∨ CasesOf c d ∨ CasesOf d c

theorem casesOf_iff {upper lower : Char} : CasesOf upper lower ↔
    (97 ≤ lower.toNat ∧ lower.toNat ≤ 122) ∧ upper.toNat = lower.toNat - 32 := by
  have hfirst : 'A'.toNat = 65 := rfl
  have hlast : 'Z'.toNat = 90 := rfl
  rw [CasesOf, hfirst, hlast]
  omega

theorem toUpper_eq_iff {c d : Char} : c.toUpper = d.toUpper ↔ SameLetter c d := by
  rw [SameLetter, casesOf_iff, casesOf_iff, ← Char.toNat_inj, ← Char.toNat_inj]
  -- Whether each of the two is in lower case decides what becomes of it.
  by_cases hc : 97 ≤ c.toNat ∧ c.toNat ≤ 122 <;> by_cases hd : 97 ≤ d.toNat ∧ d.toNat ≤ 122
  · rw [toNat_toUpper_of_lower hc, toNat_toUpper_of_lower hd]
    omega
  · rw [toNat_toUpper_of_lower hc, toUpper_of_not_lower hd]
    omega
  · rw [toUpper_of_not_lower hc, toNat_toUpper_of_lower hd]
    omega
  · rw [toUpper_of_not_lower hc, toUpper_of_not_lower hd]
    omega

/-- Two texts are the same name: without the blanks around them, they are equal but for the case of
ASCII letters. -/
def SameName (a b : String) : Prop :=
  ∃ x y, Strips a.toList x ∧ Strips b.toList y ∧ List.Forall₂ SameLetter x y

theorem map_toUpper_eq_iff {cs ds : List Char} :
    cs.map Char.toUpper = ds.map Char.toUpper ↔ List.Forall₂ SameLetter cs ds := by
  rw [← List.forall₂_eq_eq_eq, List.forall₂_map_left_iff, List.forall₂_map_right_iff]
  simp only [toUpper_eq_iff]

theorem canonical_eq_iff {a b : String} : canonical a = canonical b ↔ SameName a b := by
  have hforms : canonical a = canonical b ↔
      List.Forall₂ SameLetter (trim a.toList) (trim b.toList) := by
    rw [← map_toUpper_eq_iff, canonical, canonical, String.ofList_inj]
  rw [hforms]
  constructor
  · intro h
    exact ⟨_, _, strips_trim _, strips_trim _, h⟩
  · rintro ⟨x, y, hx, hy, h⟩
    rwa [strips_iff.1 hx, strips_iff.1 hy]

end Text

/-! ## Symbols and topics -/

theorem Topic.eq_of_name {t u : Topic} (h : t.name = u.name) : t = u := by
  cases t
  cases u
  cases h
  rfl

theorem Topic.ofString_name (t : Topic) : Topic.ofString t.name = t := Topic.eq_of_name t.canonical

theorem Topic.ofString_eq_iff {a b : String} :
    Topic.ofString a = Topic.ofString b ↔ Text.SameName a b := by
  rw [← Text.canonical_eq_iff]
  exact ⟨congrArg Topic.name, fun h => Topic.eq_of_name h⟩

theorem Symbol.ofString?_eq_none_iff {a : String} :
    Symbol.ofString? a = none ↔ (Topic.ofString a).isEmpty = true := by
  have hempty : (Topic.ofString a).isEmpty = true ↔ Text.canonical a = "" := beq_iff_eq
  rw [hempty, Symbol.ofString?]
  split <;> simp_all

/-- The symbol of a spelling is published on the topic of the spelling. -/
theorem Symbol.topic_of_ofString? {a : String} {s : Symbol} (h : Symbol.ofString? a = some s) :
    s.topic = Topic.ofString a :=
  Topic.eq_of_name (Symbol.ofString?_eq_some_iff.1 h).symm

/-! ## Through JSON -/

open Json

theorem Topic.document (t : Topic) :
    (parse? (Text.Utf8.encode (quoted t.name))).bind Doc.topic? = some t := by
  have hread : ∀ d : Doc, Doc.topic? d = d.text?.bind fun s => some (Topic.ofString s) :=
    fun d => Option.map_eq_bind
  simp only [hread, ← Option.bind_assoc, parse?_quoted, Option.bind_some, Topic.ofString_name]

theorem Symbol.document (s : Symbol) :
    (parse? (Text.Utf8.encode (quoted s.name))).bind Doc.symbol? = some s := by
  have hread : ∀ d : Doc, Doc.symbol? d = d.text?.bind Symbol.ofString? := fun _ => rfl
  simp only [hread, ← Option.bind_assoc, parse?_quoted, Option.bind_some, Symbol.ofString?_name]

/-! ## Over the bus and through a client -/

open Gateway

/-- A topic whose name is handed back is the same topic. -/
structure Topic.ComesBack (t : Topic) : Prop where
  /-- What was published on it arrives on it. -/
  bus : ∀ payload, Message.ofChannel t.name payload = ⟨t, payload⟩
  /-- A request that names it among others asks for it, however the request is written; a blank one
  is left out. -/
  client : ∀ (v : Value) (frame : Bytes) (word : String) (before after : List String)
    (id : Option Value), v.Rendered frame → Asks v word (before ++ t.name :: after) id →
    Readable id → ControlFrame.parse frame = .ok ⟨Method.ofWord word,
      ControlFrame.topicsOf before ++ (if t.isEmpty then [] else [t]) ++
        ControlFrame.topicsOf after⟩

theorem topicsOf_append (before after : List String) : ControlFrame.topicsOf (before ++ after) =
    ControlFrame.topicsOf before ++ ControlFrame.topicsOf after := by
  simp [ControlFrame.topicsOf]

theorem topicsOf_name_cons (t : Topic) (after : List String) :
    ControlFrame.topicsOf (t.name :: after) =
      (if t.isEmpty then [] else [t]) ++ ControlFrame.topicsOf after := by
  rw [ControlFrame.topicsOf, List.map_cons, Topic.ofString_name]
  cases hblank : t.isEmpty
  · rw [List.filter_cons_of_pos (by simp [hblank])]
    rfl
  · rw [List.filter_cons_of_neg (by simp [hblank])]
    rfl

theorem Topic.comes_back (t : Topic) : t.ComesBack := by
  refine ⟨fun payload => by rw [Message.ofChannel, Topic.ofString_name], ?_⟩
  intro v frame word before after id hrendered hasks hreadable
  rw [ControlFrame.parse_eq_ok_iff hrendered]
  refine ⟨word, _, id, hasks, hreadable, ?_⟩
  rw [topicsOf_append, topicsOf_name_cons, List.append_assoc]

/-- **Every way to a channel ends at one name.** For all spellings: one stands for no symbol if and
only if its topic is empty, and the symbol of any other is published on just that topic; two stand
for one topic if and only if they are equal but for the blanks around them and the case of ASCII
letters; and what is canonical stays as it is, so that a symbol or a topic whose name comes back,
from the bus, from a client or from a document, is the same one. -/
theorem names_meet (a b : String) (s : Symbol) (t : Topic) :
    (Symbol.ofString? a = none ↔ (Topic.ofString a).isEmpty = true) ∧
    (∀ x, Symbol.ofString? a = some x → x.topic = Topic.ofString a) ∧
    (Topic.ofString a = Topic.ofString b ↔ Text.SameName a b) ∧
    (Text.canonical (Text.canonical a) = Text.canonical a ∧ Symbol.ofString? s.name = some s ∧
      Topic.ofString t.name = t ∧ t.ComesBack) ∧
    (parse? (Text.Utf8.encode (quoted s.name))).bind Doc.symbol? = some s ∧
    (parse? (Text.Utf8.encode (quoted t.name))).bind Doc.topic? = some t :=
  ⟨Symbol.ofString?_eq_none_iff, fun _ => Symbol.topic_of_ofString?, Topic.ofString_eq_iff,
    ⟨Text.canonical_canonical a, s.ofString?_name, t.ofString_name, t.comes_back⟩, s.document,
    t.document⟩

/-- A ticker between blanks, one of them outside ASCII, and a client who types the channel back. -/
theorem names_meet_at_btcusdt :
    let v : Value := .array [.text "UNSUBSCRIBE", .array [.text "BTCUSDT"]]
    let frame := Text.Utf8.encode "[\"UNSUBSCRIBE\",[\"BTCUSDT\"]]"
    ∃ s, (Symbol.ofString? " btcUsdt\u3000" = some s ∧
        s.topic = Topic.ofString " btcUsdt\u3000" ∧ Text.SameName " btcUsdt\u3000" "BTCUSDT") ∧
      (v.Rendered frame ∧ Asks v "UNSUBSCRIBE" [s.topic.name] none ∧ Readable none) ∧
      ControlFrame.parse frame = .ok ⟨Method.ofWord "UNSUBSCRIBE", [s.topic]⟩ := by
  intro v frame
  have hname : Text.canonical " btcUsdt\u3000" = "BTCUSDT" := by decide +kernel
  let s : Symbol := ⟨"BTCUSDT", by decide +kernel, by decide⟩
  have hsymbol : Symbol.ofString? " btcUsdt\u3000" = some s := Symbol.ofString?_eq_some_iff.2 hname
  obtain ⟨-, htopic, hsame, ⟨-, -, hself, hback⟩, -⟩ :=
    names_meet " btcUsdt\u3000" "BTCUSDT" s s.topic
  have hrendered : v.Rendered frame :=
    ⟨.array [.text (.plain "UNSUBSCRIBE"), .array [.text (.plain "BTCUSDT")]],
      .array (.cons (means_plain _) (.cons (.array (.cons (means_plain _) .nil)) .nil)),
      written_of_parse? rfl⟩
  have hasks : Asks v "UNSUBSCRIBE" [s.topic.name] none := .array "UNSUBSCRIBE" ["BTCUSDT"] none
  have hreadable : Readable none := nofun
  have hone := htopic s hsymbol
  refine ⟨s, ⟨hsymbol, hone, hsame.1 (hone.symm.trans hself.symm)⟩,
    ⟨hrendered, hasks, hreadable⟩, ?_⟩
  exact hback.client v frame "UNSUBSCRIBE" [] [] none hrendered hasks hreadable

end CandleRelay
