import CandleRelay.Gateway.Control
import CandleRelay.Proofs.Json.Magnitude
import CandleRelay.Proofs.Json.Meaning

/-!
# Which values are requests

A client's frame is a way to write a value, and it is the value that decides. `Asks` says which
values ask for something, and for what, without a word about how they are read.

What is proved:
  1. `ControlFrame.parse_eq_ok_iff`: a frame is a request exactly if its value asks for something
     and an id in it can be read whole.
  2. `reads_what_is_asked`: within the limits of nesting and of numbers, the values that ask are
     read, with their method and their topics, and all others are refused.
  3. `refused_at_end_of_range`: an id that is a double, and yet beyond the limit of numbers.
-/

namespace CandleRelay.Gateway

open Json

/-- The values that ask for something: a method, its parameters and perhaps an id, among whatever
other members, or in this order as an array. -/
inductive Asks : Value → String → List String → Option Value → Prop
  | object {members : List (String × Value)} {word : String} {params : List String}
      {id : Option Value} (method : Value.under "method" members = [.text word])
      (parameters : Value.under "params" members = [.array (params.map .text)])
      (further : Value.under "id" members = id.toList) : Asks (.object members) word params id
  | array (word : String) (params : List String) (id : Option Value) :
      Asks (.array (.text word :: .array (params.map .text) :: id.toList)) word params id

/-- Whether an id can be read whole inside a request. -/
def Readable (id : Option Value) : Prop :=
  ∀ v, id = some v → 1 + v.nesting ≤ Doc.nestingLimit ∧ ∀ n ∈ v.numbers, n.fitsDouble = true

/-! ## A field at a time -/

section

variable {docs : List Doc} {values : List Value}

theorem single_iff {α : Type} {read : Doc → Option α} {value : α → Value}
    (hread : ∀ d v, d.Means v → ∀ a, read d = some a ↔ v = value a)
    (h : List.Forall₂ Doc.Means docs values) (a : α) :
    (docs.length ≤ 1 ∧ docs.head?.bind read = some a) ↔ values = [value a] := by
  cases h with
  | nil => simp
  | cons hd hrest =>
    cases hrest with
    | nil => simp [hread _ _ hd a]
    | cons => simp

theorem readable_iff (h : List.Forall₂ Doc.Means docs values) :
    (docs.length ≤ 1 ∧ ∀ d, docs.head? = some d → d.isReadable 1 = true) ↔
      ∃ id : Option Value, values = id.toList ∧ Readable id := by
  cases h with
  | nil =>
    constructor
    · intro _
      exact ⟨none, rfl, nofun⟩
    · intro _
      exact ⟨Nat.zero_le 1, nofun⟩
  | @cons d v docs values hd hrest =>
    cases hrest with
    | nil =>
      constructor
      · rintro ⟨-, hreadable⟩
        refine ⟨some v, rfl, ?_⟩
        rintro _ ⟨⟩
        exact (hd.isReadable_iff 1).1 (hreadable d rfl)
      · rintro ⟨id, hid, hreadable⟩
        refine ⟨Nat.le_refl 1, ?_⟩
        rintro _ ⟨⟩
        refine (hd.isReadable_iff 1).2 (hreadable v ?_)
        cases id with
        | none => cases hid
        | some w => exact congrArg some (List.cons.inj hid).1.symm
    | cons =>
      constructor
      · rintro ⟨hlength, -⟩
        simp at hlength
      · rintro ⟨id, hid, -⟩
        cases id <;> simp at hid

end

/-! ## The whole request -/

namespace ControlFrame

variable {d : Doc} {v : Value} {f : ControlFrame}

theorem ofDoc?_of_none (h : d.record? fields 2 = none) : ofDoc? d = none := by
  rw [ofDoc?, h]
  rfl

theorem ofDoc?_eq_some_iff {r : List (String × Doc)} (hr : d.record? fields 2 = some r) :
    ofDoc? d = some f ↔ ∃ word params, required? Doc.text? "method" r = some word ∧
      required? (Doc.items? Doc.text?) "params" r = some params ∧
      (∀ d, r.lookup "id" = some d → d.isReadable 1 = true) ∧
      f = ⟨Method.ofWord word, topicsOf params⟩ := by
  have hid : (((r.lookup "id").map (·.isReadable 1)).getD true = true) ↔
      ∀ d, r.lookup "id" = some d → d.isReadable 1 = true := by
    cases r.lookup "id" <;> simp
  simp only [ofDoc?, hr, Option.bind_eq_bind, Option.bind_some, Option.bind_eq_some_iff]
  constructor
  · rintro ⟨word, hword, params, hparams, h⟩
    split at h
    · next hreadable =>
      exact ⟨word, params, hword, hparams, hid.1 hreadable, (Option.some.inj h).symm⟩
    · cases h
  · rintro ⟨word, params, hword, hparams, hreadable, rfl⟩
    refine ⟨word, hword, params, hparams, ?_⟩
    rw [if_pos (hid.2 hreadable)]
    rfl

theorem ofDoc?_object {members : List Member} {values : List (String × Value)}
    (h : List.Forall₂ (Named Doc.Means) members values) :
    ofDoc? (.object members) = some f ↔ ∃ word params id, Asks (.object values) word params id ∧
      Readable id ∧ f = ⟨Method.ofWord word, topicsOf params⟩ := by
  have hmethod := single_iff (fun _ _ hd => hd.text?_eq_some_iff) (named_under h "method")
  have hparams := single_iff (fun _ _ hd => hd.texts?_eq_some_iff) (named_under h "params")
  have hid := readable_iff (named_under h "id")
  by_cases horderly : Orderly fields members
  · obtain ⟨r, hr, hlookup⟩ := horderly.fieldsOf?
    rw [ofDoc?_eq_some_iff (d := .object members) hr, required?, required?,
      hlookup "method" (by decide), hlookup "params" (by decide), hlookup "id" (by decide)]
    constructor
    · rintro ⟨word, params, hword, htexts, hreadable, rfl⟩
      obtain ⟨id, hvalues, hid⟩ := hid.1 ⟨horderly.single "id" (by decide), hreadable⟩
      refine ⟨word, params, id, .object ?_ ?_ hvalues, hid, rfl⟩
      · exact (hmethod word).1 ⟨horderly.single "method" (by decide), hword⟩
      · exact (hparams params).1 ⟨horderly.single "params" (by decide), htexts⟩
    · rintro ⟨word, params, id, hasks, hreadable, rfl⟩
      cases hasks with
      | object hword htexts hvalues =>
        exact ⟨word, params, ((hmethod word).2 hword).2, ((hparams params).2 htexts).2,
          (hid.2 ⟨id, hvalues, hreadable⟩).2, rfl⟩
  · constructor
    · intro hsome
      rw [ofDoc?_of_none (d := .object members) (fieldsOf?_eq_none horderly)] at hsome
      cases hsome
    · rintro ⟨word, params, id, hasks, hreadable, -⟩
      refine absurd ⟨texts_of_named h, ?_⟩ horderly
      -- Each of the three fields stands once at most.
      cases hasks with
      | object hword htexts hvalues =>
        intro field hfield
        simp only [fields, List.mem_cons, List.not_mem_nil, or_false] at hfield
        rcases hfield with rfl | rfl | rfl
        · exact ((hmethod word).2 hword).1
        · exact ((hparams params).2 htexts).1
        · exact (hid.2 ⟨id, hvalues, hreadable⟩).1

theorem record?_array (items : List Doc) : (Doc.array items).record? fields 2 =
    if 2 ≤ items.length ∧ items.length ≤ 3 then some (fields.zip items) else none := by
  simp only [Doc.record?, Bool.and_eq_true, decide_eq_true_eq]
  rfl

theorem ofDoc?_array {items : List Doc} {values : List Value}
    (h : List.Forall₂ Doc.Means items values) :
    ofDoc? (.array items) = some f ↔ ∃ word params id, Asks (.array values) word params id ∧
      Readable id ∧ f = ⟨Method.ofWord word, topicsOf params⟩ := by
  have hshort : items.length < 2 → ofDoc? (.array items) = none := by
    intro hlength
    apply ofDoc?_of_none
    rw [record?_array, if_neg (by omega)]
  cases h with
  | nil =>
    rw [hshort (by decide)]
    constructor
    · nofun
    · rintro ⟨_, _, _, ⟨⟩, _⟩
  | cons ha h =>
    cases h with
    | nil =>
      rw [hshort (by simp)]
      constructor
      · nofun
      · rintro ⟨_, _, _, ⟨⟩, _⟩
    | @cons b vb rest values hb hrest =>
      rename_i a va
      have hid := readable_iff hrest
      have hlength : (a :: b :: rest).length = rest.length + 2 := rfl
      by_cases hfew : rest.length ≤ 1
      · have hr : (Doc.array (a :: b :: rest)).record? fields 2 =
            some (fields.zip (a :: b :: rest)) := by
          rw [record?_array, if_pos (by omega)]
        have hlookup : (fields.zip (a :: b :: rest)).lookup "id" = rest.head? := by
          cases rest <;> rfl
        rw [ofDoc?_eq_some_iff hr, hlookup]
        constructor
        · rintro ⟨word, params, hword, htexts, hreadable, rfl⟩
          obtain ⟨id, rfl, hwhole⟩ := hid.1 ⟨hfew, hreadable⟩
          obtain rfl := (ha.text?_eq_some_iff word).1 hword
          obtain rfl := (hb.texts?_eq_some_iff params).1 htexts
          exact ⟨word, params, id, .array word params id, hwhole, rfl⟩
        · rintro ⟨word, params, id, ⟨⟩, hreadable, rfl⟩
          exact ⟨word, params, (ha.text?_eq_some_iff word).2 rfl,
            (hb.texts?_eq_some_iff params).2 rfl, (hid.2 ⟨id, rfl, hreadable⟩).2, rfl⟩
      · have hr : (Doc.array (a :: b :: rest)).record? fields 2 = none := by
          rw [record?_array, if_neg (by omega)]
        rw [ofDoc?_of_none hr]
        constructor
        · nofun
        · rintro ⟨word, params, id, ⟨⟩, hreadable, -⟩
          exact absurd (hid.2 ⟨id, rfl, hreadable⟩).1 hfew

/-- A frame is a request exactly if its value asks for something and an id in it is readable. -/
theorem parse_eq_ok_iff {frame : Bytes} (h : v.Rendered frame) :
    parse frame = .ok f ↔ ∃ word params id, Asks v word params id ∧ Readable id ∧
      f = ⟨Method.ofWord word, topicsOf params⟩ := by
  obtain ⟨d, hmeans, hwritten⟩ := h
  have hparse : parse frame = .ok f ↔ ofDoc? d = some f := by
    rw [parse, parse?_of_written hwritten, Option.bind_some]
    cases ofDoc? d <;> simp
  rw [hparse]
  cases hmeans with
  | object h => exact ofDoc?_object h
  | array h => exact ofDoc?_array h
  | _ =>
    constructor
    · nofun
    · rintro ⟨_, _, _, ⟨⟩, _⟩

end ControlFrame

/-! ## Within the limits -/

theorem Asks.nesting_lt {v x : Value} {word : String} {params : List String}
    (h : Asks v word params (some x)) : 1 + x.nesting ≤ v.nesting := by
  rw [Nat.add_comm]
  cases h with
  | @object members _ _ _ _ _ hid =>
    have hx : x ∈ Value.under "id" members := by
      rw [hid]
      exact List.mem_singleton_self x
    exact Nat.succ_le_succ (Value.nesting_le_members hx)
  | array =>
    apply Nat.succ_le_succ
    apply Value.nesting_le_items
    exact List.mem_cons_of_mem _ (List.mem_cons_of_mem _ (List.mem_singleton_self x))

theorem names_topicsOf (params : List String) :
    (ControlFrame.topicsOf params).map (·.name) =
      (params.map Text.canonical).filter (· ≠ "") := by
  rw [ControlFrame.topicsOf, List.filter_map, List.map_map, List.filter_map]
  congr 1
  apply List.filter_congr
  intro raw _
  rw [Bool.eq_iff_iff]
  simp [Topic.isEmpty, Topic.ofString]

theorem Method.ofWord_spec (word : String) :
    (Method.ofWord word = .subscribe ↔ word = "SUBSCRIBE") ∧
      (Method.ofWord word = .unsubscribe ↔ word = "UNSUBSCRIBE") ∧
      (word ≠ "SUBSCRIBE" → word ≠ "UNSUBSCRIBE" → Method.ofWord word = .unsupported word) := by
  unfold Method.ofWord
  by_cases hsubscribe : word = "SUBSCRIBE"
  · simp [hsubscribe]
  by_cases hunsubscribe : word = "UNSUBSCRIBE"
  · simp [hunsubscribe]
  · simp [hsubscribe, hunsubscribe]

/-- Which frames are requests, and for what. Take any value that is nested within the limit, with no
number in an id but those of a moderate size and those beyond that still fit a double as they are
read, and any way to write it. The frame is read exactly if the value asks for something; then the
method is the one that its word names, letter case included, and the topics are the parameters
without the blanks around them and in upper case, in order, without those that were blank. Every
other value is malformed. -/
theorem reads_what_is_asked (v : Value) (frame : Bytes) (hrendered : v.Rendered frame)
    (hnesting : v.nesting ≤ Doc.nestingLimit)
    (hnumbers : ∀ word params id, Asks v word params (some id) →
      ∀ n ∈ id.numbers, n.Moderate ∨ n.fitsDouble = true) :
    ((∃ f, ControlFrame.parse frame = .ok f) ↔ ∃ word params id, Asks v word params id) ∧
    (∀ f word params id, ControlFrame.parse frame = .ok f → Asks v word params id →
      (f.method = .subscribe ↔ word = "SUBSCRIBE") ∧
      (f.method = .unsubscribe ↔ word = "UNSUBSCRIBE") ∧
      (word ≠ "SUBSCRIBE" → word ≠ "UNSUBSCRIBE" → f.method = .unsupported word) ∧
      f.topics.map (·.name) = (params.map Text.canonical).filter (· ≠ "")) ∧
    ((¬ ∃ word params id, Asks v word params id) →
      ∃ detail, ControlFrame.parse frame = .error (.malformed detail)) := by
  have hreadable : ∀ word params id, Asks v word params id → Readable id := by
    rintro word params id hasks x rfl
    refine ⟨Nat.le_trans hasks.nesting_lt hnesting, ?_⟩
    intro n hn
    rcases hnumbers word params x hasks n hn with hmoderate | hfits
    · exact Numeral.fitsDouble_of_moderate hmoderate
    · exact hfits
  have hparses : ∀ word params id, Asks v word params id →
      ControlFrame.parse frame = .ok ⟨Method.ofWord word, ControlFrame.topicsOf params⟩ := by
    intro word params id hasks
    rw [ControlFrame.parse_eq_ok_iff hrendered]
    exact ⟨word, params, id, hasks, hreadable word params id hasks, rfl⟩
  have hsome : (∃ f, ControlFrame.parse frame = .ok f) ↔
      ∃ word params id, Asks v word params id := by
    constructor
    · rintro ⟨f, hf⟩
      obtain ⟨word, params, id, hasks, -, -⟩ := (ControlFrame.parse_eq_ok_iff hrendered).1 hf
      exact ⟨word, params, id, hasks⟩
    · rintro ⟨word, params, id, hasks⟩
      exact ⟨_, hparses word params id hasks⟩
  refine ⟨hsome, ?_, ?_⟩
  · intro f word params id hf hasks
    rw [hparses word params id hasks] at hf
    obtain rfl := Except.ok.inj hf
    obtain ⟨hsubscribe, hunsubscribe, hother⟩ := Method.ofWord_spec word
    exact ⟨hsubscribe, hunsubscribe, hother, names_topicsOf params⟩
  · intro hnone
    cases hparse : ControlFrame.parse frame with
    | ok f => exact absurd (hsome.1 ⟨f, hparse⟩) hnone
    | error e =>
      cases e with
      | malformed detail => exact ⟨detail, rfl⟩

/-- An escaped letter, a repeated topic, a blank one and further members. -/
theorem reads_escaped_request :
    let number : Numeral := ⟨false, [7], none, none⟩
    let params := [" btcusdt", "", "BTCUSDT"]
    let v : Value := .object [("v", .null), ("params", .array (params.map .text)),
      ("id", .number number), ("method", .text "SUBSCRIBE"), ("v", .bool true)]
    let frame := Text.Utf8.encode
      ("\x7b \"v\":null,\"params\":[\" btcusdt\",\"\",\"BTCUSDT\"],\"id\":7," ++
        "\"method\":\"SUBSCR\\u0049BE\",\"v\":true\x7d")
    (v.Rendered frame ∧ v.nesting ≤ Doc.nestingLimit ∧
      ∀ word params id, Asks v word params (some id) →
        ∀ n ∈ id.numbers, n.Moderate ∨ n.fitsDouble = true) ∧
    ∃ f, ControlFrame.parse frame = .ok f ∧ f.method = .subscribe ∧
      f.topics.map (·.name) = ["BTCUSDT", "BTCUSDT"] := by
  intro number params v frame
  let word : Literal := Literal.plain "SUBSCR" ++ .unit 0x49 :: Literal.plain "BE"
  have hend : Literal.Spells (.unit 0x49 :: Literal.plain "BE") "IBE".toList :=
    .unit (c := 'I') (by decide) (Literal.spells_plain "BE")
  have hword : word.Spells "SUBSCRIBE".toList := (Literal.spells_plain "SUBSCR").append hend
  have hparams : Doc.Means (.array (params.map fun s => .text (.plain s)))
      (.array (params.map .text)) :=
    .array (.cons (means_plain _) (.cons (means_plain _) (.cons (means_plain _) .nil)))
  have hrendered : v.Rendered frame := by
    refine ⟨.object [(.plain "v", .null),
      (.plain "params", .array (params.map fun s => .text (.plain s))),
      (.plain "id", .number number), (.plain "method", .text word), (.plain "v", .bool true)], ?_,
      written_of_parse? rfl⟩
    exact .object (.cons (named_plain _ .null) (.cons (named_plain _ hparams)
      (.cons (named_plain _ (.number number)) (.cons (named_plain _ (.text hword))
      (.cons (named_plain _ (.bool true)) .nil)))))
  have hnesting : v.nesting ≤ Doc.nestingLimit := by decide
  have hnumbers : ∀ word params id, Asks v word params (some id) →
      ∀ n ∈ id.numbers, n.Moderate ∨ n.fitsDouble = true := by
    intro word params id hasks n hn
    dsimp only [v] at hasks
    cases hasks with
    | object _ _ hid =>
      obtain rfl : .number number = id := (List.cons.inj hid).1
      obtain rfl := List.mem_singleton.1 hn
      exact Or.inr (by decide +kernel)
  have hasks : Asks v "SUBSCRIBE" params (some (.number number)) := .object rfl rfl rfl
  obtain ⟨hparses, hasked, -⟩ := reads_what_is_asked v frame hrendered hnesting hnumbers
  obtain ⟨f, hf⟩ := hparses.2 ⟨_, _, _, hasks⟩
  obtain ⟨hmethod, -, -, htopics⟩ := hasked f _ _ _ hf hasks
  refine ⟨⟨hrendered, hnesting, hnumbers⟩, f, hf, hmethod.2 rfl, ?_⟩
  rw [htopics]
  decide +kernel

/-- A request is refused for an id that is no larger than the largest double: its digits and its
power of ten are rounded up before they are multiplied. -/
theorem refused_at_end_of_range :
    let number : Numeral :=
      ⟨false, [1, 7, 9, 7, 6, 9, 3, 1, 3, 4, 8, 6, 2, 3, 1, 5, 7, 0, 8, 1], none,
        some ⟨none, [2, 8, 9]⟩⟩
    let v : Value :=
      .object [("method", .text "SUBSCRIBE"), ("params", .array []), ("id", .number number)]
    let frame := Text.Utf8.encode
      "\x7b\"method\":\"SUBSCRIBE\",\"params\":[],\"id\":17976931348623157081e289\x7d"
    (v.Rendered frame ∧ v.nesting ≤ Doc.nestingLimit ∧
      ∀ n ∈ v.numbers, n.AtMost Numeral.largestDouble) ∧
    (∃ word params id, Asks v word params id) ∧
    ∃ detail, ControlFrame.parse frame = .error (.malformed detail) := by
  intro number v frame
  have hrendered : v.Rendered frame := by
    refine ⟨.object [(.plain "method", .text (.plain "SUBSCRIBE")), (.plain "params", .array []),
      (.plain "id", .number number)], ?_, written_of_parse? rfl⟩
    exact .object (.cons (named_plain _ (means_plain _)) (.cons (named_plain _ (.array .nil))
      (.cons (named_plain _ (.number number)) .nil)))
  have hnumbers : ∀ n ∈ v.numbers, n.AtMost Numeral.largestDouble := by
    intro n hn
    obtain rfl := List.mem_singleton.1 hn
    show _ ≤ _
    decide +kernel
  have hasks : Asks v "SUBSCRIBE" [] (some (.number number)) := .object rfl rfl rfl
  have hrefused : (ControlFrame.parse frame).toOption.isNone = true := by decide +kernel
  refine ⟨⟨hrendered, by decide, hnumbers⟩, ⟨_, _, _, hasks⟩, ?_⟩
  cases hparse : ControlFrame.parse frame with
  | ok f => simp [hparse, Except.toOption] at hrefused
  | error e =>
    cases e with
    | malformed detail => exact ⟨detail, rfl⟩

end CandleRelay.Gateway
