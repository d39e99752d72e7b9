import CandleRelay.Proofs.Feed.Intervals
import CandleRelay.Proofs.Json.Quoting
import CandleRelay.Proofs.Registry.Soundness
import CandleRelay.Json.Record
import Mathlib.Data.List.Count

/-!
# The streams that are asked for

A request names a stream by the symbol in lower case and the code of the interval. Together the
requests of a subscription name every symbol that is kept once for each interval, and nothing else.
That is exact because no two streams share a name: lower case loses nothing of a canonical name,
and the code, whose letter case matters, stands after the last underscore, whatever the symbol is
called.

What is proved:
  1. `streamName_injective`: the name of a stream tells its symbol and its interval.
  2. `names?_request`: whoever reads the text of a request as JSON finds the names of its batch.
  3. `params_plans`: all plans together name, interval by interval, every symbol once.
  4. `asks_for_each_stream_once`: what the requests on the line name if none of them failed.
-/

namespace CandleRelay

/-! ## Names of streams -/

namespace Text

theorem isUpper_iff (c : Char) :
    ('A'.val ≤ c.val ∧ c.val ≤ 'Z'.val) ↔ (65 ≤ c.toNat ∧ c.toNat ≤ 90) :=
  and_congr UInt32.le_iff_toNat_le UInt32.le_iff_toNat_le

theorem toLower_of_not_upper {c : Char} (h : ¬ (65 ≤ c.toNat ∧ c.toNat ≤ 90)) : c.toLower = c := by
  unfold Char.toLower
  rw [dif_neg (mt (isUpper_iff c).1 h)]

theorem toNat_toLower_of_upper {c : Char} (h : 65 ≤ c.toNat ∧ c.toNat ≤ 90) :
    c.toLower.toNat = c.toNat + 32 := by
  unfold Char.toLower
  rw [dif_pos ((isUpper_iff c).2 h)]
  have hd : ('a'.val - 'A'.val).toNat = 32 := by decide
  show (c.val + ('a'.val - 'A'.val)).toNat = c.val.toNat + 32
  rw [UInt32.toNat_add, hd]
  have : c.val.toNat = c.toNat := rfl
  omega

theorem toUpper_toLower (c : Char) : c.toLower.toUpper = c.toUpper := by
  by_cases h : 65 ≤ c.toNat ∧ c.toNat ≤ 90
  · have hlower := toNat_toLower_of_upper h
    have hupper : c.toLower.toUpper.toNat = c.toNat := by
      rw [toNat_toUpper_of_lower (by omega), hlower, Nat.add_sub_cancel]
    rw [toUpper_of_not_lower (c := c) (by omega)]
    exact Char.toNat_inj.1 hupper
  · rw [toLower_of_not_upper h]

theorem toUpper_of_mem_canonical {s : String} (hs : canonical s = s) {c : Char}
    (hc : c ∈ s.toList) : c.toUpper = c := by
  rw [← hs, canonical, String.toList_ofList] at hc
  obtain ⟨d, -, rfl⟩ := List.mem_map.1 hc
  exact toUpper_toUpper d

theorem map_toUpper_lower {s : String} (hs : canonical s = s) :
    (lower s).toList.map Char.toUpper = s.toList := by
  rw [lower, String.toList_ofList, List.map_map]
  have hback : ∀ c ∈ s.toList, (Char.toUpper ∘ Char.toLower) c = id c := fun c hc =>
    (toUpper_toLower c).trans (toUpper_of_mem_canonical hs hc)
  rw [List.map_congr_left hback, List.map_id]

end Text

namespace Interval

theorem code_injective : Function.Injective code := by
  intro i j
  cases i <;> cases j <;> decide

theorem underscore_not_mem_code (i : Interval) : '_' ∉ i.code.toList := by
  cases i <;> decide

theorem append_code_inj {xs ys : List Char} {i j : Interval}
    (h : xs ++ '_' :: i.code.toList = ys ++ '_' :: j.code.toList) : xs = ys ∧ i = j := by
  -- The code is what stands after the last underscore.
  have hafter : ∀ (zs : List Char) (l : Interval),
      (zs ++ '_' :: l.code.toList).reverse.takeWhile (· != '_') = l.code.toList.reverse := by
    intro zs l
    rw [List.reverse_append, List.reverse_cons, List.append_assoc,
      List.takeWhile_append_of_pos, List.singleton_append, List.takeWhile_cons_of_neg (by decide),
      List.append_nil]
    intro c hc
    have hne : c ≠ '_' := fun heq => l.underscore_not_mem_code (heq ▸ List.mem_reverse.1 hc)
    simpa using hne
  have hcodes : i.code.toList = j.code.toList := by
    rw [← List.reverse_inj, ← hafter xs, ← hafter ys, h]
  obtain rfl : i = j := code_injective (String.toList_inj.1 hcodes)
  exact ⟨List.append_cancel_right h, rfl⟩

/-- The name of a stream tells the symbol and the interval, whatever characters the symbol has. -/
theorem streamName_injective {i j : Interval} {s t : Symbol}
    (h : i.streamName s = j.streamName t) : i = j ∧ s = t := by
  have hchars : ∀ (l : Interval) (u : Symbol), (l.streamName u).toList =
      ((Text.lower u.name).toList ++ "@kline".toList) ++ '_' :: l.code.toList := by
    intro l u
    simp [streamName, String.toList_append]
  have hlists := congrArg String.toList h
  rw [hchars, hchars] at hlists
  obtain ⟨hnames, rfl⟩ := append_code_inj hlists
  have hlower := congrArg (List.map Char.toUpper) (List.append_cancel_right hnames)
  rw [Text.map_toUpper_lower s.canonical, Text.map_toUpper_lower t.canonical] at hlower
  have hname : s.name = t.name := String.toList_inj.1 hlower
  cases s
  cases t
  simp only at hname
  subst hname
  exact ⟨rfl, rfl⟩

end Interval

namespace Feed

/-! ## What a request says -/

/-- The names of streams that a request asks for, read from its text as JSON. -/
def names? (text : String) : Option (List String) :=
  (((Json.parse? (Text.Utf8.encode text)).bind (·.record? ["method", "params", "id"] 3)).bind
    (Json.required? (Json.Doc.items? Json.Doc.text?) "params"))

/-- A name as it is read. -/
def literal (s : String) : Json.Literal := (Text.Utf8.encode s).map .byte

/-- The member that every request begins with. -/
def methodMember : Json.Member := (literal "method", .text (literal "SUBSCRIBE"))

theorem text?_literal (s : String) : (literal s).text? = some s :=
  (Json.standsFor_plain _).text?

open Json in
theorem encode_request (b : Batch) : Text.Utf8.encode b.request =
    Text.Utf8.encode "\x7b\"method\":\"SUBSCRIBE\",\"params\":" ++
      (Text.Utf8.encode (quotedList b.params) ++ (Text.Utf8.encode ",\"id\":" ++
        ((Nat.toDigits 10 b.id.toNat).flatMap String.utf8EncodeChar ++ [Byte.rightBrace]))) := by
  have hid : Text.Utf8.encode (toString b.id.toNat) =
      (Nat.toDigits 10 b.id.toNat).flatMap String.utf8EncodeChar := by
    rw [Text.Utf8.encode, Nat.toString_eq_ofList_toDigits, String.toList_ofList]
  have hbrace : Text.Utf8.encode "\x7d" = [Byte.rightBrace] := rfl
  have hparts : ∀ s t u v w : String, Text.Utf8.encode (s ++ t ++ u ++ v ++ w) =
      Text.Utf8.encode s ++ (Text.Utf8.encode t ++ (Text.Utf8.encode u ++
        (Text.Utf8.encode v ++ Text.Utf8.encode w))) := by
    intro s t u v w
    simp only [encode_append, List.append_assoc]
  rw [← hid, ← hbrace]
  exact hparts _ _ _ _ _

open Json in
theorem parse?_request (b : Batch) : ∃ (ds : List Doc) (n : Numeral),
    ds.mapM Doc.text? = some b.params ∧ n.natural? = some b.id.toNat ∧
      parse? (Text.Utf8.encode b.request) = some (.object
        [methodMember, (literal "params", .array ds), (literal "id", .number n)]) := by
  obtain ⟨ds, hds, hlist⟩ := run?_quotedList b.params [.object [methodMember] (literal "params")]
  obtain ⟨whole, hne, -, hvalue, hnumber⟩ := run?_toDigits b.id.toNat
    [.object [(literal "params", .array ds), methodMember] (literal "id")]
  refine ⟨ds, Numeral.inOrder ⟨false, whole, none, none⟩, hds, ?_, ?_⟩
  · have hsmall : b.id.toNat < Nat.pow 2 64 := b.id.toNat_lt
    simp [Numeral.inOrder, Numeral.natural?, hvalue, hsmall]
  · have hhead : Reader.start.run?
        (Text.Utf8.encode "\x7b\"method\":\"SUBSCRIBE\",\"params\":") =
          some ⟨.value, [.object [methodMember] (literal "params")]⟩ := rfl
    have hmiddle : Reader.run?
        (Reader.complete (.array ds) [.object [methodMember] (literal "params")])
        (Text.Utf8.encode ",\"id\":") =
          some ⟨.value, [.object [(literal "params", .array ds), methodMember]
            (literal "id")]⟩ := rfl
    rw [parse?, encode_request, Reader.run?_append, hhead, Option.bind_some, hlist,
      Reader.run?_append, hmiddle, Option.bind_some, Reader.run?_append, hnumber, Option.bind_some,
      Reader.run?, step?_brace hne]
    rfl

/-- Whoever reads the text of a request as JSON finds the names of its batch. -/
theorem names?_request (b : Batch) : names? b.request = some b.params := by
  obtain ⟨ds, n, hds, -, hparse⟩ := parse?_request b
  rw [names?, hparse]
  simp [methodMember, Json.Doc.record?, Json.fieldsOf?, Json.named?, text?_literal, Json.isSingle,
    Json.required?, Json.Doc.items?, List.lookup_cons, hds]

/-! ## What all plans name -/

theorem params_batchesOf (symbols : List Symbol) (i : Interval) (size : Nat) (firstId : UInt64) :
    (batchesOf symbols i size firstId).flatMap (·.params) = symbols.map i.streamName := by
  have hparams : ∀ b ∈ batchesOf symbols i size firstId,
      b.params = b.symbols.map i.streamName := by
    intro b hb
    rw [Batch.params, interval_of_mem_batchesOf hb]
  rw [List.flatMap_congr hparams, ← List.map_flatMap, symbols_batchesOf]

/-- Together the plans name every symbol on every interval, in order. -/
theorem params_plans (symbols : List Symbol) (size : Nat) (firstId : UInt64)
    (intervals : List Interval) :
    (plans symbols size firstId intervals).flatten.flatMap (·.params) =
      intervals.flatMap fun i => symbols.map i.streamName := by
  induction intervals generalizing firstId with
  | nil => rfl
  | cons i rest ih =>
    rw [plans, List.flatten_cons, List.flatMap_append, params_batchesOf, ih, List.flatMap_cons]

theorem count_streamName {symbols : List Symbol} (hnodup : symbols.Nodup) {s : Symbol}
    (hs : s ∈ symbols) (i : Interval) (intervals : List Interval) :
    (intervals.flatMap fun j => symbols.map j.streamName).count (i.streamName s) =
      intervals.count i := by
  induction intervals with
  | nil => rfl
  | cons j rest ih =>
    rw [List.flatMap_cons, List.count_append, ih, List.count_cons]
    by_cases hj : j = i
    · subst hj
      have hinjective : Function.Injective j.streamName := fun _ _ h =>
        (Interval.streamName_injective h).2
      have hone : (symbols.map j.streamName).count (j.streamName s) = 1 := by
        rw [List.count_map_of_injective _ _ hinjective]
        exact List.count_eq_one_of_mem hnodup hs
      simp [hone, Nat.add_comm]
    · have hnone : (symbols.map j.streamName).count (i.streamName s) = 0 := by
        refine List.count_eq_zero_of_not_mem fun hmem => ?_
        obtain ⟨t, -, ht⟩ := List.mem_map.1 hmem
        exact hj (Interval.streamName_injective ht).1
      simp [hnone, hj]

theorem nodup_fitStreams (f : QuoteFilter) (names : List String) (intervals maxStreams : Nat) :
    (fitStreams (f.symbols names) intervals maxStreams).Nodup :=
  (Gateway.Registry.nodup_eraseDups _).sublist (List.take_sublist _ _)

/-! ## What goes out -/

/-- What a line was asked for since it was another one, request by request. -/
def Line.askedSince (l before : Line) : Option (List (List String)) :=
  (l.attemptsSince before).mapM fun a => names? a.text

theorem mapM_names? (bs : List Batch) :
    (bs.map (·.request)).mapM names? = some (bs.map (·.params)) := by
  induction bs with
  | nil => rfl
  | cons b bs ih => simp [names?_request, ih]

theorem SentAll.all_sent {c : Client} {sent rest : List Batch} {report : Report}
    {r : Except SubscriptionError Report × Client} (h : SentAll c sent rest report r)
    (hok : ∀ a ∈ r.2.line.attemptsSince c.line, a.ok = true) : rest = [] := by
  cases rest with
  | nil => rfl
  | cons b later =>
    have hfailed : (b.request, false) ∈ (r.2.line.attemptsSince c.line).map Attempt.outcome := by
      rw [h.handed.outcomes]
      simp [Sending.outcome]
    obtain ⟨a, ha, heq⟩ := List.mem_map.1 hfailed
    have hnot : a.ok = false := congrArg Prod.snd heq
    rw [hok a ha] at hnot
    simp at hnot

/-- What the requests name is each symbol once for each interval in the list, and no two of those
streams have one name. -/
structure AsksForEach (symbols : List Symbol) (intervals : List Interval) (asked : List String) :
    Prop where
  count : ∀ s ∈ symbols, ∀ i : Interval, asked.count (i.streamName s) = intervals.count i
  only : ∀ name ∈ asked, ∃ s ∈ symbols, ∃ i ∈ intervals, name = i.streamName s
  apart : ∀ (i j : Interval) (s t : Symbol), i.streamName s = j.streamName t → i = j ∧ s = t

/-- If no attempt to send has failed, the requests on the line name the streams of the kept symbols,
and only these, each as often as its interval stands in the list. -/
theorem asks_for_each_stream_once (c : Client) (f : QuoteFilter) (names : List String)
    (intervals : List Interval) (maxStreams : Nat) {size delay : Nat} (hsize : size ≠ 0)
    (hdelay : delay ≠ 0) :
    let symbols := fitStreams (f.symbols names) intervals.length maxStreams
    let r := c.subscribeAll symbols size delay intervals
    (∀ a ∈ r.2.line.attemptsSince c.line, a.ok = true) →
      ∃ asked, r.2.line.askedSince c.line = some asked ∧
        r.1 = .ok ⟨asked.length, asked.flatten.length⟩ ∧
        AsksForEach symbols intervals asked.flatten := by
  intro symbols r hok
  obtain ⟨sent, rest, hplans, hsent⟩ := c.sentAll_subscribeAll symbols hdelay hsize intervals
  obtain rfl := hsent.all_sent hok
  have hall : (plans symbols size c.nextId intervals).flatten = sent :=
    hplans.trans (List.append_nil sent)
  have hasked : (sent.map (·.params)).flatten =
      intervals.flatMap fun i => symbols.map i.streamName := by
    rw [← hall, ← List.flatMap_def, params_plans]
  refine ⟨sent.map (·.params), ?_, ?_, ?_⟩
  · have htexts : (r.2.line.attemptsSince c.line).map (·.text) = sent.map (·.request) := by
      rw [hsent.handed.texts]
      simp [Function.comp_def]
    rw [Line.askedSince, ← mapM_names?, ← htexts, List.mapM_map]
    rfl
  · have hlengths : (sent.map (·.params)).flatten.length =
        (sent.map (·.symbols.length)).sum := by
      rw [List.length_flatten, List.map_map]
      exact named_eq sent
    have hanswer : r.1 = _ := hsent.answer
    rw [hanswer, List.length_map, hlengths]
    simp
  · rw [hasked]
    refine ⟨?_, ?_, fun _ _ _ _ => Interval.streamName_injective⟩
    · intro s hs i
      exact count_streamName (nodup_fitStreams f names _ _) hs i intervals
    · intro name hname
      obtain ⟨i, hi, hname⟩ := List.mem_flatMap.1 hname
      obtain ⟨s, hs, rfl⟩ := List.mem_map.1 hname
      exact ⟨s, hs, i, hi, rfl⟩

/-- Of the names in a catalog two symbols are kept, one of which looks like the name of a stream. On
a minute that stands twice and a month that stands once they are asked for in six requests. -/
theorem asks_for_two_symbols :
    let names := ["btc_usdt", "ETHBTC", "x@kline_1musdt", "BTC_USDT ", "BNBUSDT"]
    let f := QuoteFilter.ofAsset "usdt" .suffix
    let intervals : List Interval := [.min1, .month1, .min1]
    let symbols := fitStreams (f.symbols names) intervals.length 8
    let r := (Client.fresh {} {}).subscribeAll symbols 1 5 intervals
    (1 ≠ 0 ∧ 5 ≠ 0 ∧ ∀ a ∈ r.2.line.attemptsSince {}, a.ok = true) ∧
      symbols.map (·.name) = ["BTC_USDT", "X@KLINE_1MUSDT"] ∧
      ∃ asked, r.2.line.askedSince {} = some asked ∧ asked.length = 6 ∧
        AsksForEach symbols intervals asked.flatten := by
  intro names f intervals symbols r
  have hok : ∀ a ∈ r.2.line.attemptsSince {}, a.ok = true := by decide +kernel
  have hreport : r.1 = .ok ⟨6, 6⟩ := by decide +kernel
  obtain ⟨asked, hasked, hanswer, heach⟩ :=
    asks_for_each_stream_once (.fresh {} {}) f names intervals 8 Nat.one_ne_zero
      (Nat.succ_ne_zero 4) hok
  have hanswer : r.1 = .ok ⟨asked.length, asked.flatten.length⟩ := hanswer
  rw [hreport] at hanswer
  have hsix : 6 = asked.length := congrArg Report.batches (Except.ok.inj hanswer)
  exact ⟨⟨Nat.one_ne_zero, Nat.succ_ne_zero 4, hok⟩, by decide +kernel, asked, hasked, hsix.symm,
    heach⟩

end Feed

end CandleRelay
