import CandleRelay.Proofs.Control
import CandleRelay.Proofs.Feed.Streams

/-!
# Requests read by the gateway

The relay writes requests to the exchange on one side and reads requests of its clients on the
other, with a writer and a reader that have nothing in common. They speak one language: sent to the
gateway, a request for streams is a request for the topics that its streams name. None of them gets
lost, for no stream has a blank name, and no character of a symbol is misread. And the text of a
request tells its id and its streams.

What is proved:
  1. `topicsOf_params`: every stream of a batch names a topic.
  2. `request_read_by_gateway`: what the gateway reads, and what the text tells.
-/

namespace CandleRelay

/-! ## Names that are not blank -/

namespace Text

theorem mem_dropWhile {α : Type} {p : α → Bool} {l : List α} {a : α} (ha : a ∈ l)
    (hp : p a = false) : a ∈ l.dropWhile p := by
  induction l with
  | nil => cases ha
  | cons b l ih =>
    by_cases hb : p b = true
    · rw [List.dropWhile_cons_of_pos hb]
      rcases List.mem_cons.1 ha with rfl | ha
      · rw [hp] at hb
        cases hb
      · exact ih ha
    · rwa [List.dropWhile_cons_of_neg hb]

theorem mem_trim {cs : List Char} {c : Char} (hc : c ∈ cs) (hblank : isBlank c = false) :
    c ∈ trim cs :=
  List.mem_reverse.2 (mem_dropWhile (List.mem_reverse.2 (mem_dropWhile hc hblank)) hblank)

theorem canonical_ne_empty {s : String} {c : Char} (hc : c ∈ s.toList)
    (hblank : isBlank c = false) : canonical s ≠ "" := by
  intro h
  have hmem : c.toUpper ∈ (canonical s).toList := by
    rw [canonical, String.toList_ofList]
    exact List.mem_map_of_mem (mem_trim hc hblank)
  rw [h] at hmem
  cases hmem

end Text

theorem Interval.topic_nonempty (i : Interval) (s : Symbol) :
    (Topic.ofString (i.streamName s)).isEmpty = false := by
  have hat : '@' ∈ (i.streamName s).toList := by
    simp [streamName, String.toList_append]
  have hne : Text.canonical (i.streamName s) ≠ "" := Text.canonical_ne_empty hat (by decide)
  simpa [Topic.isEmpty, Topic.ofString] using hne

namespace Feed

open Gateway Json

/-- Every stream of a batch names a topic, and none is passed over. -/
theorem topicsOf_params (b : Batch) :
    ControlFrame.topicsOf b.params = b.params.map Topic.ofString := by
  rw [ControlFrame.topicsOf, List.filter_eq_self]
  intro t ht
  obtain ⟨name, hname, rfl⟩ := List.mem_map.1 ht
  obtain ⟨s, -, rfl⟩ := List.mem_map.1 hname
  rw [b.interval.topic_nonempty s]
  rfl

/-! ## The gateway's reading of a request -/

theorem parse_request (b : Batch) :
    ControlFrame.parse (Text.Utf8.encode b.request) =
      .ok ⟨.subscribe, b.params.map Topic.ofString⟩ := by
  obtain ⟨ds, n, hds, hn, hparse⟩ := parse?_request b
  let fields : List (String × Doc) :=
    [("method", .text (literal "SUBSCRIBE")), ("params", .array ds), ("id", .number n)]
  have hrecord : (Doc.object [methodMember, (literal "params", .array ds),
      (literal "id", .number n)]).record? ControlFrame.fields 2 = some fields := by
    simp [fields, methodMember, Doc.record?, fieldsOf?, named?, text?_literal, isSingle,
      ControlFrame.fields]
  have hmethod : required? Doc.text? "method" fields = some "SUBSCRIBE" := by
    simp [fields, required?, Doc.text?, text?_literal]
  have hparams : required? (Doc.items? Doc.text?) "params" fields = some b.params := by
    simp [fields, required?, Doc.items?, List.lookup_cons, hds]
  have hid : ∀ d, fields.lookup "id" = some d → d.isReadable 1 = true := by
    simp [fields, List.lookup_cons, Doc.isReadable, Doc.nesting, Doc.every, Doc.nestingLimit,
      Numeral.fitsDouble_of_natural? hn]
  have hframe := (ControlFrame.ofDoc?_eq_some_iff hrecord).2 ⟨_, _, hmethod, hparams, hid, rfl⟩
  have hword : Method.ofWord "SUBSCRIBE" = .subscribe := (Method.ofWord_spec _).1.2 rfl
  rw [hword, topicsOf_params] at hframe
  rw [ControlFrame.parse, hparse, Option.bind_some, hframe]

theorem request_eq_iff (b b' : Batch) :
    b.request = b'.request ↔ b.id = b'.id ∧ b.params = b'.params := by
  constructor
  · intro h
    obtain ⟨ds, n, hds, hn, hparse⟩ := parse?_request b
    obtain ⟨ds', n', hds', hn', hparse'⟩ := parse?_request b'
    rw [h, hparse'] at hparse
    cases hparse
    rw [hds'] at hds
    rw [hn'] at hn
    exact ⟨(UInt64.toNat_inj.1 (Option.some.inj hn)).symm, (Option.some.inj hds).symm⟩
  · rintro ⟨hid, hparams⟩
    unfold Batch.request
    rw [hid, hparams]

/-- **A request for streams, read by the gateway.** It is a request to receive the topics that its
streams name, all of them and in order. Two requests have one text exactly if they have one id and
name the same streams. -/
theorem request_read_by_gateway (b : Batch) :
    ControlFrame.parse (Text.Utf8.encode b.request) =
      .ok ⟨.subscribe, b.params.map Topic.ofString⟩ ∧
    ∀ b' : Batch, b.request = b'.request ↔ b.id = b'.id ∧ b.params = b'.params :=
  ⟨parse_request b, request_eq_iff b⟩

end Feed

end CandleRelay
