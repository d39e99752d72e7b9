import CandleRelay.Proofs.Feed.Routing

/-!
# What is taken for an acknowledgement

A reply is an acknowledgement by elimination: it has an id, and it is neither market data nor a
refusal. So that is all that is known of a reply which makes a request active. Of the members that a
refusal at the top needs, one may well be there: a frame with a code and no text is taken for an
acknowledgement, and one without a result as well (`acknowledged_without_result`).

What is proved:
  1. `Envelope.Says`, `says_of_ofDoc?`: what an envelope tells about the members of its frame.
  2. `status?_answered`: the last answer to a request decides what has become of it.
  3. `acknowledged_by_elimination`: which frames are acknowledgements, and that a request becomes
     active through one of them only.
-/

namespace CandleRelay.Feed

open Json

/-! ## Members that are not there -/

/-- Nothing stands under the name, or nothing but null. -/
def Lacks (name : String) (members : List Member) : Prop :=
  ∀ d ∈ valuesUnder name members, d = .null

theorem optional?_cases {fields : List String} {members : List Member} {r : List (String × Doc)}
    {α : Type} {read : Doc → Option α} {f : String} {o : Option α} (h : Orderly fields members)
    (hf : f ∈ fields) (hr : r.lookup f = (valuesUnder f members).head?)
    (ho : optional? read f r = some o) :
    (o = none ∧ Lacks f members) ∨
      ∃ d v, o = some v ∧ valuesUnder f members = [d] ∧ d ≠ .null ∧ read d = some v := by
  have hsingle := h.single f hf
  cases hvalues : valuesUnder f members with
  | nil =>
    rw [optional?, hr, hvalues] at ho
    refine Or.inl ⟨(Option.some.inj ho).symm, ?_⟩
    intro d hd
    rw [hvalues] at hd
    cases hd
  | cons d rest =>
    rw [hvalues] at hsingle hr
    obtain rfl : rest = [] := by simpa using hsingle
    by_cases hd : d = .null
    · subst hd
      rw [optional?, hr] at ho
      refine Or.inl ⟨(Option.some.inj ho).symm, ?_⟩
      intro d hd
      rw [hvalues] at hd
      exact List.mem_singleton.1 hd
    · rw [optional?, hr, List.head?_cons] at ho
      obtain ⟨v, hv, rfl⟩ : ∃ v, read d = some v ∧ some v = o := by
        cases d <;> first | exact absurd rfl hd | exact Option.map_eq_some_iff.1 ho
      exact Or.inr ⟨d, v, rfl, rfl, hd, hv⟩

theorem not_lacks {f : String} {members : List Member} {d : Doc}
    (hvalues : valuesUnder f members = [d]) (hd : d ≠ .null) : ¬ Lacks f members :=
  fun h => hd (h d (by rw [hvalues]; exact List.mem_singleton_self d))

/-! ## What an envelope tells -/

namespace Envelope

/-- What an envelope tells about the members of its frame. -/
structure Says (members : List Member) (e : Envelope) : Prop where
  data : e.data = none ↔ Lacks "data" members
  symbol : e.body.symbol = none ↔ Lacks "s" members
  error : e.error = none ↔ Lacks "error" members
  code : e.code = none ↔ Lacks "code" members
  reason : e.reason = none ↔ Lacks "msg" members
  id : ∀ n, e.id = some n ↔ ∃ d, valuesUnder "id" members = [d] ∧ d.natural? = some n

end Envelope

section

variable {members : List Member} {r : List (String × Doc)} {α : Type} {read : Doc → Option α}
  {f : String} {o : Option α}

theorem optional?_eq_none_iff (h : Orderly Envelope.fields members) (hf : f ∈ Envelope.fields)
    (hr : r.lookup f = (valuesUnder f members).head?) (ho : optional? read f r = some o) :
    o = none ↔ Lacks f members := by
  rcases optional?_cases h hf hr ho with ⟨rfl, hlacks⟩ | ⟨d, v, rfl, hvalues, hd, -⟩
  · exact ⟨fun _ => hlacks, fun _ => rfl⟩
  · constructor
    · intro h
      cases h
    · intro hlacks
      exact absurd hlacks (not_lacks hvalues hd)

theorem optional?_eq_some_iff (hnull : read .null = none) (h : Orderly Envelope.fields members)
    (hf : f ∈ Envelope.fields) (hr : r.lookup f = (valuesUnder f members).head?)
    (ho : optional? read f r = some o) (v : α) :
    o = some v ↔ ∃ d, valuesUnder f members = [d] ∧ read d = some v := by
  rcases optional?_cases h hf hr ho with ⟨rfl, hlacks⟩ | ⟨d, w, rfl, hvalues, -, hread⟩
  · constructor
    · intro h
      cases h
    · rintro ⟨d, hvalues, hread⟩
      obtain rfl : d = .null := hlacks d (by rw [hvalues]; exact List.mem_singleton_self d)
      rw [hnull] at hread
      cases hread
  · constructor
    · rintro ⟨⟩
      exact ⟨d, hvalues, hread⟩
    · rintro ⟨d', hvalues', hread'⟩
      rw [hvalues] at hvalues'
      cases hvalues'
      exact hread.symm.trans hread'

end

theorem Envelope.says_of_ofDoc? {members : List Member} {e : Envelope}
    (h : Envelope.ofDoc? (.object members) = some e) : e.Says members := by
  simp only [Envelope.ofDoc?, Option.bind_eq_bind, Option.bind_eq_some_iff] at h
  obtain ⟨r, hr, h⟩ := h
  have horderly := orderly_of_fieldsOf? hr
  obtain ⟨r', hr', hlookup⟩ := horderly.fieldsOf?
  obtain rfl : r = r' := Option.some.inj (hr.symm.trans hr')
  split at h
  · simp only [Option.bind_eq_some_iff] at h
    obtain ⟨data, hdata, body, hbody, id, hid, error, herror, code, hcode, reason, hreason, h⟩ := h
    obtain rfl := Option.some.inj h
    simp only [EventBody.ofFields?, Option.bind_eq_bind, Option.bind_eq_some_iff] at hbody
    obtain ⟨kind, -, time, -, symbol, hsymbol, hbody⟩ := hbody
    obtain rfl := Option.some.inj hbody
    constructor
    · exact optional?_eq_none_iff horderly (by decide) (hlookup "data" (by decide)) hdata
    · exact optional?_eq_none_iff horderly (by decide) (hlookup "s" (by decide)) hsymbol
    · exact optional?_eq_none_iff horderly (by decide) (hlookup "error" (by decide)) herror
    · exact optional?_eq_none_iff horderly (by decide) (hlookup "code" (by decide)) hcode
    · exact optional?_eq_none_iff horderly (by decide) (hlookup "msg" (by decide)) hreason
    · exact optional?_eq_some_iff rfl horderly (by decide) (hlookup "id" (by decide)) hid
  · cases h

theorem lt_of_natural? {d : Doc} {n : Nat} (h : d.natural? = some n) : n < UInt64.size := by
  unfold Doc.natural? at h
  split at h
  · unfold Numeral.natural? at h
    split at h
    · next hguard =>
      simp only [Bool.and_eq_true, decide_eq_true_eq] at hguard
      rw [← Option.some.inj h]
      exact hguard.2
    · cases h
  · cases h

/-! ## Acknowledgements by elimination -/

/-- The members acknowledge a request: its id, no market data, and not all that a refusal needs. -/
structure Acknowledges (id : UInt64) (members : List Member) : Prop where
  id : ∃ d, valuesUnder "id" members = [d] ∧ d.natural? = some id.toNat
  data : Lacks "data" members
  symbol : Lacks "s" members
  error : Lacks "error" members
  flat : Lacks "code" members ∨ Lacks "msg" members

/-- The frame is read, and its members acknowledge a request. -/
def AckedBy (frame : Bytes) (id : UInt64) : Prop :=
  (∀ detail, decode frame ≠ .error (.malformed detail)) ∧
    ∃ members, (Doc.object members).WrittenAs frame ∧ Acknowledges id members

theorem Envelope.event_ne_ack (body : EventBody) (frame : Bytes) (id : UInt64) :
    Envelope.event body frame ≠ .ok (.ack id) := by
  unfold Envelope.event
  split <;> simp

/-- The arm of the acknowledgement is what the others leave over. -/
theorem Envelope.classify_eq_ack_iff (e : Envelope) (frame : Bytes) (id : UInt64) :
    e.classify frame = .ok (.ack id) ↔
      e.id.map Nat.toUInt64 = some id ∧ e.data = none ∧ e.body.symbol = none ∧ e.error = none ∧
        (e.code = none ∨ e.reason = none) := by
  obtain ⟨data, ⟨kind, time, symbol⟩, n, error, code, reason⟩ := e
  unfold Envelope.classify
  cases data with
  | some body => simp [Envelope.event_ne_ack]
  | none =>
    cases symbol with
    | some s => simp [Envelope.event_ne_ack]
    | none =>
      cases error with
      | some refusal => simp
      | none => cases code <;> cases reason <;> cases n <;> simp

theorem Envelope.Says.acknowledges_iff {members : List Member} {e : Envelope}
    (h : e.Says members) (hbound : ∀ n, e.id = some n → n < UInt64.size) (frame : Bytes)
    (id : UInt64) : e.classify frame = .ok (.ack id) ↔ Acknowledges id members := by
  have hid : e.id.map Nat.toUInt64 = some id ↔ e.id = some id.toNat := by
    rw [Option.map_eq_some_iff]
    constructor
    · rintro ⟨n, hn, rfl⟩
      rw [hn, Nat.toUInt64_eq, UInt64.toNat_ofNat_of_lt' (hbound n hn)]
    · intro hn
      exact ⟨id.toNat, hn, by simp⟩
  rw [Envelope.classify_eq_ack_iff, hid, h.id, h.data, h.symbol, h.error, h.code, h.reason]
  constructor
  · rintro ⟨hid, hdata, hsymbol, herror, hflat⟩
    exact ⟨hid, hdata, hsymbol, herror, hflat⟩
  · rintro ⟨hid, hdata, hsymbol, herror, hflat⟩
    exact ⟨hid, hdata, hsymbol, herror, hflat⟩

theorem decode_eq_ack_iff (frame : Bytes) (id : UInt64) :
    decode frame = .ok (.ack id) ↔ AckedBy frame id := by
  have hclassify : ∀ members e, (Doc.object members).WrittenAs frame →
      Envelope.ofDoc? (.object members) = some e →
      (decode frame = .ok (.ack id) ↔ Acknowledges id members) := by
    intro members e hwritten he
    have htells := Envelope.says_of_ofDoc? he
    have hbound : ∀ n, e.id = some n → n < UInt64.size := by
      intro n hn
      obtain ⟨d, -, hd⟩ := (htells.id n).1 hn
      exact lt_of_natural? hd
    rw [decode_of_envelope hwritten he]
    exact htells.acknowledges_iff hbound frame id
  have henvelope : ∀ members, (Doc.object members).WrittenAs frame →
      (∀ detail, decode frame ≠ .error (.malformed detail)) →
      ∃ e, Envelope.ofDoc? (.object members) = some e := by
    intro members hwritten hdecodes
    cases he : Envelope.ofDoc? (.object members) with
    | none => exact absurd (decode_of_no_envelope hwritten he) (hdecodes _)
    | some e => exact ⟨e, rfl⟩
  constructor
  · intro h
    have hdecodes : ∀ detail, decode frame ≠ .error (.malformed detail) := by
      intro detail herror
      rw [h] at herror
      cases herror
    obtain ⟨members, hwritten⟩ := object_of_decode hdecodes
    obtain ⟨e, he⟩ := henvelope members hwritten hdecodes
    exact ⟨hdecodes, members, hwritten, (hclassify members e hwritten he).1 h⟩
  · rintro ⟨hdecodes, members, hwritten, hacknowledges⟩
    obtain ⟨e, he⟩ := henvelope members hwritten hdecodes
    exact (hclassify members e hwritten he).2 hacknowledges

/-! ## What becomes of a request -/

namespace Ledger

theorem find?_settle (l : Ledger) (id key : UInt64) (status : BatchStatus) :
    (l.settle key status).2.find? id =
      if key = id then (l.find? id).map fun e => { e with status } else l.find? id := by
  have hbatch : ∀ e : LedgerEntry,
      (if e.batch.id == key then { e with status } else e).batch = e.batch := by
    intro e
    split <;> rfl
  simp only [find?, settle, List.find?_map, Function.comp_def, hbatch]
  cases hfound : l.entries.find? (·.batch.id == id) with
  | none => simp
  | some e =>
    have hid : e.batch.id = id := by simpa using List.find?_some hfound
    by_cases hkey : key = id
    · simp [hid, hkey]
    · have hne : ¬ id = key := fun h => hkey h.symm
      simp [hid, hkey, hne]

theorem status?_settle (l : Ledger) (id key : UInt64) (status : BatchStatus) :
    (l.settle key status).2.status? id =
      if key = id then (l.status? id).map fun _ => status else l.status? id := by
  rw [status?, find?_settle, status?]
  split
  · rw [Option.map_map, Option.map_map]
    rfl
  · rfl

theorem status?_answered (answers : List (UInt64 × BatchStatus)) (l : Ledger) (id : UInt64) :
    (answers.foldl answered l).status? id =
      (l.status? id).map (((answers.filter (·.1 == id)).map (·.2)).getLast?.getD ·) := by
  induction answers generalizing l with
  | nil => simp
  | cons a answers ih =>
    obtain ⟨key, status⟩ := a
    rw [List.foldl_cons, ih, answered, status?_settle]
    by_cases hkey : key = id
    · rw [if_pos hkey, List.filter_cons_of_pos (by simpa using hkey), Option.map_map,
        List.map_cons]
      cases l.status? id with
      | none => rfl
      | some s => simp [List.getLast?_cons]
    · rw [if_neg hkey, List.filter_cons_of_neg (by simpa using hkey)]

theorem active_of_answered {answers : List (UInt64 × BatchStatus)} {l : Ledger} {id : UInt64}
    (h : (answers.foldl answered l).status? id = some .active) :
    l.status? id = some .active ∨ (id, .active) ∈ answers := by
  rw [status?_answered] at h
  obtain ⟨s, hs, hlast⟩ := Option.map_eq_some_iff.1 h
  cases hget : ((answers.filter (·.1 == id)).map (·.2)).getLast? with
  | none =>
    rw [hget, Option.getD_none] at hlast
    exact Or.inl (hlast ▸ hs)
  | some status =>
    rw [hget, Option.getD_some] at hlast
    obtain ⟨⟨key, status'⟩, hmem, rfl⟩ := List.mem_map.1 (List.mem_of_getLast? hget)
    obtain ⟨hanswer, hkey⟩ := List.mem_filter.1 hmem
    obtain rfl : key = id := by simpa using hkey
    obtain rfl : status' = .active := hlast
    exact Or.inr hanswer

end Ledger

theorem Heard.decode_of_answer? {h : Heard} {id : UInt64}
    (hanswer : h.answer? = some (id, .active)) : decode h.bytes = .ok (.ack id) := by
  unfold Heard.answer? at hanswer
  split at hanswer
  · next hdecode =>
    cases hanswer
    exact hdecode
  · cases hanswer
  · cases hanswer

/-- Which frames are acknowledgements: those that are read, have the request's id, lack market data
and a refusal under `error`, and lack the code or the text of a refusal at the top. In a run of
reading a request becomes active through such a frame only. -/
theorem acknowledged_by_elimination (c : Client) (stopAtEnd : Bool) (script : List Turn) :
    (∀ frame id, decode frame = .ok (.ack id) ↔ AckedBy frame id) ∧
    ∀ id, (c.read stopAtEnd script).2.1.ledger.status? id = some .active →
      c.ledger.status? id = some .active ∨ ∃ h ∈ framesOf script, AckedBy h.bytes id := by
  refine ⟨decode_eq_ack_iff, ?_⟩
  intro id hactive
  obtain ⟨last, rest, hhandled, hread⟩ := c.read_cases stopAtEnd script
  have hended : (last.ended (endingOf stopAtEnd script)).ledger = last.ledger := by
    cases endingOf stopAtEnd script <;> rfl
  have hledger : (c.read stopAtEnd script).2.1.ledger =
      ((framesOf script).filterMap Heard.answer?).foldl Ledger.answered c.ledger := by
    rw [hread]
    exact hended.trans hhandled.ledger
  rw [hledger] at hactive
  rcases Ledger.active_of_answered hactive with hbefore | hanswer
  · exact Or.inl hbefore
  · obtain ⟨h, hmem, hanswer⟩ := List.mem_filterMap.1 hanswer
    exact Or.inr ⟨h, hmem, (decode_eq_ack_iff _ _).1 (Heard.decode_of_answer? hanswer)⟩

/-- A request for one stream becomes active by the reply that accepts it. -/
theorem active_by_reply :
    let symbols := ["BTCUSDT"].filterMap Symbol.ofString?
    let reply := Text.Utf8.encode "\x7b\"result\":null,\"id\":1\x7d"
    let script : List Turn := [⟨false, .text reply, true⟩]
    let c := (({} : Client).subscribe symbols .sec1 1 5).2
    (c.ledger.status? 1 = some .pending ∧
      (c.read false script).2.1.ledger.status? 1 = some .active) ∧
    ∃ h ∈ framesOf script, AckedBy h.bytes 1 := by
  intro symbols reply script c
  have hbefore : c.ledger.status? 1 = some .pending := by decide +kernel
  have hafter : (c.read false script).2.1.ledger.status? 1 = some .active := by decide +kernel
  refine ⟨⟨hbefore, hafter⟩, ?_⟩
  rcases (acknowledged_by_elimination c false script).2 1 hafter with hactive | hreply
  · rw [hbefore] at hactive
    cases hactive
  · exact hreply

/-- The result is not looked at, and a code without its text is no refusal: either frame is taken
for an acknowledgement and makes a request active. -/
theorem acknowledged_without_result :
    let number (d : Digit) : Doc := .number ⟨false, [d], none, none⟩
    let bare : List Member := [(.plain "id", number 1)]
    let coded : List Member :=
      [(.plain "result", .null), (.plain "code", number 2), (.plain "id", number 1)]
    let bareFrame := Text.Utf8.encode "\x7b\"id\":1\x7d"
    let codedFrame := Text.Utf8.encode "\x7b\"result\":null,\"code\":2,\"id\":1\x7d"
    let symbols := ["BTCUSDT"].filterMap Symbol.ofString?
    let c := (({} : Client).subscribe symbols .sec1 1 5).2
    ((Doc.object bare).WrittenAs bareFrame ∧ valuesUnder "result" bare = []) ∧
    ((Doc.object coded).WrittenAs codedFrame ∧ ¬ Lacks "code" coded) ∧
    c.ledger.status? 1 = some .pending ∧
    (∀ frame ∈ [bareFrame, codedFrame], decode frame = .ok (.ack 1)) ∧
    ∀ frame ∈ [bareFrame, codedFrame],
      (c.read false [⟨false, .text frame, true⟩]).2.1.ledger.status? 1 = some .active := by
  intro number bare coded bareFrame codedFrame symbols c
  have hcode : valuesUnder "code" coded = [number 2] := rfl
  refine ⟨⟨written_of_parse? rfl, rfl⟩, ⟨written_of_parse? rfl, ?_⟩, ?_, ?_, ?_⟩
  · exact not_lacks hcode (by simp [number])
  · decide +kernel
  · have hanswer : ∀ frame ∈ [bareFrame, codedFrame],
        Heard.answer? ⟨frame, true⟩ = some (1, .active) := by
      decide +kernel
    exact fun frame hframe => Heard.decode_of_answer? (hanswer frame hframe)
  · decide +kernel

end CandleRelay.Feed
