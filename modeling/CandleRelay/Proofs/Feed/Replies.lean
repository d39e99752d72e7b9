import CandleRelay.Proofs.Feed.Routing
import CandleRelay.Proofs.Json.Meaning

/-!
# Replies find their request

The exchange answers a request under the request's own id. A reply says that the request was
accepted, or why it was refused, in one of two forms. Whatever the id is, it reaches the request
with this very id and no other: an id beyond 64 bits does not wrap around to a smaller one, and one
that is not written as a natural number is no id at all.

What is proved:
  1. `WritesInt.natural?`, `WritesInt.integer?`: an integer within its range is read as itself.
  2. `natural?_eq_none`: what is no id.
  3. `Reply.exists_envelope`: all that is read of a reply is its id and its answer.
  4. `reply_settles_its_request`: what a reply does to the ledger, and that it does nothing else.
-/

namespace CandleRelay

open Json

/-! ## Integers -/

namespace Json.Numeral

/-- The number is written as an integer: a minus sign before the negative ones only, then the
digits of the magnitude. -/
structure WritesInt (n : Numeral) (z : Int) : Prop where
  sign : n.negative = decide (z < 0)
  digits : value n.whole = z.natAbs
  fraction : n.fraction = none
  exponent : n.exponent = none

theorem WritesInt.natural? {n : Numeral} {k : Nat} (h : n.WritesInt k) (hk : k < Nat.pow 2 64) :
    n.natural? = some k := by
  have hsign : n.negative = false := by rw [h.sign, decide_eq_false (by omega)]
  have hdigits : value n.whole = k := by simpa using h.digits
  simp [Numeral.natural?, hsign, hdigits, h.fraction, h.exponent, hk]

/-- An integer of 64 bits with sign. -/
def IsSigned (z : Int) : Prop := -(Nat.pow 2 63 : Nat) ≤ z ∧ z < (Nat.pow 2 63 : Nat)

theorem WritesInt.integer? {n : Numeral} {z : Int} (h : n.WritesInt z) (hz : IsSigned z) :
    n.integer? = some z := by
  have hpow : Nat.pow 2 63 = 9223372036854775808 := by decide
  obtain ⟨hleast, hmost⟩ := hz
  rw [hpow] at hleast hmost
  simp only [Numeral.integer?, h.sign, h.digits, h.fraction, h.exponent, hpow, Option.isSome_none,
    Bool.or_self, Bool.false_eq_true, if_false, decide_eq_true_eq, Bool.and_eq_true]
  by_cases hneg : z < 0
  · rw [if_pos hneg, if_pos (by omega), Int.ofNat_natAbs_of_nonpos (by omega), Int.neg_neg]
  · rw [if_neg hneg, if_pos (by omega), Int.natAbs_of_nonneg (by omega)]

/-- The number is not written as a natural number of 64 bits: it has a minus sign, a fraction or an
exponent, or it is too large. -/
def NoId (n : Numeral) : Prop :=
  n.negative = true ∨ n.fraction.isSome = true ∨ n.exponent.isSome = true ∨
    Nat.pow 2 64 ≤ value n.whole

theorem natural?_eq_none {n : Numeral} (h : n.NoId) : n.natural? = none := by
  have hguard : ¬ (n.negative = false ∧ n.fraction = none ∧ n.exponent = none ∧
      value n.whole < Nat.pow 2 64) := by
    rintro ⟨hsign, hfraction, hexponent, hsmall⟩
    rcases h with h | h | h | h
    · simp [hsign] at h
    · simp [hfraction] at h
    · simp [hexponent] at h
    · exact Nat.not_lt.2 h hsmall
  simp only [Numeral.natural?, Bool.and_eq_true, Bool.not_eq_true', Option.isNone_iff_eq_none,
    decide_eq_true_eq, and_assoc, if_neg hguard]

end Json.Numeral

namespace Feed

/-! ## Replies -/

/-- A reply to the request with this id, and what it makes of the request: an acceptance, or a
refusal whose code is an integer of 64 bits with sign, in an object of its own or at the top. -/
inductive Reply (id : Numeral) : BatchStatus → Value → Prop
  | accepted : Reply id .active (.object [("result", .null), ("id", .number id)])
  | refused {code : Numeral} {z : Int} (hcode : code.WritesInt z) (hz : Numeral.IsSigned z)
      (reason : String) :
      Reply id .failed (.object
        [("error", .object [("code", .number code), ("msg", .text reason)]), ("id", .number id)])
  | refusedFlat {code : Numeral} {z : Int} (hcode : code.WritesInt z) (hz : Numeral.IsSigned z)
      (reason : String) :
      Reply id .failed (.object
        [("code", .number code), ("msg", .text reason), ("id", .number id)])

/-- The client after the exchange has made `status` of the request with this id, if there is one.
Ids are compared as numbers of any size. -/
def Client.withStatus (c : Client) (id : Nat) (status : BatchStatus) : Client :=
  { c with ledger :=
    ⟨c.ledger.entries.map fun e => if e.batch.id.toNat = id then { e with status } else e⟩ }

theorem Client.settle_toUInt64 (c : Client) {id : Nat} (hid : id < Nat.pow 2 64)
    (status : BatchStatus) :
    { c with ledger := (c.ledger.settle id.toUInt64 status).2 } = c.withStatus id status := by
  have hsame : ∀ key : UInt64, key = id.toUInt64 ↔ key.toNat = id := by
    intro key
    rw [← UInt64.toNat_inj, Nat.toUInt64_eq, UInt64.toNat_ofNat_of_lt' hid]
  simp only [Client.withStatus, Ledger.settle, beq_iff_eq, hsame]

/-! ## What is read of a reply -/

section

variable {members : List Member} {id code : Numeral} {z : Int} {l : Literal} {reason : String}

theorem Refusal.ofDoc?_of_named (hcode : code.integer? = some z) (hreason : l.text? = some reason)
    (h : named? members = some [("code", .number code), ("msg", .text l)]) :
    Refusal.ofDoc? (.object members) = some ⟨z, reason⟩ := by
  simp [ofDoc?, Doc.record?, fieldsOf?, h, isSingle, required?, List.lookup_cons, Doc.integer?,
    Doc.text?, hcode, hreason]

namespace Envelope

/-- The envelope of a frame without market data. -/
def reply (error : Option Refusal) (code : Option Int) (reason : Option String) (id : Nat) :
    Envelope :=
  ⟨none, ⟨none, none, none⟩, some id, error, code, reason⟩

theorem bind_reply (o : Option Nat) (error : Option Refusal) (code : Option Int)
    (reason : Option String) :
    ((o.map some).bind fun id =>
      some (⟨none, ⟨none, none, none⟩, id, error, code, reason⟩ : Envelope)) =
      o.map (reply error code reason) := by
  cases o <;> rfl

theorem ofDoc?_accepted (h : named? members = some [("result", .null), ("id", .number id)]) :
    ofDoc? (.object members) = id.natural?.map (reply none none none) := by
  have hnull : Doc.null.isReadable 1 = true := by decide
  simp [ofDoc?, fieldsOf?, othersOf, h, isSingle, fields, optional?, EventBody.ofFields?,
    List.lookup_cons, Doc.natural?, bind_reply, hnull]

theorem ofDoc?_refused {d : Doc} {r : Refusal} (hd : Refusal.ofDoc? d = some r) (hnull : d ≠ .null)
    (h : named? members = some [("error", d), ("id", .number id)]) :
    ofDoc? (.object members) = id.natural?.map (reply (some r) none none) := by
  simp [ofDoc?, fieldsOf?, othersOf, h, isSingle, fields, optional?, EventBody.ofFields?,
    List.lookup_cons, Doc.natural?, bind_reply, hd]

theorem ofDoc?_refusedFlat (hcode : code.integer? = some z) (hreason : l.text? = some reason)
    (h : named? members = some [("code", .number code), ("msg", .text l), ("id", .number id)]) :
    ofDoc? (.object members) = id.natural?.map (reply none (some z) (some reason)) := by
  simp [ofDoc?, fieldsOf?, othersOf, h, isSingle, fields, optional?, EventBody.ofFields?,
    List.lookup_cons, Doc.natural?, Doc.integer?, Doc.text?, hcode, hreason, bind_reply]

end Envelope

end

/-! ## What a reply does -/

/-- Whatever the id is, a client does with its request what the reply says. -/
def Envelope.Settles (answer : Nat → Envelope) (status : BatchStatus) : Prop :=
  ∀ (c : Client) (busUp : Bool) (frame : Bytes) (n : Nat),
    c.handle busUp ((answer n).classify frame) =
      { c with ledger := (c.ledger.settle n.toUInt64 status).2 }

/-- All that is read of a reply is its id, and what it makes of the request. -/
theorem Reply.exists_envelope {id : Numeral} {status : BatchStatus} {v : Value}
    (h : Reply id status v) {d : Doc} (hd : d.Means v) :
    ∃ members answer, d = .object members ∧ Envelope.Settles answer status ∧
      Envelope.ofDoc? (.object members) = id.natural?.map answer := by
  cases h with
  | accepted =>
    cases hd with
    | @object members _ hmembers =>
      obtain ⟨ds, hnamed, hds⟩ := exists_named? hmembers
      rcases hds with _ | ⟨⟨⟩, _ | ⟨⟨⟩, ⟨⟩⟩⟩
      exact ⟨members, _, rfl, fun _ _ _ _ => rfl, Envelope.ofDoc?_accepted hnamed⟩
  | @refused code z hcode hz reason =>
    cases hd with
    | @object members _ hmembers =>
      obtain ⟨ds, hnamed, hds⟩ := exists_named? hmembers
      rcases hds with _ | ⟨herror, _ | ⟨⟨⟩, ⟨⟩⟩⟩
      cases herror with
      | object hinner =>
        obtain ⟨ds, hnamed', hds⟩ := exists_named? hinner
        rcases hds with _ | ⟨⟨⟩, _ | ⟨hreason, ⟨⟩⟩⟩
        cases hreason with | text hreason
        have hrefusal := Refusal.ofDoc?_of_named (hcode.integer? hz) hreason.text? hnamed'
        exact ⟨members, _, rfl, fun _ _ _ _ => rfl,
          Envelope.ofDoc?_refused hrefusal (by simp) hnamed⟩
  | @refusedFlat code z hcode hz reason =>
    cases hd with
    | @object members _ hmembers =>
      obtain ⟨ds, hnamed, hds⟩ := exists_named? hmembers
      rcases hds with _ | ⟨⟨⟩, _ | ⟨hreason, _ | ⟨⟨⟩, ⟨⟩⟩⟩⟩
      cases hreason with | text hreason
      exact ⟨members, _, rfl, fun _ _ _ _ => rfl, Envelope.ofDoc?_refusedFlat
        (hcode.integer? hz) hreason.text? hnamed⟩

/-- **Replies find their request.** Take any reply, any way to write it and any client. A reply
whose id is a natural number of 64 bits makes of the request with this id what it says, if there is
one, and does nothing else: no other request changes, nothing is published and nothing is counted.
A reply whose id is not such a number is counted as a frame that cannot be decoded, and that is
all. -/
theorem reply_settles_its_request (c : Client) (busUp : Bool) {id : Numeral} {status : BatchStatus}
    {v : Value} {frame : Bytes} (hreply : Reply id status v) (hframe : v.Rendered frame) :
    (∀ n : Nat, id.WritesInt n → n < Nat.pow 2 64 →
      c.handle busUp (decode frame) = c.withStatus n status) ∧
    (id.NoId →
      c.handle busUp (decode frame) = { c with metrics := c.metrics.bump .decodeErrors }) := by
  obtain ⟨d, hmeans, hwritten⟩ := hframe
  obtain ⟨members, answer, rfl, hsettles, henvelope⟩ := hreply.exists_envelope hmeans
  constructor
  · intro n hid hn
    rw [hid.natural? hn, Option.map_some] at henvelope
    rw [decode_of_envelope hwritten henvelope, hsettles, c.settle_toUInt64 hn]
  · intro hid
    rw [Numeral.natural?_eq_none hid, Option.map_none] at henvelope
    rw [decode_of_no_envelope hwritten henvelope]
    rfl

/-- Of two requests with the last id of 64 bits and, after it, zero, the first is refused by the
reply with its id. An acceptance with the next number is no reply to the second. -/
theorem reply_settles_last_id :
    let symbols := ["BTCUSDT", "ETHUSDT"].filterMap Symbol.ofString?
    let c := ({ nextId := 18446744073709551615 : Client }.subscribe symbols .sec1 1 5).2
    let last : Numeral :=
      ⟨false, [1, 8, 4, 4, 6, 7, 4, 4, 0, 7, 3, 7, 0, 9, 5, 5, 1, 6, 1, 5], none, none⟩
    let next : Numeral :=
      ⟨false, [1, 8, 4, 4, 6, 7, 4, 4, 0, 7, 3, 7, 0, 9, 5, 5, 1, 6, 1, 6], none, none⟩
    let code : Numeral := ⟨true, [1, 1], none, none⟩
    let refusal : Value := .object
      [("error", .object [("code", .number code), ("msg", .text "no \"x\"")]), ("id", .number last)]
    let acceptance : Value := .object [("result", .null), ("id", .number next)]
    let frame := Text.Utf8.encode
      "\x7b\"error\":\x7b\"code\":-11,\"msg\":\"no \\\"x\\\"\"\x7d,\"id\":18446744073709551615\x7d"
    let frame' := Text.Utf8.encode "\x7b\"result\":null,\"id\":18446744073709551616\x7d"
    ((Reply last .failed refusal ∧ refusal.Rendered frame ∧ last.WritesInt 18446744073709551615) ∧
      Reply next .active acceptance ∧ acceptance.Rendered frame' ∧ next.NoId) ∧
    (c.handle true (decode frame)).ledger.entries.map (fun e => (e.batch.id, e.status)) =
      [(0, .pending), (18446744073709551615, .failed)] ∧
    (c.handle true (decode frame')).ledger = c.ledger := by
  intro symbols c last next code refusal acceptance frame frame'
  have hrefusal : Reply last .failed refusal :=
    .refused (z := -11) ⟨rfl, by decide, rfl, rfl⟩ ⟨by decide, by decide⟩ _
  have hframe : refusal.Rendered frame := by
    refine ⟨_, ?_, written_of_parse? (d := .object [(.plain "error", .object
      [(.plain "code", .number code), (.plain "msg", .text (.plain "no \"x\""))]),
      (.plain "id", .number last)]) rfl⟩
    exact .object (.cons (named_plain _ (.object (.cons (named_plain _ (.number code))
      (.cons (named_plain _ (means_plain _)) .nil)))) (.cons (named_plain _ (.number last)) .nil))
  have hacceptance : Reply next .active acceptance := .accepted
  have hframe' : acceptance.Rendered frame' := by
    refine ⟨_, ?_, written_of_parse? (d := .object
      [(.plain "result", .null), (.plain "id", .number next)]) rfl⟩
    exact .object (.cons (named_plain _ .null) (.cons (named_plain _ (.number next)) .nil))
  have hlast : last.WritesInt 18446744073709551615 := ⟨rfl, by decide, rfl, rfl⟩
  have hnext : next.NoId := Or.inr (Or.inr (Or.inr (by decide)))
  refine ⟨⟨⟨hrefusal, hframe, hlast⟩, hacceptance, hframe', hnext⟩, ?_, ?_⟩
  · rw [(reply_settles_its_request c true hrefusal hframe).1 18446744073709551615 hlast (by decide)]
    decide +kernel
  · rw [(reply_settles_its_request c true hacceptance hframe').2 hnext]

end Feed

end CandleRelay
