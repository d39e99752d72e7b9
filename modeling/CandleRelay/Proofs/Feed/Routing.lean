import CandleRelay.Proofs.Feed.Reading
import CandleRelay.Proofs.Json.Acceptance
import CandleRelay.Proofs.Json.Fields

/-!
# Frames say what their routed members say

A frame is decoded by the members that routing asks for, at the top and inside `data`. Other members
may stand anywhere among them, all may stand in another order, and the blanks between the tokens may
be others: what the frame is stays the same, but for the payload, which is the frame's own bytes.

What is proved:
  1. `BodyVariant.ofDoc?_eq`, `Variant.ofDoc?_eq`: what is read of the members of `data` and of the
     whole frame, before the frame is classified.
  2. `decodes_by_routed_members`: the same for every frame that is JSON of the right shape, from
     bytes to bytes.
-/

namespace CandleRelay.Feed

open Json

/-! ## Variants of a frame -/

/-- Members of a description that differ in their order, and in members that are not asked for. -/
inductive BodyVariant : List Member → List Member → Prop
  | refl (members : List Member) : BodyVariant members members
  | trans {members members' members'' : List Member} (h : BodyVariant members members')
      (h' : BodyVariant members' members'') : BodyVariant members members''
  | reorder {members members' : List Member} (h : members.Perm members') :
      BodyVariant members members'
  /-- The value of the further member may be anything that is JSON. -/
  | insert (before after : List Member) {k : Literal} {name : String} (d : Doc)
      (hname : k.text? = some name) (hother : name ∉ EventBody.fields) :
      BodyVariant (before ++ after) (before ++ (k, d) :: after)

/-- Members of a frame that differ in their order, in members that are not asked for, and in these
two ways inside `data`. -/
inductive Variant : List Member → List Member → Prop
  | refl (members : List Member) : Variant members members
  | trans {members members' members'' : List Member} (h : Variant members members')
      (h' : Variant members' members'') : Variant members members''
  | reorder {members members' : List Member} (h : members.Perm members') : Variant members members'
  /-- The value of the further member is within the limits of what is read whole. -/
  | insert (before after : List Member) {k : Literal} {name : String} {d : Doc}
      (hname : k.text? = some name) (hother : name ∉ Envelope.fields)
      (hreadable : d.isReadable 1 = true) :
      Variant (before ++ after) (before ++ (k, d) :: after)
  | body (before after : List Member) {k : Literal} {inner inner' : List Member}
      (hname : k.text? = some "data") (h : BodyVariant inner inner') :
      Variant (before ++ (k, .object inner) :: after) (before ++ (k, .object inner') :: after)

/-- The frame with another payload, if it carries one. -/
def Frame.carrying (payload : Bytes) : Frame → Frame
  | .event e => .event { e with payload }
  | f => f

/-! ## One member among others -/

section

variable {fields : List String} {before after : List Member} {k : Literal} {name : String} {d : Doc}

theorem forall_mem_insert {P : Member → Prop} {x : Member} :
    (∀ m ∈ before ++ x :: after, P m) ↔ P x ∧ ∀ m ∈ before ++ after, P m := by
  simp only [List.forall_mem_append, List.forall_mem_cons]
  exact and_left_comm

theorem valuesUnder_insert (hname : k.text? = some name) {f : String} (hne : name ≠ f) :
    valuesUnder f (before ++ (k, d) :: after) = valuesUnder f (before ++ after) := by
  rw [valuesUnder_append, valuesUnder_append, valuesUnder_cons, hname]
  simp [hne]

theorem valuesUnder_middle (hname : k.text? = some name) :
    valuesUnder name (before ++ (k, d) :: after) =
      valuesUnder name before ++ d :: valuesUnder name after := by
  rw [valuesUnder_append, valuesUnder_cons, hname]
  simp

theorem orderly_insert_iff (hname : k.text? = some name) (hother : name ∉ fields) :
    Orderly fields (before ++ (k, d) :: after) ↔ Orderly fields (before ++ after) := by
  have hvalues : ∀ f ∈ fields, valuesUnder f (before ++ (k, d) :: after) =
      valuesUnder f (before ++ after) :=
    fun f hf => valuesUnder_insert hname fun h => hother (h ▸ hf)
  constructor
  · intro h
    refine ⟨(forall_mem_insert.1 h.texts).2, ?_⟩
    intro f hf
    rw [← hvalues f hf]
    exact h.single f hf
  · intro h
    refine ⟨forall_mem_insert.2 ⟨?_, h.texts⟩, ?_⟩
    · rw [hname]
      rfl
    · intro f hf
      rw [hvalues f hf]
      exact h.single f hf

theorem orderly_replace (hname : k.text? = some name)
    (h : Orderly fields (before ++ (k, d) :: after)) (e : Doc) :
    Orderly fields (before ++ (k, e) :: after) := by
  obtain ⟨hkey, htexts⟩ := forall_mem_insert.1 h.texts
  refine ⟨forall_mem_insert.2 ⟨hkey, htexts⟩, ?_⟩
  intro f hf
  have hone := h.single f hf
  by_cases hne : name = f
  · subst hne
    rw [valuesUnder_middle hname] at hone ⊢
    simpa using hone
  · rwa [valuesUnder_insert hname hne] at hone ⊢

end

/-! ## Inside `data` -/

theorem EventBody.ofFields?_congr {r r' : List (String × Doc)}
    (h : ∀ f ∈ EventBody.fields, r.lookup f = r'.lookup f) :
    EventBody.ofFields? r = EventBody.ofFields? r' := by
  have hkind := h "e" (by decide)
  have htime := h "E" (by decide)
  have hsymbol := h "s" (by decide)
  simp only [EventBody.ofFields?, optional?, hkind, htime, hsymbol]

theorem EventBody.ofDoc?_congr {members members' : List Member}
    (horderly : Orderly EventBody.fields members ↔ Orderly EventBody.fields members')
    (hvalues : Orderly EventBody.fields members →
      ∀ f ∈ EventBody.fields, valuesUnder f members = valuesUnder f members') :
    EventBody.ofDoc? (.object members) = EventBody.ofDoc? (.object members') := by
  simp only [EventBody.ofDoc?, Doc.record?]
  by_cases h : Orderly EventBody.fields members
  · obtain ⟨r, hr, hlookup⟩ := h.fieldsOf?
    obtain ⟨r', hr', hlookup'⟩ := (horderly.1 h).fieldsOf?
    rw [hr, hr', Option.bind_some, Option.bind_some]
    apply EventBody.ofFields?_congr
    intro f hf
    rw [hlookup f hf, hlookup' f hf, hvalues h f hf]
  · rw [fieldsOf?_eq_none h, fieldsOf?_eq_none (mt horderly.2 h)]

theorem BodyVariant.ofDoc?_eq {members members' : List Member} (h : BodyVariant members members') :
    EventBody.ofDoc? (.object members) = EventBody.ofDoc? (.object members') := by
  induction h with
  | refl => rfl
  | trans _ _ ih ih' => exact ih.trans ih'
  | reorder hperm =>
    apply EventBody.ofDoc?_congr
    · exact ⟨orderly_perm hperm, orderly_perm hperm.symm⟩
    · exact fun horderly f hf => horderly.valuesUnder_eq hperm hf
  | insert before after d hname hother =>
    apply EventBody.ofDoc?_congr
    · exact (orderly_insert_iff hname hother).symm
    · intro _ f hf
      exact (valuesUnder_insert hname fun h => hother (h ▸ hf)).symm

/-! ## At the top -/

/-- The values of `data` are the same, or variants of one object. -/
def SameData (members members' : List Member) : Prop :=
  valuesUnder "data" members = valuesUnder "data" members' ∨
    ∃ inner inner', valuesUnder "data" members = [.object inner] ∧
      valuesUnder "data" members' = [.object inner'] ∧ BodyVariant inner inner'

theorem SameData.optional?_eq {members members' : List Member} (h : SameData members members')
    {r s : List (String × Doc)} (hr : r.lookup "data" = (valuesUnder "data" members).head?)
    (hs : s.lookup "data" = (valuesUnder "data" members').head?) :
    optional? EventBody.ofDoc? "data" r = optional? EventBody.ofDoc? "data" s := by
  rcases h with hsame | ⟨inner, inner', hvalues, hvalues', hvariant⟩
  · simp only [optional?, hr, hs, hsame]
  · simp only [optional?, hr, hs, hvalues, hvalues', List.head?_cons, hvariant.ofDoc?_eq]

/-- Two objects with the same values under the fields, and others that can be read in both or in
neither, make the same envelope, or none. -/
theorem Envelope.ofDoc?_congr {members members' : List Member}
    (horderly : Orderly Envelope.fields members ↔ Orderly Envelope.fields members')
    (hothers : Orderly Envelope.fields members →
      ((othersOf Envelope.fields members).all (·.2.isReadable 1) = true ↔
        (othersOf Envelope.fields members').all (·.2.isReadable 1) = true))
    (hdata : Orderly Envelope.fields members → SameData members members')
    (hvalues : Orderly Envelope.fields members → ∀ f ∈ Envelope.fields, f ≠ "data" →
      valuesUnder f members = valuesUnder f members') :
    Envelope.ofDoc? (.object members) = Envelope.ofDoc? (.object members') := by
  by_cases h : Orderly Envelope.fields members
  · obtain ⟨r, hr, hlookup⟩ := h.fieldsOf?
    obtain ⟨s, hs, hlookup₂⟩ := (horderly.1 h).fieldsOf?
    have hsame : ∀ f ∈ Envelope.fields, f ≠ "data" → r.lookup f = s.lookup f := by
      intro f hf hne
      rw [hlookup f hf, hlookup₂ f hf, hvalues h f hf hne]
    have hbody := (hdata h).optional?_eq (hlookup "data" (by decide)) (hlookup₂ "data" (by decide))
    have hevent : EventBody.ofFields? r = EventBody.ofFields? s :=
      EventBody.ofFields?_congr fun f hf => hsame f
        ((by decide : ∀ f ∈ EventBody.fields, f ∈ Envelope.fields) f hf)
        ((by decide : ∀ f ∈ EventBody.fields, f ≠ "data") f hf)
    have hid := hsame "id" (by decide) (by decide)
    have herror := hsame "error" (by decide) (by decide)
    have hcode := hsame "code" (by decide) (by decide)
    have hmsg := hsame "msg" (by decide) (by decide)
    have hreadable := Bool.eq_iff_iff.2 (hothers h)
    simp only [Envelope.ofDoc?, hr, hs, Option.bind_eq_bind, Option.bind_some, hreadable, hbody,
      hevent]
    simp only [optional?, hid, herror, hcode, hmsg]
  · simp only [Envelope.ofDoc?, fieldsOf?_eq_none h, fieldsOf?_eq_none (mt horderly.2 h)]
    rfl

theorem Variant.ofDoc?_eq {members members' : List Member} (h : Variant members members') :
    Envelope.ofDoc? (.object members) = Envelope.ofDoc? (.object members') := by
  induction h with
  | refl => rfl
  | trans _ _ ih ih' => exact ih.trans ih'
  | reorder hperm =>
    have hiff : Orderly Envelope.fields _ ↔ Orderly Envelope.fields _ :=
      ⟨orderly_perm hperm, orderly_perm hperm.symm⟩
    apply Envelope.ofDoc?_congr hiff
    · intro horderly
      rw [others_all_iff horderly.texts, others_all_iff (hiff.1 horderly).texts]
      constructor
      · exact fun hall m hm => hall m (hperm.mem_iff.2 hm)
      · exact fun hall m hm => hall m (hperm.mem_iff.1 hm)
    · exact fun horderly => Or.inl (horderly.valuesUnder_eq hperm (by decide))
    · exact fun horderly f hf _ => horderly.valuesUnder_eq hperm hf
  | @insert before after k name d hname hother hreadable =>
    have hiff : Orderly Envelope.fields (before ++ (k, d) :: after) ↔
        Orderly Envelope.fields (before ++ after) := orderly_insert_iff hname hother
    have hvalues : ∀ f ∈ Envelope.fields,
        valuesUnder f (before ++ after) = valuesUnder f (before ++ (k, d) :: after) :=
      fun f hf => (valuesUnder_insert hname fun h => hother (h ▸ hf)).symm
    apply Envelope.ofDoc?_congr hiff.symm
    · intro horderly
      rw [others_all_iff horderly.texts, others_all_iff (hiff.2 horderly).texts, forall_mem_insert]
      exact ⟨fun hall => ⟨fun _ _ _ => hreadable, hall⟩, And.right⟩
    · exact fun _ => Or.inl (hvalues "data" (by decide))
    · exact fun _ f hf _ => hvalues f hf
  | @body before after k inner inner' hname hvariant =>
    have hiff : Orderly Envelope.fields (before ++ (k, .object inner) :: after) ↔
        Orderly Envelope.fields (before ++ (k, .object inner') :: after) :=
      ⟨fun h => orderly_replace hname h _, fun h => orderly_replace hname h _⟩
    apply Envelope.ofDoc?_congr hiff
    · intro horderly
      -- `data` is one of the fields, so it is not among the others.
      have hfield : ∀ key, k.text? = some key → key ∈ Envelope.fields := by
        intro key hkey
        rw [hname] at hkey
        cases hkey
        decide
      rw [others_all_iff horderly.texts, others_all_iff (hiff.1 horderly).texts,
        forall_mem_insert, forall_mem_insert]
      constructor
      · exact fun hall => ⟨fun key hkey hother => absurd (hfield key hkey) hother, hall.2⟩
      · exact fun hall => ⟨fun key hkey hother => absurd (hfield key hkey) hother, hall.2⟩
    · intro horderly
      have hsingle := horderly.single "data" (by decide)
      rw [valuesUnder_middle hname, List.length_append, List.length_cons] at hsingle
      have hbefore : valuesUnder "data" before = [] := List.length_eq_zero_iff.1 (by omega)
      have hafter : valuesUnder "data" after = [] := List.length_eq_zero_iff.1 (by omega)
      refine Or.inr ⟨inner, inner', ?_, ?_, hvariant⟩
      · rw [valuesUnder_middle hname, hbefore, hafter]
        rfl
      · rw [valuesUnder_middle hname, hbefore, hafter]
        rfl
    · intro _ f _ hne
      rw [valuesUnder_insert hname hne.symm, valuesUnder_insert hname hne.symm]

/-! ## From bytes to bytes -/

theorem Envelope.event_carrying (body : EventBody) (frame other : Bytes) :
    Envelope.event body other = (Envelope.event body frame).map (Frame.carrying other) := by
  unfold Envelope.event
  cases body.symbol.bind Symbol.ofString? <;> rfl

theorem Envelope.classify_carrying (e : Envelope) (frame other : Bytes) :
    e.classify other = (e.classify frame).map (Frame.carrying other) := by
  unfold Envelope.classify
  cases e.data with
  | some body => exact Envelope.event_carrying body frame other
  | none =>
    dsimp only
    split
    · exact Envelope.event_carrying e.body frame other
    · cases e.error with
      | some r => rfl
      | none =>
        cases e.code <;> cases e.reason <;> cases e.id <;> rfl

theorem decode_of_envelope {members : List Member} {frame : Bytes} {e : Envelope}
    (h : (Doc.object members).WrittenAs frame) (he : Envelope.ofDoc? (.object members) = some e) :
    decode frame = e.classify frame := by
  simp only [decode, parse?_of_written h, Option.bind_some, he]

theorem decode_of_no_envelope {members : List Member} {frame : Bytes}
    (h : (Doc.object members).WrittenAs frame) (he : Envelope.ofDoc? (.object members) = none) :
    decode frame = .error (.malformed "not a stream frame") := by
  simp only [decode, parse?_of_written h, Option.bind_some, he]

/-- A frame that is not malformed is an object. -/
theorem object_of_decode {frame : Bytes}
    (h : ∀ detail, decode frame ≠ .error (.malformed detail)) :
    ∃ members, (Doc.object members).WrittenAs frame := by
  cases hparse : parse? frame with
  | none => exact absurd (by rw [decode, hparse, Option.bind_none]) (h "not a stream frame")
  | some d =>
    have hwritten := written_of_parse? hparse
    cases d with
    | object members => exact ⟨members, hwritten⟩
    | _ =>
      refine absurd ?_ (h "not a stream frame")
      rw [decode, hparse, Option.bind_some]
      rfl

/-- What a frame decodes to is decided by its routed members. A frame that is not malformed is an
object. In whatever order its members and those of `data` stand, whatever other members stand among
them and however the blanks are put, it decodes to the same, but for the payload; and the payload of
an event is the frame that carries it, on a topic that is not empty. -/
theorem decodes_by_routed_members (frame : Bytes)
    (h : ∀ detail, decode frame ≠ .error (.malformed detail)) :
    (∃ members, (Doc.object members).WrittenAs frame) ∧
    (∀ members members' frame', (Doc.object members).WrittenAs frame → Variant members members' →
      (Doc.object members').WrittenAs frame' →
      decode frame' = (decode frame).map (Frame.carrying frame')) ∧
    ∀ e, decode frame = .ok (.event e) → e.payload = frame ∧ e.topic.isEmpty = false := by
  refine ⟨object_of_decode h, ?_, ?_⟩
  · intro members members' frame' hwritten hvariant hwritten'
    have hsame := hvariant.ofDoc?_eq
    cases he : Envelope.ofDoc? (.object members) with
    | none =>
      rw [decode_of_no_envelope hwritten he, decode_of_no_envelope hwritten' (hsame ▸ he)]
      rfl
    | some e =>
      rw [decode_of_envelope hwritten he, decode_of_envelope hwritten' (hsame ▸ he)]
      exact e.classify_carrying frame frame'
  · exact fun e he => ⟨payload_of_decode he, e.topic_nonempty⟩

/-- Blanks, another order, a further member inside `data` and one at the top leave an event as it
is, but for its bytes. -/
theorem decodes_shuffled_frame :
    let frame := Text.Utf8.encode
      "\x7b\"v\":1,\"data\":\x7b\"e\":\"kline\",\"s\":\"btcusdt\"\x7d\x7d"
    let frame' := Text.Utf8.encode
      ("\x7b\"data\" : \x7b\"e\":\"kline\", \"k\":[1e999],\"s\":\"btcusdt\"\x7d, " ++
        "\"n\":[],\"v\":1 \x7d")
    let one : Doc := .number ⟨false, [1], none, none⟩
    let large : Doc := .number ⟨false, [1], none, some ⟨none, [9, 9, 9]⟩⟩
    let kind : Member := (.plain "e", .text (.plain "kline"))
    let symbol : Member := (.plain "s", .text (.plain "btcusdt"))
    let further : Member := (.plain "k", .array [large])
    let version : Member := (.plain "v", one)
    let members : List Member := [version, (.plain "data", .object [kind, symbol])]
    let members' : List Member :=
      [(.plain "data", .object [kind, further, symbol]), (.plain "n", .array []), version]
    ((∀ detail, decode frame ≠ .error (.malformed detail)) ∧
      (Doc.object members).WrittenAs frame ∧ Variant members members' ∧
      (Doc.object members').WrittenAs frame') ∧
    decode frame' = (decode frame).map (Frame.carrying frame') ∧
    (event? frame').map (·.symbol.name) = some "BTCUSDT" := by
  intro frame frame' one large kind symbol further version members members'
  have hevent : (event? frame).map (·.symbol.name) = some "BTCUSDT" := by decide +kernel
  have hdecodes : ∀ detail, decode frame ≠ .error (.malformed detail) := by
    intro detail h
    simp [event?, h] at hevent
  have hwritten : (Doc.object members).WrittenAs frame := written_of_parse? rfl
  have hwritten' : (Doc.object members').WrittenAs frame' := written_of_parse? rfl
  have hbody : BodyVariant [kind, symbol] [kind, further, symbol] :=
    .insert [kind] [symbol] (k := .plain "k") (.array [large]) rfl (by decide)
  have hvariant : Variant members members' := by
    apply Variant.trans (.reorder (List.Perm.swap _ _ []))
    apply Variant.trans (.body [] [version] rfl hbody)
    exact .insert [(.plain "data", .object [kind, further, symbol])] [version] (k := .plain "n") rfl
      (by decide) (by decide)
  have hsame := (decodes_by_routed_members frame hdecodes).2.1 members members' frame' hwritten
    hvariant hwritten'
  refine ⟨⟨hdecodes, hwritten, hvariant, hwritten'⟩, hsame, ?_⟩
  decide +kernel

end CandleRelay.Feed
