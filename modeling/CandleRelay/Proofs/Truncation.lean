import CandleRelay.Gateway.Session
import CandleRelay.Proofs.Feed.Routing

/-!
# Frames that were cut short

A frame that makes sense does so as a whole only: without its last byte that is not a blank, or with
less of it, it is malformed. What carries this is the state of the reader at the cut. If the text
could end there it is complete, and then blanks are all that may follow, or it is in a number
outside of everything, and then it never comes to be more than that number (`Lone`). No frame is a
number.

What is proved:
  1. `blank_of_parse?`: if a text and what it begins with are both documents, the rest is blank or
     the text is a number.
  2. `Feed.Client.read_without`: a round of reading whose frame says nothing leaves no trace in what
     reading does but for a counter.
  3. `cut_frames_say_nothing`: a frame that was cut short is refused on either side, and with that
     nothing is published, no request is answered and no client's topics change.
-/

namespace CandleRelay

/-! ## Texts that go on -/

namespace Json

namespace Reader

variable {r r' : Reader}

theorem blank_of_finished {v : Doc} {st : List Container} {w : Bytes}
    (h : run? ⟨.finished v, st⟩ w = some r) : Blank w := by
  induction w with
  | nil => exact blank_nil
  | cons b w ih =>
    simp only [run?, step_finished] at h
    by_cases hb : Byte.isBlank b = true
    · rw [if_pos hb] at h
      intro c hc
      rcases List.mem_cons.1 hc with rfl | hc
      · exact hb
      · exact ih h c hc
    · rw [if_neg hb] at h
      cases h

/-- Outside of every array and object, in a number or behind it. -/
def Lone (r : Reader) : Prop :=
  ∃ n, r = ⟨.number n, []⟩ ∨ r = ⟨.finished (.number n), []⟩

theorem lone_step (h : Lone r) {b : UInt8} (hstep : r.step? b = some r') : Lone r' := by
  obtain ⟨n, rfl | rfl⟩ := h
  · simp only [step?] at hstep
    split at hstep
    · next n' hn =>
      cases hstep
      exact ⟨n', Or.inl rfl⟩
    split at hstep
    · simp only [complete, between?] at hstep
      split at hstep
      · cases hstep
        exact ⟨n.inOrder, Or.inr rfl⟩
      · cases hstep
    · cases hstep
  · rw [step_finished] at hstep
    split at hstep
    · cases hstep
      exact ⟨n, Or.inr rfl⟩
    · cases hstep

theorem lone_run {w : Bytes} (h : Lone r) (hrun : r.run? w = some r') : Lone r' := by
  induction w generalizing r with
  | nil =>
    cases hrun
    exact h
  | cons b w ih =>
    cases hstep : r.step? b with
    | none => simp [run?, hstep] at hrun
    | some r₁ =>
      rw [run?_cons hstep] at hrun
      exact ih (lone_step h hstep) hrun

theorem number_of_lone {d : Doc} (h : Lone r) (hresult : r.result? = some d) :
    ∃ n, d = .number n := by
  obtain ⟨n, rfl | rfl⟩ := h
  · simp only [result?] at hresult
    split at hresult
    · cases hresult
      exact ⟨n.inOrder, rfl⟩
    · cases hresult
  · cases hresult
    exact ⟨n, rfl⟩

theorem ended_cases {d : Doc} (h : r.result? = some d) : r = ⟨.finished d, []⟩ ∨ Lone r := by
  obtain ⟨phase, st⟩ := r
  unfold result? at h
  split at h
  · next v hphase hst =>
    cases hphase
    cases hst
    cases h
    exact Or.inl rfl
  · next n hphase hst =>
    cases hphase
    cases hst
    exact Or.inr ⟨n, Or.inl rfl⟩
  · cases h

end Reader

/-- A document that goes on to another one goes on with blanks, unless they are numbers. -/
theorem blank_of_parse? {p q : Bytes} {d d' : Doc} (hp : parse? p = some d)
    (hall : parse? (p ++ q) = some d') (hnumber : ∀ n, d' ≠ .number n) : Blank q := by
  obtain ⟨r, hrun, hresult⟩ := Option.bind_eq_some_iff.1 hp
  obtain ⟨r', hrun', hresult'⟩ := Option.bind_eq_some_iff.1 hall
  rw [Reader.run?_append, hrun, Option.bind_some] at hrun'
  rcases Reader.ended_cases hresult with rfl | hlone
  · exact Reader.blank_of_finished hrun'
  · obtain ⟨n, hn⟩ := Reader.number_of_lone (Reader.lone_run hlone hrun') hresult'
    exact absurd hn (hnumber n)

end Json

open Json

/-! ## Frames -/

/-- What is left of a frame that ends before the last of its bytes that is not a blank. -/
def CutShort (p frame : Bytes) : Prop := ∃ q, frame = p ++ q ∧ ¬ Blank q

theorem CutShort.parse? {p frame : Bytes} (h : CutShort p frame) {d : Doc}
    (hframe : Json.parse? frame = some d) (hnumber : ∀ n, d ≠ .number n) :
    Json.parse? p = none := by
  obtain ⟨q, rfl, hq⟩ := h
  cases hp : Json.parse? p with
  | none => rfl
  | some d' => exact absurd (blank_of_parse? hp hframe hnumber) hq

theorem CutShort.decode {p frame : Bytes} (h : CutShort p frame)
    (hframe : ∀ detail, Feed.decode frame ≠ .error (.malformed detail)) :
    Feed.decode p = .error (.malformed "not a stream frame") := by
  obtain ⟨members, hwritten⟩ := Feed.object_of_decode hframe
  have hnumber : ∀ n, Doc.object members ≠ .number n := by
    intro n hn
    cases hn
  rw [Feed.decode, h.parse? (parse?_of_written hwritten) hnumber, Option.bind_none]

theorem CutShort.parse {p frame : Bytes} (h : CutShort p frame) {f : Gateway.ControlFrame}
    (hframe : Gateway.ControlFrame.parse frame = .ok f) :
    Gateway.ControlFrame.parse p = .error (.malformed "not a control frame") := by
  obtain ⟨d, hd, hnumber⟩ : ∃ d, Json.parse? frame = some d ∧ ∀ n, d ≠ .number n := by
    cases hd : Json.parse? frame with
    | none =>
      rw [Gateway.ControlFrame.parse, hd, Option.bind_none] at hframe
      cases hframe
    | some d =>
      refine ⟨d, rfl, ?_⟩
      rintro n rfl
      rw [Gateway.ControlFrame.parse, hd, Option.bind_some] at hframe
      cases hframe
  rw [Gateway.ControlFrame.parse, h.parse? hd hnumber, Option.bind_none]

/-! ## Reading on without a frame -/

namespace Feed

/-- A frame that puts nothing on the bus, answers nothing and counts for one thing at most. -/
structure Heard.Idle (k : Counter) (h : Heard) : Prop where
  message : h.message? = none
  answer : h.answer? = none
  counts : ∀ j, j ≠ k → h.counts j = false

theorem Heard.idle_of_malformed {bytes : Bytes} {detail : String} (busUp : Bool)
    (h : decode bytes = .error (.malformed detail)) : Heard.Idle .decodeErrors ⟨bytes, busUp⟩ := by
  have hevent : event? bytes = none := by simp [event?, h]
  constructor
  · simp [Heard.message?, hevent]
  · simp [Heard.answer?, h]
  · intro j hj
    cases j with
    | decodeErrors => exact absurd rfl hj
    | _ => simp [Heard.counts, Heard.isEvent, hevent]

/-- Two clients that differ in one counter at most. -/
structure Client.AlikeBut (k : Counter) (c c' : Client) : Prop where
  published : c.published = c'.published
  ledger : c.ledger = c'.ledger
  nextId : c.nextId = c'.nextId
  line : c.line = c'.line
  metrics : ∀ j, j ≠ k → c.metrics.get j = c'.metrics.get j

section

variable {before after : List Turn} {t : Turn} {k : Counter}

theorem framesOf_cons {s : Turn} (hs : s.ending? = none) (rest : List Turn) :
    framesOf (s :: rest) = s.heard?.toList ++ framesOf rest := by
  cases hheard : s.heard? <;> simp [framesOf, hs, hheard]

theorem framesOf_insert (ht : t.ending? = none) (before after : List Turn) :
    ∃ (one : Option Heard) (fs gs : List Heard), (∀ h, one = some h → t.heard? = some h) ∧
      framesOf (before ++ after) = fs ++ gs ∧
      framesOf (before ++ t :: after) = fs ++ one.toList ++ gs := by
  induction before with
  | nil => exact ⟨t.heard?, [], framesOf after, fun _ h => h, rfl, framesOf_cons ht after⟩
  | cons s before ih =>
    cases hs : s.ending? with
    | some e =>
      refine ⟨none, [], [], nofun, ?_, ?_⟩
      · simp [framesOf, hs]
      · simp [framesOf, hs]
    | none =>
      obtain ⟨one, fs, gs, hone, hshort, hlong⟩ := ih
      refine ⟨one, s.heard?.toList ++ fs, gs, hone, ?_, ?_⟩
      · rw [List.cons_append, framesOf_cons hs, hshort, List.append_assoc]
      · rw [List.cons_append, framesOf_cons hs, hlong]
        simp only [List.append_assoc]

theorem endingOf_insert (ht : t.ending? = none) (stopAtEnd : Bool) (before after : List Turn) :
    endingOf stopAtEnd (before ++ t :: after) = endingOf stopAtEnd (before ++ after) := by
  simp [endingOf, List.findSome?_append, ht]

theorem Client.AlikeBut.ended {c c' : Client} (h : c.AlikeBut k c') (e : Ending) :
    (c.ended e).AlikeBut k (c'.ended e) := by
  cases e with
  | shutdown =>
    obtain ⟨hpublished, hledger, hnext, hline, hmetrics⟩ := h
    refine ⟨hpublished, hledger, hnext, ?_, hmetrics⟩
    show c.line.close.2 = c'.line.close.2
    rw [hline]
  | closed => exact h
  | failed e => exact h

theorem Handled.alikeBut {c c₁ c₂ : Client} {fs gs : List Heard} {one : Option Heard}
    (hlong : Handled (fs ++ one.toList ++ gs) c c₁) (hshort : Handled (fs ++ gs) c c₂)
    (hidle : ∀ h, one = some h → h.Idle k) : c₁.AlikeBut k c₂ := by
  have hmessage : one.toList.filterMap Heard.message? = [] := by
    cases one with
    | none => rfl
    | some h => simp [(hidle h rfl).message]
  have hanswer : one.toList.filterMap Heard.answer? = [] := by
    cases one with
    | none => rfl
    | some h => simp [(hidle h rfl).answer]
  have hcount : ∀ j, j ≠ k → one.toList.countP (Heard.counts j) = 0 := by
    intro j hj
    cases one with
    | none => rfl
    | some h => simp [(hidle h rfl).counts j hj]
  constructor
  · rw [hlong.published, hshort.published]
    simp only [List.filterMap_append, hmessage, List.append_nil]
  · rw [hlong.ledger, hshort.ledger]
    simp only [List.filterMap_append, hanswer, List.append_nil]
  · rw [hlong.nextId, hshort.nextId]
  · rw [hlong.line, hshort.line]
  · intro j hj
    rw [hlong.counted, hshort.counted]
    simp only [List.countP_append, hcount j hj, Nat.add_zero]

/-- Reading does the same without a round whose frame is idle, but for one counter. -/
theorem Client.read_without (c : Client) (stopAtEnd : Bool) (before after : List Turn)
    (ht : t.ending? = none) (hidle : ∀ h, t.heard? = some h → h.Idle k) :
    (c.read stopAtEnd (before ++ t :: after)).1 = (c.read stopAtEnd (before ++ after)).1 ∧
      (c.read stopAtEnd (before ++ t :: after)).2.1.AlikeBut k
        (c.read stopAtEnd (before ++ after)).2.1 := by
  obtain ⟨long, rest, hlong, hreadLong⟩ := c.read_cases stopAtEnd (before ++ t :: after)
  obtain ⟨short, rest', hshort, hreadShort⟩ := c.read_cases stopAtEnd (before ++ after)
  rw [hreadLong, hreadShort, endingOf_insert ht]
  refine ⟨rfl, Client.AlikeBut.ended ?_ _⟩
  obtain ⟨one, fs, gs, hone, hframes, hmore⟩ := framesOf_insert ht before after
  rw [hframes] at hshort
  rw [hmore] at hlong
  exact hlong.alikeBut hshort fun h hh => hidle h (hone h hh)

end

end Feed

/-! ## Both sides -/

theorem Gateway.receive_malformed {data : Bytes} {detail : String}
    (h : ControlFrame.parse data = .error (.malformed detail)) (g : Gateway) (i : Nat) :
    (g.receive i data).1 = none ∧
      ((g.receive i data).2 = g ∨ (g.receive i data).2 = g.count .malformedFrames) := by
  unfold Gateway.receive
  cases g.sessions[i]? with
  | none => exact ⟨rfl, Or.inl rfl⟩
  | some s =>
    dsimp only
    cases s.state with
    | closed => exact ⟨rfl, Or.inl rfl⟩
    | connected =>
      rw [h]
      exact ⟨rfl, Or.inr rfl⟩

/-- A frame that was cut short says nothing. From the exchange it is malformed, whatever the whole
frame was but malformed itself; reading ends as it would without it, with the same messages on the
bus, the same ledger and the same counts of everything but malformed frames. From a client it is
malformed, whatever the whole frame asked for; no method is carried out, and the gateway stays as it
is but for the count of malformed frames. -/
theorem cut_frames_say_nothing {p frame : Bytes} (hcut : CutShort p frame) :
    ((∀ detail, Feed.decode frame ≠ .error (.malformed detail)) →
      (∃ detail, Feed.decode p = .error (.malformed detail)) ∧
      ∀ (c : Feed.Client) (stopAtEnd : Bool) (before after : List Feed.Turn) (t : Feed.Turn),
        t.stopped = false → t.incoming.bytes? = some p →
        (c.read stopAtEnd (before ++ t :: after)).1 = (c.read stopAtEnd (before ++ after)).1 ∧
        (c.read stopAtEnd (before ++ t :: after)).2.1.AlikeBut .decodeErrors
          (c.read stopAtEnd (before ++ after)).2.1) ∧
    ∀ f, Gateway.ControlFrame.parse frame = .ok f →
      (∃ detail, Gateway.ControlFrame.parse p = .error (.malformed detail)) ∧
      ∀ (g : Gateway) (i : Nat), (g.receive i p).1 = none ∧
        ((g.receive i p).2 = g ∨ (g.receive i p).2 = g.count .malformedFrames) := by
  constructor
  · intro hframe
    have hp := hcut.decode hframe
    refine ⟨⟨_, hp⟩, ?_⟩
    intro c stopAtEnd before after t hrunning hbytes
    have hending : t.ending? = none := by
      unfold Feed.Turn.ending?
      rw [hrunning]
      cases hincoming : t.incoming <;> simp_all [Feed.Incoming.bytes?]
    apply c.read_without stopAtEnd before after hending
    intro h hheard
    rw [Feed.Turn.heard?, hbytes, Option.map_some] at hheard
    rw [← Option.some.inj hheard]
    exact Feed.Heard.idle_of_malformed t.busUp hp
  · intro f hframe
    have hp := hcut.parse hframe
    exact ⟨⟨_, hp⟩, Gateway.receive_malformed hp⟩

/-- An acknowledgement and a request for a topic, either without its last bracket. -/
theorem cut_replies_and_requests :
    let reply := Text.Utf8.encode "\x7b\"result\":null,\"id\":12"
    let request := Text.Utf8.encode "[\"SUBSCRIBE\",[\"btcusdt\"]"
    let wholeReply := reply ++ [Byte.rightBrace, 0x20]
    let wholeRequest := request ++ [Byte.rightBracket]
    (CutShort reply wholeReply ∧ ∀ detail, Feed.decode wholeReply ≠ .error (.malformed detail)) ∧
    (∃ detail, Feed.decode reply = .error (.malformed detail)) ∧
    (CutShort request wholeRequest ∧ ∃ f, Gateway.ControlFrame.parse wholeRequest = .ok f) ∧
    ∃ detail, Gateway.ControlFrame.parse request = .error (.malformed detail) := by
  intro reply request wholeReply wholeRequest
  have hreply : CutShort reply wholeReply := by
    refine ⟨[Byte.rightBrace, 0x20], rfl, fun hblank => ?_⟩
    exact absurd (hblank Byte.rightBrace (by decide)) (by decide)
  have hrequest : CutShort request wholeRequest := by
    refine ⟨[Byte.rightBracket], rfl, fun hblank => ?_⟩
    exact absurd (hblank Byte.rightBracket (by decide)) (by decide)
  have hanswer : Feed.Heard.answer? ⟨wholeReply, true⟩ = some (12, .active) := by decide +kernel
  have hdecodes : ∀ detail, Feed.decode wholeReply ≠ .error (.malformed detail) := by
    intro detail herror
    simp [Feed.Heard.answer?, herror] at hanswer
  have hmethod : (Gateway.ControlFrame.parse wholeRequest).toOption.map (·.method) =
      some .subscribe := by
    decide +kernel
  obtain ⟨f, hparses⟩ : ∃ f, Gateway.ControlFrame.parse wholeRequest = .ok f := by
    cases hparse : Gateway.ControlFrame.parse wholeRequest with
    | ok f => exact ⟨f, rfl⟩
    | error e => simp [hparse, Except.toOption] at hmethod
  refine ⟨⟨hreply, hdecodes⟩, ?_, ⟨hrequest, f, hparses⟩, ?_⟩
  · exact ((cut_frames_say_nothing hreply).1 hdecodes).1
  · exact ((cut_frames_say_nothing hrequest).2 f hparses).1

end CandleRelay
