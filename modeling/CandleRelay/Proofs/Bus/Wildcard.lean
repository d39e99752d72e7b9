import CandleRelay.Proofs.Bus.Readers
import Mathlib.Data.List.Infix

/-!
# Listening to everything

The pattern `*` is meant for every topic, and it matches every topic but one that begins with a `*`
and goes on: the matcher takes that first byte for the pattern's own, and then has no star to go
back to. What is proved:

1. `isMatch_everything`, `accepts_everything`: which topics the pattern matches, byte by byte and as
   texts.
2. `readAs_acceptedFrom`, `drainWithin_eq`: a reader that is not further behind than the bus keeps
   finds all that its pattern accepts, in order.
3. `hears_run`: so does a reader over a whole run, if it never falls further behind.
4. `everything_but_starred` puts them together for the pattern `*`. `starred_unheard` is a run in
   which a message is missed.
-/

namespace CandleRelay

namespace Glob

/-- A star and something behind it. -/
def starredBytes (topic : List UInt8) : Bool :=
  match topic with
  | b :: _ :: _ => b == star
  | _ => false

theorem starredBytes_cons_of_ne {b : UInt8} (hb : b ≠ star) (rest : List UInt8) :
    starredBytes (b :: rest) = false := by
  cases rest <;> simp [starredBytes, hb]

theorem walk_back (topic : Array UInt8) {left taken : Nat} (hleft : taken + left = topic.size)
    (more : Nat) :
    walk #[star] topic (left + 1 + more) ⟨1, taken, some (0, taken)⟩ = some true := by
  induction left generalizing taken with
  | zero =>
    have hnone : topic[taken]? = none := Array.getElem?_eq_none (by omega)
    rw [Nat.zero_add, Nat.add_comm, walk, Cursor.step, hnone]
    rfl
  | succ left ih =>
    have hlt : taken < topic.size := by omega
    have hstep : Cursor.step #[star] topic ⟨1, taken, some (0, taken)⟩ =
        .on ⟨1, taken + 1, some (0, taken + 1)⟩ := by
      rw [Cursor.step, Array.getElem?_eq_getElem hlt]
      simp
    rw [show left + 1 + 1 + more = left + 1 + more + 1 by omega, walk, hstep]
    exact ih (by omega)

/-- The pattern `*` matches all but a star with something behind it. -/
theorem isMatch_everything (topic : List UInt8) :
    isMatch #[star] topic.toArray = !starredBytes topic := by
  rw [isMatch, enough]
  cases topic with
  | nil => rfl
  | cons b rest =>
    by_cases hb : b = star
    · -- The first byte is taken for the pattern's own, which leaves nothing for the rest.
      have hstep : Cursor.step #[star] (b :: rest).toArray ⟨0, 0, none⟩ = .on ⟨1, 1, none⟩ := by
        simp [Cursor.step, hb]
      have hfuel : ((b :: rest).toArray.size + 2) * (#[star].size + 1) =
          2 * rest.length + 4 + 1 + 1 := by simp; omega
      rw [hfuel, walk, hstep]
      cases rest with
      | nil => simp [walk, Cursor.step, starredBytes]
      | cons c rest => simp [walk, Cursor.step, starredBytes, hb]
    · -- The star is remembered, and takes one byte after the other.
      have hstep : Cursor.step #[star] (b :: rest).toArray ⟨0, 0, none⟩ =
          .on ⟨1, 0, some (0, 0)⟩ := by
        have hne : star ≠ anyByte := by decide
        simp [Cursor.step, Ne.symm hb, hne]
      have hfuel : ((b :: rest).toArray.size + 2) * (#[star].size + 1) =
          (b :: rest).toArray.size + 1 + (rest.length + 3) + 1 := by simp; omega
      rw [hfuel, walk, hstep, starredBytes_cons_of_ne hb]
      simp only
      rw [walk_back _ (Nat.zero_add _)]
      rfl

/-! ### Texts -/

theorem utf8EncodeChar_star : String.utf8EncodeChar '*' = [star] := rfl

/-- No other character begins with the byte of the star. -/
theorem eq_star_of_head {c : Char} (h : (String.utf8EncodeChar c).head? = some star) : c = '*' := by
  have hval : c.val.toNat = 42 := by
    simp only [String.utf8EncodeChar] at h
    repeat' split at h
    all_goals
      have hbyte := congrArg UInt8.toNat (Option.some.inj h)
      simp only [UInt8.toNat_ofNat'] at hbyte
      change _ = 42 at hbyte
      omega
  exact Char.ext (UInt32.toNat_inj.1 hval)

/-- A name that begins with `*` and goes on. -/
def starred (name : String) : Bool :=
  match name.toList with
  | '*' :: _ :: _ => true
  | _ => false

theorem starredBytes_encode (name : String) :
    starredBytes (Text.Utf8.encode name) = starred name := by
  rw [Text.Utf8.encode, starred]
  cases name.toList with
  | nil => rfl
  | cons c rest =>
    rw [List.flatMap_cons]
    by_cases hc : c = '*'
    · subst hc
      rw [utf8EncodeChar_star]
      cases rest with
      | nil => rfl
      | cons d rest =>
        obtain ⟨b, bs, hd⟩ := List.exists_cons_of_ne_nil String.utf8EncodeChar_ne_nil
        rw [List.flatMap_cons, hd]
        rfl
    · obtain ⟨b, bs, hbytes⟩ := List.exists_cons_of_ne_nil String.utf8EncodeChar_ne_nil
      have hb : b ≠ star := fun hb => hc (eq_star_of_head (by rw [hbytes, hb]; rfl))
      rw [hbytes, List.cons_append, starredBytes_cons_of_ne hb]
      cases rest <;> simp [hc]

theorem accepts_everything (name : String) : accepts everything name = !starred name := by
  have hpattern : (Text.Utf8.encode everything).toArray = #[star] := rfl
  rw [accepts, hpattern, isMatch_everything, starredBytes_encode]

end Glob

/-! ## Within the window -/

theorem filter_drop_of_none {α : Type} {l : List α} {f : α → Bool} {a b : Nat} (hab : a ≤ b)
    (hnone : ∀ q m, a ≤ q → q < b → l[q]? = some m → f m = false) :
    (l.drop a).filter f = (l.drop b).filter f := by
  induction hab with
  | refl => rfl
  | @step b hab ih =>
    rw [ih fun q m hq hq' => hnone q m hq (Nat.lt_succ_of_lt hq')]
    rcases Nat.lt_or_ge b l.length with hlt | hge
    · have hf := hnone b l[b] hab (Nat.lt_succ_self b) (List.getElem?_eq_getElem hlt)
      rw [List.drop_eq_getElem_cons hlt, List.filter_cons_of_neg (by simp [hf])]
    · rw [List.drop_eq_nil_of_le hge, List.drop_eq_nil_of_le (Nat.le_succ_of_le hge)]

/-- What a pattern accepts of a log from a place on. -/
def acceptedFrom (log : Array Message) (pattern : String) (place : Nat) : List Message :=
  (log.toList.drop place).filter (Message.fits pattern)

theorem acceptedFrom_push {log : Array Message} {pattern : String} {place : Nat}
    (hplace : place ≤ log.size) (m : Message) :
    acceptedFrom (log.push m) pattern place =
      acceptedFrom log pattern place ++ [m].filter (Message.fits pattern) := by
  rw [acceptedFrom, acceptedFrom, Array.toList_push, List.drop_append_of_le_length (by simpa),
    List.filter_append]

namespace MemoryBus

variable {b : MemoryBus} {s : Subscriber}

theorem readAs_acceptedFrom (hs : s.next ≤ b.log.size) (hkept : b.log.size - s.next ≤ b.window) :
    (∃ m, (b.readAs s).1 = .message m ∧ s.next < (b.readAs s).2.next ∧
      acceptedFrom b.log s.pattern s.next = m :: acceptedFrom b.log s.pattern (b.readAs s).2.next) ∨
    ((∀ m, (b.readAs s).1 ≠ .message m) ∧ (b.readAs s).2.next = b.log.size ∧
      acceptedFrom b.log s.pattern s.next = []) := by
  have hstart := max_oldest_of_kept hkept
  -- No message is accepted at a place that the reading passes over.
  have hskip : ∀ p, (∀ q, s.next ≤ q → q < p → ¬ FitsAt b.log s.pattern q) → ∀ q m, s.next ≤ q →
      q < p → b.log.toList[q]? = some m → m.fits s.pattern = false := by
    intro p hnone q m hq hqp hm
    rw [Array.getElem?_toList] at hm
    exact Bool.eq_false_iff.2 fun hfits => hnone q hq hqp ⟨m, hm, hfits⟩
  unfold acceptedFrom
  rcases readAs_cases hs with ⟨p, m, hread, hle, hm, hfits, hbefore⟩ | ⟨hread, hnone⟩
  · rw [hstart] at hle hbefore
    obtain ⟨hlt, rfl⟩ := Array.getElem?_eq_some_iff.1 hm
    refine Or.inl ⟨b.log[p], by rw [hread], ?_, ?_⟩
    · rw [hread]
      exact Nat.lt_succ_of_le hle
    · rw [hread, filter_drop_of_none hle (hskip p hbefore),
        List.drop_eq_getElem_cons (by simpa using hlt),
        List.filter_cons_of_pos (by simpa using hfits)]
      rfl
  · rw [hstart] at hnone
    refine Or.inr ⟨fun m => ?_, by rw [hread], ?_⟩
    · rw [hread]
      by_cases h : b.handles = 0 <;> simp [h]
    · rw [filter_drop_of_none hs (hskip _ fun q hq _ => hnone q hq),
        List.drop_eq_nil_of_le (by simp)]
      rfl

theorem drainWithin_eq {i fuel : Nat} (hi : b.subscribers[i]? = some (some s))
    (hs : s.next ≤ b.log.size) (hkept : b.log.size - s.next ≤ b.window)
    (hfuel : b.log.size - s.next < fuel) :
    (b.drainWithin i fuel).1 = acceptedFrom b.log s.pattern s.next := by
  induction fuel generalizing b s with
  | zero => omega
  | succ fuel ih =>
    have hread : b.read i = ((b.readAs s).1,
        { b with subscribers := b.subscribers.setIfInBounds i (some (b.readAs s).2) }) := by
      simp [read, hi]
    have hinside : (b.readAs s).2.next ≤ b.log.size := (moves_readAs hs).inside
    rcases readAs_acceptedFrom hs hkept with ⟨m, hm, hlt, haccepted⟩ | ⟨hnone, -, haccepted⟩
    · -- The log stays as it is, so the reader remains within the window and nears its end.
      have hrest := @ih
        { b with subscribers := b.subscribers.setIfInBounds i (some (b.readAs s).2) }
        (b.readAs s).2 (by simp [BusUsage.getElem?_setIfInBounds_same, hi]) hinside
        (by show b.log.size - (b.readAs s).2.next ≤ b.window; omega)
        (by show b.log.size - (b.readAs s).2.next < fuel; omega)
      rw [readAs_pattern] at hrest
      rw [drainWithin, hread, hm, haccepted]
      simp only [hrest]
    · rw [drainWithin, hread, haccepted]
      split
      · next m _ heq => exact absurd (congrArg Prod.fst heq) (hnone m)
      · rfl

end MemoryBus

namespace BusUsage

variable {u : BusUsage} {i capacity : Nat}

/-- How many messages reader `i` has still before it. -/
def behind (u : BusUsage) (i : Nat) : Nat :=
  match u.bus.subscribers[i]? with
  | some (some s) => u.bus.log.size - s.next
  | _ => 0

/-- Nothing was missed: with what is still before it, reader `i` gets all that its pattern accepts
of what was published since it came. -/
def Hears (u : BusUsage) (i : Nat) : Prop :=
  ∀ pattern since s, u.arrivals[i]? = some (pattern, since) →
    u.bus.subscribers[i]? = some (some s) →
    u.received i ++ acceptedFrom u.bus.log pattern s.next = acceptedFrom u.bus.log pattern since

theorem Sound.stands {pattern : String} {since : Nat} {s : Subscriber} (h : Sound capacity u)
    (hi : u.arrivals[i]? = some (pattern, since)) (hs : u.bus.subscribers[i]? = some (some s)) :
    s.pattern = pattern ∧ since ≤ s.next ∧ s.next ≤ u.bus.log.size := by
  obtain ⟨next, htracks, hstands⟩ := h.tracks i pattern since hi
  obtain rfl := hstands s hs
  exact ⟨rfl, htracks.since_le, htracks.inside⟩

theorem Hears.step (h : Hears u i) (hu : Sound capacity u) (hkept : u.behind i ≤ u.bus.window)
    (a : Act) : Hears (u.step a) i := by
  intro pattern since s hi hs
  cases befalls_step hu.arrivals a i with
  | nothing log came stands readings =>
    rw [log, received, readings]
    exact h pattern since s (came.symm.trans hi) (stands.symm.trans hs)
  | publication m log came stands readings =>
    have hi' := came.symm.trans hi
    have hs' := stands.symm.trans hs
    obtain ⟨-, hsince, hnext⟩ := hu.stands hi' hs'
    rw [log, received, readings, acceptedFrom_push hnext, acceptedFrom_push (by omega),
      ← List.append_assoc]
    exact congrArg (· ++ _) (h pattern since s hi' hs')
  | arrival pattern' log new came stands readings =>
    obtain ⟨rfl, rfl⟩ : pattern' = pattern ∧ u.bus.log.size = since := by simpa [came] using hi
    obtain rfl := Option.some.inj (Option.some.inj (stands.symm.trans hs))
    rw [log, received, readings, hu.noted i (List.getElem?_eq_none (Nat.le_of_eq new))]
    rfl
  | reading s' log came stood stands readings =>
    have hi' := came.symm.trans hi
    obtain rfl := Option.some.inj (Option.some.inj (stands.symm.trans hs))
    obtain ⟨rfl, -, hnext⟩ := hu.stands hi' stood
    have hold := h _ since s' hi' stood
    have hlag : u.bus.log.size - s'.next ≤ u.bus.window := by simpa [behind, stood] using hkept
    -- What the reading adds to the messages received is taken from the front of what was ahead.
    rw [log, received, readings, List.filterMap_append, ← hold, List.append_assoc]
    refine congrArg (u.received i ++ ·) ?_
    rcases MemoryBus.readAs_acceptedFrom hnext hlag with
      ⟨m, hm, -, haccepted⟩ | ⟨hnone, hend, haccepted⟩
    · have hnote : (u.bus.noteOf s').message? = some m := by
        simp [MemoryBus.noteOf, Note.message?, hm]
      rw [haccepted, List.filterMap_cons_some hnote]
      rfl
    · have hnote : (u.bus.noteOf s').message? = none := by
        simp only [MemoryBus.noteOf, Note.message?]
      rw [haccepted, hend, List.filterMap_cons_none hnote, acceptedFrom,
        List.drop_eq_nil_of_le (by simp)]
      rfl
  | departure log came gone => exact absurd hs (gone s)

/-- A reader that never falls further behind than the bus keeps misses nothing. -/
theorem hears_run (capacity : Nat) (acts : List Act) (i : Nat)
    (hkept : ∀ more, more <+: acts →
      ((start capacity).run more).behind i ≤ MemoryBus.powerAbove capacity) :
    Hears ((start capacity).run acts) i := by
  induction acts using List.reverseRecOn with
  | nil =>
    intro pattern since s hi
    simp [run, start] at hi
  | append_singleton acts a ih =>
    have hu := sound_run capacity acts
    have hhears := ih fun more hmore => hkept more (hmore.trans (List.prefix_append ..))
    rw [run_concat]
    refine hhears.step hu ?_ a
    rw [hu.window]
    exact hkept acts (List.prefix_append ..)

/-- **What the pattern `*` is good for.** It matches every topic but those that begin with a `*` and
go on. A reader of everything that never falls further behind than the bus keeps gets, with what it
can still drain, all that was published since it came, in order, but for the messages on such
topics. -/
theorem everything_but_starred (capacity : Nat) (acts : List Act) :
    (∀ name, Glob.accepts Glob.everything name = !Glob.starred name) ∧
    ∀ i since s, ((start capacity).run acts).arrivals[i]? = some (Glob.everything, since) →
      ((start capacity).run acts).bus.subscribers[i]? = some (some s) →
      (∀ more, more <+: acts →
        ((start capacity).run more).behind i ≤ MemoryBus.powerAbove capacity) →
      ((start capacity).run acts).received i ++ (((start capacity).run acts).bus.drain i).1 =
        (((start capacity).run acts).bus.log.toList.drop since).filter
          fun m => !Glob.starred m.topic.name := by
  refine ⟨Glob.accepts_everything, fun i since s hi hs hkept => ?_⟩
  have hu := sound_run capacity acts
  have hhears := hears_run capacity acts i hkept _ since s hi hs
  obtain ⟨hpattern, -, hnext⟩ := hu.stands hi hs
  have hlag : ((start capacity).run acts).bus.log.size - s.next ≤
      ((start capacity).run acts).bus.window := by
    have hbehind := hkept acts (List.prefix_refl _)
    rw [hu.window]
    simpa [behind, hs] using hbehind
  have hdrain := MemoryBus.drainWithin_eq hs hnext hlag
    (show _ < ((start capacity).run acts).bus.log.size + 1 by omega)
  have hfits : Message.fits Glob.everything = fun m => !Glob.starred m.topic.name :=
    funext fun m => Glob.accepts_everything m.topic.name
  calc ((start capacity).run acts).received i ++ (((start capacity).run acts).bus.drain i).1
      = ((start capacity).run acts).received i ++
          acceptedFrom ((start capacity).run acts).bus.log Glob.everything s.next := by
        rw [MemoryBus.drain, hdrain, hpattern]
    _ = acceptedFrom ((start capacity).run acts).bus.log Glob.everything since := hhears
    _ = (((start capacity).run acts).bus.log.toList.drop since).filter
          fun m => !Glob.starred m.topic.name := by
        rw [acceptedFrom, hfits]

/-- Of the topics `*A`, `*` and `BTCUSDT`, a reader of everything hears the last two. -/
theorem hears_two_of_three :
    let star : Message := ⟨Topic.ofString "*", [2]⟩
    let btc : Message := ⟨Topic.ofString "btcusdt", [3]⟩
    let acts : List Act := [.subscribe Glob.everything, .publish ⟨Topic.ofString "*a", [1]⟩,
      .publish star, .read 0, .publish btc]
    (∀ more, more <+: acts → ((start 2).run more).behind 0 ≤ MemoryBus.powerAbove 2) ∧
      ((start 2).run acts).received 0 ++ (((start 2).run acts).bus.drain 0).1 = [star, btc] := by
  intro star btc acts
  have hkept : ∀ more, more <+: acts →
      ((start 2).run more).behind 0 ≤ MemoryBus.powerAbove 2 := by
    have hinits : ∀ more ∈ acts.inits,
        ((start 2).run more).behind 0 ≤ MemoryBus.powerAbove 2 := by decide +kernel
    exact fun more hmore => hinits more ((List.mem_inits _ _).2 hmore)
  have hcame : ((start 2).run acts).arrivals[0]? = some (Glob.everything, 0) := by decide +kernel
  have hstands : ((start 2).run acts).bus.subscribers[0]? = some (some ⟨Glob.everything, 2⟩) := by
    decide +kernel
  refine ⟨hkept, ?_⟩
  rw [(everything_but_starred 2 acts).2 0 0 ⟨Glob.everything, 2⟩ hcame hstands hkept]
  decide +kernel

/-- A reader of everything, with room for all there is, misses a message on the topic `*A`. -/
theorem starred_unheard :
    let acts : List Act := [.subscribe Glob.everything, .publish ⟨Topic.ofString "*a", [1]⟩]
    Glob.accepts Glob.everything (Topic.ofString "*a").name = false ∧
      (∀ more, more <+: acts → ((start 2).run more).behind 0 ≤ MemoryBus.powerAbove 2) ∧
      ((start 2).run acts).bus.log = #[⟨Topic.ofString "*a", [1]⟩] ∧
      ((start 2).run acts).received 0 ++ (((start 2).run acts).bus.drain 0).1 = [] := by
  intro acts
  have hinits : ∀ more ∈ acts.inits,
      ((start 2).run more).behind 0 ≤ MemoryBus.powerAbove 2 := by decide +kernel
  refine ⟨by decide +kernel, fun more hmore => ?_, by decide +kernel, by decide +kernel⟩
  exact hinits more ((List.mem_inits _ _).2 hmore)

end BusUsage

end CandleRelay
