import CandleRelay.Proofs.Registry.Soundness
import Mathlib.Algebra.GroupWithZero.Nat
import Mathlib.Data.List.Dedup
import Mathlib.Data.List.DropRight

/-!
# The registry and its history

The registry answers from its state; this module says what it answers in terms of the calls that
were made on it. The history of a connection since its present registration began is its tenure.
A connection is registered if it has one, and it wants a nonempty topic if, of the calls of its
tenure that name the topic, the last is a subscription.

What is proved:
  1. `agrees_afterCalls`: after any calls, on any connections and with any topics, the state holds
     of every connection just what its tenure says (`Agrees`). One call is `Agrees.apply`, which
     rests on `tenure_concat`, what one more call does to a tenure.
  2. `answers_from_history`: what the registry answers, read off the history (`AnswersFrom`); and
     two histories that agree on each connection's own calls (`SameCalls`), however they interleave
     those of different connections, leave the same state behind (`Alike`).
-/

namespace CandleRelay.Gateway.Registry

/-- A call on the registry that may change it. -/
inductive Call where
  | register (id : ConnectionId) (sink : SinkId)
  | subscribe (id : ConnectionId) (topics : List Topic)
  | unsubscribe (id : ConnectionId) (topics : List Topic)
  | unregister (id : ConnectionId)
  deriving DecidableEq

namespace Call

/-- The connection that the call is about. -/
def id : Call → ConnectionId
  | register id _ => id
  | subscribe id _ => id
  | unsubscribe id _ => id
  | unregister id => id

/-- Whether the call may begin a registration. -/
def begins : Call → Bool
  | register _ _ => true
  | _ => false

/-- Whether the call ends a registration. -/
def ends : Call → Bool
  | unregister _ => true
  | _ => false

/-- Whether the call adds topics. -/
def adds : Call → Bool
  | subscribe _ _ => true
  | _ => false

/-- Whether the topic is among those of the call. -/
def names (t : Topic) : Call → Bool
  | subscribe _ ts => ts.contains t
  | unsubscribe _ ts => ts.contains t
  | _ => false

/-- What the call does. -/
def apply (r : Registry) : Call → Registry
  | register id k => (r.register id k).2
  | subscribe id ts => (r.subscribe id ts).2
  | unsubscribe id ts => (r.unsubscribe id ts).2
  | unregister id => (r.unregister id).2

end Call

/-- A new registry after some calls. -/
def afterCalls (calls : List Call) : Registry := calls.foldl Call.apply {}

/-- The calls on a connection since its present registration began, with the call that began it. -/
def tenure (c : ConnectionId) (calls : List Call) : List Call :=
  ((calls.filter (·.id == c)).rtakeWhile (!·.ends)).dropWhile (!·.begins)

/-- Whether a connection is registered after the calls. -/
def registered (calls : List Call) (c : ConnectionId) : Bool := !(tenure c calls).isEmpty

/-- The last call that names the topic. -/
def lastOn? (t : Topic) (calls : List Call) : Option Call := (calls.filter (·.names t)).getLast?

/-- Whether a connection wants a topic after the calls. -/
def wanted (calls : List Call) (c : ConnectionId) (t : Topic) : Bool :=
  !t.isEmpty && (lastOn? t (tenure c calls)).any Call.adds

/-- The connections that are registered after the calls, each of them once. -/
def registeredIds (calls : List Call) : List ConnectionId :=
  ((calls.map Call.id).dedup).filter (registered calls)

/-- The connections behind the handles that want a topic. -/
def matchingIds (r : Registry) (t : Topic) : List (Option ConnectionId) :=
  (r.matching t).map fun h => (r.handles[h]?).map (·.id)

/-- All that the registry holds of a connection: its handle, and its topics in order. -/
def view (r : Registry) (c : ConnectionId) : Option (Option Handle × Option (List Topic)) :=
  (r.find? c).map fun e => (r.handles[e.handle]?, r.topics? c)

variable {r : Registry} {c : ConnectionId} {e : Registration} {t : Topic} {calls : List Call}
  {q : Call}

/-! ## Tenures -/

/-- One more call: on another connection it changes nothing, an end empties the tenure, and a tenure
that is empty begins with a registration only. -/
theorem tenure_concat :
    tenure c (calls ++ [q]) =
      if q.id ≠ c then tenure c calls
      else if q.ends then []
      else if tenure c calls = [] ∧ q.begins = false then []
      else tenure c calls ++ [q] := by
  by_cases hid : q.id = c
  · have hown : (calls ++ [q]).filter (·.id == c) = calls.filter (·.id == c) ++ [q] := by
      simp [List.filter_append, hid]
    -- The calls since the last end, read backwards, begin with this one, unless it is an end.
    simp only [tenure, hown, List.rtakeWhile_concat, hid, ne_eq, not_true_eq_false, ite_false]
    cases hends : q.ends
    · simp only [Bool.not_false, ite_true, List.dropWhile_append, Bool.false_eq_true, ite_false,
        List.isEmpty_iff]
      split
      · next hnil => cases hb : q.begins <;> simp [hnil, hb]
      · next hne => simp [hne]
    · simp
  · simp [tenure, List.filter_append, hid]

theorem tenure_concat_other (hid : q.id ≠ c) : tenure c (calls ++ [q]) = tenure c calls := by
  rw [tenure_concat, if_pos hid]

theorem tenure_eq_nil_or (c : ConnectionId) (calls : List Call) :
    tenure c calls = [] ∨ ∃ k rest, tenure c calls = .register c k :: rest := by
  induction calls using List.reverseRecOn with
  | nil => exact Or.inl rfl
  | append_singleton calls q ih =>
    rw [tenure_concat]
    split
    · exact ih
    next hid =>
      have hid : q.id = c := by simpa using hid
      split
      · exact Or.inl rfl
      split
      · exact Or.inl rfl
      next hne =>
        right
        rcases ih with hnil | ⟨k, rest, hcons⟩
        · cases q with
          | register id k => exact ⟨k, [], by rw [hnil, ← hid]; rfl⟩
          | _ => simp [hnil, Call.begins] at hne
        · exact ⟨k, rest ++ [q], by rw [hcons]; rfl⟩

theorem registered_eq_false_iff : registered calls c = false ↔ tenure c calls = [] := by
  simp [registered]

theorem lastOn?_concat :
    lastOn? t (calls ++ [q]) = if q.names t then some q else lastOn? t calls := by
  cases h : q.names t <;> simp [lastOn?, List.filter_append, h]

theorem wanted_eq_false_of_tenure_nil (h : tenure c calls = []) : wanted calls c t = false := by
  simp [wanted, h, lastOn?]

/-- What a call of the tenure that does not end it does to the wanted topics. -/
theorem wanted_concat (hid : q.id = c) (hends : q.ends = false)
    (hreg : tenure c calls ≠ [] ∨ q.begins = true) :
    wanted (calls ++ [q]) c t =
      if q.names t then !t.isEmpty && q.adds else wanted calls c t := by
  have htenure : tenure c (calls ++ [q]) = tenure c calls ++ [q] := by
    have hgo : ¬ (tenure c calls = [] ∧ q.begins = false) := by
      rcases hreg with h | h
      · exact fun hc => h hc.1
      · exact fun hc => by simp [h] at hc
    rw [tenure_concat, if_neg (by simpa using hid), hends, if_neg (by simp), if_neg hgo]
  simp only [wanted, htenure, lastOn?_concat]
  split
  · rfl
  · rfl

/-! ## The state and the history -/

/-- A registration says what a tenure does: its handle is the connection's, not removed and with the
sink that it was registered with, and its topics are those wanted. -/
def Present (r : Registry) (calls : List Call) (c : ConnectionId) (k : SinkId) : Prop :=
  ∃ e, r.find? c = some e ∧ r.handles[e.handle]? = some ⟨c, k, 0, false⟩ ∧
    ∀ t, t ∈ e.topics ↔ wanted calls c t = true

/-- The state is what the history says: who is registered, with which sink, and wanting what. -/
structure Agrees (r : Registry) (calls : List Call) : Prop where
  sound : r.Sound
  absent : ∀ c, tenure c calls = [] → r.find? c = none
  present : ∀ c k rest, tenure c calls = .register c k :: rest → Present r calls c k

theorem Sound.apply_other (hr : r.Sound) (hid : q.id ≠ c) :
    (q.apply r).find? c = r.find? c ∧
      ∀ e, r.find? c = some e → (q.apply r).handles[e.handle]? = r.handles[e.handle]? := by
  cases q with
  | register id k =>
    refine ⟨(find?_register k).trans (if_neg (Ne.symm hid)), ?_⟩
    · intro e he
      obtain ⟨x, hx, -, -⟩ := hr.handle_of_find? he
      have hlt := (List.getElem?_eq_some_iff.1 hx).1
      simp only [Call.apply]
      cases hf : r.find? id with
      | some e' => rw [register_of_some hf]
      | none =>
        rw [register_of_none hf]
        exact List.getElem?_append_left hlt
  | subscribe id ts =>
    exact ⟨(find?_subscribe ts).trans (if_neg (Ne.symm hid)), fun _ _ => rfl⟩
  | unsubscribe id ts =>
    exact ⟨(find?_unsubscribe ts).trans (if_neg (Ne.symm hid)), fun _ _ => rfl⟩
  | unregister id =>
    refine ⟨find?_unregister.trans (if_neg (Ne.symm hid)), ?_⟩
    intro e he
    simp only [Call.apply]
    cases hf : r.find? id with
    | none => rw [unregister_of_none hf]
    | some e' =>
      -- The handle that is marked as removed is one of the other connection.
      have hne : e'.handle ≠ e.handle := by
        intro hh
        obtain ⟨x, hx, hxid, -⟩ := hr.handle_of_find? he
        obtain ⟨y, hy, hyid, -⟩ := hr.handle_of_find? hf
        rw [hh, hx] at hy
        obtain rfl := Option.some.inj hy
        exact hid (hyid.symm.trans hxid)
      rw [unregister_of_some hf]
      simp [hne]

theorem Sound.apply (hr : r.Sound) : (q.apply r).Sound := by
  cases q with
  | register id k => exact hr.register k
  | subscribe id ts => exact hr.subscribe ts
  | unsubscribe id ts => exact hr.unsubscribe ts
  | unregister id => exact hr.unregister

theorem find?_apply_self :
    (q.apply r).find? q.id =
      match q with
      | .register id _ => some ((r.find? id).getD ⟨id, r.handles.length, []⟩)
      | .subscribe id ts => (r.find? id).map (·.add ts)
      | .unsubscribe id ts => (r.find? id).map (·.drop ts)
      | .unregister _ => none := by
  cases q with
  | register id k => exact (find?_register k).trans (if_pos rfl)
  | subscribe id ts => exact (find?_subscribe ts).trans (if_pos rfl)
  | unsubscribe id ts => exact (find?_unsubscribe ts).trans (if_pos rfl)
  | unregister id => exact find?_unregister.trans (if_pos rfl)

theorem Agrees.absent_apply (ha : Agrees r calls) (hnil : tenure q.id (calls ++ [q]) = []) :
    (q.apply r).find? q.id = none := by
  rw [find?_apply_self]
  rw [tenure_concat, if_neg (by simp)] at hnil
  cases q with
  | register id k => simp [Call.ends, Call.begins] at hnil
  | subscribe id ts =>
    have hnil : tenure id calls = [] := by simpa [Call.id, Call.ends, Call.begins] using hnil
    simp [ha.absent id hnil]
  | unsubscribe id ts =>
    have hnil : tenure id calls = [] := by simpa [Call.id, Call.ends, Call.begins] using hnil
    simp [ha.absent id hnil]
  | unregister id => rfl

theorem Agrees.present_begin (ha : Agrees r calls) {k : SinkId} {rest : List Call}
    (hnil : tenure q.id calls = [])
    (hcons : tenure q.id (calls ++ [q]) = .register q.id k :: rest) :
    Present (q.apply r) (calls ++ [q]) q.id k := by
  rw [tenure_concat, if_neg (by simp)] at hcons
  cases q with
  | register id k' =>
    have hnone := ha.absent id hnil
    have hk : k' = k := by
      have : k' = k ∧ rest = [] := by
        rw [hnil] at hcons
        simpa [Call.ends, Call.begins, Call.id] using hcons
      exact this.1
    refine ⟨⟨id, r.handles.length, []⟩, ?_, ?_, ?_⟩
    · simp [find?_apply_self, hnone]
    · simp [Call.apply, Call.id, register_of_none hnone, hk]
    · intro t
      rw [wanted_concat rfl rfl (Or.inr rfl), wanted_eq_false_of_tenure_nil hnil]
      simp [Call.names]
  | subscribe id ts => simp [hnil, Call.ends, Call.begins] at hcons
  | unsubscribe id ts => simp [hnil, Call.ends, Call.begins] at hcons
  | unregister id => simp [Call.ends] at hcons

/-- A call that ends nothing goes on with the tenure: the handle stays, and the topics change as the
call says. -/
theorem Agrees.present_go_on (ha : Agrees r calls) {k : SinkId} {rest : List Call}
    (hends : q.ends = false) (hcons : tenure q.id calls = .register q.id k :: rest) :
    Present (q.apply r) (calls ++ [q]) q.id k := by
  obtain ⟨e, he, hx, ht⟩ := ha.present _ _ _ hcons
  have hne : tenure q.id calls ≠ [] := by simp [hcons]
  cases q with
  | register id k' =>
    have he : r.find? id = some e := he
    refine ⟨e, by simp [find?_apply_self, he], ?_, ?_⟩
    · rw [Call.apply, register_of_some he]
      exact hx
    · intro t
      rw [ht, wanted_concat rfl hends (Or.inl hne)]
      simp [Call.names, Call.id]
  | subscribe id ts =>
    have he : r.find? id = some e := he
    refine ⟨e.add ts, by simp [find?_apply_self, he], hx, ?_⟩
    intro t
    rw [mem_add, ht, wanted_concat rfl hends (Or.inl hne)]
    by_cases hmem : t ∈ ts
    · cases hemp : t.isEmpty <;> simp [hmem, hemp, wanted, Call.names, Call.adds]
    · simp [hmem, Call.names, Call.id]
  | unsubscribe id ts =>
    have he : r.find? id = some e := he
    refine ⟨e.drop ts, by simp [find?_apply_self, he], hx, ?_⟩
    intro t
    rw [mem_drop, ht, wanted_concat rfl hends (Or.inl hne)]
    by_cases hmem : t ∈ ts <;> simp [hmem, Call.names, Call.adds, Call.id]
  | unregister id => simp [Call.ends] at hends

/-- A call on its own connection: the registration is as the tenure afterwards says. -/
theorem Agrees.present_apply (ha : Agrees r calls) {k : SinkId} {rest : List Call}
    (hcons : tenure q.id (calls ++ [q]) = .register q.id k :: rest) :
    Present (q.apply r) (calls ++ [q]) q.id k := by
  rcases tenure_eq_nil_or q.id calls with hnil | ⟨k₀, rest₀, h₀⟩
  · exact ha.present_begin hnil hcons
  · rw [tenure_concat, if_neg (by simp)] at hcons
    have hends : q.ends = false := by
      cases hq : q.ends
      · rfl
      · simp [hq] at hcons
    -- The tenure still begins with the registration that it began with.
    have hk : k₀ = k := by
      simp only [hends, Bool.false_eq_true, ite_false, h₀, List.cons_ne_nil, false_and,
        List.cons_append] at hcons
      simpa using (List.cons.inj hcons).1
    exact ha.present_go_on hends (hk ▸ h₀)

/-- One call keeps state and history in agreement. -/
theorem Agrees.apply (ha : Agrees r calls) (q : Call) : Agrees (q.apply r) (calls ++ [q]) := by
  refine ⟨ha.sound.apply, ?_, ?_⟩
  -- A call changes the tenure of its own connection only, and the registration of that only.
  · intro c hnil
    by_cases hid : q.id = c
    · subst hid
      exact ha.absent_apply hnil
    · rw [tenure_concat_other hid] at hnil
      rw [(ha.sound.apply_other hid).1, ha.absent c hnil]
  · intro c k rest hcons
    by_cases hid : q.id = c
    · subst hid
      exact ha.present_apply hcons
    · rw [tenure_concat_other hid] at hcons
      obtain ⟨e, he, hx, ht⟩ := ha.present c k rest hcons
      obtain ⟨hfind, hhandle⟩ := ha.sound.apply_other hid
      refine ⟨e, hfind.trans he, (hhandle e he).trans hx, ?_⟩
      intro t
      rw [ht, wanted, wanted, tenure_concat_other hid]

theorem agrees_afterCalls (calls : List Call) : Agrees (afterCalls calls) calls := by
  induction calls using List.reverseRecOn with
  | nil => exact ⟨sound_empty, fun _ _ => rfl, fun _ _ _ h => absurd h (by simp [tenure])⟩
  | append_singleton calls q ih =>
    rw [afterCalls, List.foldl_append]
    exact ih.apply q

/-! ## What the registry answers -/

/-- Everything that the registry answers, read off the calls. -/
structure AnswersFrom (r : Registry) (calls : List Call) : Prop where
  /-- A topic matches the connections that want it, each of them once. -/
  matching : ∀ t, ∃ ids : List ConnectionId, matchingIds r t = ids.map some ∧ ids.Nodup ∧
    ∀ c, c ∈ ids ↔ registered calls c = true ∧ t.isEmpty = false ∧
      ∃ q, lastOn? t (tenure c calls) = some q ∧ q.adds = true
  /-- A request for topics says whether the connection is registered; if not, it changes nothing. -/
  subscribe : ∀ c ts, (r.subscribe c ts).1 = registered calls c ∧
    (registered calls c = false → (r.subscribe c ts).2 = r)
  unsubscribe : ∀ c ts, (r.unsubscribe c ts).1 = registered calls c ∧
    (registered calls c = false → (r.unsubscribe c ts).2 = r)
  /-- The topics of a connection are those it wants, each of them once, in order. -/
  topics : ∀ c, (registered calls c = false ∧ r.topics? c = none) ∨
    registered calls c = true ∧ ∃ ts, r.topics? c = some ts ∧
      ts.Pairwise (fun a b => a.name < b.name) ∧ ∀ t, t ∈ ts ↔ wanted calls c t = true
  /-- The registered connections are counted, and so are their topics. -/
  size : r.size = (registeredIds calls).length
  subscriptionCount : r.subscriptionCount =
    ((registeredIds calls).map fun c => ((r.topics? c).getD []).length).sum

theorem Agrees.registered_eq (ha : Agrees r calls) : registered calls c = r.contains c := by
  rcases tenure_eq_nil_or c calls with hnil | ⟨k, rest, hcons⟩
  · rw [registered_eq_false_iff.2 hnil, contains_eq, ha.absent c hnil]
    rfl
  · obtain ⟨e, he, -, -⟩ := ha.present c k rest hcons
    simp [registered, hcons, contains_eq, he]

theorem Agrees.mem_topics_iff (ha : Agrees r calls) (he : r.find? c = some e) :
    t ∈ e.topics ↔ wanted calls c t = true := by
  rcases tenure_eq_nil_or c calls with hnil | ⟨k, rest, hcons⟩
  · rw [ha.absent c hnil] at he
    simp at he
  · obtain ⟨e', he', -, ht⟩ := ha.present c k rest hcons
    rw [he] at he'
    obtain rfl := Option.some.inj he'
    exact ht t

theorem wanted_iff : wanted calls c t = true ↔
    t.isEmpty = false ∧ ∃ q, lastOn? t (tenure c calls) = some q ∧ q.adds = true := by
  simp only [wanted, Bool.and_eq_true, Bool.not_eq_true', Option.any_eq_true_iff_get]
  constructor
  · rintro ⟨hne, hsome, hadds⟩
    exact ⟨hne, _, (Option.some_get hsome).symm, hadds⟩
  · rintro ⟨hne, q, hq, hadds⟩
    exact ⟨hne, by simp [hq], by simpa [hq] using hadds⟩

theorem nodup_registeredIds : (registeredIds calls).Nodup := (List.nodup_dedup _).filter _

theorem mem_registeredIds : c ∈ registeredIds calls ↔ registered calls c = true := by
  rw [registeredIds, List.mem_filter, List.mem_dedup]
  refine ⟨fun h => h.2, ?_⟩
  intro hreg
  refine ⟨?_, hreg⟩
  rcases tenure_eq_nil_or c calls with hnil | ⟨k, rest, hcons⟩
  · simp [registered, hnil] at hreg
  · -- The call that began the tenure is one of the calls.
    have hcall : Call.register c k ∈ tenure c calls := by simp [hcons]
    have hcall := (List.dropWhile_sublist _).subset hcall
    have hcall := (List.rtakeWhile_suffix _ _).subset hcall
    exact List.mem_map.2 ⟨_, List.mem_of_mem_filter hcall, rfl⟩

theorem Agrees.perm_registeredIds (ha : Agrees r calls) :
    (r.entries.map (·.id)).Perm (registeredIds calls) := by
  refine (List.perm_ext_iff_of_nodup ha.sound.ids nodup_registeredIds).2 ?_
  intro c
  rw [mem_registeredIds, ha.registered_eq, contains_eq, Option.isSome_iff_ne_none, ne_eq,
    find?_eq_none_iff]
  simp

theorem Sound.matchingIds_eq (hr : r.Sound) :
    matchingIds r t =
      ((r.entries.filter (·.topics.contains t)).map (·.id)).map some := by
  simp only [matchingIds, matching, List.map_map]
  refine List.map_congr_left ?_
  intro e hmem
  obtain ⟨x, hx, hid, -⟩ := hr.live e (List.mem_of_mem_filter hmem)
  simp [hx, hid]

theorem Sound.sorted_topics? (hr : r.Sound) (he : r.find? c = some e) :
    ∃ ts, r.topics? c = some ts ∧ ts.Pairwise (fun a b => a.name < b.name) ∧
      ∀ t, t ∈ ts ↔ t ∈ e.topics := by
  refine ⟨_, by rw [topics?, he]; rfl, ?_, fun t => List.mem_mergeSort⟩
  have hle : (e.topics.mergeSort fun a b => decide (a.name ≤ b.name)).Pairwise
      fun a b => decide (a.name ≤ b.name) := by
    refine List.pairwise_mergeSort ?_ ?_ e.topics
    · intro a b c hab hbc
      exact decide_eq_true (String.le_trans (of_decide_eq_true hab) (of_decide_eq_true hbc))
    · intro a b
      simpa using String.le_total a.name b.name
  have hne : (e.topics.mergeSort fun a b => decide (a.name ≤ b.name)).Nodup :=
    (List.mergeSort_perm _ _).nodup_iff.2 (hr.topics e (mem_of_find? he)).1
  -- Sorted and without repetition is strictly sorted: topics of one name are one topic.
  refine (hle.and hne).imp ?_
  rintro a b ⟨hab, hne⟩
  rw [← String.not_le]
  intro hba
  have hname := String.le_antisymm (of_decide_eq_true hab) hba
  cases a
  cases b
  exact hne (by simpa using hname)

theorem update_eq_self (h : r.contains c = false) (f : Registration → Registration) :
    (r.update c f).2 = r := by
  have hnone : r.find? c = none := by simpa [contains_eq] using h
  have hmap : (r.entries.map fun e => if e.id == c then f e else e) = r.entries := by
    conv_rhs => rw [← List.map_id r.entries]
    refine List.map_congr_left ?_
    intro e hmem
    simp [find?_eq_none_iff.1 hnone e hmem]
  rw [update, hmap]

theorem Agrees.topics?_eq_none (ha : Agrees r calls) (hreg : registered calls c = false) :
    r.topics? c = none := by
  have hnone := ha.absent c (registered_eq_false_iff.1 hreg)
  simp [topics?, hnone]

theorem Agrees.sorted_topics? (ha : Agrees r calls) (hreg : registered calls c = true) :
    ∃ ts, r.topics? c = some ts ∧ ts.Pairwise (fun a b => a.name < b.name) ∧
      ∀ t, t ∈ ts ↔ wanted calls c t = true := by
  rw [ha.registered_eq, contains_eq] at hreg
  obtain ⟨e, he⟩ := Option.isSome_iff_exists.1 hreg
  obtain ⟨ts, hts, hsorted, hmem⟩ := ha.sound.sorted_topics? he
  exact ⟨ts, hts, hsorted, fun t => (hmem t).trans (ha.mem_topics_iff he)⟩

theorem Sound.subscriptionCount_eq (hr : r.Sound) :
    r.subscriptionCount =
      ((r.entries.map (·.id)).map fun c => ((r.topics? c).getD []).length).sum := by
  have hlength : r.entries.map (·.topics.length) =
      (r.entries.map (·.id)).map fun c => ((r.topics? c).getD []).length := by
    rw [List.map_map]
    refine List.map_congr_left ?_
    intro e hmem
    simp [topics?, hr.find?_of_mem hmem]
  rw [subscriptionCount, hlength]
  exact List.sum_eq_foldl.symm

/-- What the state answers when it agrees with the history. -/
theorem Agrees.answersFrom (ha : Agrees r calls) : AnswersFrom r calls := by
  refine ⟨?_, ?_, ?_, ?_, ?_, ?_⟩
  · intro t
    refine ⟨_, ha.sound.matchingIds_eq,
      ha.sound.ids.sublist (List.Sublist.map _ List.filter_sublist), ?_⟩
    intro c
    rw [← wanted_iff]
    constructor
    · intro hc
      obtain ⟨e, hmem, rfl⟩ := List.mem_map.1 hc
      obtain ⟨hmem, ht⟩ := List.mem_filter.1 hmem
      have he := ha.sound.find?_of_mem hmem
      refine ⟨by rw [ha.registered_eq, contains_eq, he]; rfl, ?_⟩
      exact (ha.mem_topics_iff he).1 (by simpa using ht)
    · rintro ⟨hreg, hw⟩
      rw [ha.registered_eq, contains_eq] at hreg
      obtain ⟨e, he⟩ := Option.isSome_iff_exists.1 hreg
      have ht := (ha.mem_topics_iff he).2 hw
      exact List.mem_map.2
        ⟨e, List.mem_filter.2 ⟨mem_of_find? he, by simpa using ht⟩, id_of_find? he⟩
  · intro c ts
    rw [ha.registered_eq]
    exact ⟨rfl, fun h => update_eq_self h _⟩
  · intro c ts
    rw [ha.registered_eq]
    exact ⟨rfl, fun h => update_eq_self h _⟩
  · intro c
    cases hreg : registered calls c with
    | false => exact Or.inl ⟨rfl, ha.topics?_eq_none hreg⟩
    | true => exact Or.inr ⟨rfl, ha.sorted_topics? hreg⟩
  · rw [← ha.perm_registeredIds.length_eq, List.length_map]
    rfl
  · rw [ha.sound.subscriptionCount_eq]
    exact (ha.perm_registeredIds.map _).sum_nat

theorem sorted_topics_unique {ts us : List Topic} (hts : ts.Pairwise fun a b => a.name < b.name)
    (hus : us.Pairwise fun a b => a.name < b.name) (hmem : ∀ t, t ∈ ts ↔ t ∈ us) : ts = us := by
  have hne : ∀ a b : Topic, a.name < b.name → a ≠ b := by
    rintro a b hlt rfl
    exact String.lt_irrefl _ hlt
  have hperm : ts.Perm us :=
    (List.perm_ext_iff_of_nodup (hts.imp (hne _ _)) (hus.imp (hne _ _))).2 hmem
  refine hperm.eq_of_pairwise ?_ hts hus
  intro a b _ _ hab hba
  exact absurd (String.lt_trans hab hba) (String.lt_irrefl _)

section SameHistories

variable {r' : Registry} {calls' : List Call}

/-- Each connection has had the same calls in the same order. -/
def SameCalls (calls calls' : List Call) : Prop :=
  ∀ c, calls.filter (·.id == c) = calls'.filter (·.id == c)

theorem SameCalls.tenure_eq (hs : SameCalls calls calls') (c : ConnectionId) :
    tenure c calls = tenure c calls' := by
  rw [tenure, tenure, hs c]

theorem SameCalls.registered_eq (hs : SameCalls calls calls') :
    registered calls c = registered calls' c := by
  rw [registered, registered, hs.tenure_eq c]

theorem SameCalls.wanted_eq (hs : SameCalls calls calls') :
    wanted calls c t = wanted calls' c t := by
  rw [wanted, wanted, hs.tenure_eq c]

theorem Agrees.topics?_eq (ha : Agrees r calls) (ha' : Agrees r' calls')
    (hs : SameCalls calls calls') (c : ConnectionId) : r.topics? c = r'.topics? c := by
  cases hreg : registered calls c with
  | false =>
    rw [ha.topics?_eq_none hreg, ha'.topics?_eq_none (hs.registered_eq ▸ hreg)]
  | true =>
    obtain ⟨ts, hts, hsorted, hmem⟩ := ha.sorted_topics? hreg
    obtain ⟨us, hus, hsorted', hmem'⟩ := ha'.sorted_topics? (hs.registered_eq ▸ hreg)
    rw [hts, hus, sorted_topics_unique hsorted hsorted']
    intro t
    rw [hmem t, hmem' t, hs.wanted_eq]

theorem Agrees.view_eq (ha : Agrees r calls) (ha' : Agrees r' calls')
    (hs : SameCalls calls calls') (c : ConnectionId) : view r c = view r' c := by
  have htopics := ha.topics?_eq ha' hs c
  rcases tenure_eq_nil_or c calls with hnil | ⟨k, rest, hcons⟩
  · have hnil' : tenure c calls' = [] := (hs.tenure_eq c).symm.trans hnil
    rw [view, view, ha.absent c hnil, ha'.absent c hnil']
    rfl
  · have hcons' : tenure c calls' = .register c k :: rest := (hs.tenure_eq c).symm.trans hcons
    obtain ⟨e, he, hx, -⟩ := ha.present c k rest hcons
    obtain ⟨e', he', hx', -⟩ := ha'.present c k rest hcons'
    simp only [view, he, he', Option.map_some, hx, hx', htopics]

theorem SameCalls.perm_registeredIds (hs : SameCalls calls calls') :
    (registeredIds calls).Perm (registeredIds calls') := by
  refine (List.perm_ext_iff_of_nodup nodup_registeredIds nodup_registeredIds).2 ?_
  intro c
  rw [mem_registeredIds, mem_registeredIds, hs.registered_eq]

theorem Agrees.perm_matchingIds (ha : Agrees r calls) (ha' : Agrees r' calls')
    (hs : SameCalls calls calls') (t : Topic) : (matchingIds r t).Perm (matchingIds r' t) := by
  obtain ⟨ids, hids, hnodup, hmem⟩ := ha.answersFrom.matching t
  obtain ⟨ids', hids', hnodup', hmem'⟩ := ha'.answersFrom.matching t
  rw [hids, hids']
  refine List.Perm.map some ((List.perm_ext_iff_of_nodup hnodup hnodup').2 ?_)
  intro c
  rw [hmem c, hmem' c, hs.registered_eq, hs.tenure_eq]

/-- Two states with nothing between them that anybody could ask about. -/
structure Alike (r r' : Registry) : Prop where
  view : ∀ c, r.view c = r'.view c
  matching : ∀ t, (matchingIds r t).Perm (matchingIds r' t)
  size : r.size = r'.size
  subscriptionCount : r.subscriptionCount = r'.subscriptionCount

theorem Agrees.alike (ha : Agrees r calls) (ha' : Agrees r' calls')
    (hs : SameCalls calls calls') : Alike r r' := by
  have hperm := hs.perm_registeredIds
  refine ⟨ha.view_eq ha' hs, ha.perm_matchingIds ha' hs, ?_, ?_⟩
  · rw [ha.answersFrom.size, ha'.answersFrom.size, hperm.length_eq]
  · rw [ha.answersFrom.subscriptionCount, ha'.answersFrom.subscriptionCount]
    have hfun : (fun c => ((r.topics? c).getD []).length) =
        fun c => ((r'.topics? c).getD []).length :=
      funext fun c => by rw [ha.topics?_eq ha' hs c]
    rw [hfun]
    exact (hperm.map _).sum_nat

end SameHistories

/-- The registry refines its history: after any calls it answers from them alone, and any other
order of the calls that keeps each connection's own order leaves the same state behind. -/
theorem answers_from_history (calls : List Call) :
    AnswersFrom (afterCalls calls) calls ∧
      ∀ calls', SameCalls calls calls' → Alike (afterCalls calls) (afterCalls calls') := by
  refine ⟨(agrees_afterCalls calls).answersFrom, ?_⟩
  intro calls' hs
  exact (agrees_afterCalls calls).alike (agrees_afterCalls calls') hs

theorem alike_after_interleavings :
    let btc := Topic.ofString "BTCUSDT"
    let one : List Call := [.register 1 0, .subscribe 1 [btc], .unregister 1, .register 1 2]
    let other : List Call := [.register 2 1, .subscribe 2 [btc, btc]]
    let mixed : List Call := [.register 2 1, .register 1 0, .subscribe 1 [btc],
      .subscribe 2 [btc, btc], .unregister 1, .register 1 2]
    SameCalls (one ++ other) mixed ∧ Alike (afterCalls (one ++ other)) (afterCalls mixed) := by
  intro btc one other mixed
  have hs : SameCalls (one ++ other) mixed := by
    intro c
    by_cases h₁ : 1 = c
    · subst h₁
      rfl
    · by_cases h₂ : 2 = c
      · subst h₂
        rfl
      · simp [one, other, mixed, Call.id, h₁, h₂]
  exact ⟨hs, (answers_from_history _).2 mixed hs⟩

end CandleRelay.Gateway.Registry
