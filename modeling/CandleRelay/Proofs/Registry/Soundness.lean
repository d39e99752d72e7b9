import CandleRelay.Gateway.Registry
import Mathlib.Data.List.Basic
import Mathlib.Data.List.Nodup

/-!
# Soundness of the registry

What holds of every registry, whoever calls it and in whatever order (`Sound`): no id is registered
twice; a registration and its handle belong to each other, the handle not being removed; every
handle that is not removed is the handle of a registration; and a registration's topics are nonempty
and without repetition. Each call keeps this, and no call makes a handle another connection's,
gives it another sink, or takes its removal back (`Keeps`).

`find?_register`, `find?_unregister` and `find?_update` say what a call does to the registrations;
later proofs cite them and do not open the calls again.
-/

namespace CandleRelay.Gateway.Registry

/-- The invariant of the registry. -/
structure Sound (r : Registry) : Prop where
  ids : (r.entries.map (·.id)).Nodup
  live : ∀ e ∈ r.entries, ∃ x, r.handles[e.handle]? = some x ∧ x.id = e.id ∧ x.removed = false
  listed : ∀ (h : HandleId) (x : Handle), r.handles[h]? = some x → x.removed = false →
    ∃ e ∈ r.entries, e.handle = h
  topics : ∀ e ∈ r.entries, e.topics.Nodup ∧ ∀ t ∈ e.topics, t.isEmpty = false

/-- The handles of `r` are still there in `r'`, each with its connection and its sink, and removed
if it was; and there are no others. -/
structure Keeps (r r' : Registry) : Prop where
  length : r'.handles.length = r.handles.length
  handle : ∀ (h : HandleId) (x : Handle), r.handles[h]? = some x → ∃ x' : Handle,
    r'.handles[h]? = some x' ∧ x'.id = x.id ∧ x'.sink = x.sink ∧
      (x.removed = true → x'.removed = true)

variable {r r' r'' : Registry} {id c : ConnectionId} {e : Registration} {h : HandleId} {x : Handle}

theorem Keeps.of_handles (hh : r'.handles = r.handles) : Keeps r r' := by
  refine ⟨by rw [hh], ?_⟩
  intro h x hx
  exact ⟨x, by rw [hh, hx], rfl, rfl, fun hr => hr⟩

theorem Keeps.refl (r : Registry) : Keeps r r := Keeps.of_handles rfl

theorem Keeps.trans (h₁ : Keeps r r') (h₂ : Keeps r' r'') : Keeps r r'' := by
  refine ⟨h₂.length.trans h₁.length, ?_⟩
  intro h x hx
  obtain ⟨y, hy, hid, hsink, hrem⟩ := h₁.handle h x hx
  obtain ⟨z, hz, hid', hsink', hrem'⟩ := h₂.handle h y hy
  exact ⟨z, hz, hid'.trans hid, hsink'.trans hsink, fun hr => hrem' (hrem hr)⟩

/-- A handle that is there afterwards was there before. -/
theorem Keeps.back (hk : Keeps r r') {x' : Handle} (hx' : r'.handles[h]? = some x') :
    ∃ x, r.handles[h]? = some x ∧ x'.id = x.id ∧ x'.sink = x.sink := by
  have hlt : h < r.handles.length := by
    have := (List.getElem?_eq_some_iff.1 hx').1
    rw [hk.length] at this
    exact this
  obtain ⟨y, hy, hid, hsink, -⟩ := hk.handle h r.handles[h] (List.getElem?_eq_getElem hlt)
  rw [hx'] at hy
  obtain rfl := Option.some.inj hy
  exact ⟨_, List.getElem?_eq_getElem hlt, hid, hsink⟩

theorem Keeps.map_id (hk : Keeps r r') : r'.handles.map (·.id) = r.handles.map (·.id) := by
  refine List.ext_getElem? ?_
  intro h
  rw [List.getElem?_map, List.getElem?_map]
  cases hx : r.handles[h]? with
  | some x =>
    obtain ⟨x', hx', hid, -⟩ := hk.handle h x hx
    rw [hx', Option.map_some, Option.map_some, hid]
  | none =>
    have hge := List.getElem?_eq_none_iff.1 hx
    rw [List.getElem?_eq_none (by rw [hk.length]; exact hge)]

/-! ## Looking up -/

theorem mem_of_find? (he : r.find? id = some e) : e ∈ r.entries := List.mem_of_find?_eq_some he

theorem id_of_find? (he : r.find? id = some e) : e.id = id := by
  have := List.find?_some he
  simpa using this

theorem find?_eq_none_iff : r.find? id = none ↔ ∀ e ∈ r.entries, e.id ≠ id := by
  simp [find?]

theorem Sound.find?_of_mem (hr : r.Sound) (he : e ∈ r.entries) : r.find? e.id = some e := by
  obtain ⟨e', he'⟩ : ∃ e', r.find? e.id = some e' := by
    cases hf : r.find? e.id with
    | some e' => exact ⟨e', rfl⟩
    | none => exact absurd rfl (find?_eq_none_iff.1 hf e he)
  rw [he', List.inj_on_of_nodup_map hr.ids (mem_of_find? he') he (id_of_find? he')]

theorem contains_eq : r.contains id = (r.find? id).isSome := rfl

/-- A registration found under an id has a handle of that connection, which is not removed. -/
theorem Sound.handle_of_find? (hr : r.Sound) (he : r.find? id = some e) :
    ∃ x, r.handles[e.handle]? = some x ∧ x.id = id ∧ x.removed = false := by
  obtain ⟨x, hx, hid, hrem⟩ := hr.live e (mem_of_find? he)
  exact ⟨x, hx, hid.trans (id_of_find? he), hrem⟩

/-- A handle is removed unless it is the handle under which its connection is registered. -/
theorem Sound.removed_eq_false_iff (hr : r.Sound) (hx : r.handles[h]? = some x) :
    x.removed = false ↔ ∃ e, r.find? x.id = some e ∧ e.handle = h := by
  constructor
  · intro hrem
    obtain ⟨e, he, hh⟩ := hr.listed h x hx hrem
    obtain ⟨y, hy, hid, -⟩ := hr.live e he
    rw [hh, hx] at hy
    obtain rfl := Option.some.inj hy
    exact ⟨e, hid ▸ hr.find?_of_mem he, hh⟩
  · rintro ⟨e, he, rfl⟩
    obtain ⟨y, hy, -, hrem⟩ := hr.handle_of_find? he
    rw [hx] at hy
    obtain rfl := Option.some.inj hy
    exact hrem

/-! ## What a call does to the registrations -/

theorem register_of_some (he : r.find? id = some e) (k : SinkId) :
    r.register id k = (e.handle, r) := by
  simp only [register, he]

theorem register_of_none (he : r.find? id = none) (k : SinkId) :
    r.register id k =
      (r.handles.length,
        { r with
          handles := r.handles ++ [⟨id, k, 0, false⟩]
          entries := r.entries ++ [⟨id, r.handles.length, []⟩] }) := by
  simp only [register, he]

theorem unregister_of_some (he : r.find? id = some e) :
    r.unregister id =
      (some e.handle,
        { r with
          handles := r.handles.modify e.handle fun x => { x with removed := true }
          entries := r.entries.filter (·.id != id) }) := by
  simp only [unregister, he]

theorem unregister_of_none (he : r.find? id = none) : r.unregister id = (none, r) := by
  simp only [unregister, he]

theorem find?_register (k : SinkId) :
    (r.register id k).2.find? c =
      if c = id then some ((r.find? id).getD ⟨id, r.handles.length, []⟩) else r.find? c := by
  cases he : r.find? id with
  | some e =>
    rw [register_of_some he]
    split
    · next hc => rw [hc, he]; rfl
    · rfl
  | none =>
    rw [register_of_none he]
    simp only [find?, List.find?_append] at he ⊢
    by_cases hc : c = id
    · subst hc
      simp [he]
    · have hci : ¬ (id = c) := fun h => hc h.symm
      simp [hc, hci]

theorem find?_unregister :
    (r.unregister id).2.find? c = if c = id then none else r.find? c := by
  cases he : r.find? id with
  | some e =>
    rw [unregister_of_some he]
    simp only [find?, List.find?_filter]
    split
    · next hc => subst hc; simp
    · next hc =>
      congr 1
      funext e'
      by_cases h : e'.id = c <;> simp [h, hc]
  | none =>
    rw [unregister_of_none he]
    split
    · next hc => rw [hc, he]
    · rfl

theorem find?_update (f : Registration → Registration) (hf : ∀ e, (f e).id = e.id) :
    (r.update id f).2.find? c = if c = id then (r.find? c).map f else r.find? c := by
  have hp : ((fun e' : Registration => e'.id == c) ∘ fun e => if e.id == id then f e else e) =
      fun e => e.id == c := by
    funext e
    by_cases h : e.id = id <;> simp [h, hf]
  simp only [update, find?, List.find?_map, hp]
  cases he : r.entries.find? (·.id == c) with
  | none => simp
  | some e =>
    have hec : e.id = c := id_of_find? (r := r) he
    by_cases h : c = id <;> simp [hec, h]

theorem find?_subscribe (ts : List Topic) :
    (r.subscribe id ts).2.find? c = if c = id then (r.find? c).map (·.add ts) else r.find? c :=
  find?_update (fun e => e.add ts) (fun _ => rfl)

theorem find?_unsubscribe (ts : List Topic) :
    (r.unsubscribe id ts).2.find? c = if c = id then (r.find? c).map (·.drop ts) else r.find? c :=
  find?_update (fun e => e.drop ts) (fun _ => rfl)

theorem fst_unregister : (r.unregister id).1 = (r.find? id).map (·.handle) := by
  cases he : r.find? id with
  | some e => rw [unregister_of_some he]; rfl
  | none => rw [unregister_of_none he]; rfl

/-! ## What a call does to the handles -/

/-- A registration leaves the handles as they are, but that a new one may come last. -/
theorem handle_register (k : SinkId) (hx : r.handles[h]? = some x) :
    (r.register id k).2.handles[h]? = some x := by
  cases he : r.find? id with
  | some e => rwa [register_of_some he]
  | none =>
    rw [register_of_none he]
    exact (List.getElem?_append_left (List.getElem?_eq_some_iff.1 hx).1).trans hx

theorem handle_register_back (k : SinkId) (hx : (r.register id k).2.handles[h]? = some x) :
    r.handles[h]? = some x ∨
      r.find? id = none ∧ h = r.handles.length ∧ x = ⟨id, k, 0, false⟩ := by
  cases he : r.find? id with
  | some e =>
    rw [register_of_some he] at hx
    exact Or.inl hx
  | none =>
    rw [register_of_none he] at hx
    rcases Nat.lt_or_ge h r.handles.length with hlt | hge
    · exact Or.inl ((List.getElem?_append_left hlt).symm.trans hx)
    · have hlt : h < (r.handles ++ [(⟨id, k, 0, false⟩ : Handle)]).length :=
        (List.getElem?_eq_some_iff.1 hx).1
      obtain rfl : h = r.handles.length := by
        rw [List.length_append, List.length_singleton] at hlt
        exact Nat.le_antisymm (Nat.le_of_lt_succ hlt) hge
      rw [List.getElem?_append_right hge, Nat.sub_self] at hx
      exact Or.inr ⟨rfl, rfl, (Option.some.inj hx).symm⟩

theorem keeps_allocate : Keeps r r.allocate.2 := Keeps.of_handles rfl

theorem keeps_update (f : Registration → Registration) : Keeps r (r.update id f).2 :=
  Keeps.of_handles rfl

/-- A handle changed in nothing but its streak or a removal. -/
theorem keeps_modify (f : Handle → Handle) (hid : ∀ x, (f x).id = x.id)
    (hsink : ∀ x, (f x).sink = x.sink) (hrem : ∀ x, x.removed = true → (f x).removed = true)
    (h : HandleId) (es : List Registration) :
    Keeps r { r with handles := r.handles.modify h f, entries := es } := by
  refine ⟨List.length_modify .., ?_⟩
  intro h' x hx
  by_cases hh : h = h'
  · subst hh
    exact ⟨f x, by simp [hx], hid x, hsink x, hrem x⟩
  · exact ⟨x, by simp [hh, hx], rfl, rfl, fun hr => hr⟩

theorem keeps_unregister : Keeps r (r.unregister id).2 := by
  cases he : r.find? id with
  | some e =>
    rw [unregister_of_some he]
    exact keeps_modify (fun x => { x with removed := true }) (fun _ => rfl) (fun _ => rfl)
      (fun _ _ => rfl) _ _
  | none =>
    rw [unregister_of_none he]
    exact Keeps.refl r

theorem keeps_recordFailure : Keeps r (r.recordFailure h).2 :=
  keeps_modify (fun x => { x with streak := x.streak + 1 }) (fun _ => rfl) (fun _ => rfl)
    (fun _ hr => hr) h r.entries

theorem keeps_recordSuccess : Keeps r (r.recordSuccess h) :=
  keeps_modify (fun x => { x with streak := 0 }) (fun _ => rfl) (fun _ => rfl) (fun _ hr => hr) h
    r.entries

/-! ## The invariant -/

theorem sound_empty : Sound {} :=
  ⟨List.nodup_nil, fun _ he => absurd he List.not_mem_nil,
    fun _ _ hx => absurd hx (by simp), fun _ he => absurd he List.not_mem_nil⟩

theorem Sound.allocate (hr : r.Sound) : r.allocate.2.Sound :=
  ⟨hr.ids, hr.live, hr.listed, hr.topics⟩

theorem Sound.register (hr : r.Sound) (k : SinkId) : (r.register id k).2.Sound := by
  cases he : r.find? id with
  | some e => rwa [register_of_some he]
  | none =>
    rw [register_of_none he]
    refine ⟨?_, ?_, ?_, ?_⟩
    · simp only [List.map_append, List.map_cons, List.map_nil]
      refine List.nodup_append'.2 ⟨hr.ids, List.nodup_singleton _, ?_⟩
      rw [List.disjoint_singleton]
      intro hmem
      obtain ⟨e, hmem, hid⟩ := List.mem_map.1 hmem
      exact find?_eq_none_iff.1 he e hmem hid
    · intro e hmem
      rcases List.mem_append.1 hmem with hmem | hmem
      · obtain ⟨x, hx, hid, hrem⟩ := hr.live e hmem
        have hlt := (List.getElem?_eq_some_iff.1 hx).1
        exact ⟨x, by rw [List.getElem?_append_left hlt, hx], hid, hrem⟩
      · obtain rfl := List.mem_singleton.1 hmem
        exact ⟨⟨id, k, 0, false⟩, by simp, rfl, rfl⟩
    · -- A handle is an old one, or the new one, which comes after all of them.
      intro h x hx hrem
      rcases Nat.lt_trichotomy h r.handles.length with hlt | heq | hgt
      · rw [List.getElem?_append_left hlt] at hx
        obtain ⟨e, hmem, hh⟩ := hr.listed h x hx hrem
        exact ⟨e, List.mem_append_left _ hmem, hh⟩
      · exact ⟨⟨id, r.handles.length, []⟩, by simp, heq.symm⟩
      · rw [List.getElem?_eq_none (by simp; omega)] at hx
        simp at hx
    · intro e hmem
      rcases List.mem_append.1 hmem with hmem | hmem
      · exact hr.topics e hmem
      · obtain rfl := List.mem_singleton.1 hmem
        simp

theorem Sound.unregister (hr : r.Sound) : (r.unregister id).2.Sound := by
  cases he : r.find? id with
  | none => rwa [unregister_of_none he]
  | some e =>
    rw [unregister_of_some he]
    -- A registration that stays has another id, hence another handle.
    have hother : ∀ e' ∈ r.entries, e'.id ≠ id → e'.handle ≠ e.handle := by
      intro e' hmem hne hh
      obtain ⟨x, hx, hid, -⟩ := hr.handle_of_find? he
      obtain ⟨y, hy, hid', -⟩ := hr.live e' hmem
      rw [hh, hx] at hy
      obtain rfl := Option.some.inj hy
      exact hne (hid'.symm.trans hid)
    refine ⟨?_, ?_, ?_, ?_⟩
    · exact hr.ids.sublist (List.Sublist.map _ List.filter_sublist)
    · intro e' hmem
      simp only [List.mem_filter, bne_iff_ne, ne_eq] at hmem
      obtain ⟨x, hx, hid, hrem⟩ := hr.live e' hmem.1
      have hne := (hother e' hmem.1 hmem.2).symm
      exact ⟨x, by simp [hne, hx], hid, hrem⟩
    · intro h x hx hrem
      by_cases hh : e.handle = h
      · subst hh
        obtain ⟨y, hy, -, -⟩ := hr.handle_of_find? he
        simp only [List.getElem?_modify_eq, hy, Option.map_eq_map, Option.map_some,
          Option.some.injEq] at hx
        rw [← hx] at hrem
        simp at hrem
      · simp only [List.getElem?_modify, hh, if_false] at hx
        have hx : r.handles[h]? = some x := by simpa using hx
        obtain ⟨e', hmem, hh'⟩ := hr.listed h x hx hrem
        refine ⟨e', List.mem_filter.2 ⟨hmem, ?_⟩, hh'⟩
        simp only [bne_iff_ne, ne_eq]
        -- The registration that ends is the only one with the id.
        intro hid
        have := hr.find?_of_mem hmem
        rw [hid, he] at this
        obtain rfl := Option.some.inj this
        exact hh hh'
    · intro e' hmem
      exact hr.topics e' (List.mem_of_mem_filter hmem)

/-- Changes of topics that leave them nonempty and without repetition. -/
theorem Sound.update (hr : r.Sound) (f : Registration → Registration) (hid : ∀ e, (f e).id = e.id)
    (hh : ∀ e, (f e).handle = e.handle)
    (ht : ∀ e, e.topics.Nodup ∧ (∀ t ∈ e.topics, t.isEmpty = false) →
      (f e).topics.Nodup ∧ ∀ t ∈ (f e).topics, t.isEmpty = false) :
    (r.update id f).2.Sound := by
  have hid' : ∀ e : Registration, (if e.id == id then f e else e).id = e.id := by
    intro e
    split
    · exact hid e
    · rfl
  have hh' : ∀ e : Registration, (if e.id == id then f e else e).handle = e.handle := by
    intro e
    split
    · exact hh e
    · rfl
  refine ⟨?_, ?_, ?_, ?_⟩
  · simp only [Registry.update, List.map_map]
    have : ((fun e : Registration => e.id) ∘ fun e => if e.id == id then f e else e) =
        fun e => e.id := funext hid'
    rw [this]
    exact hr.ids
  · intro e' hmem
    obtain ⟨e, he, rfl⟩ := List.mem_map.1 hmem
    rw [hid', hh']
    exact hr.live e he
  · intro h x hx hrem
    obtain ⟨e, hmem, rfl⟩ := hr.listed h x hx hrem
    exact ⟨_, List.mem_map_of_mem hmem, hh' e⟩
  · intro e' hmem
    obtain ⟨e, he, rfl⟩ := List.mem_map.1 hmem
    split
    · exact ht e (hr.topics e he)
    · exact hr.topics e he

theorem Sound.modify (hr : r.Sound) (f : Handle → Handle) (hid : ∀ x, (f x).id = x.id)
    (hrem : ∀ x, (f x).removed = x.removed) (h : HandleId) :
    Sound { r with handles := r.handles.modify h f } := by
  have hback : ∀ (h' : HandleId) (x' : Handle), (r.handles.modify h f)[h']? = some x' →
      ∃ x : Handle, r.handles[h']? = some x ∧ x'.removed = x.removed := by
    intro h' x' hx'
    rw [List.getElem?_modify] at hx'
    obtain ⟨x, hx, rfl⟩ := Option.map_eq_some_iff.1 hx'
    refine ⟨x, hx, ?_⟩
    split
    · exact hrem x
    · rfl
  refine ⟨hr.ids, ?_, ?_, hr.topics⟩
  · intro e hmem
    obtain ⟨x, hx, hxid, hxrem⟩ := hr.live e hmem
    by_cases hh : h = e.handle
    · exact ⟨f x, by simp [hh, hx], (hid x).trans hxid, (hrem x).trans hxrem⟩
    · exact ⟨x, by simp [hh, hx], hxid, hxrem⟩
  · intro h' x' hx' hxrem
    obtain ⟨x, hx, hr'⟩ := hback h' x' hx'
    exact hr.listed h' x hx (hr'.symm.trans hxrem)

theorem Sound.recordFailure (hr : r.Sound) : (r.recordFailure h).2.Sound :=
  hr.modify (fun x => { x with streak := x.streak + 1 }) (fun _ => rfl) (fun _ => rfl) h

theorem Sound.recordSuccess (hr : r.Sound) : (r.recordSuccess h).Sound :=
  hr.modify (fun x => { x with streak := 0 }) (fun _ => rfl) (fun _ => rfl) h

/-! ## Topics -/

theorem nodup_eraseDups {α : Type} [BEq α] [LawfulBEq α] : ∀ l : List α, l.eraseDups.Nodup
  | [] => List.nodup_nil
  | a :: l => by
    rw [List.eraseDups_cons]
    refine List.nodup_cons.2 ⟨?_, nodup_eraseDups _⟩
    simp [List.mem_eraseDups]
  termination_by l => l.length
  decreasing_by exact Nat.lt_succ_of_le (List.length_filter_le _ _)

theorem mem_add {ts : List Topic} {t : Topic} :
    t ∈ (e.add ts).topics ↔ t ∈ e.topics ∨ (t ∈ ts ∧ t.isEmpty = false) := by
  simp [Registration.add]

theorem mem_drop {ts : List Topic} {t : Topic} :
    t ∈ (e.drop ts).topics ↔ t ∈ e.topics ∧ t ∉ ts := by
  simp [Registration.drop]

theorem Sound.subscribe (hr : r.Sound) (ts : List Topic) : (r.subscribe id ts).2.Sound := by
  refine hr.update _ (fun _ => rfl) (fun _ => rfl) ?_
  rintro e ⟨-, hne⟩
  refine ⟨nodup_eraseDups _, ?_⟩
  intro t ht
  rcases mem_add.1 ht with ht | ht
  · exact hne t ht
  · exact ht.2

theorem Sound.unsubscribe (hr : r.Sound) (ts : List Topic) : (r.unsubscribe id ts).2.Sound := by
  refine hr.update _ (fun _ => rfl) (fun _ => rfl) ?_
  rintro e ⟨hnd, hne⟩
  exact ⟨hnd.filter _, fun t ht => hne t (mem_drop.1 ht).1⟩

end CandleRelay.Gateway.Registry
