import CandleRelay.Universe
import Mathlib.Data.List.Basic
import Mathlib.Data.List.Induction

/-!
# First mentions

The universe is drawn from a list of names that were written by somebody else. Among them are blank
ones, symbols quoted in other assets, and the same symbol more than once and in more than one
spelling. Each symbol that the filter accepts has one place in the universe, and it stands there
where its name was first mentioned.

What is proved:
  1. `symbols_append`: a list that goes on adds the symbols that are new, in the order in which they
     would have come alone.
  2. `drawn`: what is in the universe of a list, each symbol once, and in which order
     (`Drawn`). The induction is on the list from its end: a name that is added stands behind all
     others.
  3. `symbols_suffix_sublist`: a stricter mode leaves symbols out and moves none.
  4. `drawn_by_first_mention`: all of it, for every asset and mode.
-/

namespace CandleRelay

/-! ## Without repetitions -/

theorem eraseDups_filter {α : Type} [BEq α] [LawfulBEq α] (p : α → Bool) :
    ∀ l : List α, (l.filter p).eraseDups = l.eraseDups.filter p
  | [] => rfl
  | a :: l => by
    have ih := eraseDups_filter p (l.filter fun b => !b == a)
    rw [List.eraseDups_cons]
    cases hp : p a with
    | true =>
      rw [List.filter_cons_of_pos hp, List.filter_cons_of_pos hp, List.eraseDups_cons, ← ih,
        List.filter_comm]
    | false =>
      -- The first element is not kept, and neither is any that equals it.
      have hp : ¬ p a = true := by simp [hp]
      rw [List.filter_cons_of_neg hp, List.filter_cons_of_neg hp, ← ih, List.filter_filter]
      congr 1
      refine List.filter_congr fun b _ => ?_
      by_cases hb : b = a
      · simp [hb, hp]
      · simp [hb]
  termination_by l => l.length
  decreasing_by exact Nat.lt_succ_of_le (List.length_filter_le _ _)

theorem eraseDups_of_nodup {α : Type} [BEq α] [LawfulBEq α] {l : List α} (h : l.Nodup) :
    l.eraseDups = l := by
  induction l with
  | nil => rfl
  | cons a l ih =>
    obtain ⟨ha, hl⟩ := List.nodup_cons.1 h
    have hkept : (l.filter fun b => !b == a) = l := by
      refine List.filter_eq_self.2 fun b hb => ?_
      have hne : b ≠ a := fun heq => ha (heq ▸ hb)
      simpa using hne
    rw [List.eraseDups_cons, hkept, ih hl]

/-! ## Names and symbols -/

theorem Symbol.ofString?_eq_some_iff {raw : String} {s : Symbol} :
    Symbol.ofString? raw = some s ↔ Text.canonical raw = s.name := by
  rw [Symbol.ofString?]
  split
  · next hblank =>
    constructor
    · intro h
      cases h
    · intro h
      exact absurd (h.symm.trans hblank) s.nonempty
  · constructor
    · intro h
      exact congrArg name (Option.some.inj h)
    · intro h
      cases s
      cases h
      rfl

theorem Symbol.ofString?_name (s : Symbol) : Symbol.ofString? s.name = some s :=
  Symbol.ofString?_eq_some_iff.2 s.canonical

theorem Text.contains_iff {needle text : List Char} :
    Text.contains needle text = true ↔ needle <:+: text := by
  induction text with
  | nil => simp [Text.contains]
  | cons c text ih =>
    rw [Text.contains, Bool.or_eq_true, ih, List.isPrefixOf_iff_prefix, List.infix_cons_iff]

/-- Where a mode wants the quote asset in a ticker. -/
def QuoteMode.Places : QuoteMode → (quote ticker : List Char) → Prop
  | suffix, quote, ticker => quote <:+ ticker
  | contains, quote, ticker => quote <:+: ticker

theorem QuoteFilter.accepts_iff {asset : String} {mode : QuoteMode} {s : Symbol} :
    (QuoteFilter.ofAsset asset mode).accepts s = true ↔
      mode.Places (Text.canonical asset).toList s.name.toList := by
  cases mode with
  | suffix => exact List.isSuffixOf_iff_suffix
  | contains => exact Text.contains_iff

/-- Where a symbol is first mentioned in a list of names, by whatever spelling. -/
def Symbol.firstMention (s : Symbol) (names : List String) : Nat :=
  names.findIdx fun name => Text.canonical name == s.name

namespace Symbol

variable {s : Symbol} {names : List String}

theorem firstMention_lt_iff :
    s.firstMention names < names.length ↔ ∃ name ∈ names, Text.canonical name = s.name := by
  simp [firstMention, List.findIdx_lt_length]

theorem firstMention_append (more : List String) (h : s.firstMention names < names.length) :
    s.firstMention (names ++ more) = s.firstMention names := by
  rw [firstMention, List.findIdx_append]
  exact if_pos h

theorem le_firstMention_append (more : List String) (h : ¬ s.firstMention names < names.length) :
    names.length ≤ s.firstMention (names ++ more) := by
  rw [firstMention, List.findIdx_append]
  exact (if_neg h).symm ▸ Nat.le_add_left _ _

end Symbol

/-! ## The universe of a list -/

namespace QuoteFilter

variable {f : QuoteFilter} {asset : String} {mode : QuoteMode} {s : Symbol} {names : List String}

theorem mem_symbols_iff :
    s ∈ f.symbols names ↔
      (∃ name ∈ names, Text.canonical name = s.name) ∧ f.accepts s = true := by
  simp only [symbols, List.mem_eraseDups, List.mem_filter, List.mem_filterMap,
    Symbol.ofString?_eq_some_iff]

/-- A list that goes on adds the symbols that are new. -/
theorem symbols_append (xs ys : List String) :
    f.symbols (xs ++ ys) =
      f.symbols xs ++ (f.symbols ys).filter fun s => !(f.symbols xs).contains s := by
  have hknown : ∀ l : List Symbol, (fun s => !l.eraseDups.contains s) = fun s => !l.contains s := by
    intro l
    funext s
    rw [Bool.eq_iff_iff]
    simp [List.mem_eraseDups]
  simp only [symbols, List.filterMap_append, List.filter_append, List.eraseDups_append, hknown]
  rw [← eraseDups_filter]
  rfl

theorem symbols_singleton (f : QuoteFilter) (name : String) :
    f.symbols [name] = ((Symbol.ofString? name).filter f.accepts).toList := by
  cases hs : Symbol.ofString? name with
  | none => simp [symbols, hs]
  | some s => cases ha : f.accepts s <;> simp [symbols, hs, ha, List.eraseDups_cons, Option.filter]

/-- What is in the universe of a list: the symbols that are mentioned and have the asset in its
place, each once, in the order of their first mentions. -/
structure Drawn (asset : String) (mode : QuoteMode) (names : List String)
    (symbols : List Symbol) : Prop where
  nodup : symbols.Nodup
  mem_iff : ∀ s, s ∈ symbols ↔
    (∃ name ∈ names, Text.canonical name = s.name) ∧
      mode.Places (Text.canonical asset).toList s.name.toList
  order : symbols.Pairwise fun s t => s.firstMention names < t.firstMention names

/-- The universe of a list is in the order of first mentions. -/
theorem pairwise_symbols (f : QuoteFilter) (names : List String) :
    (f.symbols names).Pairwise fun s t => s.firstMention names < t.firstMention names := by
  induction names using List.reverseRecOn with
  | nil => exact List.Pairwise.nil
  | append_singleton names name ih =>
    have hmentioned : ∀ s ∈ f.symbols names, s.firstMention names < names.length :=
      fun s hs => Symbol.firstMention_lt_iff.2 (mem_symbols_iff.1 hs).1
    rw [symbols_append, List.pairwise_append]
    refine ⟨?_, ?_, ?_⟩
    · refine ih.imp_of_mem fun hs ht hlt => ?_
      rwa [Symbol.firstMention_append _ (hmentioned _ hs),
        Symbol.firstMention_append _ (hmentioned _ ht)]
    · -- One name adds one symbol at most.
      refine List.Pairwise.filter _ ?_
      rw [symbols_singleton]
      cases (Symbol.ofString? name).filter f.accepts with
      | none => exact List.Pairwise.nil
      | some s => exact List.pairwise_singleton _ s
    · intro s hs t ht
      obtain ⟨ht, hnew⟩ := List.mem_filter.1 ht
      have haccepted := (mem_symbols_iff.1 ht).2
      have hunmentioned : ¬ t.firstMention names < names.length := by
        intro hlt
        have hmem : t ∈ f.symbols names :=
          mem_symbols_iff.2 ⟨Symbol.firstMention_lt_iff.1 hlt, haccepted⟩
        simp [hmem] at hnew
      calc s.firstMention (names ++ [name])
          = s.firstMention names := Symbol.firstMention_append _ (hmentioned s hs)
        _ < names.length := hmentioned s hs
        _ ≤ t.firstMention (names ++ [name]) := Symbol.le_firstMention_append _ hunmentioned

theorem nodup_symbols (f : QuoteFilter) (names : List String) : (f.symbols names).Nodup :=
  (pairwise_symbols f names).imp fun hlt => ne_of_apply_ne (·.firstMention names) (Nat.ne_of_lt hlt)

theorem drawn (asset : String) (mode : QuoteMode) (names : List String) :
    Drawn asset mode names ((ofAsset asset mode).symbols names) :=
  ⟨nodup_symbols _ names, fun _ => mem_symbols_iff.trans (and_congr_right' accepts_iff),
    pairwise_symbols _ names⟩

theorem symbols_names (f : QuoteFilter) (names : List String) :
    f.symbols ((f.symbols names).map (·.name)) = f.symbols names := by
  have hname : Symbol.ofString? ∘ (·.name) = some := by
    funext s
    rw [Function.comp_apply, Symbol.ofString?_name]
  have hsame : ((f.symbols names).map (·.name)).filterMap Symbol.ofString? = f.symbols names := by
    rw [List.filterMap_map, hname, List.filterMap_some]
  have haccepted : (f.symbols names).filter f.accepts = f.symbols names :=
    List.filter_eq_self.2 fun s hs => (mem_symbols_iff.1 hs).2
  rw [symbols, hsame, haccepted, eraseDups_of_nodup (nodup_symbols f names)]

/-- A filter that accepts less leaves symbols out, and does not move the others. -/
theorem symbols_sublist {f f' : QuoteFilter} (h : ∀ s, f.accepts s = true → f'.accepts s = true)
    (names : List String) : (f.symbols names).Sublist (f'.symbols names) := by
  have hstrict : ∀ l : List Symbol,
      l.filter f.accepts = (l.filter f'.accepts).filter f.accepts := by
    intro l
    rw [List.filter_filter]
    refine List.filter_congr fun s _ => ?_
    cases hs : f.accepts s with
    | false => rfl
    | true => rw [h s hs, Bool.and_self]
  rw [symbols, hstrict, eraseDups_filter]
  exact List.filter_sublist

theorem symbols_suffix_sublist (asset : String) (names : List String) :
    ((ofAsset asset .suffix).symbols names).Sublist ((ofAsset asset .contains).symbols names) := by
  refine symbols_sublist (fun s hs => ?_) names
  have hsuffix : (Text.canonical asset).toList <:+ s.name.toList := accepts_iff.1 hs
  exact accepts_iff.2 hsuffix.isInfix

/-- **The universe of a list of names.** It holds the symbols that some name is a spelling of and
that have the asset in its place, each once, in the order of their first mentions. A list that goes
on adds what is new; the names of a universe have that universe; and whoever wants the asset at the
end gets some of the symbols of whoever wants it anywhere, in the same order. -/
theorem drawn_by_first_mention (asset : String) (mode : QuoteMode) :
    (∀ names, Drawn asset mode names ((ofAsset asset mode).symbols names)) ∧
    (∀ xs ys, (ofAsset asset mode).symbols (xs ++ ys) =
      (ofAsset asset mode).symbols xs ++ ((ofAsset asset mode).symbols ys).filter
        fun s => !((ofAsset asset mode).symbols xs).contains s) ∧
    (∀ names, (ofAsset asset mode).symbols (((ofAsset asset mode).symbols names).map (·.name)) =
      (ofAsset asset mode).symbols names) ∧
    (∀ names, ((ofAsset asset .suffix).symbols names).Sublist
      ((ofAsset asset .contains).symbols names)) :=
  ⟨drawn asset mode, symbols_append, symbols_names _, symbols_suffix_sublist asset⟩

example : ((ofAsset " usdt" .contains).symbols
    ["usdtTRY", "btcUSDT", "", "BTCEUR", " BTCUSDT "]).map (·.name) = ["USDTTRY", "BTCUSDT"] := by
  decide +kernel

end QuoteFilter

end CandleRelay
