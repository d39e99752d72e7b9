/-!
# Canonical names

Exchange tickers and channel names are compared after one canonicalisation: blanks at both ends
are dropped and ASCII letters are put in upper case. Blanks are the characters with the Unicode
property White_Space; letters outside ASCII keep their case.

`canonical_canonical` says that the canonical form is a fixed point, so a name that comes back
from a client or from the bus stands for the same channel.
-/

namespace CandleRelay.Text

/-- The characters with the Unicode property White_Space. -/
def isBlank (c : Char) : Bool :=
  let n := c.toNat
  (0x9 ≤ n && n ≤ 0xD) || n == 0x20 || n == 0x85 || n == 0xA0 || n == 0x1680 ||
    (0x2000 ≤ n && n ≤ 0x200A) || n == 0x2028 || n == 0x2029 || n == 0x202F || n == 0x205F ||
    n == 0x3000

/-- Drops the blanks at both ends. -/
def trim (cs : List Char) : List Char :=
  ((cs.dropWhile isBlank).reverse.dropWhile isBlank).reverse

/-- The name without the blanks around it, ASCII letters in upper case. -/
def canonical (s : String) : String :=
  String.ofList ((trim s.toList).map Char.toUpper)

/-- ASCII letters in lower case, all else as it stands. -/
def lower (s : String) : String :=
  String.ofList (s.toList.map Char.toLower)

/-- Whether `needle` stands somewhere in the text. -/
def contains (needle : List Char) : List Char → Bool
  | [] => needle.isEmpty
  | c :: rest => needle.isPrefixOf (c :: rest) || contains needle rest

theorem isLower_iff (c : Char) :
    ('a'.val ≤ c.val ∧ c.val ≤ 'z'.val) ↔ (97 ≤ c.toNat ∧ c.toNat ≤ 122) :=
  and_congr UInt32.le_iff_toNat_le UInt32.le_iff_toNat_le

theorem toUpper_of_not_lower {c : Char} (h : ¬ (97 ≤ c.toNat ∧ c.toNat ≤ 122)) : c.toUpper = c := by
  unfold Char.toUpper
  rw [dif_neg (mt (isLower_iff c).1 h)]

theorem toNat_toUpper_of_lower {c : Char} (h : 97 ≤ c.toNat ∧ c.toNat ≤ 122) :
    c.toUpper.toNat = c.toNat - 32 := by
  unfold Char.toUpper
  rw [dif_pos ((isLower_iff c).2 h)]
  have hd : ('A'.val - 'a'.val).toNat = 4294967264 := by decide
  show (c.val + ('A'.val - 'a'.val)).toNat = c.val.toNat - 32
  rw [UInt32.toNat_add, hd]
  have : c.val.toNat = c.toNat := rfl
  omega

theorem toUpper_toUpper (c : Char) : c.toUpper.toUpper = c.toUpper := by
  by_cases h : 97 ≤ c.toNat ∧ c.toNat ≤ 122
  · apply toUpper_of_not_lower
    rw [toNat_toUpper_of_lower h]
    omega
  · rw [toUpper_of_not_lower h, toUpper_of_not_lower h]

theorem isBlank_toUpper (c : Char) : isBlank c.toUpper = isBlank c := by
  by_cases h : 97 ≤ c.toNat ∧ c.toNat ≤ 122
  · have h' := toNat_toUpper_of_lower h
    have lower (n : Nat) (_ : 65 ≤ n ∧ n ≤ 122) : ∀ d : Char, d.toNat = n → isBlank d = false := by
      intro d hd
      simp only [isBlank, hd]
      simp
      omega
    rw [lower _ (by omega) c.toUpper h', lower _ (by omega) c rfl]
  · rw [toUpper_of_not_lower h]

theorem dropWhile_eq_self {p : α → Bool} {l : List α} (h : ∀ a ∈ l.head?, p a = false) :
    l.dropWhile p = l := by
  cases l with
  | nil => rfl
  | cons a t => simp at h; simp [h]

theorem head?_dropWhile {p : α → Bool} (l : List α) : ∀ a ∈ (l.dropWhile p).head?, p a = false := by
  intro a ha
  have := List.head?_dropWhile_not p l
  rw [Option.mem_def.1 ha] at this
  exact this

theorem trim_map_toUpper (cs : List Char) :
    trim (cs.map Char.toUpper) = (trim cs).map Char.toUpper := by
  have : (isBlank ∘ Char.toUpper) = isBlank := funext isBlank_toUpper
  simp only [trim, List.dropWhile_map, ← List.map_reverse, this]

theorem head?_trim (cs : List Char) : ∀ c ∈ (trim cs).head?, isBlank c = false := by
  intro c hc
  have hp : trim cs <+: cs.dropWhile isBlank := by
    rw [trim, ← List.reverse_suffix, List.reverse_reverse]
    exact List.dropWhile_suffix _
  apply head?_dropWhile cs
  cases h : trim cs with
  | nil => simp [h] at hc
  | cons b t =>
    obtain ⟨u, hu⟩ := hp
    rw [h] at hc hu
    simpa [← hu] using hc

theorem getLast?_trim (cs : List Char) : ∀ c ∈ (trim cs).getLast?, isBlank c = false := by
  rw [trim, List.getLast?_reverse]
  exact head?_dropWhile _

theorem trim_eq_self {cs : List Char} (hfirst : ∀ c ∈ cs.head?, isBlank c = false)
    (hlast : ∀ c ∈ cs.getLast?, isBlank c = false) : trim cs = cs := by
  rw [← List.head?_reverse] at hlast
  rw [trim, dropWhile_eq_self hfirst, dropWhile_eq_self hlast, List.reverse_reverse]

theorem trim_trim (cs : List Char) : trim (trim cs) = trim cs :=
  trim_eq_self (head?_trim cs) (getLast?_trim cs)

/-- The canonical form of a canonical name is that name. -/
theorem canonical_canonical (s : String) : canonical (canonical s) = canonical s := by
  simp only [canonical, String.toList_ofList, trim_map_toUpper, trim_trim, List.map_map]
  congr 2
  exact funext toUpper_toUpper

end CandleRelay.Text
