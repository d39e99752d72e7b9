import CandleRelay.Net.Domain.Folding
import CandleRelay.Net.Punycode
import CandleRelay.Text.Joining

/-!
# Labels

The parts of a domain between its dots. A label holds no character that would cut a web address, and
begins with no mark. The two joiners, which are not seen themselves, may stand where they change how
the text around them is written: behind a virama, and the one that parts letters also between two
that would join. A label in Punycode is the one that it decodes to, which has to be one that needs
it and that is in the form of a domain already. Labels outside ASCII, and those in Punycode, have a
greatest length.
-/

namespace CandleRelay.Net

/-- The characters that no domain holds: controls, blanks and those with a meaning around it. -/
def isForbidden (c : Char) : Bool :=
  c.toNat ≤ 0x20 || c.toNat == 0x7F ||
    ['#', '%', '/', ':', '<', '>', '?', '@', '[', '\\', ']', '^', '|'].contains c

namespace Label

/-- The invisible character that parts two letters. -/
def nonJoiner : Char := '\u200C'

/-- The invisible character that joins two letters. -/
def joiner : Char := '\u200D'

/-- Whether a joiner or its opposite may stand between two texts, the first of them read backward.
-/
def joinerFits (c : Char) (before after : List Char) : Bool :=
  let reaches (can : Char → Bool) (cs : List Char) : Bool :=
    (cs.dropWhile Text.isTransparent).head?.any can
  before.head?.any Text.isVirama ||
    (c == nonJoiner && reaches Text.canJoinNext before && reaches Text.canJoinPrevious after)

/-- Whether all joiners of a text fit, which follows the text `before`, read backward. -/
def joinersFit : (before : List Char) → List Char → Bool
  | _, [] => true
  | before, c :: rest =>
    (!(c == nonJoiner || c == joiner) || joinerFits c before rest) && joinersFit (c :: before) rest

/-- Whether a text is in ASCII. -/
def isAscii (cs : List Char) : Bool := cs.all (·.toNat < 0x80)

/-- The greatest length of a label outside ASCII. -/
def greatestLength : Nat := 1000

/-- The greatest length of what stands behind the sign of Punycode. -/
def greatestCodedLength : Nat := 2000

/-- Whether a text in the form of a domain can be a label. -/
def isValid (cs : List Char) : Bool :=
  (cs.length ≤ greatestLength || isAscii cs) && !cs.any isForbidden && !cs.head?.any Text.isMark &&
    joinersFit [] cs

/-- The label that a text in the form of a domain stands for. -/
def ofText? (cs : List Char) : Option (List Char) :=
  match cs with
  | 'x' :: 'n' :: '-' :: '-' :: coded =>
    if greatestCodedLength < coded.length then none
    else
      match Punycode.decode? coded with
      | none => none
      | some label =>
        if !isAscii label && folded? label == some label && isValid label then some label else none
  | cs => if isValid cs then some cs else none

end Label

end CandleRelay.Net
