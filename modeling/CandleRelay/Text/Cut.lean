/-!
# Cutting text

A text is cut at every character of a kind. The parts keep their order, and there is one part more
than there are cuts, so that parts may be empty.
-/

namespace CandleRelay.Text

/-- Cuts a text at every character that `here` picks. -/
def cut (here : Char → Bool) : List Char → List (List Char)
  | [] => [[]]
  | c :: rest =>
    if here c then [] :: cut here rest
    else
      match cut here rest with
      | [] => [[c]]
      | part :: parts => (c :: part) :: parts

end CandleRelay.Text
