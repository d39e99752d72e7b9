import CandleRelay.Text.Direction

/-!
# Order of a label

Where a domain has text from right to left, a reader has to see where each label begins and ends
and in which order its characters come. So each label begins with a letter, runs in the direction of
that letter throughout, and ends with a letter or digit, marks apart; digits of both kinds do not
meet in a label from right to left.
-/

namespace CandleRelay.Net

/-- Whether a character makes a domain one with text from right to left. -/
def isBackward (c : Char) : Bool :=
  match Text.direction c with
  | .right | .arabicDigit => true
  | _ => false

/-- Whether the order of a label's characters can be seen. -/
def isOrdered (label : List Char) : Bool :=
  let run := label.map Text.direction
  let ending := (run.reverse.dropWhile (· == .mark)).headD .neutral
  match run with
  | [] => true
  | .left :: _ =>
    run.all (fun d => d != .right && d != .arabicDigit) &&
      (ending == .left || ending == .europeanDigit)
  | .right :: _ =>
    run.all (· != .left) && ending != .neutral &&
      !(run.contains .europeanDigit && run.contains .arabicDigit)
  | _ => false

/-- Whether the order of all characters in a domain can be seen. -/
def areOrdered (labels : List (List Char)) : Bool :=
  !labels.any (·.any isBackward) || labels.all isOrdered

end CandleRelay.Net
