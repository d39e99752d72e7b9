import CandleRelay.Json.Value

/-!
# Records

A record with known fields is written as an object or, in the order of its fields, as an array.
In an object the order of the members does not matter, a field may stand once at most, and members
that are no fields are passed over; every key has to stand for a text. In an array fields may be
left out at the end only.
-/

namespace CandleRelay.Json

/-- The members of an object by name; none if a key stands for no text. -/
def named? : List Member → Option (List (String × Doc))
  | [] => some []
  | (k, d) :: rest =>
    match k.text?, named? rest with
    | some name, some rest => some ((name, d) :: rest)
    | _, _ => none

/-- Whether no field stands more than once. -/
def isSingle (fields : List String) (members : List (String × Doc)) : Bool :=
  fields.all fun field => (members.filter (·.1 == field)).length ≤ 1

/-- The members that are fields. -/
def fieldsOf? (fields : List String) (members : List Member) : Option (List (String × Doc)) :=
  match named? members with
  | some ms => if isSingle fields ms then some (ms.filter (fields.contains ·.1)) else none
  | none => none

/-- The members that are no fields, of an object whose keys stand for texts. -/
def othersOf (fields : List String) (members : List Member) : List (String × Doc) :=
  ((named? members).getD []).filter (!fields.contains ·.1)

namespace Doc

/-- The fields of a record, by name. As an array it has `least` items at least. -/
def record? (fields : List String) (least : Nat) : Doc → Option (List (String × Doc))
  | .object members => fieldsOf? fields members
  | .array items =>
    if least ≤ items.length && items.length ≤ fields.length then some (fields.zip items) else none
  | _ => none

/-- Each item of an array through `read`. -/
def items? {α : Type} (read : Doc → Option α) : Doc → Option (List α)
  | .array items => items.mapM read
  | _ => none

end Doc

/-- A field that has to be there. -/
def required? {α : Type} (read : Doc → Option α) (field : String) (r : List (String × Doc)) :
    Option α :=
  (r.lookup field).bind read

/-- A field that may be missing or null. -/
def optional? {α : Type} (read : Doc → Option α) (field : String) (r : List (String × Doc)) :
    Option (Option α) :=
  match r.lookup field with
  | none | some .null => some none
  | some d => (read d).map some

end CandleRelay.Json
