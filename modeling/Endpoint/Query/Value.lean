import Endpoint.Number.Binary

/-!
Values of a query: how each is written, and whether it is the default of its type.
-/

namespace Endpoint.Query

/-- A kind of whole numbers: with or without sign, of a number of bits. -/
structure Width where
  signed : Bool
  bits : Nat
deriving DecidableEq, Repr

def Width.least (width : Width) : Int :=
  if width.signed then -(Int.ofNat (Nat.pow 2 (width.bits - 1))) else 0

def Width.greatest (width : Width) : Int :=
  Int.ofNat (Nat.pow 2 (if width.signed then width.bits - 1 else width.bits)) - 1

/-- The number that the text names: digits behind an optional sign, within the bounds; a minus
sign only for numbers with a sign. -/
def Width.read? (width : Width) (text : String) : Option Int := do
  let (negative, digits) := Number.takeSign text.toList
  if !Number.areDigits digits then failure
  if text.startsWith "-" && !width.signed then failure
  let value : Int := Number.digitsValue digits
  let value := if negative then -value else value
  if width.least ≤ value && value ≤ width.greatest then some value else none

inductive Value
  | text (value : String)
  | bool (value : Bool)
  | char (value : Char)
  | whole (value : Int)
  | real (format : Number.Format) (value : Number.Binary)
  | absent
  | present (value : Value)
  | reference (value : Value)
  | list (items : List Value)

mutual

/-- The value as written, or nothing for a null. Nulls in a list are left out. -/
def Value.rendered : Value → Option String
  | .text value => some value
  | .bool value => some (if value then "true" else "false")
  | .char value => some value.toString
  | .whole value => some (toString value)
  | .real format value => some (format.show value)
  | .absent => none
  | .present value => value.rendered
  | .reference value => value.rendered
  | .list items => some (",".intercalate (renderedItems items))

def renderedItems : List Value → List String
  | [] => []
  | item :: rest =>
    match item.rendered with
    | some text => text :: renderedItems rest
    | none => renderedItems rest

end

/-- Whether the value is the default of its type; a null and an empty list are. -/
def Value.isDefault : Value → Bool
  | .text value => value.isEmpty
  | .bool value => !value
  | .char value => value.toNat == 0
  | .whole value => value == 0
  | .real _ value => value.isZero
  | .absent => true
  | .present value => value.isDefault
  | .reference value => value.isDefault
  | .list items => items.isEmpty

/-! ### Scalars by the name of their type -/

/-- The kind of whole numbers with the name. -/
def Width.ofName? : String → Option Width
  | "i8" => some ⟨true, 8⟩
  | "i16" => some ⟨true, 16⟩
  | "i32" => some ⟨true, 32⟩
  | "i64" | "isize" => some ⟨true, 64⟩
  | "i128" => some ⟨true, 128⟩
  | "u8" => some ⟨false, 8⟩
  | "u16" => some ⟨false, 16⟩
  | "u32" => some ⟨false, 32⟩
  | "u64" | "usize" => some ⟨false, 64⟩
  | "u128" => some ⟨false, 128⟩
  | _ => none

/-- The value of the named type that the text stands for. -/
def Value.scalar? (type text : String) : Option Value :=
  match type with
  | "str" | "string" => some (.text text)
  | "bool" =>
    if text == "true" then some (.bool true)
    else if text == "false" then some (.bool false) else none
  | "char" =>
    match text.toList with
    | [c] => some (.char c)
    | _ => none
  | "f32" => (Number.single.read? text).map (.real Number.single)
  | "f64" => (Number.double.read? text).map (.real Number.double)
  | _ => ((Width.ofName? type).bind (·.read? text)).map .whole

end Endpoint.Query
