import TierCascade.Json.Decoder
/-!
# Records

A record is described once by the list of its fields, in the order in which they are declared. It
can be read from an object, whose members may stand in any order and among others that are passed
over, or from an array that holds the fields in their order.
-/

namespace TierCascade

/-- What a field that is not there stands for: nothing, a value if the record is an object, or a
value in any case. -/
inductive Absence (α : Type) where
  | required
  | optional (value : α)
  | default (value : α)

/-- The fields of a record: `σ` holds what was read so far, `β` the values of all fields. -/
inductive Fields : Type → Type → Type 1 where
  | nil : Fields Unit Unit
  | cons {α σ β : Type} (name : String) (decode : Decoder α) (absence : Absence α)
      (rest : Fields σ β) : Fields (Option α × σ) (α × β)

namespace Fields

def start {σ β : Type} : Fields σ β → σ
  | nil => ()
  | cons _ _ _ rest => (none, rest.start)

def count {σ β : Type} : Fields σ β → Nat
  | nil => 0
  | cons _ _ _ rest => rest.count + 1

/-- Reads a member with a name into its field, `none` if there is no such field. A field that was
read before is refused whatever the member holds. -/
def fill? {σ β : Type} (name value : Scan) (title : String) : Fields σ β → σ → Option (Except Fault σ)
  | nil, _ => none
  | cons field decode _ rest, (slot, slots) =>
    if field = title then
      match slot with
      | some _ => some (.error ⟨.repeated title, name.after⟩)
      | none => some ((decode value).map fun a => (some a, slots))
    else (rest.fill? name value title slots).map fun r => r.map fun slots => (slot, slots)

/-- Reads the members of an object into the fields. Members with other names are passed over. -/
def readMembers {σ β : Type} (fields : Fields σ β) : List (Scan × Scan) → σ → Except Fault σ
  | [], slots => .ok slots
  | (name, value) :: rest, slots => do
    let title ← Decoder.memberName name
    match fields.fill? name value title slots with
    | some filled => readMembers fields rest (← filled)
    | none =>
      match value.flaw with
      | some f => .error (value.flawed f)
      | none => readMembers fields rest slots

/-- The values of all fields, once an object has ended. -/
def finish {σ β : Type} : Fields σ β → σ → Except Cause β
  | nil, _ => .ok ()
  | cons name _ absence rest, (slot, slots) => do
    let a ← match slot, absence with
      | some a, _ => .ok a
      | none, .optional a | none, .default a => .ok a
      | none, .required => .error (.missing name)
    return (a, ← rest.finish slots)

/-- Reads the items of an array into the fields; `index` fields are read already, and `node` is the
array. -/
def readItems {σ β : Type} (node : Scan) (expected : String) :
    Fields σ β → Nat → List Scan → Except Fault β
  | nil, _, [] => do
    Decoder.close node
    return ()
  | nil, _, item :: _ => .error ⟨.surplus, item.after⟩
  | cons _ decode _ rest, index, item :: items => do
    let a ← decode item
    return (a, ← rest.readItems node expected (index + 1) items)
  | cons _ _ absence rest, index, [] => do
    Decoder.close node
    match absence with
    | .default a => return (a, ← rest.readItems node expected (index + 1) [])
    | _ => .error ⟨.tooShort index expected, node.after⟩

end Fields

def Decoder.record {σ β γ : Type} (title : String) (fields : Fields σ β) (build : β → γ) : Decoder γ
  | s@(.object members ..) => do
    let slots ← fields.readMembers members fields.start
    close s
    match fields.finish slots with
    | .ok b => return build b
    | .error cause => throw ⟨cause, s.after⟩
  | s@(.array items ..) => do
    let expected := "struct " ++ title ++ " with " ++ toString fields.count ++ " elements"
    return build (← fields.readItems s expected 0 items)
  | s => .error (s.mismatch ("struct " ++ title))

end TierCascade
