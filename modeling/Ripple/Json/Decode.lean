import Ripple.Json.Outline
import Ripple.Text.Shown

/-!
# Decoding JSON

A `Decoder` reads a value of a given type from an outline, from left to right, and reports the
first thing that is wrong: a fault of the text, or a `Mismatch` between what the text says and
what was wanted.

* Records come from objects, whose unknown members are skipped, or from arrays of their fields
  in order.
* A tagged value is an object with one member that says which of several records it is, or an
  array with the tag in front. The whole of it is read before its record is, so its mismatches
  come after its faults.
* A bare name comes from a string, or from an object with that one member, which is `null`.
-/

namespace Ripple.Json

/-- How a text that is JSON differs from what was wanted. -/
inductive Mismatch where
  | wrongType (found : Found) (wanted : String)
  | wrongValue (found : Found) (wanted : String)
  | wrongLength (length : Nat) (wanted : String)
  | unknownVariant (name : String) (known : List String)
  | missingField (name : String)
  | duplicateField (name : String)

/-- Why a text cannot be read. -/
inductive ReadError where
  | fault (fault : Fault)
  | mismatch (mismatch : Mismatch)

/-- A value as a message names it. -/
def Found.text : Found → String
  | .null => "null"
  | .bool b => "boolean \x60" ++ (if b then "true" else "false") ++ "\x60"
  | .integer n => "integer \x60" ++ toString n ++ "\x60"
  | .float f => "floating point \x60" ++ floatLayout.text f ++ "\x60"
  | .string s => "string " ++ Ripple.Text.shown s
  | .array => "sequence"
  | .object => "map"

/-- A name in the quotes that messages use. -/
def quoted (name : String) : String := "\x60" ++ name ++ "\x60"

/-- The names that would have been known. -/
def expectedNames (known : List String) : String :=
  match known with
  | [one] => quoted one
  | [one, other] => quoted one ++ " or " ++ quoted other
  | names => "one of " ++ String.intercalate ", " (names.map quoted)

/-- The wording of a mismatch. -/
def Mismatch.message : Mismatch → String
  | .wrongType found wanted => "invalid type: " ++ found.text ++ ", expected " ++ wanted
  | .wrongValue found wanted => "invalid value: " ++ found.text ++ ", expected " ++ wanted
  | .wrongLength n wanted => "invalid length " ++ toString n ++ ", expected " ++ wanted
  | .unknownVariant name known =>
    "unknown variant " ++ quoted name ++ ", expected " ++ expectedNames known
  | .missingField name => "missing field " ++ quoted name
  | .duplicateField name => "duplicate field " ++ quoted name

/-- Where a decoder stands: how many levels are left to nest in, and whether the value has been
read whole before. -/
structure Place where
  room : Nat
  buffered : Bool

/-- Reads a value from an outline. -/
def Decoder (α : Type) : Type := Place → Outline → Except ReadError α

/-- Reports a fault, if there is one. -/
def noFault : Option Fault → Except ReadError Unit
  | none => .ok ()
  | some fault => .error (.fault fault)

/-- Reports a mismatch. -/
def reject {α : Type} (m : Mismatch) : Except ReadError α := .error (.mismatch m)

/-- Reports that a value is not of the wanted type, unless it is none at all. -/
def wrongType {α : Type} (wanted : String) (o : Outline) : Except ReadError α :=
  match o.found with
  | .ok found => reject (.wrongType found wanted)
  | .error fault => .error (.fault fault)

/-- Enters an array or object. -/
def Place.enter (p : Place) : Except ReadError Place :=
  match p.room with
  | 0 => .error (.fault .malformed)
  | room + 1 => .ok { p with room }

/-- A string of the text, unless it can only be skipped. -/
def Text.read (t : Text) : Except ReadError String :=
  match t.fault with
  | none => .ok t.value
  | some fault => .error (.fault fault)

namespace Decoder

/-! ### Plain values -/

def string : Decoder String := fun _ o =>
  match o with
  | .string t => t.read
  | o => wrongType "a string" o

/-- A natural number of at most 64 bits. -/
def word : Decoder Nat := fun _ o =>
  match o with
  | .number n =>
    match n.value? with
    | some (.natural n) => .ok n
    | some (.negative n) => reject (.wrongValue (.integer (-n)) "usize")
    | some (.float f) => reject (.wrongType (.float f) "usize")
    | none => .error (.fault .malformed)
  | o => wrongType "usize" o

/-- A value that may be absent, as `null`. -/
def optional {α : Type} (d : Decoder α) : Decoder (Option α) := fun p o =>
  match o with
  | .null => .ok none
  | o => (d p o).map some

/-- Reads items in order. -/
def items {α : Type} (d : Decoder α) (p : Place) : List Outline → Except ReadError (List α)
  | [] => .ok []
  | item :: rest => do
    let x ← d p item
    let xs ← items d p rest
    return x :: xs

/-- An array of values of one type. -/
def list {α : Type} (d : Decoder α) : Decoder (List α) := fun p o =>
  match o with
  | .array contents stop => do
    let inner ← p.enter
    let xs ← items d inner contents
    noFault stop.fault?
    return xs
  | o => wrongType "a sequence" o

/-! ### Bare names -/

/-- The value that a name stands for. -/
def lookup {α : Type} (names : List (String × α)) (name : String) : Except ReadError α :=
  match names.find? (·.1 == name) with
  | some (_, x) => .ok x
  | none => reject (.unknownVariant name (names.map (·.1)))

/-- What stands behind the name in an object with one member. -/
def unit : Decoder Unit := fun p o =>
  match o with
  | .null => .ok ()
  | .object [] .closed => if p.buffered then .ok () else wrongType "unit" o
  | o => wrongType "unit" o

/-- How the object around a bare name ends: nothing else may stand in it. -/
def endName : Stop → Except ReadError Unit
  | .closed => .ok ()
  | .ended false => .error (.fault .truncated)
  | _ => .error (.fault .malformed)

/-- A bare name. -/
def name {α : Type} (names : List (String × α)) : Decoder α := fun p o =>
  match o with
  | .string t => do lookup names (← t.read)
  | .object members stop =>
    if p.buffered then
      match members with
      | [(key, value)] => do
        let x ← lookup names (← key.read)
        unit p value
        return x
      | _ => reject (.wrongValue .object "map with a single key")
    else do
      let inner ← p.enter
      match members, stop with
      | [], .notKey (.ok found) => reject (.wrongType found "variant identifier")
      | [], .notKey (.error fault) => .error (.fault fault)
      | [], .badKey fault _ => .error (.fault fault)
      | [], .ended _ => .error (.fault .truncated)
      | [], _ => .error (.fault .malformed)
      | (key, value) :: rest, stop => do
        let x ← lookup names (← key.read)
        unit inner value
        if rest.isEmpty then endName stop else .error (.fault .malformed)
        return x
  | .broken .nothing fault _ | .broken .quote fault _ => .error (.fault fault)
  | o => if p.buffered then wrongType "string or map" o else .error (.fault .malformed)

/-! ### Records -/

/-- One field of a record that is read into a draft of type `σ`. A field that is not `required`
may be missing where the record is an array. -/
structure Field (σ : Type) where
  name : String
  required : Bool
  isSet : σ → Bool
  read : Place → Outline → σ → Except ReadError σ

/-- A field that is read by a decoder and kept in an optional part of the draft. -/
def Field.of {σ α : Type} (name : String) (required : Bool) (d : Decoder α)
    (get : σ → Option α) (set : α → σ → σ) : Field σ :=
  { name, required
    isSet := fun s => (get s).isSome
    read := fun p o s => (d p o).map (set · s) }

/-- How a record is read: its name in messages, its fields in order, the draft with nothing
set, and how a finished draft becomes a value, where what is missing is reported. -/
structure Record (σ α : Type) where
  name : String
  fields : List (Field σ)
  start : σ
  finish : σ → Except ReadError α

/-- A part of a draft that must be present. -/
def need {α : Type} (name : String) : Option α → Except ReadError α
  | some x => .ok x
  | none => reject (.missingField name)

/-- Reads the members of an object into a draft. -/
def members {σ : Type} (fields : List (Field σ)) (p : Place) :
    List (Text × Outline) → σ → Except ReadError σ
  | [], s => .ok s
  | (key, value) :: rest, s => do
    let k ← key.read
    match fields.find? (·.name == k) with
    | some field =>
      if field.isSet s then reject (.duplicateField k)
      else
        let s ← field.read p value s
        members fields p rest s
    | none =>
      noFault value.skipFault?
      members fields p rest s

/-- A count of elements in words. -/
def elements (n : Nat) : String := if n = 1 then "1 element" else toString n ++ " elements"

/-- Reads the items of an array into a draft, field by field, and gives what is left over. -/
def elementwise {σ : Type} (wanted : String) (p : Place) :
    Nat → List (Field σ) → List Outline → Stop → σ → Except ReadError (σ × List Outline)
  | _, [], left, _, s => .ok (s, left)
  | n, field :: fields, [], stop, s => do
    noFault stop.fault?
    if field.required then reject (.wrongLength n wanted)
    else elementwise wanted p (n + 1) fields [] stop s
  | n, field :: fields, item :: left, stop, s => do
    let s ← field.read p item s
    elementwise wanted p (n + 1) fields left stop s

/-- How an array of fields ends, with some items left over. -/
def endElements (p : Place) (count : Nat) (left : List Outline) (stop : Stop) :
    Except ReadError Unit :=
  if p.buffered then
    if left.isEmpty then .ok ()
    else reject (.wrongLength (count + left.length) (elements count ++ " in sequence"))
  else if left.isEmpty then endName stop
  else .error (.fault .malformed)

/-- A record. -/
def record {σ α : Type} (r : Record σ α) : Decoder α := fun p o =>
  match o with
  | .object contents stop => do
    let inner ← p.enter
    let s ← members r.fields inner contents r.start
    noFault stop.fault?
    r.finish s
  | .array contents stop => do
    let inner ← p.enter
    let wanted := "struct " ++ r.name ++ " with " ++ elements r.fields.length
    let (s, left) ← elementwise wanted inner 0 r.fields contents stop r.start
    let x ← r.finish s
    endElements p r.fields.length left stop
    return x
  | o => wrongType ("struct " ++ r.name) o

/-! ### Tagged values -/

/-- The variant that a tag names. In a value that was read whole before, its number in the list
will do as well. -/
def tag {α : Type} (variants : List (String × α)) : Decoder α := fun p o =>
  match o with
  | .string t => do lookup variants (← t.read)
  | .number n =>
    match p.buffered, n.value? with
    | true, some (.natural i) =>
      match variants[i]? with
      | some (_, x) => .ok x
      | none =>
        reject (.wrongValue (.integer i)
          ("variant index 0 <= i < " ++ toString variants.length))
    | _, _ => wrongType "variant identifier" o
  | o => wrongType "variant identifier" o

/-- Splits the members of an object into the tag and the others, which are read whole. -/
def splitTag {α : Type} (tagName : String) (variants : List (String × α)) (p : Place) :
    List (Text × Outline) → Option α → Except ReadError (Option α × List (Text × Outline))
  | [], found => .ok (found, [])
  | (key, value) :: rest, found => do
    let k ← key.read
    if k == tagName then
      if found.isSome then reject (.duplicateField tagName)
      else
        let x ← tag variants p value
        splitTag tagName variants p rest (some x)
    else
      noFault (value.readFault? p.room)
      let (found, others) ← splitTag tagName variants p rest found
      return (found, (key, value) :: others)

/-- A value that is one of several records, as its tag says. -/
def tagged {α : Type} (wanted tagName : String) (variants : List (String × Decoder α)) :
    Decoder α := fun p o =>
  match o with
  | .object contents stop => do
    let inner ← p.enter
    let (found, others) ← splitTag tagName variants inner contents none
    noFault stop.fault?
    match found with
    | none => reject (.missingField tagName)
    | some d => d { p with buffered := true } (.object others .closed)
  | .array contents stop => do
    let inner ← p.enter
    match contents with
    | [] =>
      noFault stop.fault?
      reject (.missingField tagName)
    | first :: others =>
      let d ← tag variants inner first
      noFault (readItems inner.room others)
      noFault stop.fault?
      d { p with buffered := true } (.array others .closed)
  | o => wrongType wanted o

end Decoder

/-- How many levels of arrays and objects a text may have. -/
def nestingLimit : Nat := 127

/-- Reads a text that holds one value and nothing else. -/
def read {α : Type} (d : Decoder α) (text : String) : Except ReadError α := do
  let (o, rest) := Outline.ofText text
  let x ← d ⟨nestingLimit, false⟩ o
  match rest with
  | some rest => if rest.all isBlank then return x else .error (.fault .malformed)
  | none => .error (.fault .malformed)

end Ripple.Json
