import SovdConfig.Json.Reader

namespace SovdConfig.Json

/-!
# Typed readers of JSON

A `Decoder α` reads an `α` both from a text and from a value.  Main definitions:

* `Decoder.string`, `Decoder.unsigned`, `Decoder.optional`, `Decoder.list`, `Decoder.variant` — the
  types that occur in settings and in discovery results;
* `Field`, `Decoder.record` — structures whose missing fields take their defaults;
* `Decoder.ofText`, `Decoder.ofValue?` — a whole text, a whole value.

A structure is read from an object, unknown members being skipped, or from a list of its first
fields in order.  Reading a text stops at the first fault of either kind, of its grammar or of its
shape.
-/

/-- How an `α` is read from a text, given the levels of nesting that are left, and from a value. -/
structure Decoder (α : Type) where
  read : Nat → Reader α
  ofValue : Json → Except Mismatch α

namespace Decoder

variable {α β σ : Type}

/-- What is read, passed through a function. -/
def map (f : α → β) (d : Decoder α) : Decoder β where
  read depth cs := (d.read depth cs).map fun (a, rest) => (f a, rest)
  ofValue v := (d.ofValue v).map f

/-- The mismatch of a value of another kind, for a text that starts with it. -/
def otherKind (expected : String) (cs : List Char) : Failure :=
  let isNot (found : Found) (rest : List Char) : Failure :=
    .before (.shape (.kind found expected)) rest
  match cs with
  | [] => .before .endInValue []
  | c :: rest =>
    let scalar {γ : Type} (found : γ → Found) (r : Except Failure (γ × List Char)) : Failure :=
      match r with
      | .ok (a, rest) => isNot (found a) rest
      | .error e => e
    if c = 'n' then
      scalar (fun _ : Unit => .nothing "null") ((readWord ['u', 'l', 'l'] rest).map ((), ·))
    else if c = 't' then
      scalar (fun _ : Unit => .boolean true) ((readWord ['r', 'u', 'e'] rest).map ((), ·))
    else if c = 'f' then
      scalar (fun _ : Unit => .boolean false) ((readWord ['a', 'l', 's', 'e'] rest).map ((), ·))
    else if c = '-' then scalar JsonNumber.found (readNumber true rest)
    else if c.isDigit then scalar JsonNumber.found (readNumber false cs)
    else if c = '"' then scalar Found.string (readString rest)
    else if c = '[' then isNot .sequence cs
    else if c = '\x7b' then isNot .mapping cs
    else .after .expectedValue cs

/-- Any text. -/
def string : Decoder String where
  read _ cs :=
    match skipBlank cs with
    | '"' :: rest => readString rest
    | rest => .error (otherKind "a string" rest)
  ofValue
    | .string s => .ok s
    | v => .error (.kind v.found "a string")

/-- A number from zero to a limit, under the name of its type. -/
def fitUnsigned (limit : Nat) (typeName : String) : JsonNumber → Except Mismatch Nat
  | .integer n =>
    if 0 ≤ n ∧ n ≤ limit then .ok n.toNat
    else .error (.value (.integer (integerText n)) typeName)
  | .double x => .error (.kind (JsonNumber.double x).found typeName)

/-- An integer from zero to a limit, under the name of its type. -/
def unsigned (limit : Nat) (typeName : String) : Decoder Nat where
  read _ cs :=
    let fit : Except Failure (JsonNumber × List Char) → Except Failure (Nat × List Char)
      | .error e => .error e
      | .ok (n, rest) =>
        match fitUnsigned limit typeName n with
        | .ok n => .ok (n, rest)
        | .error m => .error (.before (.shape m) rest)
    match skipBlank cs with
    | [] => .error (.before .endInValue [])
    | c :: rest =>
      if c = '-' then fit (readNumber true rest)
      else if c.isDigit then fit (readNumber false (c :: rest))
      else .error (otherKind typeName (c :: rest))
  ofValue
    | .number n => fitUnsigned limit typeName n
    | v => .error (.kind v.found typeName)

/-- An integer of 16 bits. -/
def word : Decoder UInt16 := (unsigned 65535 "u16").map UInt16.ofNat

/-- An integer of 8 bits. -/
def byte : Decoder UInt8 := (unsigned 255 "u8").map UInt8.ofNat

/-- A value that may be `null`. -/
def optional (d : Decoder α) : Decoder (Option α) where
  read depth cs :=
    match skipBlank cs with
    | 'n' :: rest => (readWord ['u', 'l', 'l'] rest).map fun rest => (none, rest)
    | rest => (d.read depth rest).map fun (a, rest) => (some a, rest)
  ofValue
    | .null => .ok none
    | v => (d.ofValue v).map some

/-- A list of values of one type. -/
def list (d : Decoder α) : Decoder (List α) where
  read depth cs :=
    match skipBlank cs with
    | '[' :: rest =>
      inList depth (fun depth cs => readItems (d.read depth) (cs.length + 1) true cs)
        ('[' :: rest)
    | rest => .error (otherKind "a sequence" rest)
  ofValue
    | .array items => items.mapM d.ofValue
    | v => .error (.kind v.found "a sequence")

/-- The variant of a name. -/
def variantOf (known : List String) (ofName? : String → Option α) (name : String) :
    Except Mismatch α :=
  match ofName? name with
  | some a => .ok a
  | none => .error (.unknownVariant name known)

/-- The empty value that belongs to a variant written as the only member of an object. -/
def readEmpty (cs : List Char) : Except Failure (List Char) :=
  match skipBlank cs with
  | 'n' :: rest => readWord ['u', 'l', 'l'] rest
  | rest => .error (otherKind "unit" rest)

/-- One of several named variants: its name, or an object whose only member has that name and the
    value `null`. -/
def variant (known : List String) (ofName? : String → Option α) : Decoder α where
  read depth cs :=
    let name (cs : List Char) : Except Failure (α × List Char) := do
      let (text, rest) ← readString cs
      match variantOf known ofName? text with
      | .ok a => .ok (a, rest)
      | .error m => .error (.before (.shape m) rest)
    match skipBlank cs with
    | [] => .error (.before .endInValue [])
    | c :: rest =>
      if c = '"' then name rest
      else if c = '\x7b' then
        if depth ≤ 1 then .error (.after .tooDeep (c :: rest))
        else
          match skipBlank rest with
          | '"' :: rest => do
            let (a, rest) ← name rest
            let rest ← readColon rest
            let rest ← readEmpty rest
            match skipBlank rest with
            | [] => .error (.before .endInObject [])
            | c :: rest =>
              if c = '\x7d' then .ok (a, rest) else .error (.before .expectedValue (c :: rest))
          | rest => .error (otherKind "variant identifier" rest)
      else .error (.after .expectedValue (c :: rest))
  ofValue
    | .string s => variantOf known ofName? s
    | .object [(name, v)] => do
      let a ← variantOf known ofName? name
      match v with
      | .null => .ok a
      | v => .error (.kind v.found "unit")
    | .object _ => .error (.value .mapping "map with a single key")
    | v => .error (.kind v.found "string or map")

/-- A field of a structure: its name, and how it is read into the structure. -/
structure Field (σ : Type) where
  name : String
  update : Decoder (σ → σ)

/-- A field of the given type. -/
def field (name : String) (d : Decoder α) (set : α → σ → σ) : Field σ :=
  ⟨name, d.map set⟩

/-- The members of an object as updates of a structure.  A name that was seen before is refused
    as soon as it is read. -/
def readFields (fields : List (Field σ)) (depth : Nat) :
    Nat → List String → σ → Reader σ
  | 0, _, _, cs => .error (.before .expectedObjectEnd cs)
  | fuel + 1, seen, s, cs => do
    match ← nextName seen.isEmpty cs with
    | none => return (s, cs)
    | some cs =>
      let (name, rest) ← readString cs
      match fields.find? (·.name = name) with
      | none =>
        -- a member without a field is passed over, however often it occurs
        let rest ← readColon rest
        let rest ← skipValue rest
        readFields fields depth fuel (name :: seen) s rest
      | some f =>
        if name ∈ seen then .error (.unplaced (.duplicateField name) rest)
        else
          let rest ← readColon rest
          let (update, rest) ← f.update.read depth rest
          readFields fields depth fuel (name :: seen) (update s) rest

/-- The first items of a list as updates of a structure, field by field. -/
def readTuple (depth : Nat) : List (Field σ) → Bool → σ → Reader σ
  | [], _, s, cs => .ok (s, cs)
  | f :: fields, isFirst, s, cs => do
    match ← nextItem isFirst cs with
    | none => return (s, cs)
    | some cs =>
      let (update, rest) ← f.update.read depth cs
      readTuple depth fields false (update s) rest

/-- The members of an object value as updates of a structure. -/
def foldFields (fields : List (Field σ)) : List (String × Json) → σ → Except Mismatch σ
  | [], s => .ok s
  | (name, v) :: rest, s =>
    match fields.find? (·.name = name) with
    | none => foldFields fields rest s
    | some f => do
      let update ← f.update.ofValue v
      foldFields fields rest (update s)

/-- The items of a list value as updates of a structure. -/
def foldTuple : List (Field σ) → List Json → σ → Except Mismatch σ
  | f :: fields, v :: rest, s => do
    let update ← f.update.ofValue v
    foldTuple fields rest (update s)
  | _, _, s => .ok s

/-- A structure that starts from its default. -/
def record (typeName : String) (fields : List (Field σ)) (default : σ) : Decoder σ where
  read depth cs :=
    match skipBlank cs with
    | [] => .error (.before .endInValue [])
    | c :: rest =>
      if c = '[' then inList depth (fun depth => readTuple depth fields true default) (c :: rest)
      else if c = '\x7b' then
        inObject depth (fun depth cs => readFields fields depth (cs.length + 1) [] default cs)
          (c :: rest)
      else .error (otherKind ("struct " ++ typeName) (c :: rest))
  ofValue
    | .array items => do
      let s ← foldTuple fields items default
      if items.length ≤ fields.length then .ok s
      else .error (.length items.length "fewer elements in array")
    | .object members => foldFields fields members default
    | v => .error (.kind v.found ("struct " ++ typeName))

/-- What a whole text holds. -/
def ofText (d : Decoder α) (text : String) : Except TextError α := readAll d.read text

/-- What a value holds; a missing value holds the default. -/
def ofValue? (d : Decoder α) (default : α) (value : Json) : Except Mismatch α :=
  match value with
  | .null => .ok default
  | v => d.ofValue v

end Decoder

end SovdConfig.Json
