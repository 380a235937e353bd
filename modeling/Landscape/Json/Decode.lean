import Landscape.Json.Reader
import Landscape.Ordered.Set

namespace Landscape.Json

/-!
# Reading values from a document

A reader takes a node and gives a value or the first failure in the order of the text.
-/

abbrev Decoder (α : Type) := Node → Except Failure α

namespace Node

def mismatch (expected : String) : Node → Failure
  | null a => ⟨.invalidType .null expected, a.stop⟩
  | bool a b => ⟨.invalidType (.bool b) expected, a.stop⟩
  | number a l =>
      match l.number? with
      | some n => ⟨.invalidType n.found expected, a.stop⟩
      | none => ⟨.numberOutOfRange, a.stop⟩
  | text a s =>
      match s with
      | .ok s => ⟨.invalidType (.text s) expected, a.stop⟩
      | .error f => f
  | array a _ _ => ⟨.invalidType .sequence expected, a.start⟩
  | object a _ _ => ⟨.invalidType .map expected, a.start⟩
  | lost b => b.reading
  | broken _ b => b.reading

end Node

namespace Decoder

variable {α : Type}

/-- A number from zero up to `limit`. -/
def natural (limit : Nat) (expected : String) : Decoder Nat
  | .number a l =>
      match l.number? with
      | some (.natural n) =>
          if n < limit then .ok n else .error ⟨.invalidValue (.integer n) expected, a.stop⟩
      | some (.below n) => .error ⟨.invalidValue (.integer (-(n : Int))) expected, a.stop⟩
      | _ => .error (Node.mismatch expected (.number a l))
  | n => .error (n.mismatch expected)

def text (expected : String) : Decoder String
  | .text _ s => s
  | n => .error (n.mismatch expected)

def string : Decoder String := text "a string"

def bool : Decoder Bool
  | .bool _ b => .ok b
  | n => .error (n.mismatch "a boolean")

/-- A value, or `null` for none. -/
def optional (d : Decoder α) : Decoder (Option α)
  | .null _ => .ok none
  | n => some <$> d n

/-- What a list read so far amounts to where it breaks off. -/
def unlessCut {β : Type} (cut : Option Break) (b : β) : Except Failure β :=
  match cut with
  | none => .ok b
  | some k => .error k.reading

def list (d : Decoder α) : Decoder (List α)
  | .array _ items cut => do
      let as ← items.mapM d
      unlessCut cut as
  | n => .error (n.mismatch "a sequence")

def textSet : Decoder (OrderedSet String) := fun n => OrderedSet.ofList <$> list string n

/-- Texts under keys; of two equal keys the later counts. -/
def textMap : Decoder (Map String String)
  | .object _ members cut => do
      let es ← members.mapM fun m => do return (← m.1.name, ← string m.2)
      unlessCut cut (Map.ofList es)
  | n => .error (n.mismatch "a map")

def variantOf (variants : List (String × α)) (name : String) (place : Nat) : Except Failure α :=
  match variants.lookup name with
  | some a => .ok a
  | none => .error ⟨.unknownVariant name (variants.map (·.1)), place⟩

/-- One of several variants: its name, or an object with the name as its one key and `null`
under it. -/
def variant (variants : List (String × α)) : Decoder α
  | .text a s => do variantOf variants (← s) a.stop
  | .object a [] cut =>
      match cut with
      | none => .error ⟨.valueMissing, a.stop⟩
      | some b => .error b.reading
  | .object a ((key, value) :: members) cut => do
      let v ← variantOf variants (← key.name) key.after
      match value with
      | .null _ => pure ()
      | n => throw (n.mismatch "unit")
      if members.isEmpty then
        match cut with
        | none => return v
        | some b => if b.reading.cause = .endInObject then throw b.reading
                    else throw ⟨.valueMissing, b.reading.place⟩
      else throw ⟨.valueMissing, a.start⟩
  | .lost b => .error b.reading
  | n => .error ⟨.valueMissing, n.start + 1⟩

end Decoder

/-! ## Records -/

/-- The members of a record as written: by name in an object, in order in an array. Each has a
rank in the order of the text. -/
structure Members.View where
  find : Nat → String → Option (Nat × Node)
  /-- The failure of a field that is not there, by number and name, and its rank. -/
  absent : Nat → String → Nat × Failure
  /-- The failure of the members whatever the fields are, and its rank. -/
  fault : Option (Nat × Failure)

/-- Fields of a record, which hold a value together. -/
structure Fields (α : Type) where
  names : List String
  /-- Read the fields, of which the first has the given number. A failure comes with its rank. -/
  read : Nat → Members.View → Except (Nat × Failure) α

namespace Fields

variable {α β : Type}

/-- The failure of the smaller rank. -/
def earlier (e f : Nat × Failure) : Nat × Failure := if f.1 < e.1 then f else e

def ranked (rank : Nat) (r : Except Failure α) : Except (Nat × Failure) α :=
  match r with
  | .ok a => .ok a
  | .error f => .error (rank, f)

def required (name : String) (d : Decoder α) : Fields α where
  names := [name]
  read k v :=
    match v.find k name with
    | some (rank, n) => ranked rank (d n)
    | none => .error (v.absent k name)

/-- A field that has a value of its own where it is not there. -/
def withDefault (name : String) (default : α) (d : Decoder α) : Fields α where
  names := [name]
  read k v :=
    match v.find k name with
    | some (rank, n) => ranked rank (d n)
    | none => .ok default

/-- A field that may be missing or `null`. -/
def maybe (name : String) (d : Decoder α) : Fields (Option α) :=
  withDefault name none (Decoder.optional d)

def both (f : Fields (α → β)) (a : Fields α) : Fields β where
  names := f.names ++ a.names
  read k v :=
    match f.read k v, a.read (k + f.names.length) v with
    | .ok f, .ok a => .ok (f a)
    | .error e, .ok _ => .error e
    | .ok _, .error e => .error e
    | .error e, .error e' => .error (earlier e e')

def map (g : α → β) (a : Fields α) : Fields β where
  names := a.names
  read k v := g <$> a.read k v

instance : Functor Fields := ⟨fun g a => map g a, fun b a => map (fun _ => b) a⟩

instance : Seq Fields := ⟨fun f a => both f (a ())⟩

end Fields

/-- A kind of record: its name and whether fields beyond its own are refused. -/
structure RecordKind where
  name : String
  strict : Bool

namespace Members

/-- The first failure among the members that no known field has: a key that is no text, a field
known already or refused, or a member to be skipped that cannot be. -/
def fault? (kind : RecordKind) (names : List String) (rank : Nat) (seen : List String) :
    List (MemberKey × Node) → Option (Nat × Failure)
  | [] => none
  | (key, n) :: ms =>
      match key.name with
      | .error f => some (rank, f)
      | .ok name =>
          if names.contains name then
            if seen.contains name then some (rank, ⟨.duplicateField name, key.after⟩)
            else fault? kind names (rank + 1) (name :: seen) ms
          else if kind.strict then some (rank, ⟨.unknownField name names, key.after⟩)
          else
            match n.skipFailure? with
            | some f => some (rank, f)
            | none => fault? kind names (rank + 1) seen ms

def find? (name : String) (rank : Nat) : List (MemberKey × Node) → Option (Nat × Node)
  | [] => none
  | (key, n) :: ms =>
      match key.name with
      | .ok s => if s = name then some (rank, n) else find? name (rank + 1) ms
      | .error _ => find? name (rank + 1) ms

/-- The members of an object. Fields that are not there come last. -/
def ofObject (kind : RecordKind) (names : List String) (stop : Nat)
    (members : List (MemberKey × Node)) (cut : Option Break) : View where
  find _ name := find? name 0 members
  absent k name := (members.length + 1 + k, ⟨.missingField name, stop⟩)
  fault := (fault? kind names 0 [] members).or (cut.map fun b => (members.length, b.reading))

/-- The failure of an array that goes on behind the last field. -/
def excess? (count : Nat) (items : List Node) (cut : Option Break) : Option Failure :=
  match items.drop count, cut with
  | n :: _, _ => some ⟨.trailingCharacters, n.start + 1⟩
  | [], none => none
  | [], some b =>
      if items.length < count then some b.reading
      else
        match b.reading.cause with
        | .listCommaMissing | .endInValue => some ⟨.trailingCharacters, b.reading.place⟩
        | _ => some b.reading

/-- The items of an array, one for each field in order. -/
def ofArray (kind : RecordKind) (count : Nat) (stop : Nat) (items : List Node)
    (cut : Option Break) : View where
  find k _ := items[k]?.map fun n => (k, n)
  absent k _ := (k, ⟨.invalidLength k kind.name count, stop⟩)
  fault := (excess? count items cut).map fun f => (min count items.length, f)

end Members

namespace Fields

variable {α : Type}

def readAll (fields : Fields α) (v : Members.View) : Except Failure α :=
  match fields.read 0 v, v.fault with
  | .ok a, none => .ok a
  | .ok _, some f => .error f.2
  | .error e, none => .error e.2
  | .error e, some f => .error (earlier f e).2

/-- A record, written as an object or as an array of its fields. -/
def record (kind : RecordKind) (fields : Fields α) : Decoder α
  | .object a members cut =>
      fields.readAll (Members.ofObject kind fields.names a.stop members cut)
  | .array a items cut => fields.readAll (Members.ofArray kind fields.names.length a.stop items cut)
  | n => .error (n.mismatch ("struct " ++ kind.name))

end Fields

def Decoder.ofText {α : Type} (d : Decoder α) (s : List Char) : Except Failure α :=
  let doc := Document.ofText s
  match d doc.root, doc.after with
  | .ok a, none => .ok a
  | .ok _, some f => .error f
  | .error f, _ => .error f

end Landscape.Json
