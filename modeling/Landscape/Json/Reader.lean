import Landscape.Json.Lexeme

namespace Landscape.Json

/-!
# Reading a document

Values nest, so the reader has a budget of steps. Every step but those into an array or an
object takes a character, so twice the length of the text is enough.
-/

def lexemeNode {α : Type} (start : Nat) (r : Except Break (α × Cursor)) (node : Span → α → Node)
    (broken : Break → Node) : Node × Option Cursor :=
  match r with
  | .ok (a, c) => (node ⟨start, c.place⟩ a, some c)
  | .error b => (broken b, none)

def wordNode (c : Cursor) (word rest : List Char) (node : Span → Node) : Node × Option Cursor :=
  lexemeNode c.place ((fun c => ((), c)) <$> readWord (c.place + 1) word rest)
    (fun s _ => node s) (.broken c.place)

/-- The items of an array that were read, the break if the array has one of its own, and the
place after the array if it ends. -/
structure Items where
  items : List Node
  cut : Option Break
  next : Option Cursor

structure Members where
  members : List (MemberKey × Node)
  cut : Option Break
  next : Option Cursor

mutual

/-- Read a value; no place follows one that breaks off. -/
def readValue : Nat → Cursor → Node × Option Cursor
  | 0, c => (.lost (.both ⟨.endInValue, c.place⟩), none)
  | fuel + 1, c =>
      let c := c.skipBlanks
      match c.rest with
      | [] => (.lost (.both ⟨.endInValue, c.place⟩), none)
      | 'n' :: cs => wordNode c ['u', 'l', 'l'] cs .null
      | 't' :: cs => wordNode c ['r', 'u', 'e'] cs (.bool · true)
      | 'f' :: cs => wordNode c ['a', 'l', 's', 'e'] cs (.bool · false)
      | '"' :: cs => lexemeNode c.place (readText ⟨cs, c.place + 1⟩) .text .lost
      | '[' :: cs =>
          let r := readItems fuel true ⟨cs, c.place + 1⟩
          (.array ⟨c.place, (r.next.map Cursor.place).getD c.place⟩ r.items r.cut, r.next)
      | '{' :: cs =>
          let r := readMembers fuel true ⟨cs, c.place + 1⟩
          (.object ⟨c.place, (r.next.map Cursor.place).getD c.place⟩ r.members r.cut, r.next)
      | d :: _ =>
          if d = '-' || (Text.digit? d).isSome then
            lexemeNode c.place (readNumber c) .number (.broken c.place)
          else (.broken c.place (.both (c.peekFailure .valueMissing)), none)

def readItems : Nat → Bool → Cursor → Items
  | 0, _, c => ⟨[], some (.both ⟨.endInList, c.place⟩), none⟩
  | fuel + 1, first, c =>
      let c := c.skipBlanks
      let item (c : Cursor) : Items :=
        match readValue fuel c with
        | (n, none) => ⟨[n], none, none⟩
        | (n, some c) =>
            let r := readItems fuel false c
            { r with items := n :: r.items }
      match c.rest with
      | [] => ⟨[], some (.both ⟨.endInList, c.place⟩), none⟩
      | ']' :: cs => ⟨[], none, some ⟨cs, c.place + 1⟩⟩
      | d :: cs =>
          if first then item c
          else if d = ',' then
            let c := (⟨cs, c.place + 1⟩ : Cursor).skipBlanks
            match c.rest with
            | [] => ⟨[], some (.both ⟨.endInValue, c.place⟩), none⟩
            | ']' :: _ =>
                ⟨[], some ⟨c.peekFailure .trailingComma, c.peekFailure .valueMissing⟩, none⟩
            | _ => item c
          else ⟨[], some (.both (c.peekFailure .listCommaMissing)), none⟩

def readMembers : Nat → Bool → Cursor → Members
  | 0, _, c => ⟨[], some (.both ⟨.endInObject, c.place⟩), none⟩
  | fuel + 1, first, c =>
      let c := c.skipBlanks
      let member (c : Cursor) : Members :=
        match readText ⟨c.rest.tail, c.place + 1⟩ with
        | .error b => ⟨[], some b, none⟩
        | .ok (name, c) =>
            let c := c.skipBlanks
            let key : MemberKey := ⟨name, c.place + if c.rest.head? = some '}' then 1 else 0⟩
            match c.rest with
            | [] => ⟨[(key, .lost (.both ⟨.endInObject, c.place⟩))], none, none⟩
            | ':' :: cs =>
                match readValue fuel ⟨cs, c.place + 1⟩ with
                | (n, none) => ⟨[(key, n)], none, none⟩
                | (n, some c) =>
                    let r := readMembers fuel false c
                    { r with members := (key, n) :: r.members }
            | _ => ⟨[(key, .lost (.both (c.peekFailure .colonMissing)))], none, none⟩
      match c.rest with
      | [] => ⟨[], some (.both ⟨.endInObject, c.place⟩), none⟩
      | '}' :: cs => ⟨[], none, some ⟨cs, c.place + 1⟩⟩
      | d :: cs =>
          if first then
            if d = '"' then member c
            else ⟨[], some (.both (c.peekFailure .keyNotText)), none⟩
          else if d = ',' then
            let c := (⟨cs, c.place + 1⟩ : Cursor).skipBlanks
            match c.rest with
            | [] => ⟨[], some ⟨⟨.endInValue, c.place⟩, ⟨.endInObject, c.place⟩⟩, none⟩
            | '"' :: _ => member c
            | '}' :: _ =>
                ⟨[], some ⟨c.peekFailure .trailingComma, c.peekFailure .keyNotText⟩, none⟩
            | _ => ⟨[], some (.both (c.peekFailure .keyNotText)), none⟩
          else ⟨[], some (.both (c.peekFailure .objectCommaMissing)), none⟩

end

def Document.ofText (s : List Char) : Document :=
  match readValue (2 * s.length + 2) ⟨s, 0⟩ with
  | (n, none) => ⟨n, none⟩
  | (n, some c) =>
      let c := c.skipBlanks
      ⟨n, if c.rest.isEmpty then none else some (c.peekFailure .trailingCharacters)⟩

end Landscape.Json
