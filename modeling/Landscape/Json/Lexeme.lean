import Landscape.Json.Node
import Landscape.Text.Numeral

namespace Landscape.Json

/-!
# Texts, numbers and words in a document

Each reader here begins behind the place that gave it away and goes on to the end of the
lexeme or to the break.
-/

/-- A place in a document and what follows it. -/
structure Cursor where
  rest : List Char
  place : Nat

namespace Cursor

def isBlank (c : Char) : Bool := c = ' ' || c = '\n' || c = '\t' || c = '\r'

def skipBlanksFrom (place : Nat) : List Char → Cursor
  | [] => ⟨[], place⟩
  | c :: cs => if isBlank c then skipBlanksFrom (place + 1) cs else ⟨c :: cs, place⟩

def skipBlanks (c : Cursor) : Cursor := skipBlanksFrom c.place c.rest

def peek (c : Cursor) : Nat := if c.rest.isEmpty then c.place else c.place + 1

/-- A failure on the next byte. -/
def peekFailure (c : Cursor) (cause : Cause) : Failure := ⟨cause, c.peek⟩

end Cursor

/-! ## Texts -/

/-- A text is a list of characters and of units of sixteen bits, each with the place after it. -/
inductive Piece where
  | plain (c : Char)
  | escaped (c : Char)
  | unit (n : Nat) (after : Nat)

def unescape? : Char → Option Char
  | '"' => some '"'
  | '\\' => some '\\'
  | '/' => some '/'
  | 'b' => some (Char.ofNat 8)
  | 'f' => some (Char.ofNat 12)
  | 'n' => some '\n'
  | 'r' => some '\r'
  | 't' => some '\t'
  | _ => none

def fourDigits? (a b c d : Char) : Option Nat := do
  let a ← Text.hexDigit? a
  let b ← Text.hexDigit? b
  let c ← Text.hexDigit? c
  let d ← Text.hexDigit? d
  return ((a * 16 + b) * 16 + c) * 16 + d

def byteCount (cs : List Char) : Nat := cs.foldr (fun c n => c.utf8Size + n) 0

/-- The failure of digits that do not follow where a unit of sixteen bits begins. -/
def unitFailure (place : Nat) (rest : List Char) : Failure :=
  if byteCount rest < 4 then ⟨.endInText, place + byteCount rest⟩ else ⟨.invalidEscape, place + 4⟩

/-- The pieces of a text behind its opening quote, and the place after its closing one. -/
def pieces (place : Nat) : List Char → List Piece × Except Failure Cursor
  | [] => ([], .error ⟨.endInText, place⟩)
  | '"' :: cs => ([], .ok ⟨cs, place + 1⟩)
  | ['\\'] => ([], .error ⟨.endInText, place + 1⟩)
  | '\\' :: 'u' :: a :: b :: c :: d :: cs =>
      match fourDigits? a b c d with
      | some n =>
          let (ps, r) := pieces (place + 6) cs
          (.unit n (place + 6) :: ps, r)
      | none => ([], .error (unitFailure (place + 2) (a :: b :: c :: d :: cs)))
  | '\\' :: 'u' :: cs => ([], .error (unitFailure (place + 2) cs))
  | '\\' :: c :: cs =>
      match unescape? c with
      | some e =>
          let (ps, r) := pieces (place + 2) cs
          (.escaped e :: ps, r)
      | none => ([], .error ⟨.invalidEscape, place + 2⟩)
  | c :: cs =>
      if c.toNat < 32 then ([], .error ⟨.controlCharacter, place + 1⟩)
      else
        let (ps, r) := pieces (place + c.utf8Size) cs
        (.plain c :: ps, r)

def isHighSurrogate (n : Nat) : Bool := 0xD800 ≤ n && n < 0xDC00

def isLowSurrogate (n : Nat) : Bool := 0xDC00 ≤ n && n < 0xE000

/-- The failure behind a high surrogate at `place`, where the pieces end in `last`. -/
def surrogateEnd (place : Nat) (last : Option Failure) : Failure :=
  match last with
  | none => ⟨.unpairedSurrogate, place + 1⟩
  | some f =>
      match f.cause with
      | .endInText => f
      | .invalidEscape => if f.place = place + 2 then ⟨.unpairedSurrogate, place + 2⟩ else f
      | _ => ⟨.unpairedSurrogate, place + 1⟩

/-- The characters of the pieces; `last` is the failure that they end in. -/
def joinPieces (last : Option Failure) : List Piece → Except Failure (List Char)
  | [] =>
      match last with
      | none => .ok []
      | some f => .error f
  | .plain c :: ps => (c :: ·) <$> joinPieces last ps
  | .escaped c :: ps => (c :: ·) <$> joinPieces last ps
  | .unit n after :: ps =>
      if isLowSurrogate n then .error ⟨.loneSurrogate, after⟩
      else if isHighSurrogate n then
        match ps with
        | [] => .error (surrogateEnd after last)
        | .plain _ :: _ => .error ⟨.unpairedSurrogate, after + 1⟩
        | .escaped _ :: _ => .error ⟨.unpairedSurrogate, after + 2⟩
        | .unit m after' :: ps =>
            if isLowSurrogate m then
              (Char.ofNat (0x10000 + (n - 0xD800) * 0x400 + (m - 0xDC00)) :: ·) <$>
                joinPieces last ps
            else .error ⟨.loneSurrogate, after'⟩
      else (Char.ofNat n :: ·) <$> joinPieces last ps

/-- A text behind its opening quote: its content and the place after it, or the break. -/
def readText (c : Cursor) : Except Break (Except Failure String × Cursor) :=
  match pieces c.place c.rest with
  | (ps, .ok c) => .ok (String.ofList <$> joinPieces none ps, c)
  | (ps, .error f) =>
      match joinPieces (some f) ps with
      | .ok _ => .error (.both f)
      | .error g => .error ⟨g, f⟩

/-! ## Words -/

def readWord (place : Nat) : List Char → List Char → Except Break Cursor
  | [], cs => .ok ⟨cs, place⟩
  | _ :: _, [] => .error (.both ⟨.endInValue, place⟩)
  | w :: ws, c :: cs =>
      if w = c then readWord (place + 1) ws cs else .error (.both ⟨.identMissing, place + 1⟩)

/-! ## Numbers -/

def digitsOf (cs : List Char) : List Nat :=
  (cs.takeWhile fun c => (Text.digit? c).isSome).filterMap Text.digit?

def takeDigits (c : Cursor) : List Nat × Cursor :=
  let ds := digitsOf c.rest
  (ds, ⟨c.rest.drop ds.length, c.place + ds.length⟩)

/-- The break where a digit is missing at the end of the document. -/
def digitAtEnd (place : Nat) : Break := ⟨⟨.endInValue, place⟩, ⟨.invalidNumber, place⟩⟩

def digitMissing (c : Cursor) : Break :=
  if c.rest.isEmpty then digitAtEnd c.place else .both (c.peekFailure .invalidNumber)

/-- The whole part, which has no needless zero. -/
def readWhole (c : Cursor) : Except Break (List Nat × Cursor) :=
  match takeDigits c with
  | ([], _) => .error (digitMissing c)
  | (0 :: _ :: _, _) => .error (.both ⟨.invalidNumber, c.place + 2⟩)
  | r => .ok r

def readFraction (c : Cursor) : Except Break (List Nat × Cursor) :=
  match c.rest with
  | '.' :: cs =>
      match takeDigits ⟨cs, c.place + 1⟩ with
      | ([], c) => .error (digitMissing c)
      | r => .ok r
  | _ => .ok ([], c)

def readExponent (c : Cursor) : Except Break (Option Int × Cursor) :=
  let behindSign (negative : Bool) (c : Cursor) : Except Break (Option Int × Cursor) :=
    match takeDigits c with
    | ([], c) => .error (digitMissing c)
    | (ds, c) =>
        let n : Nat := ds.foldl (fun n d => 10 * n + d) 0
        .ok (some (if negative then -(n : Int) else n), c)
  match c.rest with
  | 'e' :: '-' :: cs | 'E' :: '-' :: cs => behindSign true ⟨cs, c.place + 2⟩
  | 'e' :: '+' :: cs | 'E' :: '+' :: cs => behindSign false ⟨cs, c.place + 2⟩
  | 'e' :: cs | 'E' :: cs => behindSign false ⟨cs, c.place + 1⟩
  | _ => .ok (none, c)

def readNumber (c : Cursor) : Except Break (Literal × Cursor) := do
  let (negative, c) :=
    match c.rest with
    | '-' :: cs => (true, (⟨cs, c.place + 1⟩ : Cursor))
    | _ => (false, c)
  let (whole, c) ← readWhole c
  let (fraction, c) ← readFraction c
  let (exponent, c) ← readExponent c
  return (⟨negative, whole, fraction, exponent.getD 0, fraction.isEmpty && exponent.isNone⟩, c)

end Landscape.Json
