import Landscape.Pattern.Expr.Basic
import Landscape.Text.Ranges

namespace Landscape.Expr

/-!
# Spacing and escapes

In free spacing, blank characters and comments stand between the parts of an expression and
mean nothing. An escape is a backslash and what follows it.
-/

open Text

/-- Drop blank characters and comments; `comment` if the text begins inside a comment. -/
def dropSpacing (comment : Bool) : List Char → List Char
  | [] => []
  | c :: cs =>
      if comment then dropSpacing (c ≠ '\n') cs
      else if isBlank c then dropSpacing false cs
      else if c = '#' then dropSpacing true cs
      else c :: cs

/-- The text from the next part on. -/
def skip (free : Bool) (s : List Char) : List Char := if free then dropSpacing false s else s

/-- The longest stretch of characters that satisfy `p`, and the rest; in free spacing,
spacing between them is dropped. -/
def spanParts (free : Bool) (p : Char → Bool) (comment : Bool) :
    List Char → List Char × List Char
  | [] => ([], [])
  | c :: cs =>
      if comment then spanParts free p (c ≠ '\n') cs
      else if free && isBlank c then spanParts free p false cs
      else if free && c = '#' then spanParts free p true cs
      else if p c then
        let (taken, rest) := spanParts free p false cs
        (c :: taken, rest)
      else ([], c :: cs)

/-- The characters that an escape makes stand for themselves. -/
def isMeta (c : Char) : Bool := "\\.+*?()|[]\x7b\x7d^$#&-~".toList.contains c

/-- The characters that may be escaped without need. -/
def isEscapable (c : Char) : Bool :=
  isMeta c || (c.toNat < 128 && !c.isAlphanum && c != '<' && c != '>')

def charOfNat? (n : Nat) : Option Char := if n.isValidChar then some (Char.ofNat n) else none

def hexValue (ds : List Char) : Nat :=
  ds.foldl (fun n d => 16 * n + (Text.hexDigit? d).getD 0) 0

/-- Exactly `n` more hexadecimal digits after the value `v`. -/
def fixedHex (free : Bool) (n v : Nat) (s : List Char) :
    Except PatternError (Nat × List Char) :=
  match n, s with
  | 0, s => .ok (v, s)
  | _ + 1, [] => .error .escapeUnexpectedEnd
  | n + 1, c :: cs =>
      match Text.hexDigit? c with
      | none => .error .escapeHexInvalidDigit
      | some d => fixedHex free n (16 * v + d) (skip free cs)

/-- The character that an escape by number names, after the letter `kind`. -/
def hexEscape (free : Bool) (kind : Char) (s : List Char) :
    Except PatternError (Expr × List Char) :=
  match skip free s with
  | [] => .error .escapeUnexpectedEnd
  | '\x7b' :: cs =>
      let (ds, rest) := spanParts free (· ≠ '\x7d') false cs
      if ds.any fun d => (Text.hexDigit? d).isNone then .error .escapeHexInvalidDigit
      else
        match rest with
        | [] => .error .escapeUnexpectedEnd
        | _ :: rest =>
            if ds.isEmpty then .error .escapeHexEmpty
            else
              match charOfNat? (hexValue ds) with
              | none => .error .escapeHexInvalid
              | some c => .ok (.literal ⟨c, false⟩, rest)
  | cs => do
      let digits := if kind = 'x' then 2 else if kind = 'u' then 4 else 8
      let (v, rest) ← fixedHex free digits 0 cs
      match charOfNat? v with
      | none => .error .escapeHexInvalid
      | some c => .ok (.literal ⟨c, kind = 'x'⟩, rest)

/-- Cut a text at the first place where `mark` stands. -/
def cutAt? (mark : List Char) : List Char → Option (List Char × List Char)
  | [] => (after? mark []).map ([], ·)
  | c :: cs =>
      match after? mark (c :: cs) with
      | some rest => some ([], rest)
      | none => (cutAt? mark cs).map fun (before, rest) => (c :: before, rest)

/-- What a text in braces asks for, and whether for its opposite. -/
def propertyQuery (name : List Char) : PropertyQuery × Bool :=
  match cutAt? ['!', '='] name with
  | some (n, v) => (.valued n v, true)
  | none =>
      match cutAt? [':'] name with
      | some (n, v) => (.valued n v, false)
      | none =>
          match cutAt? ['='] name with
          | some (n, v) => (.valued n v, false)
          | none => (.named name, false)

def propertyEscape (free negated : Bool) (s : List Char) :
    Except PatternError (Expr × List Char) :=
  match skip free s with
  | [] => .error .escapeUnexpectedEnd
  | '\x7b' :: cs =>
      let (name, rest) := spanParts free (· ≠ '\x7d') false cs
      match rest with
      | [] => .error .escapeUnexpectedEnd
      | _ :: rest =>
          let (query, opposite) := propertyQuery name
          .ok (.property query (negated != opposite), rest)
  | '\\' :: _ => .error .propertyInvalid
  | c :: cs => .ok (.property (.named [c]) negated, cs)

def isEdgeNameChar (c : Char) : Bool := c.isAlpha || c = '-'

/-- After a word boundary: an edge named in braces, if the braces hold a name. -/
def wordEdge (free : Bool) (s : List Char) : Except PatternError (Expr × List Char) :=
  match s with
  | '\x7b' :: cs =>
      match skip free cs with
      | [] => .error .wordEdgeUnexpectedEnd
      | c :: _ =>
          if !isEdgeNameChar c then .ok (.wordBoundary, s)
          else
            match spanParts free isEdgeNameChar false cs with
            | (name, '\x7d' :: rest) =>
                match String.ofList name with
                | "start" => .ok (.wordStart, rest)
                | "end" => .ok (.wordEnd, rest)
                | "start-half" => .ok (.wordStartHalf, rest)
                | "end-half" => .ok (.wordEndHalf, rest)
                | _ => .error .wordEdgeUnrecognized
            | _ => .error .wordEdgeUnclosed
  | s => .ok (.wordBoundary, s)

/-- The characters that letters stand for when escaped. -/
def controlLetter? : Char → Option Char
  | 'a' => some '\x07'
  | 'f' => some '\x0C'
  | 't' => some '\t'
  | 'n' => some '\n'
  | 'r' => some '\r'
  | 'v' => some '\x0B'
  | _ => none

def escape (free : Bool) : List Char → Except PatternError (Expr × List Char)
  | [] => .error .escapeUnexpectedEnd
  | c :: cs =>
      if c.isDigit then .error .backreference
      else
        match c with
        | 'x' | 'u' | 'U' => hexEscape free c cs
        | 'p' => propertyEscape free false cs
        | 'P' => propertyEscape free true cs
        | 'd' => .ok (.short .digit false, cs)
        | 's' => .ok (.short .space false, cs)
        | 'w' => .ok (.short .word false, cs)
        | 'D' => .ok (.short .digit true, cs)
        | 'S' => .ok (.short .space true, cs)
        | 'W' => .ok (.short .word true, cs)
        | 'A' => .ok (.textStart, cs)
        | 'z' => .ok (.textEnd, cs)
        | 'b' => wordEdge free cs
        | 'B' => .ok (.noWordBoundary, cs)
        | '<' => .ok (.wordStart, cs)
        | '>' => .ok (.wordEnd, cs)
        | _ =>
            if isEscapable c then .ok (.literal ⟨c, false⟩, cs)
            else
              match controlLetter? c with
              | some d => .ok (.literal ⟨d, false⟩, cs)
              | none => .error .escapeUnrecognized

end Landscape.Expr
