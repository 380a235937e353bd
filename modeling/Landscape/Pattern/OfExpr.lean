import Landscape.Pattern.Break.Grapheme
import Landscape.Pattern.Break.Sentence
import Landscape.Pattern.Break.Word
import Landscape.Pattern.Expr.Reader
import Landscape.Pattern.Footprint
import Landscape.Pattern.Search
import Landscape.Text.Edition
import Landscape.Text.Named

namespace Landscape

/-!
# From expressions to patterns

Flags are carried through the expression from the left; a group restores those in force at
its beginning. Under `ignoreCase` every set is closed under case variants before it is
negated. Without `unicode` only sets within ASCII have a meaning.
-/

open Text

namespace Expr

structure Flags where
  ignoreCase : Bool
  multiLine : Bool
  dotAll : Bool
  unicode : Bool
  anyLine : Bool
  /-- Repetitions are lazy unless they have the mark for it. -/
  swapGreed : Bool
  deriving DecidableEq, Repr

namespace Flags

def start : Flags := ⟨false, false, false, true, false, false⟩

def set (fs : Flags) : Flag → Bool → Flags
  | .ignoreCase, on => { fs with ignoreCase := on }
  | .multiLine, on => { fs with multiLine := on }
  | .dotAll, on => { fs with dotAll := on }
  | .unicode, on => { fs with unicode := on }
  | .anyLine, on => { fs with anyLine := on }
  | .swapGreed, on => { fs with swapGreed := on }
  | .freeSpacing, _ => fs

def change (fs : Flags) (ch : FlagChange) : Flags := ch.foldl (fun fs f => fs.set f.1 f.2) fs

end Flags

/-! ## Properties -/

def CategorySet.ofName? (name : String) : Except PatternError (Option CharSet) :=
  match CategoryName.find? name with
  | none => .ok none
  | some .anyChar => .ok (some .any)
  | some .ascii => .ok (some (.ranges [(0, 0x7F)]))
  | some .assigned => .ok (some (.compl (.categories [.unassigned])))
  | some .surrogate => .error .propertyValueNotFound
  | some (.categories ks) => .ok (some (.categories ks))

def valueSet : Option CharSet → Except PatternError CharSet
  | some s => .ok s
  | none => .error .propertyValueNotFound

/-- The set that a query names. A name alone is that of a property, a category or a script. -/
def PropertyQuery.set (q : PropertyQuery) : Except PatternError CharSet :=
  match q with
  | .named name =>
      let name := looseName name
      match Property.find? name with
      | some p => .ok (.property p)
      | none => do
          match ← CategorySet.ofName? name with
          | some s => .ok s
          | none =>
              match Script.find? name with
              | some s => .ok (.ranges s.ranges)
              | none =>
                  if emptyScriptNames.contains name then .error .propertyValueNotFound
                  else .error .propertyNotFound
  | .valued name value =>
      let name := looseName name
      let value := looseName value
      match name with
      | "gc" | "generalcategory" | "category" => do
          valueSet (← CategorySet.ofName? value)
      | "sc" | "script" =>
          valueSet ((Script.find? value).map fun s => .ranges s.ranges)
      | "scx" | "scriptextensions" =>
          valueSet
            ((Script.find? value).map fun s => .ranges (s.extensions.getD s.ranges))
      | "age" => valueSet ((Edition.through? value).map .ranges)
      | "gcb" | "graphemeclusterbreak" =>
          valueSet ((GraphemeBreak.find? value).map GraphemeBreak.set)
      | "wb" | "wordbreak" => valueSet ((WordBreak.find? value).map WordBreak.set)
      | "sb" | "sentencebreak" =>
          valueSet ((SentenceBreak.find? value).map SentenceBreak.set)
      | name =>
          if (Property.find? name).isSome || otherPropertyNames.contains name then
            .error .propertyValueNotFound
          else .error .propertyNotFound

/-! ## Sets -/

def AsciiClass.set : AsciiClass → CharSet
  | alnum => .ranges [(0x30, 0x39), (0x41, 0x5A), (0x61, 0x7A)]
  | alpha => .ranges [(0x41, 0x5A), (0x61, 0x7A)]
  | ascii => .ranges [(0, 0x7F)]
  | blank => .ranges [(0x9, 0x9), (0x20, 0x20)]
  | cntrl => .ranges [(0, 0x1F), (0x7F, 0x7F)]
  | digit => .ranges [(0x30, 0x39)]
  | graph => .ranges [(0x21, 0x7E)]
  | lower => .ranges [(0x61, 0x7A)]
  | print => .ranges [(0x20, 0x7E)]
  | punct => .ranges [(0x21, 0x2F), (0x3A, 0x40), (0x5B, 0x60), (0x7B, 0x7E)]
  | space => .ranges [(0x9, 0xD), (0x20, 0x20)]
  | upper => .ranges [(0x41, 0x5A)]
  | word => .asciiWord
  | xdigit => .ranges [(0x30, 0x39), (0x41, 0x46), (0x61, 0x66)]

def ShortClass.set (unicode : Bool) : ShortClass → CharSet
  | digit => if unicode then .digit else AsciiClass.digit.set
  | space => if unicode then .space else AsciiClass.space.set
  | word => if unicode then .word else .asciiWord

namespace Flags

/-- The set with the case variants that the flags ask for. -/
def folded (fs : Flags) (s : CharSet) : CharSet :=
  if fs.ignoreCase then (if fs.unicode then .fold s else .foldAscii s) else s

/-- The set or what it leaves out, which passes beyond ASCII. -/
def negate (fs : Flags) (negated : Bool) (s : CharSet) : Except PatternError CharSet :=
  if negated then (if fs.unicode then .ok (.compl s) else .error .invalidUtf8) else .ok s

def shortSet (fs : Flags) (k : ShortClass) (negated : Bool) : Except PatternError CharSet :=
  fs.negate negated (k.set fs.unicode)

def propertySet (fs : Flags) (q : PropertyQuery) (negated : Bool) : Except PatternError CharSet :=
  if fs.unicode then do
    let s ← q.set
    fs.negate negated (fs.folded s)
  else .error .unicodeNotAllowed

def classChar (fs : Flags) (l : Literal) : Except PatternError Char :=
  if fs.unicode || l.char.toNat < 128 then .ok l.char
  else if l.byte && l.char.toNat < 256 then .error .invalidUtf8
  else .error .unicodeNotAllowed

def combine : SetOp → CharSet → CharSet → CharSet
  | .inter => .inter
  | .diff => .diff
  | .symmDiff => .symmDiff

def classSet (fs : Flags) : ClassExpr → Except PatternError CharSet
  | .nothing => .ok .empty
  | .literal l => do return .single (← fs.classChar l)
  | .range lo hi => do return .span (← fs.classChar lo) (← fs.classChar hi)
  | .ascii k negated => fs.negate negated (fs.folded k.set)
  | .short k negated => fs.shortSet k negated
  | .property q negated => fs.propertySet q negated
  | .union a b => do return .union (← fs.classSet a) (← fs.classSet b)
  | .combine op a b => do
      let s ← fs.classSet a
      let t ← fs.classSet b
      return combine op (fs.folded s) (fs.folded t)
  | .bracketed negated a => do fs.negate negated (fs.folded (← fs.classSet a))

/-! ## Expressions -/

def literalPattern (fs : Flags) (l : Literal) : Except PatternError Pattern :=
  if !fs.unicode && l.byte && 128 ≤ l.char.toNat && l.char.toNat < 256 then .error .invalidUtf8
  else .ok (.one (fs.folded (.single l.char)))

def dotSet (fs : Flags) : Except PatternError CharSet :=
  if !fs.unicode then .error .invalidUtf8
  else if fs.dotAll then .ok .any
  else if fs.anyLine then .ok (.compl (.union (.single '\r') (.single '\n')))
  else .ok .notLineFeed

def lineStart (fs : Flags) : Anchor :=
  if fs.multiLine then (if fs.anyLine then .anyLineStart else .lineStart) else .textStart

def lineEnd (fs : Flags) : Anchor :=
  if fs.multiLine then (if fs.anyLine then .anyLineEnd else .lineEnd) else .textEnd

end Flags

/-- The pattern of an expression under the flags before it, and the flags after it. -/
def pattern (fs : Flags) : Expr → Except PatternError (Pattern × Flags)
  | .empty => .ok (.empty, fs)
  | .flags ch => .ok (.empty, fs.change ch)
  | .literal l => do return (← fs.literalPattern l, fs)
  | .dot => do return (.one (← fs.dotSet), fs)
  | .lineStart => .ok (.place fs.lineStart, fs)
  | .lineEnd => .ok (.place fs.lineEnd, fs)
  | .textStart => .ok (.place .textStart, fs)
  | .textEnd => .ok (.place .textEnd, fs)
  | .wordBoundary => .ok (.place (.word .boundary !fs.unicode), fs)
  | .noWordBoundary => .ok (.place (.word .noBoundary !fs.unicode), fs)
  | .wordStart => .ok (.place (.word .start !fs.unicode), fs)
  | .wordEnd => .ok (.place (.word .stop !fs.unicode), fs)
  | .wordStartHalf => .ok (.place (.word .startHalf !fs.unicode), fs)
  | .wordEndHalf => .ok (.place (.word .stopHalf !fs.unicode), fs)
  | .short k negated => do return (.one (← fs.shortSet k negated), fs)
  | .property q negated => do return (.one (← fs.propertySet q negated), fs)
  | .bracketed negated a => do return (.one (← fs.classSet (.bracketed negated a)), fs)
  | .seq a b => do
      let (p, fs) ← pattern fs a
      let (q, fs) ← pattern fs b
      return (.seq p q, fs)
  | .alt a b => do
      let (p, fs) ← pattern fs a
      let (q, fs) ← pattern fs b
      return (.alt p q, fs)
  | .times a least most lazy => do
      let (p, fs) ← pattern fs a
      return (.times p least most (lazy != fs.swapGreed), fs)
  | .group kept ch a => do
      let (p, _) ← pattern (fs.change ch) a
      return (if kept then .group p else p, fs)

end Expr

namespace Pattern

def ofText (s : List Char) : Except PatternError Pattern := do
  let e ← Expr.ofText s
  let (p, _) ← e.pattern .start
  if p.footprint.fits then return p else .error (.tooLarge Footprint.limit)

end Pattern

end Landscape
