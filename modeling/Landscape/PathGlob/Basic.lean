import Landscape.Pattern.Search

namespace Landscape

/-!
# Path globs

A path glob is a list of tokens over the bytes of a path. A path is searched as the text of
its bytes, each as the character of that number, so that the patterns of texts serve here
too. ASCII letters take either case.
-/

namespace PathGlob

inductive Fault where
  | unclosedClass
  | invalidRange (lo hi : Char)
  | unopenedGroup
  | unclosedGroup
  | danglingEscape
  deriving DecidableEq, Repr

def Fault.message : Fault → String
  | unclosedClass => "unclosed character class; missing ']'"
  | invalidRange lo hi => "invalid range; '" ++ lo.toString ++ "' > '" ++ hi.toString ++ "'"
  | unopenedGroup =>
      "unopened alternate group; missing '\x7b' (maybe escape '\x7d' with '[\x7d]'?)"
  | unclosedGroup =>
      "unclosed alternate group; missing '\x7d' (maybe escape '\x7b' with '[\x7b]'?)"
  | danglingEscape => "dangling '\\'"

inductive Token where
  | literal (c : Char)
  /-- One byte that is no slash. -/
  | anyByte
  /-- Any bytes without a slash. -/
  | segment
  /-- Leading directories, or none. -/
  | leadingDirs
  /-- A slash and any bytes. -/
  | trailingPath
  /-- A slash, or directories between two slashes. -/
  | innerDirs
  | byteClass (negated : Bool) (ranges : List (Char × Char))
  | group (alternatives : List (List Token))

end PathGlob

structure PathGlob where
  tokens : List PathGlob.Token

namespace PathGlob

/-! ## Bytes as characters -/

/-- The characters with the numbers of the bytes of `c`. -/
def bytes (c : Char) : List Char := (String.utf8EncodeChar c).map fun b => Char.ofNat b.toNat

def slash : CharSet := .single '/'

def notSlash : CharSet := .compl slash

/-- The bytes of a range: from the last byte of `lo` to the first of `hi`, and the others. -/
def rangeBytes (r : Char × Char) : CharSet :=
  let others (cs : List Char) := CharSet.ranges (cs.map fun b => (b.toNat, b.toNat))
  if r.1 = r.2 then others (bytes r.1)
  else
    match (bytes r.1).getLast?, (bytes r.2).head? with
    | some lo, some hi =>
        .union (.span lo hi) (.union (others (bytes r.1)) (others (bytes r.2)))
    | _, _ => .empty

def classBytes (negated : Bool) (ranges : List (Char × Char)) : CharSet :=
  let s := CharSet.foldAscii (ranges.foldr (fun r s => .union (rangeBytes r) s) .empty)
  if negated then .compl s else s

/-! ## Tokens as patterns -/

namespace Token

mutual

/-- Nothing is written for the token: it is a group of alternatives without content. -/
def isVoid : Token → Bool
  | group alternatives => allVoid alternatives
  | _ => false

def allVoidIn : List Token → Bool
  | [] => true
  | t :: ts => t.isVoid && allVoidIn ts

def allVoid : List (List Token) → Bool
  | [] => true
  | ts :: tss => allVoidIn ts && allVoid tss

end

mutual

/-- The stretches that the token takes. An alternative without content does not count. -/
def pattern : Token → Pattern
  | literal c => .sequence ((bytes c).map fun b => .one (.foldAscii (.single b)))
  | anyByte => .one notSlash
  | segment => .run notSlash
  | leadingDirs =>
      .alt (.times (.one slash) 0 (some 1) false) (.seq (.run .any) (.one slash))
  | trailingPath => .seq (.one slash) (.run .any)
  | innerDirs =>
      .alt (.one slash) (.seq (.one slash) (.seq (.run .any) (.one slash)))
  | byteClass negated ranges => .one (classBytes negated ranges)
  | group alternatives => (choice alternatives).getD .empty

def patternOf : List Token → Pattern
  | [] => .empty
  | t :: ts => .seq t.pattern (patternOf ts)

def choice : List (List Token) → Option Pattern
  | [] => none
  | ts :: tss =>
      if allVoidIn ts then choice tss
      else
        match choice tss with
        | none => some (patternOf ts)
        | some q => some (.alt (patternOf ts) q)

end

end Token

/-- A glob of nothing but leading directories takes every path. -/
def pattern (g : PathGlob) : Pattern :=
  let inner :=
    match g.tokens with
    | [.leadingDirs] => .run .any
    | ts => Token.patternOf ts
  .seq (.place .textStart) (.seq inner (.place .textEnd))

def accepts (g : PathGlob) (path : List Char) : Bool := g.pattern.occursIn (path.flatMap bytes)

end PathGlob

end Landscape
