import Landscape.Pattern.Expr.Class
import Landscape.Text.Property

namespace Landscape.Expr

/-!
# Reading regular expressions

The text is read once from the left. Groups that are still open wait on a stack, each with
the choices and items that stand before it.
-/

open Text

/-- The branches that are complete and the items of the current one, the last first. -/
structure Level where
  branches : List Expr
  items : List Expr

namespace Level

def empty : Level := ⟨[], []⟩

def add (l : Level) (e : Expr) : Level := { l with items := e :: l.items }

def branch (l : Level) : Level := ⟨sequenceOf l.items :: l.branches, []⟩

def close (l : Level) : Expr := choiceOf (sequenceOf l.items :: l.branches)

end Level

/-- A group that is open. -/
structure OpenGroup where
  outer : Level
  kept : Bool
  flags : FlagChange
  outerFree : Bool

structure ReadState where
  level : Level
  groups : List OpenGroup
  free : Bool
  names : List (List Char)

def ReadState.start : ReadState := ⟨.empty, [], false, []⟩

/-! ## Groups -/

def isNameChar (first : Bool) (c : Char) : Bool :=
  c = '_' || Property.alphabetic.contains c.toNat ||
    (!first && (c = '.' || c = '[' || c = ']' ||
      Category.number.any fun k => k.contains c.toNat))

/-- The name of a group up to its closing angle. -/
def groupName (first : Bool) : List Char → Except PatternError (List Char × List Char)
  | [] => .error .groupNameUnexpectedEnd
  | c :: cs =>
      if c = '>' then .ok ([], cs)
      else if isNameChar first c then do
        let (name, rest) ← groupName false cs
        .ok (c :: name, rest)
      else .error .groupNameInvalid

/-- The flags up to the colon or parenthesis that ends them, which stays. `seen` are the flags
already given; `negated` if a hyphen has passed, `dangling` if it came last. -/
def flagList (seen : FlagChange) (negated dangling : Bool) :
    List Char → Except PatternError (FlagChange × List Char)
  | [] => .error .flagUnexpectedEnd
  | c :: cs =>
      if c = ':' || c = ')' then
        if dangling then .error .flagDanglingNegation else .ok (seen.reverse, c :: cs)
      else if c = '-' then
        if negated then .error .flagRepeatedNegation else flagList seen true true cs
      else
        match Flag.ofChar? c with
        | none => .error .flagUnrecognized
        | some f =>
            if seen.any fun g => g.1 = f then .error .flagDuplicate
            else flagList ((f, !negated) :: seen) negated false cs

def freeSpacing (fs : FlagChange) (free : Bool) : Bool :=
  match fs.find? fun f => f.1 = .freeSpacing with
  | some (_, on) => on
  | none => free

def openGroup (st : ReadState) (kept : Bool) (fs : FlagChange) (names : List (List Char)) :
    ReadState :=
  { level := .empty
    groups := ⟨st.level, kept, fs, st.free⟩ :: st.groups
    free := freeSpacing fs st.free
    names := names }

def isLookAround : List Char → Bool
  | '?' :: '=' :: _ | '?' :: '!' :: _ | '?' :: '<' :: '=' :: _ | '?' :: '<' :: '!' :: _ => true
  | _ => false

/-- What begins with an opening parenthesis. -/
def groupStep (st : ReadState) (s : List Char) : Except PatternError (ReadState × List Char) :=
  let s := skip st.free s
  if isLookAround s then .error .lookAround
  else
    let named (cs : List Char) : Except PatternError (ReadState × List Char) := do
      let (name, rest) ← groupName true cs
      if name.isEmpty then .error .groupNameEmpty
      else if st.names.contains name then .error .groupNameDuplicate
      else .ok (openGroup st true [] (name :: st.names), rest)
    match s with
    | '?' :: 'P' :: '<' :: cs => named cs
    | '?' :: '<' :: cs => named cs
    | ['?'] => .error .groupUnclosed
    | '?' :: cs => do
        match ← flagList [] false false cs with
        | ([], ')' :: _) => .error .repetitionMissing
        | (fs, ')' :: rest) =>
            .ok ({ st with level := st.level.add (.flags fs), free := freeSpacing fs st.free },
              rest)
        | (fs, rest) => .ok (openGroup st false fs st.names, rest.drop 1)
    | s => .ok (openGroup st true [] st.names, s)

def closeStep (st : ReadState) (s : List Char) : Except PatternError (ReadState × List Char) :=
  match st.groups with
  | [] => .error .groupUnopened
  | g :: groups =>
      let whole := Expr.group g.kept g.flags st.level.close
      .ok (⟨g.outer.add whole, groups, g.outerFree, st.names⟩, s)

/-! ## Repetitions -/

/-- Take the item that a repetition repeats. -/
def repeated (st : ReadState) : Except PatternError (Expr × ReadState) :=
  match st.level.items with
  | [] => .error .repetitionMissing
  | e :: items =>
      match e with
      | .empty | .flags _ => .error .repetitionMissing
      | e => .ok (e, { st with level := { st.level with items := items } })

/-- Whether the mark of a lazy repetition comes next. -/
def isLazy : List Char → Bool
  | '?' :: _ => true
  | _ => false

def dropMark (c : Char) : List Char → List Char
  | [] => []
  | d :: ds => if d = c then ds else d :: ds

def repeatStep (st : ReadState) (least : Nat) (most : Option Nat) (s : List Char) :
    Except PatternError (ReadState × List Char) := do
  let (e, st) ← repeated st
  .ok ({ st with level := st.level.add (.times e least most (isLazy s)) }, dropMark '?' s)

/-- A decimal number below 2^32, between blanks. -/
def decimal (free : Bool) (s : List Char) : Except PatternError Nat × List Char :=
  let (ds, rest) := spanParts free Char.isDigit false (s.dropWhile isBlank)
  let rest := rest.dropWhile isBlank
  if ds.isEmpty then (.error .repetitionCountEmpty, rest)
  else
    let n := ds.foldl (fun n d => 10 * n + (d.toNat - '0'.toNat)) 0
    if n < UInt32.size then (.ok n, rest) else (.error .decimalInvalid, rest)

/-- The counts in braces; what is wrong with the lower count shows only once the comma or the
closing brace has been seen. -/
def counts (free : Bool) (s : List Char) :
    Except PatternError ((Nat × Option Nat) × List Char) :=
  match skip free s with
  | [] => .error .repetitionCountUnclosed
  | s =>
      let (least, rest) := decimal free s
      match rest with
      | [] => .error .repetitionCountUnclosed
      | ',' :: cs =>
          match skip free cs with
          | [] => .error .repetitionCountUnclosed
          | '\x7d' :: _ => do return ((← least, none), skip free cs)
          | cs => do
              let least ← least
              let (most, rest) := decimal free cs
              return ((least, some (← most)), rest)
      | rest => do
          let n ← least
          return ((n, some n), rest)

def countedStep (st : ReadState) (s : List Char) :
    Except PatternError (ReadState × List Char) := do
  let (e, st) ← repeated st
  let ((least, most), rest) ← counts st.free s
  match rest with
  | '\x7d' :: rest =>
      if most.any (· < least) then .error .repetitionCountInvalid
      else
        let rest := skip st.free rest
        .ok ({ st with level := st.level.add (.times e least most (isLazy rest)) },
          dropMark '?' rest)
  | _ => .error .repetitionCountUnclosed

/-! ## The whole -/

def step (st : ReadState) (c : Char) (cs : List Char) :
    Except PatternError (ReadState × List Char) :=
  let add (e : Expr) (rest : List Char) : Except PatternError (ReadState × List Char) :=
    .ok ({ st with level := st.level.add e }, rest)
  match c with
  | '(' => groupStep st cs
  | ')' => closeStep st cs
  | '|' => .ok ({ st with level := st.level.branch }, cs)
  | '[' => do
      let (e, rest) ← bracketClass st.free cs
      add e rest
  | '?' => repeatStep st 0 (some 1) cs
  | '*' => repeatStep st 0 none cs
  | '+' => repeatStep st 1 none cs
  | '\x7b' => countedStep st cs
  | '\\' => do
      let (e, rest) ← escape st.free cs
      add e rest
  | '.' => add .dot cs
  | '^' => add .lineStart cs
  | '$' => add .lineEnd cs
  | c => add (.literal ⟨c, false⟩) cs

/-- Read on to the end. Each step shortens the text. -/
def readAll (st : ReadState) (s : List Char) : Except PatternError Expr :=
  match skip st.free s with
  | [] => if st.groups.isEmpty then .ok st.level.close else .error .groupUnclosed
  | c :: cs =>
      match step st c cs with
      | .error e => .error e
      | .ok (st, rest) =>
          if rest.length < s.length then readAll st rest else .error .groupUnclosed
termination_by s.length

/-- How deep an expression may be nested. -/
def nestLimit : Nat := 250

def ofText (s : List Char) : Except PatternError Expr := do
  let e ← readAll .start s
  if e.depth .none ≤ nestLimit then .ok e else .error (.nestedTooDeep nestLimit)

end Landscape.Expr
