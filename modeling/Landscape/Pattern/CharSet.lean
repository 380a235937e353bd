import Landscape.Text.Fold
import Landscape.Text.Property

namespace Landscape

/-!
# Sets of characters

A set is an expression over ranges, general categories and properties. Membership is read
off the expression, so complements and case variants cost nothing to form.
-/

open Text

inductive CharSet where
  | ranges (rs : Ranges)
  | categories (ks : List Category)
  | property (p : Property)
  | union (s t : CharSet)
  | inter (s t : CharSet)
  | diff (s t : CharSet)
  | symmDiff (s t : CharSet)
  | compl (s : CharSet)
  /-- All case variants of the members. -/
  | fold (s : CharSet)
  /-- The members and, of ASCII letters, their other case. -/
  | foldAscii (s : CharSet)
  deriving DecidableEq

namespace CharSet

/-- The other case of an ASCII letter. -/
def swapAscii (c : Char) : Char :=
  if 'a' ≤ c && c ≤ 'z' then Char.ofNat (c.toNat - 32)
  else if 'A' ≤ c && c ≤ 'Z' then Char.ofNat (c.toNat + 32)
  else c

def mem : CharSet → Char → Bool
  | ranges rs, c => rs.contains c.toNat
  | categories ks, c => ks.any fun k => k.contains c.toNat
  | property p, c => p.contains c.toNat
  | union s t, c => s.mem c || t.mem c
  | inter s t, c => s.mem c && t.mem c
  | diff s t, c => s.mem c && !t.mem c
  | symmDiff s t, c => s.mem c != t.mem c
  | compl s, c => !s.mem c
  | fold s, c => (caseVariants c).any fun d => s.mem d
  | foldAscii s, c => s.mem c || s.mem (swapAscii c)

def empty : CharSet := ranges []

def ofText (s : String) : CharSet := ranges (Ranges.ofText s)

def unions : List CharSet → CharSet
  | [] => empty
  | s :: ss => union s (unions ss)

def single (c : Char) : CharSet := ranges [(c.toNat, c.toNat)]

def span (lo hi : Char) : CharSet := ranges [(lo.toNat, hi.toNat)]

/-- Every character but a line feed. -/
def notLineFeed : CharSet := compl (single '\n')

def any : CharSet := compl empty

def asciiWord : CharSet := ranges [(0x30, 0x39), (0x41, 0x5A), (0x5F, 0x5F), (0x61, 0x7A)]

/-- Letters, marks, digits, connectors and joiners. -/
def word : CharSet :=
  union asciiWord
    (union (property Property.alphabetic)
      (union (categories (.decimalNumber :: .connectorPunctuation :: Category.mark))
        (property Property.joinControl)))

def digit : CharSet := categories [.decimalNumber]

def space : CharSet := property Property.whiteSpace

@[simp] theorem mem_empty (c : Char) : empty.mem c = false := rfl

@[simp] theorem mem_any (c : Char) : any.mem c = true := rfl

@[simp] theorem mem_single (c d : Char) : (single c).mem d = true ↔ d = c := by
  simp only [single, mem, Ranges.contains, List.any_cons, List.any_nil, Bool.or_false,
    Bool.and_eq_true, decide_eq_true_eq]
  constructor
  · intro h
    exact Char.toNat_inj.mp (by omega)
  · rintro rfl
    exact ⟨Nat.le_refl _, Nat.le_refl _⟩

@[simp] theorem mem_compl (s : CharSet) (c : Char) : (compl s).mem c = !s.mem c := rfl

@[simp] theorem mem_union (s t : CharSet) (c : Char) : (union s t).mem c = (s.mem c || t.mem c) :=
  rfl

@[simp] theorem mem_unions (ss : List CharSet) (c : Char) :
    (unions ss).mem c = ss.any fun s => s.mem c := by
  induction ss with
  | nil => rfl
  | cons s ss ih => simp only [unions, mem_union, ih, List.any_cons]

theorem mem_fold (s : CharSet) (c : Char) :
    (fold s).mem c = true ↔ ∃ d ∈ caseVariants c, s.mem d = true := List.any_eq_true

end CharSet

end Landscape
