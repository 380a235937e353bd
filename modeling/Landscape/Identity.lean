import Landscape.Ordered.Key
import Landscape.Text.Blank
import Landscape.Text.Numeral

namespace Landscape

/-!
# Identities

Things of each kind are told apart by numbers of 32 bits. The errors here are those of a
landscape whose names or numbers do not fit together.
-/

open Text

inductive Kind where
  | project
  | file
  | repository
  | commit
  | person
  deriving DecidableEq, Repr

def Kind.name : Kind → String
  | project => "project"
  | file => "file"
  | repository => "repository"
  | commit => "commit"
  | person => "person"

structure Id (k : Kind) where
  number : UInt32
  deriving DecidableEq, Repr

abbrev ProjectId := Id .project

abbrev FileId := Id .file

abbrev RepositoryId := Id .repository

abbrev CommitId := Id .commit

abbrev PersonId := Id .person

namespace Id

variable {k : Kind}

def toNat (i : Id k) : Nat := i.number.toNat

def ofNat (n : Nat) : Id k := ⟨UInt32.ofNat n⟩

def toString (i : Id k) : String := Nat.repr i.toNat

/-- How many numbers there are. -/
def count : Nat := UInt32.size

/-- The id that a text writes; blanks at its ends do not count. -/
def ofText (s : List Char) : Except NumeralError (Id k) := ofNat <$> readNumeral count (trim s)

theorem toNat_lt (i : Id k) : i.toNat < count := i.number.toNat_lt

theorem toNat_inj {i j : Id k} : i.toNat = j.toNat ↔ i = j := by
  cases i
  cases j
  simp [toNat, UInt32.toNat_inj]

@[simp] theorem toNat_ofNat {n : Nat} (h : n < count) : (ofNat n : Id k).toNat = n :=
  UInt32.toNat_ofNat_of_lt' h

@[simp] theorem ofNat_toNat (i : Id k) : (ofNat i.toNat : Id k) = i := by
  rw [← toNat_inj, toNat_ofNat i.toNat_lt]

end Id

instance {k : Kind} : Key (Id k) where
  before i j := decide (i.toNat < j.toNat)
  before_irrefl i := decide_eq_false (Nat.lt_irrefl i.toNat)
  before_trans h₁ h₂ :=
    decide_eq_true (Nat.lt_trans (of_decide_eq_true h₁) (of_decide_eq_true h₂))
  eq_of_not_before h₁ h₂ :=
    have hle := Nat.le_of_not_lt (of_decide_eq_false h₂)
    have hge := Nat.le_of_not_lt (of_decide_eq_false h₁)
    Id.toNat_inj.mp (Nat.le_antisymm hle hge)

/-! ## Names and numbers that do not fit -/

inductive IntegrityError where
  | duplicateProject (name : String)
  | duplicateId (kind : Kind) (number : Nat)
  | idsExhausted (kind : Kind)
  | unknownReference (kind : Kind) (number : Nat)
  deriving DecidableEq, Repr

def IntegrityError.message : IntegrityError → String
  | duplicateProject name => "duplicate project name: " ++ name
  | duplicateId kind number => "duplicate " ++ kind.name ++ " id: " ++ Nat.repr number
  | idsExhausted kind => "no " ++ kind.name ++ " id left to assign"
  | unknownReference kind number => "unknown " ++ kind.name ++ " id: " ++ Nat.repr number

end Landscape
