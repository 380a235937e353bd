import Landscape.Route.Network

namespace Landscape

/-!
# The search for routes

From one root the search goes forward depth first, with a stack of its own. Where it
arrives it records the edges of the path it came by. It records the path too, and does not
go on, where the next edge is already recorded: that edge is known to lead to a goal. A node
is expanded once for each root; the recorded edges pass from one root to the next.
-/

variable {ν : Type} [DecidableEq ν] [Key ν]

/-- An expanded node, the targets of its edges still to be tried, and how many edges the
search may go on for from each. -/
structure Frame (ν : Type) where
  node : ν
  rest : List ν
  budget : Option Nat

/-- A search on its way. The path and the stack begin with the node last reached. -/
structure Search (ν : Type) [DecidableEq ν] [Key ν] where
  recorded : OrderedSet (Edge ν)
  visited : List ν
  path : List ν
  stack : List (Frame ν)

namespace Search

def record (s : Search ν) (path : List ν) : Search ν :=
  { s with recorded := s.recorded.insertAll (Edge.ofPathBack path) }

/-- Arrive at the last node of `path`; `budget` counts the edges that may follow. -/
def enter (net : Network ν) (root : ν) (s : Search ν) (budget : Option Nat) (node : ν)
    (path : List ν) : Search ν :=
  match net.arrive root s.visited budget node with
  | .stuck => s
  | .found => s.record path
  | .expand out =>
      { s with
        visited := node :: s.visited
        path := path
        stack := ⟨node, out, budget.map (· - 1)⟩ :: s.stack }

/-- One turn: try the next edge of the node last reached, or go back if there is none. -/
def turn (net : Network ν) (root : ν) (s : Search ν) : Search ν :=
  match s.stack with
  | [] => s
  | f :: frames =>
      match f.rest with
      | [] => { s with path := s.path.tail, stack := frames }
      | target :: rest =>
          let s := { s with stack := { f with rest := rest } :: frames }
          if s.recorded.contains ⟨f.node, target⟩ then s.record s.path
          else s.enter net root f.budget target (target :: s.path)

/-- The edges still to be tried and the nodes still to be left. -/
def pending (frames : List (Frame ν)) : Nat := frames.foldr (fun f n => f.rest.length + 1 + n) 0

theorem turn_decreases (net : Network ν) (root : ν) (s : Search ν) (h : s.stack ≠ []) :
    Prod.Lex (· < ·) (· < ·)
      ((net.unvisited (s.turn net root).visited).length, pending (s.turn net root).stack)
      ((net.unvisited s.visited).length, pending s.stack) := by
  obtain ⟨recorded, visited, path, stack⟩ := s
  cases stack with
  | nil => exact absurd rfl h
  | cons f frames =>
      obtain ⟨node, rest, budget⟩ := f
      cases rest with
      | nil =>
          apply Prod.Lex.right
          simp [turn, pending]
      | cons target rest =>
          simp only [turn]
          split
          · apply Prod.Lex.right
            simp [record, pending]
          · unfold enter
            split
            · apply Prod.Lex.right
              simp [pending]
            · apply Prod.Lex.right
              simp [record, pending]
            · rename_i out hout
              exact Prod.Lex.left _ _ (Network.length_unvisited_cons_lt hout)

/-- Take turns until every expanded node is left. -/
def run (net : Network ν) (root : ν) (s : Search ν) : Search ν :=
  if _h : s.stack = [] then s else run net root (s.turn net root)
  termination_by ((net.unvisited s.visited).length, pending s.stack)
  decreasing_by exact turn_decreases net root s _h

/-- A search that begins at `root` with the edges recorded so far. -/
def start (net : Network ν) (root : ν) (bound : Option Nat) (recorded : OrderedSet (Edge ν)) :
    Search ν :=
  enter net root ⟨recorded, [], [], []⟩ bound root [root]

end Search

namespace Network

def searchFrom (net : Network ν) (bound : Option Nat) (recorded : OrderedSet (Edge ν)) (root : ν) :
    OrderedSet (Edge ν) :=
  ((Search.start net root bound recorded).run net root).recorded

def searchAll (net : Network ν) (bound : Option Nat) (roots : List ν) : OrderedSet (Edge ν) :=
  roots.foldl (net.searchFrom bound) ∅

end Network

end Landscape
