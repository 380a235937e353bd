import Landscape.Catalog.Basic
import Landscape.Proofs.Graph
import Landscape.Query.Participation

namespace Landscape

/-!
# Who took part in what

What is looked up of people is what some commit says: whoever wrote or committed it took part in
its repository and touched its files.
-/

/-- The person wrote or committed the commit. -/
def Commit.By (k : Commit) (x : PersonId) : Prop := x ∈ k.authors ∨ k.committer = some x

/-- The person wrote or committed some commit that touches the file. -/
def Catalog.Touches (c : Catalog) (x : PersonId) (f : FileId) : Prop :=
  ∃ r ∈ c.repositories, ∃ k ∈ r.commits, k.By x ∧ f ∈ k.files

namespace Participation

section

variable {κ α : Type} [DecidableEq κ] [Key κ] [Key α]

@[simp] theorem related_empty (k : κ) : related (∅ : Map κ (OrderedSet α)) k = [] := rfl

theorem mem_related_relate [DecidableEq α] {m : Map κ (OrderedSet α)} {k k' : κ} {a a' : α} :
    a' ∈ related (relate m k a) k' ↔ a' ∈ related m k' ∨ k' = k ∧ a' = a := by
  unfold related relate
  rw [Map.get?_insert]
  by_cases hk : k' = k
  · simp [hk, OrderedSet.mem_toList_iff, or_comm]
  · simp [hk]

end

variable {t : Participation} {repository i : RepositoryId} {k : Commit} {x y : PersonId}
  {f : FileId}

theorem mem_filesOf_addPerson_iff :
    f ∈ related (addPerson repository k t x).filesOf y ↔
      f ∈ related t.filesOf y ∨ y = x ∧ f ∈ k.files := by
  have hfile (t : Participation) (g : FileId) :
      f ∈ related (addFile x t g).filesOf y ↔ f ∈ related t.filesOf y ∨ y = x ∧ f = g :=
    mem_related_relate
  rw [addPerson, foldl_iff (P := fun t : Participation => f ∈ related t.filesOf y) hfile]
  simp [and_comm]

theorem mem_peopleOf_addPerson_iff :
    y ∈ related (addPerson repository k t x).peopleOf f ↔
      y ∈ related t.peopleOf f ∨ y = x ∧ f ∈ k.files := by
  have hfile (t : Participation) (g : FileId) :
      y ∈ related (addFile x t g).peopleOf f ↔ y ∈ related t.peopleOf f ∨ f = g ∧ y = x :=
    mem_related_relate
  rw [addPerson, foldl_iff (P := fun t : Participation => y ∈ related t.peopleOf f) hfile]
  simp [and_comm]

theorem mem_repositoriesOf_addPerson_iff :
    i ∈ related (addPerson repository k t x).repositoriesOf y ↔
      i ∈ related t.repositoriesOf y ∨ y = x ∧ i = repository := by
  have hfile (t : Participation) (g : FileId) :
      i ∈ related (addFile x t g).repositoriesOf y ↔ i ∈ related t.repositoriesOf y ∨ False := by
    rw [or_false]
    rfl
  rw [addPerson, foldl_iff (P := fun t : Participation => i ∈ related t.repositoriesOf y) hfile]
  simp [mem_related_relate]

/-- What each person of each commit adds is all that there is. -/
theorem ofRepositories_iff {P : Participation → Prop}
    {gives : RepositoryId → Commit → PersonId → Prop}
    (hempty : ¬ P empty) (hstep : ∀ i k t x, P (addPerson i k t x) ↔ P t ∨ gives i k x)
    (rs : List Repository) :
    P (ofRepositories rs) ↔ ∃ r ∈ rs, ∃ k ∈ r.commits, ∃ x, k.By x ∧ gives r.id k x := by
  have hcommit (r : Repository) (t : Participation) (k : Commit) :
      P (k.people.foldl (addPerson r.id k) t) ↔ P t ∨ ∃ x ∈ k.people, gives r.id k x :=
    foldl_iff (hstep r.id k) t k.people
  have hrepository (t : Participation) (r : Repository) :
      P (addRepository t r) ↔ P t ∨ ∃ k ∈ r.commits, ∃ x ∈ k.people, gives r.id k x :=
    foldl_iff (hcommit r) t r.commits
  rw [ofRepositories, foldl_iff hrepository]
  simp only [hempty, false_or, Commit.mem_people]
  rfl

end Participation

namespace Catalog

open Participation

variable (c : Catalog) {x : PersonId} {f : FileId} {i : RepositoryId}

theorem mem_filesOf_iff :
    f ∈ related (ofRepositories c.repositories).filesOf x ↔ c.Touches x f := by
  rw [ofRepositories_iff (P := fun t : Participation => f ∈ related t.filesOf x) (by simp [empty])
    fun i k t y => mem_filesOf_addPerson_iff]
  simp [Touches]

theorem mem_peopleOf_iff :
    x ∈ related (ofRepositories c.repositories).peopleOf f ↔ c.Touches x f := by
  rw [ofRepositories_iff (P := fun t : Participation => x ∈ related t.peopleOf f) (by simp [empty])
    fun i k t y => mem_peopleOf_addPerson_iff]
  simp [Touches]

theorem mem_repositoriesOf_iff :
    i ∈ related (ofRepositories c.repositories).repositoriesOf x ↔
      ∃ r ∈ c.repositories, r.id = i ∧ ∃ k ∈ r.commits, k.By x := by
  rw [ofRepositories_iff (P := fun t : Participation => i ∈ related t.repositoriesOf x)
    (by simp [empty]) fun i k t y => mem_repositoriesOf_addPerson_iff]
  constructor
  · rintro ⟨r, hr, k, hk, y, hy, rfl, rfl⟩
    exact ⟨r, hr, rfl, k, hk, hy⟩
  · rintro ⟨r, hr, rfl, k, hk, hx⟩
    exact ⟨r, hr, k, hk, x, hx, rfl, rfl⟩

end Catalog

end Landscape
