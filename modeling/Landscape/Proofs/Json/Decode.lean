import Landscape.Json.Decode
import Landscape.Proofs.Graph
import Landscape.Proofs.Json.Reader

namespace Landscape.Json

/-!
# Values restored from documents

A reader restores a value from what was written of it if it gives the value back from every node
that shows the writing. Lists and records are restored if their parts are.
-/

variable {α β : Type}

/-- The value was written as `w`, and the reader gives it back. -/
structure Decoder.Restores (d : Decoder α) (w : Value) (a : α) : Prop where
  plain : w.Plain
  decode : ∀ {n : Node}, n.Shows w → d n = .ok a

namespace Decoder

theorem ofText_toText {d : Decoder α} {w : Value} {a : α} (h : d.Restores w a) :
    d.ofText w.toText.toList = .ok a := by
  obtain ⟨n, hshows, hdoc⟩ := h.plain.exists_document
  unfold ofText
  rw [hdoc]
  simp only [h.decode hshows]

/-- Every value is read from what is written of it: from its text, and from any other text that
holds the same. -/
def Inverts (d : Decoder α) (write : α → Value) : Prop :=
  ∀ a, d.ofText (write a).toText.toList = .ok a ∧ ∀ n : Node, n.Shows (write a) → d n = .ok a

theorem inverts_of_restores {d : Decoder α} {write : α → Value}
    (h : ∀ a, d.Restores (write a) a) : d.Inverts write :=
  fun a => ⟨ofText_toText (h a), fun _ => (h a).decode⟩

/-! ## Values without parts -/

theorem restores_string (s : String) : string.Restores (.text s) s where
  plain := .text s
  decode h := by
    cases h
    rfl

theorem restores_bool (b : Bool) : bool.Restores (.bool b) b where
  plain := .bool b
  decode h := by
    cases h
    rfl

theorem restores_natural {limit n : Nat} (expected : String) (hn : n < limit)
    (hword : limit ≤ Literal.wordLimit) : (natural limit expected).Restores (.nat n) n where
  plain := .nat (Nat.lt_of_lt_of_le hn hword)
  decode h := by
    cases h with
    | natural h => simp [natural, h, hn]

theorem restores_variant {variants : List (String × α)} {name : String} {a : α}
    (h : variants.lookup name = some a) : (variant variants).Restores (.text name) a where
  plain := .text name
  decode hn := by
    cases hn
    exact (bind_eq_of_eq_ok rfl).trans (by rw [variantOf, h])

theorem restores_optional {d : Decoder α} {w : Value} {a : α} (h : d.Restores w a)
    (hw : w ≠ .null) : (optional d).Restores w (some a) where
  plain := h.plain
  decode {n} hn := by
    have hd := h.decode hn
    unfold optional
    split
    · cases hn
      exact absurd rfl hw
    · rw [hd]
      rfl

/-! ## Lists, sets and maps -/

theorem mapM_eq_ok {d : Decoder α} {write : α → Value} {as : List α} {ns : List Node}
    (hns : List.Forall₂ Node.Shows ns (as.map write)) (h : ∀ a ∈ as, d.Restores (write a) a) :
    ns.mapM d = .ok as := by
  induction as generalizing ns with
  | nil =>
      cases hns
      rfl
  | cons a as ih =>
      cases hns with
      | cons hn hns =>
          rw [List.mapM_cons, bind_eq_of_eq_ok ((h a List.mem_cons_self).decode hn),
            bind_eq_of_eq_ok (ih hns fun b hb => h b (List.mem_cons_of_mem a hb))]
          rfl

theorem restores_list {d : Decoder α} {write : α → Value} {as : List α}
    (h : ∀ a ∈ as, d.Restores (write a) a) : (list d).Restores (.list (as.map write)) as where
  plain := .list fun w hw => by
    obtain ⟨a, ha, rfl⟩ := List.mem_map.mp hw
    exact (h a ha).plain
  decode hn := by
    cases hn with
    | list hns =>
        exact bind_eq_of_eq_ok (mapM_eq_ok hns h)

theorem restores_textSet (s : OrderedSet String) :
    textSet.Restores (.list (s.toList.map .text)) s where
  plain := (restores_list fun t _ => restores_string t).plain
  decode hn := by
    unfold textSet
    rw [(restores_list fun t _ => restores_string t).decode hn]
    exact congrArg Except.ok (OrderedSet.ofList_toList s)

theorem mapM_texts_eq_ok {es : List (String × String)} {ns : List (MemberKey × Node)}
    (h : MembersShow ns (es.map fun e => (e.1, .text e.2))) :
    (ns.mapM fun m => do return (← m.1.name, ← string m.2)) = Except.ok es := by
  induction es generalizing ns with
  | nil =>
      cases h
      rfl
  | cons e es ih =>
      cases h with
      | cons hkey hn h =>
          rw [List.mapM_cons, hkey, (restores_string e.2).decode hn]
          exact (bind_eq_of_eq_ok (ih h)).trans rfl

theorem restores_textMap (m : Map String String) : textMap.Restores (.ofTexts m.entries) m where
  plain := .object fun e he => by
    obtain ⟨e, -, rfl⟩ := List.mem_map.mp he
    exact .text e.2
  decode hn := by
    cases hn with
    | object h =>
        refine (bind_eq_of_eq_ok (mapM_texts_eq_ok h)).trans ?_
        exact congrArg Except.ok (Map.ofList_entries m)

end Decoder

/-! ## Members -/

namespace Members

/-- The members are found under their names, and nothing else is. -/
def View.Shows (v : View) (ms : List (String × Value)) : Prop :=
  ∀ k name, Option.Rel (fun e w => e.2.Shows w) (v.find k name) (ms.lookup name)

theorem rel_find? {ns : List (MemberKey × Node)} {ms : List (String × Value)}
    (h : MembersShow ns ms) (name : String) (rank : Nat) :
    Option.Rel (fun e w => e.2.Shows w) (find? name rank ns) (ms.lookup name) := by
  induction ms generalizing ns rank with
  | nil =>
      cases h
      exact .none
  | cons m ms ih =>
      cases h with
      | @cons key n k v ns _ hkey hn h =>
          simp only [find?, hkey, List.lookup_cons]
          by_cases hname : name = k
          · simp only [hname, if_true, beq_self_eq_true]
            exact .some hn
          · simp only [Ne.symm hname, if_false, beq_eq_false_iff_ne.mpr hname]
            exact ih h (rank + 1)

/-- Members with different names that are all known have no fault. -/
theorem fault?_eq_none {kind : RecordKind} {names : List String} {ns : List (MemberKey × Node)}
    {ms : List (String × Value)} (h : MembersShow ns ms) (hknown : ∀ m ∈ ms, m.1 ∈ names)
    (hnodup : (ms.map (·.1)).Nodup) (rank : Nat) {seen : List String}
    (hseen : ∀ m ∈ ms, m.1 ∉ seen) : fault? kind names rank seen ns = none := by
  induction ms generalizing ns rank seen with
  | nil =>
      cases h
      rfl
  | cons m ms ih =>
      cases h with
      | @cons key n k v ns _ hkey hn h =>
          obtain ⟨hk, hms⟩ := List.nodup_cons.mp hnodup
          have hname := hknown _ List.mem_cons_self
          have hnew := hseen _ List.mem_cons_self
          unfold fault?
          simp only [hkey, List.contains_iff_mem, hname, hnew, if_true, if_false]
          refine ih h (fun m hm => hknown m (List.mem_cons_of_mem _ hm)) hms (rank + 1) ?_
          intro m hm
          rw [List.mem_cons, not_or]
          exact ⟨fun hmk => hk (List.mem_map.mpr ⟨m, hm, hmk⟩),
            hseen m (List.mem_cons_of_mem _ hm)⟩

theorem shows_ofObject {ns : List (MemberKey × Node)} {ms : List (String × Value)}
    (h : MembersShow ns ms) (kind : RecordKind) (names : List String) (stop : Nat) :
    (ofObject kind names stop ns none).Shows ms := by
  intro _ name
  exact rel_find? h name 0

end Members

/-! ## Fields -/

/-- The fields were written as the members `ms`, and are given back from them even when members
with other names stand beside. -/
structure Fields.Restores (f : Fields α) (ms : List (String × Value)) (a : α) : Prop where
  names : (ms.map (·.1)).Sublist f.names
  plain : ∀ m ∈ ms, m.2.Plain
  read : f.names.Nodup → ∀ {all v}, Members.View.Shows v all →
    (∀ name ∈ f.names, all.lookup name = ms.lookup name) → ∀ k, f.read k v = .ok a

namespace Fields

variable {d : Decoder α} {name : String} {w : Value} {a : α}

/-- A field alone is given back from the member that bears its name. -/
theorem restores_member {f : Fields α} (h : d.Restores w a) (hnames : f.names = [name])
    (hread : ∀ {k rank n} {v : Members.View}, v.find k name = some (rank, n) →
      f.read k v = ranked rank (d n)) : f.Restores (Value.member name w) a where
  names := by
    rw [hnames]
    exact List.Sublist.refl [name]
  plain := by simpa [Value.member] using h.plain
  read _ all v hv hall k := by
    have hlookup : all.lookup name = some w := by
      rw [hall name (by simp [hnames])]
      exact List.lookup_cons_self
    have hrel := hv k name
    rw [hlookup] at hrel
    generalize hfind : v.find k name = found at hrel
    cases hrel with
    | some hn =>
        rw [hread hfind, h.decode hn]
        rfl

theorem restores_required (name : String) (h : d.Restores w a) :
    (required name d).Restores (Value.member name w) a :=
  restores_member h rfl fun hfind => by simp [required, hfind]

theorem restores_withDefault (name : String) (h : d.Restores w a) (default : α) :
    (withDefault name default d).Restores (Value.member name w) a :=
  restores_member h rfl fun hfind => by simp [withDefault, hfind]

/-- A value that is left out is the one that stands in for it. -/
theorem restores_default (name : String) (d : Decoder α) (default : α) :
    (withDefault name default d).Restores [] default where
  names := List.nil_sublist _
  plain := by simp
  read _ all v hv hall k := by
    have hlookup : all.lookup name = none := hall name List.mem_cons_self
    have hrel := hv k name
    rw [hlookup] at hrel
    generalize hfind : v.find k name = found at hrel
    cases hrel
    simp [withDefault, hfind]

theorem restores_maybe (name : String) {write : α → Value} (hnull : ∀ a, write a ≠ .null)
    {o : Option α} (h : ∀ a, o = some a → d.Restores (write a) a) :
    (maybe name d).Restores (Value.memberIf name o write) o := by
  cases o with
  | none => exact restores_default name _ none
  | some a => exact restores_withDefault name (Decoder.restores_optional (h a rfl) (hnull a)) none

theorem Restores.map {f : Fields α} {ms : List (String × Value)} (h : f.Restores ms a)
    (g : α → β) : (g <$> f).Restores ms (g a) where
  names := h.names
  plain := h.plain
  read hnodup all v hv hall k := by
    change g <$> f.read k v = _
    rw [h.read hnodup hv hall k]
    rfl

section

variable {ms ms' : List (String × Value)}

theorem lookup_eq_none (h : name ∉ ms.map (·.1)) : ms.lookup name = none := by
  rw [List.lookup_eq_none_iff]
  intro m hm
  rw [bne_iff_ne]
  rintro rfl
  exact h (List.mem_map_of_mem hm)

theorem lookup_append_left (h : name ∉ ms'.map (·.1)) :
    (ms ++ ms').lookup name = ms.lookup name := by
  rw [List.lookup_append, lookup_eq_none h, Option.or_none]

theorem lookup_append_right (h : name ∉ ms.map (·.1)) :
    (ms ++ ms').lookup name = ms'.lookup name := by
  rw [List.lookup_append, lookup_eq_none h, Option.none_or]

theorem Restores.seq {f : Fields (α → β)} {x : Fields α} {g : α → β} (hf : f.Restores ms g)
    (hx : x.Restores ms' a) : (f <*> x).Restores (ms ++ ms') (g a) where
  names := by
    rw [List.map_append]
    exact hf.names.append hx.names
  plain m hm := (List.mem_append.mp hm).elim (hf.plain m) (hx.plain m)
  read hnodup all v hv hall k := by
    have hnames : (f <*> x).names = f.names ++ x.names := rfl
    rw [hnames] at hnodup hall
    obtain ⟨hnodup, hnodup', hne⟩ := List.nodup_append.mp hnodup
    have hfirst : f.read k v = .ok g := by
      refine hf.read hnodup hv (fun name hname => ?_) k
      rw [hall name (List.mem_append_left _ hname), lookup_append_left]
      intro hmem
      exact hne name hname name (hx.names.subset hmem) rfl
    have hsecond : x.read (k + f.names.length) v = .ok a := by
      refine hx.read hnodup' hv (fun name hname => ?_) _
      rw [hall name (List.mem_append_right _ hname), lookup_append_right]
      intro hmem
      exact hne name (hf.names.subset hmem) name hname rfl
    change (both f x).read k v = _
    simp only [both, hfirst, hsecond]

end

end Fields

theorem Decoder.restores_record {f : Fields α} {ms ms' : List (String × Value)} {a : α}
    (kind : RecordKind) (h : f.Restores ms' a) (hnames : f.names.Nodup) (hms : ms = ms') :
    (Fields.record kind f).Restores (.object ms) a := by
  subst hms
  refine ⟨.object h.plain, fun hn => ?_⟩
  cases hn with
  | @object span ns _ hns =>
      have hread : f.read 0 (Members.ofObject kind f.names span.stop ns none) = .ok a :=
        h.read hnames (Members.shows_ofObject hns kind f.names span.stop) (fun _ _ => rfl) 0
      have hfault : (Members.ofObject kind f.names span.stop ns none).fault = none := by
        have hnone : Members.fault? kind f.names 0 [] ns = none := Members.fault?_eq_none hns
          (fun m hm => h.names.subset (List.mem_map_of_mem hm)) (h.names.nodup hnames) 0 (by simp)
        simp [Members.ofObject, hnone]
      change f.readAll _ = _
      unfold Fields.readAll
      simp only [hread, hfault]

end Landscape.Json
