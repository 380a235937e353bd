import Landscape.Proofs.Json.Lexeme
import Mathlib.Tactic.IntervalCases

namespace Landscape.Json

/-!
# Documents read back

A node shows a value if it has the form and the content of it, wherever it stands. What is
printed of a value is read as a node that shows it. Doubles are left out, and so are numbers
that do not fit a word.
-/

mutual

/-- The node is read from a text of the value. -/
inductive Node.Shows : Node → Value → Prop
  | null {a : Span} : Node.Shows (.null a) .null
  | bool {a : Span} {b : Bool} : Node.Shows (.bool a b) (.bool b)
  | natural {a : Span} {l : Literal} {n : Nat} (h : l.number? = some (.natural n)) :
      Node.Shows (.number a l) (.nat n)
  | text {a : Span} {s : String} : Node.Shows (.text a (.ok s)) (.text s)
  | list {a : Span} {ns : List Node} {vs : List Value} (h : List.Forall₂ Node.Shows ns vs) :
      Node.Shows (.array a ns none) (.list vs)
  | object {a : Span} {ns : List (MemberKey × Node)} {ms : List (String × Value)}
      (h : MembersShow ns ms) : Node.Shows (.object a ns none) (.object ms)

/-- The members are read from those of an object, in the same order. -/
inductive MembersShow : List (MemberKey × Node) → List (String × Value) → Prop
  | nil : MembersShow [] []
  | cons {key : MemberKey} {n : Node} {k : String} {v : Value} {ns : List (MemberKey × Node)}
      {ms : List (String × Value)} (hkey : key.name = .ok k) (hn : Node.Shows n v)
      (h : MembersShow ns ms) : MembersShow ((key, n) :: ns) ((k, v) :: ms)

end

namespace Value

/-- The value has no doubles, and its numbers are from zero up and fit a word. -/
inductive Plain : Value → Prop
  | null : Plain null
  | bool (b : Bool) : Plain (bool b)
  | nat {n : Nat} (h : n < Literal.wordLimit) : Plain (nat n)
  | text (s : String) : Plain (text s)
  | list {vs : List Value} (h : ∀ v ∈ vs, Plain v) : Plain (list vs)
  | object {ms : List (String × Value)} (h : ∀ m ∈ ms, Plain m.2) : Plain (object ms)

/-- What is printed of the value begins one, and is read as a node that shows it. -/
structure ReadsBack (v : Value) : Prop where
  begins : ∀ level, ∃ c cs, v.print level = c :: cs ∧ Cursor.isBlank c = false ∧ c ≠ ']'
  read : ∀ level fuel place {rest}, 2 * (v.print level).length ≤ fuel → Closed rest →
    ∃ n place', n.Shows v ∧
      readValue fuel ⟨v.print level ++ rest, place⟩ = (n, some ⟨rest, place'⟩)

end Value

theorem Value.ReadsBack.length_pos {v : Value} (hv : v.ReadsBack) (level : Nat) :
    0 < (v.print level).length := by
  obtain ⟨c, cs, hbegin, -⟩ := hv.begins level
  rw [hbegin]
  exact Nat.succ_pos _

/-! ## Blanks -/

namespace Cursor

theorem skipBlanks_cons {c : Char} (hc : isBlank c = false) (cs : List Char) (place : Nat) :
    skipBlanks ⟨c :: cs, place⟩ = ⟨c :: cs, place⟩ := by
  simp [skipBlanks, skipBlanksFrom, hc]

theorem skipBlanks_replicate (k : Nat) (cs : List Char) (place : Nat) :
    skipBlanks ⟨List.replicate k ' ' ++ cs, place⟩ = skipBlanks ⟨cs, place + k⟩ := by
  induction k generalizing place with
  | zero => rfl
  | succ k ih =>
      rw [List.replicate_succ, List.cons_append]
      exact (ih (place + 1)).trans (by rw [Nat.add_right_comm]; rfl)

theorem skipBlanks_newLine {c : Char} (hc : isBlank c = false) (level : Nat) (cs : List Char)
    (place : Nat) : skipBlanks ⟨Value.newLine level ++ c :: cs, place⟩ =
      ⟨c :: cs, place + 1 + 2 * level⟩ :=
  (skipBlanks_replicate (2 * level) (c :: cs) (place + 1)).trans (skipBlanks_cons hc cs _)

end Cursor

theorem readValue_blank (fuel : Nat) (cs : List Char) (place : Nat) :
    readValue (fuel + 1) ⟨' ' :: cs, place⟩ = readValue (fuel + 1) ⟨cs, place + 1⟩ := by
  rw [readValue, readValue]
  rfl

namespace Value

theorem closed_newLine (level : Nat) (rest : List Char) : Closed (newLine level ++ rest) :=
  ⟨'\n', _, rfl, Or.inr rfl⟩

theorem closed_printItems (level : Nat) (vs : List Value) {rest : List Char} (h : Closed rest) :
    Closed (printItems level vs ++ rest) := by
  cases vs with
  | nil => exact h
  | cons v vs => exact ⟨',', _, rfl, Or.inl rfl⟩

theorem closed_printMembers (level : Nat) (ms : List (String × Value)) {rest : List Char}
    (h : Closed rest) : Closed (printMembers level ms ++ rest) := by
  cases ms with
  | nil => exact h
  | cons m ms => exact ⟨',', _, rfl, Or.inl rfl⟩

/-- What stands before an item or a member: a comma, unless it is the first. -/
def lead (first : Bool) : List Char := if first then [] else [',']

/-! ## Lists -/

theorem readItems_newLine (level fuel place : Nat) (rest : List Char) :
    readItems (fuel + 1) false ⟨newLine level ++ ']' :: rest, place⟩ =
      ⟨[], none, some ⟨rest, place + 1 + 2 * level + 1⟩⟩ := by
  rw [readItems]
  simp only [Cursor.skipBlanks_newLine (c := ']') (by decide)]

/-- An item is read back, and then those that follow. -/
theorem readItems_item {v : Value} (hv : v.ReadsBack) (first : Bool) (level fuel place : Nat)
    {rest : List Char} (hfuel : 2 * (v.print level).length ≤ fuel) (hrest : Closed rest) :
    ∃ n place', n.Shows v ∧
      readItems (fuel + 1) first ⟨lead first ++ (newLine level ++ (v.print level ++ rest)), place⟩ =
        { readItems fuel false ⟨rest, place'⟩ with
          items := n :: (readItems fuel false ⟨rest, place'⟩).items } := by
  obtain ⟨c, cs, hbegin, hblank, hclose⟩ := hv.begins level
  obtain ⟨n, place', hshows, hread⟩ :=
    hv.read level fuel (place + (lead first).length + 1 + 2 * level) hfuel hrest
  have hskip := Cursor.skipBlanks_newLine hblank level (cs ++ rest) (place + (lead first).length)
  rw [hbegin, List.cons_append] at hread ⊢
  refine ⟨n, place', hshows, ?_⟩
  cases first with
  | true =>
      simp only [lead, if_true, List.length_nil, Nat.add_zero] at hskip hread
      simp [readItems, lead, hskip, hread]
  | false =>
      simp only [lead, if_false, Bool.false_eq_true, List.length_singleton] at hskip hread ⊢
      rw [readItems]
      simp only [List.cons_append, List.nil_append,
        Cursor.skipBlanks_cons (c := ',') (by decide), Char.reduceEq, imp_self,
        Bool.false_eq_true, ↓reduceIte, hskip, hread]
      split
      · rename_i heq
        cases heq
      · rename_i heq
        exact absurd (List.cons.inj heq).1 hclose
      · rfl

/-- The items behind the first are read back up to the end of the list. -/
theorem readItems_printItems {vs : List Value} (hvs : ∀ v ∈ vs, v.ReadsBack)
    (level level' fuel place : Nat) {rest : List Char}
    (hfuel : 2 * (printItems level vs).length + 1 ≤ fuel) :
    ∃ ns place', List.Forall₂ Node.Shows ns vs ∧ readItems fuel false
        ⟨printItems level vs ++ (newLine level' ++ ']' :: rest), place⟩ =
          ⟨ns, none, some ⟨rest, place'⟩⟩ := by
  obtain ⟨fuel, rfl⟩ : ∃ f, fuel = f + 1 := ⟨fuel - 1, by omega⟩
  induction vs generalizing fuel place with
  | nil => exact ⟨[], _, .nil, readItems_newLine level' fuel place rest⟩
  | cons v vs ih =>
      have hlen : (printItems level (v :: vs)).length =
          2 + 2 * level + (v.print level).length + (printItems level vs).length := by
        simp only [printItems, newLine, List.length_append, List.length_cons,
          List.length_replicate]
        omega
      obtain ⟨fuel, rfl⟩ : ∃ f, fuel = f + 1 := ⟨fuel - 1, by omega⟩
      obtain ⟨n, next, hshows, hitem⟩ := readItems_item (hvs v List.mem_cons_self) false level
        (fuel + 1) place (by omega)
        (closed_printItems level vs (closed_newLine level' (']' :: rest)))
      obtain ⟨ns, place', hall, hitems⟩ :=
        ih (fun w hw => hvs w (List.mem_cons_of_mem v hw)) next fuel (by omega)
      refine ⟨n :: ns, place', .cons hshows hall, ?_⟩
      rw [hitems] at hitem
      simpa [printItems, lead] using hitem

theorem readsBack_list {vs : List Value} (hvs : ∀ v ∈ vs, v.ReadsBack) : (list vs).ReadsBack where
  begins level := by cases vs <;> exact ⟨'[', _, rfl, by decide, by decide⟩
  read level fuel place rest hfuel hrest := by
    have hstep {fuel : Nat} {cs : List Char} {ns : List Node} {next : Cursor}
        (h : readItems fuel true ⟨cs, place + 1⟩ = ⟨ns, none, some next⟩) :
        readValue (fuel + 1) ⟨'[' :: cs, place⟩ =
          (.array ⟨place, next.place⟩ ns none, some next) := by
      rw [readValue]
      simp [Cursor.skipBlanks_cons (c := '[') (by decide), h]
    cases vs with
    | nil =>
        simp only [print, List.length_cons, List.length_nil] at hfuel
        obtain ⟨fuel, rfl⟩ : ∃ f, fuel = f + 2 := ⟨fuel - 2, by omega⟩
        refine ⟨_, place + 2, .list .nil, hstep ?_⟩
        rw [readItems]
        simp [Cursor.skipBlanks_cons (c := ']') (by decide)]
    | cons v vs =>
        have hlen : (print level (list (v :: vs))).length = 4 + 2 * (level + 1) +
            (v.print (level + 1)).length + (printItems (level + 1) vs).length + 2 * level := by
          simp only [print, newLine, List.length_append, List.length_cons, List.length_nil,
            List.length_replicate]
          omega
        -- the list and its first item take a step each, and there are two for each character
        obtain ⟨fuel, rfl⟩ : ∃ f, fuel = f + 2 := ⟨fuel - 2, by omega⟩
        obtain ⟨n, next, hshows, hitem⟩ := readItems_item (hvs v List.mem_cons_self) true
          (level + 1) fuel (place + 1) (by omega)
          (closed_printItems (level + 1) vs (closed_newLine level (']' :: rest)))
        obtain ⟨ns, place', hall, hitems⟩ := readItems_printItems
          (fun w hw => hvs w (List.mem_cons_of_mem v hw)) (level + 1) level fuel next (by omega)
        rw [hitems] at hitem
        refine ⟨.array ⟨place, place'⟩ (n :: ns) none, place', .list (.cons hshows hall), ?_⟩
        rw [← hstep hitem]
        simp [print, lead]

/-! ## Objects -/

theorem readMembers_newLine (level fuel place : Nat) (rest : List Char) :
    readMembers (fuel + 1) false ⟨newLine level ++ '}' :: rest, place⟩ =
      ⟨[], none, some ⟨rest, place + 1 + 2 * level + 1⟩⟩ := by
  rw [readMembers]
  simp only [Cursor.skipBlanks_newLine (c := '}') (by decide)]

/-- A member is read back, and then those that follow. -/
theorem readMembers_member {m : String × Value} (hm : m.2.ReadsBack) (first : Bool)
    (level fuel place : Nat) {rest : List Char} (hfuel : 2 * (m.2.print level).length ≤ fuel)
    (hrest : Closed rest) :
    ∃ key n place', key.name = .ok m.1 ∧ n.Shows m.2 ∧
      readMembers (fuel + 1) first
          ⟨lead first ++ (newLine level ++ (printMember level m ++ rest)), place⟩ =
        { readMembers fuel false ⟨rest, place'⟩ with
          members := (key, n) :: (readMembers fuel false ⟨rest, place'⟩).members } := by
  obtain ⟨k, v⟩ := m
  obtain ⟨fuel, rfl⟩ : ∃ f, fuel = f + 1 := ⟨fuel - 1, by have := hm.length_pos level; omega⟩
  have hskip := Cursor.skipBlanks_newLine (c := '"') (by decide) level
    (behindQuote k (':' :: ' ' :: (v.print level ++ rest))) (place + (lead first).length)
  obtain ⟨after, hkey⟩ := readText_behindQuote k (':' :: ' ' :: (v.print level ++ rest))
    (place + (lead first).length + 1 + 2 * level + 1)
  obtain ⟨n, place', hshows, hread⟩ := hm.read level (fuel + 1) (after + 2) hfuel hrest
  rw [← readValue_blank] at hread
  refine ⟨⟨.ok k, after⟩, n, place', rfl, hshows, ?_⟩
  have htext : printMember level (k, v) ++ rest =
      '"' :: behindQuote k (':' :: ' ' :: (v.print level ++ rest)) := by
    rw [← inDocument_append]
    simp [printMember]
  rw [htext, readMembers]
  cases first with
  | true =>
      simp only [lead, if_true, List.length_nil, Nat.add_zero] at hskip hkey
      simp [lead, hskip, hkey, Cursor.skipBlanks_cons (c := ':') (by decide), hread]
  | false =>
      simp only [lead, if_false, Bool.false_eq_true, List.length_singleton] at hskip hkey
      simp [lead, Cursor.skipBlanks_cons (c := ',') (by decide), hskip, hkey,
        Cursor.skipBlanks_cons (c := ':') (by decide), hread]

theorem length_print_le (level : Nat) (m : String × Value) :
    (m.2.print level).length ≤ (printMember level m).length := by
  obtain ⟨k, v⟩ := m
  simp only [printMember, List.length_append]
  omega

theorem readMembers_printMembers {ms : List (String × Value)} (hms : ∀ m ∈ ms, m.2.ReadsBack)
    (level level' fuel place : Nat) {rest : List Char}
    (hfuel : 2 * (printMembers level ms).length + 1 ≤ fuel) :
    ∃ ns place', MembersShow ns ms ∧ readMembers fuel false
        ⟨printMembers level ms ++ (newLine level' ++ '}' :: rest), place⟩ =
          ⟨ns, none, some ⟨rest, place'⟩⟩ := by
  obtain ⟨fuel, rfl⟩ : ∃ f, fuel = f + 1 := ⟨fuel - 1, by omega⟩
  induction ms generalizing fuel place with
  | nil => exact ⟨[], _, .nil, readMembers_newLine level' fuel place rest⟩
  | cons m ms ih =>
      have hlen : (printMembers level (m :: ms)).length =
          2 + 2 * level + (printMember level m).length + (printMembers level ms).length := by
        simp only [printMembers, newLine, List.length_append, List.length_cons,
          List.length_replicate]
        omega
      have hvalue := length_print_le level m
      obtain ⟨fuel, rfl⟩ : ∃ f, fuel = f + 1 := ⟨fuel - 1, by omega⟩
      obtain ⟨key, n, next, hkey, hshows, hmember⟩ := readMembers_member
        (hms m List.mem_cons_self) false level (fuel + 1) place (by omega)
        (closed_printMembers level ms (closed_newLine level' ('}' :: rest)))
      obtain ⟨ns, place', hall, hmembers⟩ :=
        ih (fun w hw => hms w (List.mem_cons_of_mem m hw)) next fuel (by omega)
      refine ⟨(key, n) :: ns, place', .cons hkey hshows hall, ?_⟩
      rw [hmembers] at hmember
      simpa [printMembers, lead] using hmember

theorem readsBack_object {ms : List (String × Value)} (hms : ∀ m ∈ ms, m.2.ReadsBack) :
    (object ms).ReadsBack where
  begins level := by cases ms <;> exact ⟨'{', _, rfl, by decide, by decide⟩
  read level fuel place rest hfuel hrest := by
    have hstep {fuel : Nat} {cs : List Char} {ns : List (MemberKey × Node)} {next : Cursor}
        (h : readMembers fuel true ⟨cs, place + 1⟩ = ⟨ns, none, some next⟩) :
        readValue (fuel + 1) ⟨'{' :: cs, place⟩ =
          (.object ⟨place, next.place⟩ ns none, some next) := by
      rw [readValue]
      simp [Cursor.skipBlanks_cons (c := '{') (by decide), h]
    cases ms with
    | nil =>
        simp only [print, List.length_cons, List.length_nil] at hfuel
        obtain ⟨fuel, rfl⟩ : ∃ f, fuel = f + 2 := ⟨fuel - 2, by omega⟩
        refine ⟨_, place + 2, .object .nil, hstep ?_⟩
        rw [readMembers]
        simp [Cursor.skipBlanks_cons (c := '}') (by decide)]
    | cons m ms =>
        have hlen : (print level (object (m :: ms))).length = 4 + 2 * (level + 1) +
            (printMember (level + 1) m).length + (printMembers (level + 1) ms).length +
              2 * level := by
          simp only [print, newLine, List.length_append, List.length_cons, List.length_nil,
            List.length_replicate]
          omega
        have hvalue := length_print_le (level + 1) m
        obtain ⟨fuel, rfl⟩ : ∃ f, fuel = f + 2 := ⟨fuel - 2, by omega⟩
        obtain ⟨key, n, next, hkey, hshows, hmember⟩ := readMembers_member
          (hms m List.mem_cons_self) true (level + 1) fuel (place + 1) (by omega)
          (closed_printMembers (level + 1) ms (closed_newLine level ('}' :: rest)))
        obtain ⟨ns, place', hall, hmembers⟩ := readMembers_printMembers
          (fun w hw => hms w (List.mem_cons_of_mem m hw)) (level + 1) level fuel next (by omega)
        rw [hmembers] at hmember
        refine ⟨.object ⟨place, place'⟩ ((key, n) :: ns) none, place',
          .object (.cons hkey hshows hall), ?_⟩
        rw [← hstep hmember]
        simp [print, lead]

/-! ## Any value -/

/-- A value without parts is read in one step. -/
theorem readsBack_of_step {v : Value}
    (begins : ∀ level, ∃ c cs, v.print level = c :: cs ∧ Cursor.isBlank c = false ∧ c ≠ ']')
    (read : ∀ level fuel place {rest}, Closed rest → ∃ n place', n.Shows v ∧
      readValue (fuel + 1) ⟨v.print level ++ rest, place⟩ = (n, some ⟨rest, place'⟩)) :
    v.ReadsBack where
  begins := begins
  read level fuel place rest hfuel hrest := by
    obtain ⟨c, cs, hbegin, -⟩ := begins level
    have hpos : 0 < (v.print level).length := by simp [hbegin]
    obtain ⟨fuel, rfl⟩ : ∃ f, fuel = f + 1 := ⟨fuel - 1, by omega⟩
    exact read level fuel place hrest

theorem readsBack_null : null.ReadsBack :=
  readsBack_of_step (fun _ => ⟨'n', _, rfl, by decide, by decide⟩) fun _ _ place _ _ =>
    ⟨.null ⟨place, place + 4⟩, place + 4, .null, rfl⟩

theorem readsBack_bool (b : Bool) : (bool b).ReadsBack := by
  cases b with
  | false =>
      exact readsBack_of_step (fun _ => ⟨'f', _, rfl, by decide, by decide⟩)
        fun _ _ place _ _ => ⟨.bool ⟨place, place + 5⟩ false, place + 5, .bool, rfl⟩
  | true =>
      exact readsBack_of_step (fun _ => ⟨'t', _, rfl, by decide, by decide⟩)
        fun _ _ place _ _ => ⟨.bool ⟨place, place + 4⟩ true, place + 4, .bool, rfl⟩

theorem readsBack_text (s : String) : (text s).ReadsBack := by
  refine readsBack_of_step (fun _ => ⟨'"', _, rfl, by decide, by decide⟩) ?_
  intro level fuel place rest _
  obtain ⟨place', hread⟩ := readText_behindQuote s rest (place + 1)
  refine ⟨.text ⟨place, place'⟩ (.ok s), place', .text, ?_⟩
  rw [print, inDocument_append, readValue]
  simp [Cursor.skipBlanks_cons (c := '"') (by decide), hread, lexemeNode]

theorem print_nat (level n : Nat) : print level (nat n) = Nat.toDigits 10 n := by
  change (Nat.repr n).toList = _
  rw [Nat.repr_eq_ofList_toDigits, String.toList_ofList]

theorem readValue_digitChar {d : Nat} (hd : d < 10) (fuel : Nat) (cs : List Char) (place : Nat) :
    readValue (fuel + 1) ⟨Nat.digitChar d :: cs, place⟩ =
      lexemeNode place (readNumber ⟨Nat.digitChar d :: cs, place⟩) .number (.broken place) := by
  rw [readValue]
  interval_cases d <;> rfl

theorem readsBack_nat {n : Nat} (hn : n < Literal.wordLimit) : (nat n).ReadsBack := by
  obtain ⟨d, ds, hdigits, hlt, -⟩ := exists_toDigits n
  have hd := hlt d List.mem_cons_self
  have hbegin (level : Nat) :
      print level (nat n) = Nat.digitChar d :: ds.map Nat.digitChar := by
    rw [print_nat, hdigits, List.map_cons]
  have hchar : Cursor.isBlank (Nat.digitChar d) = false ∧ Nat.digitChar d ≠ ']' := by
    interval_cases d <;> decide
  refine readsBack_of_step (fun level => ⟨_, _, hbegin level, hchar⟩) ?_
  intro level fuel place rest hrest
  obtain ⟨l, place', hread, hnumber⟩ := readNumber_toDigits hn hrest place
  refine ⟨.number ⟨place, place'⟩ l, place', .natural hnumber, ?_⟩
  rw [← print_nat level, hbegin, List.cons_append] at hread
  rw [hbegin, List.cons_append, readValue_digitChar hd, hread]
  rfl

theorem Plain.readsBack {v : Value} (h : v.Plain) : v.ReadsBack := by
  induction h with
  | null => exact readsBack_null
  | bool b => exact readsBack_bool b
  | nat hn => exact readsBack_nat hn
  | text s => exact readsBack_text s
  | list _ ih => exact readsBack_list ih
  | object _ ih => exact readsBack_object ih

/-- The text of a plain value is a document of the value and nothing else. -/
theorem Plain.exists_document {v : Value} (h : v.Plain) :
    ∃ n, n.Shows v ∧ Document.ofText v.toText.toList = ⟨n, none⟩ := by
  have htext : v.toText.toList = v.print 0 ++ ['\n'] := by
    rw [toText, String.toList_ofList]
  have hclosed : Closed ['\n'] := ⟨'\n', [], rfl, Or.inr rfl⟩
  obtain ⟨n, place, hshows, hread⟩ := h.readsBack.read 0 (2 * v.toText.toList.length + 2) 0
    (by rw [htext, List.length_append]; omega) hclosed
  refine ⟨n, hshows, ?_⟩
  rw [← htext] at hread
  unfold Document.ofText
  rw [hread]
  rfl

end Value

end Landscape.Json
