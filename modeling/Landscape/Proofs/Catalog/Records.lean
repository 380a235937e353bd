import Landscape.Proofs.Json.Decode
import Landscape.Query.Params

namespace Landscape

/-!
# Records restored

Every record is written as an object of its fields, in their order, and leaves out some of those
that hold nothing. Reading puts in again what was left out.
-/

open Json

theorem Id.restores {k : Kind} (i : Id k) : decoder.Restores i.toJson i where
  plain := (Decoder.restores_natural "u32" i.toNat_lt (by decide)).plain
  decode hn := by
    have hnat := (Decoder.restores_natural "u32" i.toNat_lt (by decide)).decode hn
    unfold decoder
    rw [hnat]
    exact congrArg Except.ok i.ofNat_toNat

theorem Id.toJson_ne_null {k : Kind} (i : Id k) : i.toJson ≠ .null := nofun

theorem ProjectType.restores (t : ProjectType) : decoder.Restores t.toJson t :=
  Decoder.restores_variant (by cases t <;> rfl)

namespace Json.Fields

variable {α : Type} {d : Decoder α} {write : α → Value}

theorem restores_listOf (name : String) (as : List α) (h : ∀ a ∈ as, d.Restores (write a) a) :
    (listOf name d).Restores (Value.member name (.list (as.map write))) as :=
  restores_withDefault name (Decoder.restores_list h) []

theorem restores_memberList (name : String) (as : List α) (h : ∀ a ∈ as, d.Restores (write a) a) :
    (listOf name d).Restores (Value.memberList name as write) as := by
  cases as with
  | nil => exact restores_default name _ []
  | cons a as => exact restores_listOf name (a :: as) h

theorem restores_flag (name : String) (b : Bool) :
    (flag name).Restores (Value.member name (.bool b)) b :=
  restores_withDefault name (Decoder.restores_bool b) false

theorem restores_text (name : String) (s : String) :
    (required name Decoder.string).Restores (Value.member name (.text s)) s :=
  restores_required name (Decoder.restores_string s)

theorem restores_maybeId {k : Kind} (name : String) (o : Option (Id k)) :
    (maybe name Id.decoder).Restores (Value.memberIf name o Id.toJson) o :=
  restores_maybe name Id.toJson_ne_null fun i _ => i.restores

theorem restores_maybeText (name : String) (o : Option String) :
    (maybe name Decoder.string).Restores (Value.memberIf name o .text) o :=
  restores_maybe name nofun fun s _ => Decoder.restores_string s

end Json.Fields

open Json.Fields

theorem DependencyRecord.restores (r : DependencyRecord) : decoder.Restores r.toJson r :=
  Decoder.restores_record _
    ((restores_text "target" r.target).map mk
      |>.seq (restores_withDefault "versions" (Decoder.restores_textSet r.versions) ∅)
      |>.seq (restores_withDefault "data" (Decoder.restores_textMap r.data) ∅))
    (by decide) (by simp [Value.member, Value.ofSet, Value.ofMap])

theorem ProjectRecord.restores (r : ProjectRecord) : decoder.Restores r.toJson r :=
  Decoder.restores_record _
    ((restores_maybeId "id" r.id).map mk
      |>.seq (restores_text "name" r.name)
      |>.seq (restores_listOf "groups" r.groups fun s _ => Decoder.restores_string s)
      |>.seq (restores_withDefault "type" r.type.restores .code)
      |>.seq (restores_flag "ignore" r.ignored)
      |>.seq (restores_maybeText "root_dir" r.rootDir)
      |>.seq (restores_maybeId "repository_id" r.repository)
      |>.seq (restores_withDefault "data" (Decoder.restores_textMap r.data) ∅)
      |>.seq (restores_listOf "dependencies" r.dependencies fun d _ => d.restores))
    (by decide) (by simp [Value.member, Value.ofMap])

theorem SourceFile.restores (f : SourceFile) : decoder.Restores f.toJson f :=
  Decoder.restores_record _
    ((restores_required "id" f.id.restores).map mk
      |>.seq (restores_text "path" f.path)
      |>.seq (restores_maybeId "project_id" f.project)
      |>.seq (restores_maybeId "repository_id" f.repository)
      |>.seq (restores_flag "ignore" f.ignored))
    (by decide) (by simp [Value.member])

theorem Commit.restores (c : Commit) : decoder.Restores c.toJson c :=
  Decoder.restores_record _
    ((restores_required "id" c.id.restores).map mk
      |>.seq (restores_text "hash" c.hash)
      |>.seq (restores_withDefault "message" (Decoder.restores_string c.message) "")
      |>.seq (restores_memberList "parents" c.parents fun s _ => Decoder.restores_string s)
      |>.seq (restores_memberList "author_ids" c.authors fun i _ => i.restores)
      |>.seq (restores_maybeId "committer_id" c.committer)
      |>.seq (restores_memberList "file_ids" c.files fun i _ => i.restores)
      |>.seq (restores_flag "ignore" c.ignored))
    (by decide) (by simp [Value.member])

theorem Repository.restores (r : Repository) : decoder.Restores r.toJson r :=
  Decoder.restores_record _
    ((restores_required "id" r.id.restores).map mk
      |>.seq (restores_text "name" r.name)
      |>.seq (restores_maybeText "root_dir" r.rootDir)
      |>.seq (restores_flag "ignore" r.ignored)
      |>.seq (restores_memberList "commits" r.commits fun c _ => c.restores))
    (by decide) (by simp [Value.member])

theorem Person.restores (p : Person) : decoder.Restores p.toJson p :=
  Decoder.restores_record _
    ((restores_required "id" p.id.restores).map mk
      |>.seq (restores_text "name" p.name)
      |>.seq (restores_memberList "names" p.names fun s _ => Decoder.restores_string s)
      |>.seq (restores_memberList "emails" p.emails fun s _ => Decoder.restores_string s)
      |>.seq (restores_flag "ignore" p.ignored))
    (by decide) (by simp [Value.member])

theorem Query.Params.restores (p : Query.Params) : decoder.Restores p.toJson p :=
  Decoder.restores_record _
    ((restores_withDefault "file" (Decoder.restores_string p.file) "").map mk
      |>.seq (restores_withDefault "proj" (Decoder.restores_string p.project) "")
      |>.seq (restores_withDefault "repo" (Decoder.restores_string p.repository) "")
      |>.seq (restores_withDefault "person" (Decoder.restores_string p.person) "")
      |>.seq (restores_maybeId "person.id" p.personId)
      |>.seq (restores_withDefault "commit" (Decoder.restores_string p.commit) ""))
    (by decide) (by simp [Value.member])

/-- Records survive writing and reading: nothing is lost with what is left out. -/
theorem decoders_invert :
    ProjectRecord.decoder.Inverts ProjectRecord.toJson ∧
    DependencyRecord.decoder.Inverts DependencyRecord.toJson ∧
    SourceFile.decoder.Inverts SourceFile.toJson ∧
    Repository.decoder.Inverts Repository.toJson ∧
    Commit.decoder.Inverts Commit.toJson ∧
    Person.decoder.Inverts Person.toJson ∧
    Query.Params.decoder.Inverts Query.Params.toJson :=
  ⟨Decoder.inverts_of_restores ProjectRecord.restores,
    Decoder.inverts_of_restores DependencyRecord.restores,
    Decoder.inverts_of_restores SourceFile.restores,
    Decoder.inverts_of_restores Repository.restores,
    Decoder.inverts_of_restores Commit.restores,
    Decoder.inverts_of_restores Person.restores,
    Decoder.inverts_of_restores Query.Params.restores⟩

end Landscape
