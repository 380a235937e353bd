import Landscape.Catalog.Record
import Landscape.Json.Decode

namespace Landscape

/-!
# Records from documents
-/

open Json

namespace Id

def decoder {k : Kind} : Decoder (Id k) := fun n => ofNat <$> Decoder.natural count "u32" n

end Id

def ProjectType.decoder : Decoder ProjectType :=
  .variant [("lib", .library), ("code", .code), ("db", .database)]

/-- A list that may be missing. -/
def Json.Fields.listOf {α : Type} (name : String) (d : Decoder α) : Fields (List α) :=
  withDefault name [] (Decoder.list d)

/-- A flag that is off where it is missing. -/
def Json.Fields.flag (name : String) : Fields Bool := withDefault name false Decoder.bool

def DependencyRecord.decoder : Decoder DependencyRecord :=
  Fields.record ⟨"DependencyRecord", false⟩ <|
    mk <$> .required "target" Decoder.string
      <*> .withDefault "versions" ∅ Decoder.textSet
      <*> .withDefault "data" ∅ Decoder.textMap

def ProjectRecord.decoder : Decoder ProjectRecord :=
  Fields.record ⟨"ProjectRecord", false⟩ <|
    mk <$> .maybe "id" Id.decoder
      <*> .required "name" Decoder.string
      <*> .listOf "groups" Decoder.string
      <*> .withDefault "type" .code ProjectType.decoder
      <*> .flag "ignore"
      <*> .maybe "root_dir" Decoder.string
      <*> .maybe "repository_id" Id.decoder
      <*> .withDefault "data" ∅ Decoder.textMap
      <*> .listOf "dependencies" DependencyRecord.decoder

def SourceFile.decoder : Decoder SourceFile :=
  Fields.record ⟨"File", false⟩ <|
    mk <$> .required "id" Id.decoder
      <*> .required "path" Decoder.string
      <*> .maybe "project_id" Id.decoder
      <*> .maybe "repository_id" Id.decoder
      <*> .flag "ignore"

def Commit.decoder : Decoder Commit :=
  Fields.record ⟨"Commit", false⟩ <|
    mk <$> .required "id" Id.decoder
      <*> .required "hash" Decoder.string
      <*> .withDefault "message" "" Decoder.string
      <*> .listOf "parents" Decoder.string
      <*> .listOf "author_ids" Id.decoder
      <*> .maybe "committer_id" Id.decoder
      <*> .listOf "file_ids" Id.decoder
      <*> .flag "ignore"

def Repository.decoder : Decoder Repository :=
  Fields.record ⟨"Repository", false⟩ <|
    mk <$> .required "id" Id.decoder
      <*> .required "name" Decoder.string
      <*> .maybe "root_dir" Decoder.string
      <*> .flag "ignore"
      <*> .listOf "commits" Commit.decoder

def Person.decoder : Decoder Person :=
  Fields.record ⟨"Person", false⟩ <|
    mk <$> .required "id" Id.decoder
      <*> .required "name" Decoder.string
      <*> .listOf "names" Decoder.string
      <*> .listOf "emails" Decoder.string
      <*> .flag "ignore"

def CatalogRecord.decoder : Decoder CatalogRecord :=
  Fields.record ⟨"DatasetDocument", false⟩ <|
    mk <$> .listOf "projects" ProjectRecord.decoder
      <*> .listOf "files" SourceFile.decoder
      <*> .listOf "repositories" Repository.decoder
      <*> .listOf "people" Person.decoder

end Landscape
