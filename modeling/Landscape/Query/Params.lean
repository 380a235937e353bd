import Landscape.Catalog.Decode
import Landscape.Catalog.Encode

namespace Landscape

/-!
# Parameters of a query

Each parameter is a rule or a term as text; a blank one asks for nothing.
-/

open Json Json.Value

namespace Query

structure Params where
  file : String := ""
  project : String := ""
  repository : String := ""
  person : String := ""
  /-- Goes before `person`. -/
  personId : Option PersonId := none
  commit : String := ""
  deriving DecidableEq, Repr

namespace Params

def decoder : Decoder Params :=
  Fields.record ⟨"QueryParams", false⟩ <|
    mk <$> .withDefault "file" "" Decoder.string
      <*> .withDefault "proj" "" Decoder.string
      <*> .withDefault "repo" "" Decoder.string
      <*> .withDefault "person" "" Decoder.string
      <*> .maybe "person.id" Id.decoder
      <*> .withDefault "commit" "" Decoder.string

def toJson (p : Params) : Value :=
  object ([("file", text p.file), ("proj", text p.project), ("repo", text p.repository),
      ("person", text p.person)] ++
    memberIf "person.id" p.personId Id.toJson ++ [("commit", text p.commit)])

end Params

end Query

end Landscape
