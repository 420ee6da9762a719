import LinkedControls.Json.Record
import LinkedControls.Store.Basic

/-!
Declarations of controls, as files hold them. The value may have any loose shape; one that does not
suit the kind of the control leaves it null.
-/

namespace LinkedControls

structure Declaration where
  id : String
  kind : Kind
  value : Json

namespace Declaration

open Json in
def ofJson? (j : Json) : Option Declaration :=
  match j.members? ["id", "type", "value"] with
  | some [id, kind, value] => do
      return {
        id := ← required asText? id
        kind := ← required (variant? Kind.names) kind
        value := (value.getD .null).settle }
  | _ => none

def typed (d : Declaration) : Value := Value.ofLoose d.value d.kind

end Declaration

def Store.ofDeclarations (ds : List Declaration) : Except StoreError Store :=
  ds.foldlM (fun s d => s.register d.id d.kind d.typed) Store.empty

end LinkedControls
