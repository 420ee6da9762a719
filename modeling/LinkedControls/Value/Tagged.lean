import LinkedControls.Value.Loose

namespace LinkedControls

def Range.toFields {α : Type} (lower upper : String) (f : α → Json) (r : Range α) : Json :=
  .object [(lower, .ofOption f r.lower), (upper, .ofOption f r.upper)]

def Value.content : Value → Json
  | .dateRange r => r.toFields "start" "end" dateJson
  | .numberRange r => r.toFields "min" "max" .ofBinary64
  | v => v.toJson

def Value.tagged (v : Value) : Json :=
  .object (("type", .text v.typeName) ::
    if v.isNull then [] else [("value", v.content)])

end LinkedControls
