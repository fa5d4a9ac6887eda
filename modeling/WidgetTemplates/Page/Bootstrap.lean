import WidgetTemplates.Page.Codec
import WidgetTemplates.Page.Collected
import WidgetTemplates.Page.Output
import WidgetTemplates.Json.Decode
import WidgetTemplates.Script.Quoted

/-!
# Bootstrap code

What a page writes so that the browser can bring its widgets to life: script that assigns states and
configurations, and the list of ids, either in a call or in a marker element that the browser's part of the
library looks for. The pending widgets are taken once, whatever comes of them.
-/

namespace WidgetTemplates.Page

/-- How bootstrap code is written: whether widgets are forgotten once they are written, whether the browser is to search
the whole page for widgets, and whether they are brought to life at once. -/
structure BootstrapOptions where
  clearWidgets : Bool := true
  scanPage : Bool := false
  immediate : Bool := false
deriving DecidableEq, Repr, Inhabited

namespace BootstrapOptions

/-- The JSON form of the options. -/
def toJson (o : BootstrapOptions) : Json :=
  .object [("clearWidgets", .bool o.clearWidgets), ("scanDOM", .bool o.scanPage),
    ("immediate", .bool o.immediate)]

/-- The options that a JSON value encodes. -/
def ofJson? (value : Json) : Option BootstrapOptions := do
  let fields ← Json.fields? ["clearWidgets", "scanDOM", "immediate"] value
  let clearWidgets ← fields.withDefault? "clearWidgets" true Json.asBool?
  let scanPage ← fields.withDefault? "scanDOM" false Json.asBool?
  let immediate ← fields.withDefault? "immediate" false Json.asBool?
  some ⟨clearWidgets, scanPage, immediate⟩

end BootstrapOptions

/-! ## Taking the pending widgets -/

/-- Where the widgets are taken from: the registry of the page, if it has one, or a registry apart from it. -/
inductive Source where
  | shared
  | separate (registry : Registry)
deriving Repr, Inhabited

/-- A page with the source of its widgets. -/
structure State where
  output : Output
  source : Source
deriving Repr, Inhabited

namespace State

/-- The pending widgets. -/
def pending (s : State) : List WidgetTree :=
  match s.source with
  | .shared => s.output.registry.pending
  | .separate r => r.pending

/-- Counts the pending widgets as written. A registry that does not exist is not created. -/
def markWritten (s : State) : State :=
  match s.source with
  | .shared =>
    { s with output := { s.output with shared := { s.output.shared with
        registry := s.output.shared.registry.map Registry.markWritten } } }
  | .separate r => { s with source := .separate r.markWritten }

/-- Collects the pending widgets and counts them as written. -/
def take (s : State) : Collected × State := (collect s.pending, s.markWritten)

/-- Writes a text to the page. -/
def write (s : State) (text : String) : State := { s with output := s.output.write text }

end State

/-! ## The code -/

/-- The assignment of a store, unless it is empty. -/
def assignment (codec : Codec) (target : Target) (entries : Json.Members) : Except Failure String :=
  if entries.isEmpty then .ok ""
  else (codec.serialize target entries).map (· ++ ";\n")

/-- The assignments of states and configurations. -/
def assignments (codec : Codec) (c : Collected) : Except Failure String := do
  let state ← assignment codec .state c.state
  let config ← assignment codec .config c.config
  .ok (state ++ config)

/-- The call that brings widgets to life. -/
def startCall (ids : String) : String := "$markoWidgets(\"" ++ ids ++ "\")"

/-- The marker that lists widgets for the browser. -/
def marker (ids : String) : String :=
  "<noscript id=\"markoWidgets\" data-ids=\"" ++ ids ++ "\"></noscript>"

/-- The nonce attribute of a script element. -/
def nonceAttribute (o : Output) : String :=
  match o.shared.nonce with
  | some nonce => if nonce.isEmpty then "" else " nonce=" ++ Script.quote nonce
  | none => ""

/-- A script element. -/
def scriptElement (nonce code : String) : String := "<script" ++ nonce ++ ">" ++ code ++ "</script>"

/-- The text that the options ask for. -/
def bootstrapText (options : BootstrapOptions) (nonce ids code : String) : String :=
  if options.immediate then scriptElement nonce (code ++ startCall ids)
  else scriptElement nonce code ++ marker ids

/-- Writes the bootstrap code of the pending widgets; nothing when there are none. -/
def writeBootstrap (codec : Codec) (options : BootstrapOptions) (s : State) :
    Except Failure Unit × State :=
  -- a page that is searched needs no list
  if options.scanPage then (.ok (), s.write (marker "*"))
  else
    -- from here on the widgets count as written, even if their values turn out to have no text
    let (collected, s) := s.take
    if collected.isEmpty then (.ok (), s)
    else
      match assignments codec collected with
      | .error e => (.error e, s)
      | .ok code =>
        (.ok (), s.write (bootstrapText options (nonceAttribute s.output) collected.idText code))

/-- The bootstrap code of the pending widgets of the page, for pages that place it themselves. -/
def bootstrapCode (codec : Codec) (o : Output) : Except Failure String × Output :=
  let (collected, s) := State.take ⟨o, .shared⟩
  ((assignments codec collected).map fun code => code ++ startCall collected.idText ++ ";", s.output)

/-! ## Widgets for transport -/

/-- Rendered widgets to be carried inside JSON: the ids, children first, and the prepared states and configurations. -/
structure Transport where
  ids : String
  state : Option Json := none
  config : Option Json := none
deriving Repr, Inhabited

namespace Transport

/-- The member of a value that may be absent. -/
def memberOf (key : String) : Option Json → Json.Members
  | some value => [(key, value)]
  | none => []

/-- The JSON form. -/
def toJson (t : Transport) : Json :=
  .object (("ids", .string t.ids) :: memberOf "state" t.state ++ memberOf "config" t.config)

/-- The widgets that a JSON value encodes. -/
def ofJson? (value : Json) : Option Transport := do
  let fields ← Json.fields? ["ids", "state", "config"] value
  let ids ← fields.required? "ids" Json.asString?
  let state ← fields.withDefault? "state" none (Json.asOptional? some)
  let config ← fields.withDefault? "config" none (Json.asOptional? some)
  some ⟨ids, state, config⟩

/-- What the receiver makes of the carried values. -/
def finalize (codec : Codec) (t : Transport) : Except Failure Transport := do
  let state ← t.state.mapM codec.finalize
  let config ← t.config.mapM codec.finalize
  .ok ⟨t.ids, state, config⟩

end Transport

/-- A store prepared for transport, unless it is empty. -/
def prepared (codec : Codec) (entries : Json.Members) : Except Failure (Option Json) :=
  if entries.isEmpty then .ok none else (codec.prepare entries).map some

/-- Takes the pending widgets of the page for transport. -/
def takeTransport (codec : Codec) (o : Output) : Except Failure Transport × Output :=
  let (collected, s) := State.take ⟨o, .shared⟩
  let transport := do
    let state ← prepared codec collected.state
    let config ← prepared codec collected.config
    .ok ⟨collected.idText, state, config⟩
  (transport, s.output)

end WidgetTemplates.Page
