import InverterBridge.Config.Bus
import InverterBridge.Failure
import InverterBridge.Text.Split

/-!
# Settings handed to the bus session

A session is opened with a list of endpoints to connect to and one to listen
on.  An endpoint is a protocol and an address with a slash between them, and
may have parameters: metadata after a question mark and settings after a
number sign.  Parameters are kept sorted by name.  Every parameter needs a name,
and a part without parameters is refused.
-/

namespace InverterBridge

/-- A parameter: a name and a value, which may be empty. -/
structure Parameter where
  name : List Char
  value : List Char
  deriving DecidableEq, Repr

namespace Parameter

/-- Read a parameter; the first equals sign ends the name. -/
def ofText (text : List Char) : Parameter :=
  ⟨text.takeWhile (· != '='), (text.dropWhile (· != '=')).drop 1⟩

/-- Write a parameter; an empty value needs no equals sign. -/
def text (parameter : Parameter) : List Char :=
  if parameter.value.isEmpty then parameter.name
  else parameter.name ++ '=' :: parameter.value

/-- Whether one parameter may stand before another in sorted order. -/
def before (first second : Parameter) : Bool :=
  !(String.ofList second.name < String.ofList first.name)

end Parameter

/-- Parameters in normal form; there has to be one, and each needs a name. -/
def parameters? (text : List Char) : Option (List Char) :=
  let parameters := ((splitEvery ';' text).filter (!·.isEmpty)).map Parameter.ofText
  if parameters.isEmpty || parameters.any (·.name.isEmpty) then none
  else
    let sorted := parameters.mergeSort Parameter.before
    some (([';'] : List Char).intercalate (sorted.map Parameter.text))

/-- An endpoint in its normal form, if the text is one. -/
def endpoint? (text : String) : Option String :=
  let characters := text.toList
  let path := characters.takeWhile fun character => character != '?' && character != '#'
  let parameters := characters.drop path.length
  match splitAtFirst? '/' path with
  | none => none
  | some (protocol, _) =>
      if protocol.isEmpty || protocol.length + 1 == characters.length then none
      else
        match parameters with
        | [] => some text
        | '#' :: settings =>
            if settings.contains '?' then none
            else
              (parameters? settings).map fun settings =>
                String.ofList (path ++ '#' :: settings)
        | _ :: rest =>
            let metadata := rest.takeWhile (· != '#')
            match rest.drop metadata.length with
            | [] =>
                (parameters? metadata).map fun metadata =>
                  String.ofList (path ++ '?' :: metadata)
            | _ :: settings => do
                let metadata ← parameters? metadata
                let settings ← parameters? settings
                return String.ofList (path ++ '?' :: (metadata ++ '#' :: settings))

/-- What a session is opened with. -/
structure SessionConfig where
  mode : BusMode
  connect : Option (List String)
  listen : Option (List String)
  deriving DecidableEq, Repr

namespace SessionConfig

/-- Endpoints are handed over as a relaxed text, whose strings stay on one line;
line ends other than the two separators are escaped on the way. -/
def staysOnLine (text : String) : Bool :=
  text.toList.all fun character => character != '\u2028' && character != '\u2029'

/-- A list of endpoints in normal form; an empty list leaves the default alone. -/
def endpoints (key : String) (texts : List String) : Except SetupError (Option (List String)) :=
  match texts with
  | [] => .ok none
  | _ =>
      match texts.mapM fun text => if staysOnLine text then endpoint? text else none with
      | some normal => .ok (some normal)
      | none => .error (.config ("Failed to set " ++ key))

/-- The session of a configuration. -/
def ofBus (config : BusConfig) : Except SetupError SessionConfig := do
  let connect ← endpoints "connect/endpoints" config.connect
  let listen ← endpoints "listen/endpoints" config.listen
  return ⟨config.mode, connect, listen⟩

end SessionConfig

end InverterBridge
