import InverterBridge.Channel

/-!
# Topics

Everything a bridge publishes lies below one root.  The documents of a device
are published under `<root>/<device>/<channel>`, the status of the bridge under
`<root>/@/status`.  Slashes at the end of the root do not count.  A device name
is a single chunk of a topic and may not contain a character that has a meaning
there, so no device can take the place of the status.
-/

namespace InverterBridge

/-- The characters that have a meaning in topics. -/
def reservedCharacters : List Char :=
  ['/', '*', '$', '#', '?', '@']

/-- Why a name is not a device name. -/
inductive NameFault where
  | empty
  | reserved (name : String) (character : Char)
  deriving DecidableEq, Repr

namespace NameFault

/-- The fault in words. -/
def message : NameFault → String
  | .empty => "device name cannot be empty"
  | .reserved name character =>
      "device name '" ++ name ++ "' contains reserved character '" ++
        String.singleton character ++ "'"

end NameFault

/-- The first character of a name that is reserved. -/
def firstReserved? (name : String) : Option Char :=
  name.toList.find? reservedCharacters.contains

/-- Check that a name can stand as a single chunk of a topic. -/
def checkDeviceName (name : String) : Except NameFault Unit :=
  if name.isEmpty then .error .empty
  else
    match firstReserved? name with
    | some character => .error (.reserved name character)
    | none => .ok ()

/-- Text without the slashes at its end. -/
def trimSlashes (text : List Char) : List Char :=
  (text.reverse.dropWhile (· == '/')).reverse

@[simp]
theorem trimSlashes_append_slash (text : List Char) :
    trimSlashes (text ++ ['/']) = trimSlashes text := by
  simp [trimSlashes]

/-- The topics below one root. -/
structure TopicSpace where
  root : String
  deriving DecidableEq, Repr

namespace TopicSpace

/-- The root that is used where none is configured. -/
def standardRoot : String := "solarsight/sunspec"

/-- The topics below a root. -/
def ofRoot (root : String) : TopicSpace :=
  ⟨String.ofList (trimSlashes root.toList)⟩

/-- The topics below the standard root. -/
def standard : TopicSpace :=
  ofRoot standardRoot

/-- The topic of a channel of a device. -/
def key (space : TopicSpace) (device : String) (channel : Channel) : String :=
  space.root ++ "/" ++ device ++ "/" ++ channel.name

/-- The topic of the status of the bridge. -/
def statusKey (space : TopicSpace) : String :=
  space.root ++ "/@/status"

end TopicSpace

end InverterBridge
