import InverterBridge.Text.Split

/-!
# Key expressions

The bus takes a topic only if it is a key expression in its normal form: chunks
between single slashes, none of them empty.  A chunk may be a star or two
stars, or hold stars after dollar signs; two stars never stand before a chunk of
stars.
-/

namespace InverterBridge

/-- Whether every star of a chunk stands after a dollar sign, every dollar sign
before a star, and no two such pairs side by side. -/
def starsPaired : List Char → Bool
  | [] => true
  | '$' :: '*' :: '$' :: _ => false
  | '$' :: '*' :: rest => starsPaired rest
  | '$' :: _ => false
  | '*' :: _ => false
  | _ :: rest => starsPaired rest

/-- The chunk of one star stands for any chunk. -/
def anyChunk : List Char := ['*']

/-- The chunk of two stars stands for any number of chunks. -/
def anyChunks : List Char := ['*', '*']

/-- Whether a text is a chunk of a key expression. -/
def isChunk (chunk : List Char) : Bool :=
  chunk == anyChunk || chunk == anyChunks ||
    (!chunk.isEmpty && chunk != ['$', '*'] && !chunk.contains '#' && !chunk.contains '?' &&
      starsPaired chunk)

/-- Whether two stars never stand before a chunk of stars. -/
def starsOrdered : List (List Char) → Bool
  | first :: second :: rest =>
      !(first == anyChunks && (second == anyChunk || second == anyChunks)) &&
        starsOrdered (second :: rest)
  | _ => true

/-- Whether a topic is a key expression. -/
def isKey (topic : String) : Bool :=
  let chunks := splitEvery '/' topic.toList
  chunks.all isChunk && starsOrdered chunks

/-- Whether a chunk stands for itself alone, so that no star covers it. -/
def isVerbatim (chunk : List Char) : Bool :=
  chunk.head? == some '@'

/-- Whether a chunk covers a text; a dollar sign and a star cover any characters
or none. -/
def covers : List Char → List Char → Bool
  | [], text => text.isEmpty
  | '$' :: '*' :: chunk, [] => covers chunk []
  | '$' :: '*' :: chunk, character :: text =>
      covers chunk (character :: text) || covers ('$' :: '*' :: chunk) text
  | _ :: _, [] => false
  | letter :: chunk, character :: text => letter == character && covers chunk text
termination_by chunk text => chunk.length + text.length

/-- Whether a topic can lie below a root that is a single chunk. -/
def liesBelow (root : String) (topic : String) : Bool :=
  match splitEvery '/' topic.toList with
  | [] => false
  | first :: rest =>
      (first == anyChunk || first == anyChunks || covers first root.toList) &&
        rest.all (!isVerbatim ·)

end InverterBridge
