import InverterBridge.Json.Node

/-!
# From tokens to a tree

The tokens of a text are read into a `Node` by a pushdown machine: a stack of
containers that wait for a value, and a mode that says what may come next.
Every text gives a tree.  At the first token that may not stand where it
stands, the open containers end with that fault and the rest of the text is
not looked at.
-/

namespace InverterBridge

/-- An object key: the name, or why it cannot be read. -/
abbrev Key := Except DecodeError String

/-- A token of a text.

A leaf may be a value, a key, or either.  A `wideMark` is a mark right before a
character that is not ASCII.  A `broken` token is a leaf that the text does not
complete; it is the last token. -/
inductive Token where
  | mark (character : Char)
  | wideMark (character : Char)
  | leaf (value : Option Node) (key : Option Key)
  | broken (fault : Break) (beginning : Beginning)

/-- A container that waits for the value now being read, last element first;
`wide` is the wrapper of that value. -/
inductive Frame where
  | wide
  | array (items : List Node)
  | object (members : List (Key × Node)) (key : Key)

/-- What may come next.  The container at hand is part of the mode; `first`
marks one without elements. -/
inductive Mode where
  | value
  | item (items : List Node) (first : Bool)
  | key (members : List (Key × Node)) (first : Bool)
  | colon (members : List (Key × Node)) (key : Key)
  | afterItem (items : List Node)
  | afterMember (members : List (Key × Node))
  | done (root : Node)

/-- The state of the machine between two tokens. -/
structure TreeState where
  stack : List Frame
  mode : Mode

/-- A text as a tree, with the first departure from the grammar. -/
structure Reading where
  root : Node
  fault : Option Fault
  deriving Inhabited

namespace TreeState

/-- The state before the first token. -/
def initial : TreeState :=
  ⟨[], .value⟩

/-- The state after a complete value. -/
def complete (node : Node) : List Frame → TreeState
  | [] => ⟨[], .done node⟩
  | .wide :: stack => complete (.wide node) stack
  | .array items :: stack => ⟨stack, .afterItem (node :: items)⟩
  | .object members key :: stack => ⟨stack, .afterMember ((key, node) :: members)⟩

/-- End the waiting containers around a value with the break. -/
def unwind (fault : Break) (node : Node) : List Frame → Node
  | [] => node
  | .wide :: stack => unwind fault (.wide node) stack
  | .array items :: stack =>
      unwind fault (.array (items.reverse ++ [node]) (.cut fault)) stack
  | .object members key :: stack =>
      unwind fault (.object (members.reverse ++ [(key, node)]) (.cut fault)) stack

/-- How a container ends at a break where an element could have started. -/
def ending (fault : Break) (first : Bool) : Ending :=
  if first then .cut fault else .dangling fault

/-- The reading of a text that stops in this state. -/
def stop (state : TreeState) (fault : Break) (beginning : Beginning) : Reading :=
  let root :=
    match state.mode with
    | .value => unwind fault (.broken fault beginning) state.stack
    | .item items first =>
        if beginning = .nothing then
          unwind fault (.array items.reverse (ending fault first)) state.stack
        else
          unwind fault (.broken fault beginning) (.array items :: state.stack)
    | .key members first =>
        unwind fault (.object members.reverse (ending fault first)) state.stack
    | .colon members key =>
        unwind fault (.broken fault beginning) (.object members key :: state.stack)
    | .afterItem items => unwind fault (.array items.reverse (.cut fault)) state.stack
    | .afterMember members => unwind fault (.object members.reverse (.cut fault)) state.stack
    | .done node => node
  ⟨root, some fault.reading⟩

/-- The reading of a text with a token that may not stand in this state. -/
def misplaced (state : TreeState) (beginning : Beginning) : Reading :=
  state.stop Fault.malformed.plain beginning

/-- Read a token as the start of a value for the given waiting containers. -/
def startValue (state : TreeState) (stack : List Frame) : Token → Except Reading TreeState
  | .leaf (some node) _ => .ok (complete node stack)
  | .mark '[' => .ok ⟨stack, .item [] true⟩
  | .mark '\x7b' => .ok ⟨stack, .key [] true⟩
  | .wideMark '[' => .ok ⟨.wide :: stack, .item [] true⟩
  | .wideMark '\x7b' => .ok ⟨.wide :: stack, .key [] true⟩
  | .broken fault beginning => .error (state.stop fault beginning)
  | _ => .error (state.misplaced .other)

/-- One token; `trailing` allows a comma before a closing bracket. -/
def step (trailing : Bool) (state : TreeState) (token : Token) : Except Reading TreeState :=
  match state.mode, token with
  | .item items first, .mark ']' =>
      if first || trailing then
        .ok (complete (.array items.reverse .closed) state.stack)
      else
        .error (state.misplaced .nothing)
  | .item items _, token => state.startValue (.array items :: state.stack) token
  | .value, token => state.startValue state.stack token
  | .key members first, .mark '\x7d' =>
      if first || trailing then
        .ok (complete (.object members.reverse .closed) state.stack)
      else
        .error (state.misplaced .nothing)
  | .key members _, .leaf _ (some key) => .ok ⟨state.stack, .colon members key⟩
  | .key _ _, .broken fault .text => .error (state.stop fault .text)
  | .colon members key, .mark ':' => .ok ⟨.object members key :: state.stack, .value⟩
  | .afterItem items, .mark ',' => .ok ⟨state.stack, .item items false⟩
  | .afterItem items, .mark ']' =>
      .ok (complete (.array items.reverse .closed) state.stack)
  | .afterMember members, .mark ',' => .ok ⟨state.stack, .key members false⟩
  | .afterMember members, .mark '\x7d' =>
      .ok (complete (.object members.reverse .closed) state.stack)
  | _, _ => .error (state.misplaced .other)

/-- The reading of a text that ends in this state. -/
def finish (state : TreeState) : Reading :=
  match state.mode with
  | .done node => ⟨node, none⟩
  | _ => state.stop Fault.incomplete.plain .nothing

/-- Read the remaining tokens. -/
def run (trailing : Bool) (state : TreeState) : List Token → Reading
  | [] => state.finish
  | token :: tokens =>
      match state.step trailing token with
      | .ok next => run trailing next tokens
      | .error reading => reading

theorem run_cons_of_step {trailing : Bool} {state next : TreeState} {token : Token}
    {tokens : List Token} (stepped : state.step trailing token = .ok next) :
    run trailing state (token :: tokens) = run trailing next tokens := by
  simp [run, stepped]

end TreeState

/-- The tree of a list of tokens. -/
def Reading.ofTokens (trailing : Bool) (tokens : List Token) : Reading :=
  TreeState.initial.run trailing tokens

end InverterBridge
