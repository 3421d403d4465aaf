import BraceTemplate.Value.Basic

/-!
The data a template renders against: a stack of frames, global data behind it, the blocks in scope,
and where in the nesting of inclusions and overrides the render stands. Every operation returns a
new context.
-/

namespace BraceTemplate

/-- The greatest number that fits in a machine word. -/
def greatestWord : Nat := Nat.pow 2 64 - 1

def nextWord (number : Nat) : Nat :=
  min (number + 1) greatestWord

theorem nextWord_of_lt {number : Nat} (below : number < greatestWord) :
    nextWord number = number + 1 :=
  Nat.min_eq_left below

/-- The place of an element in the array that is gone through. -/
structure Iteration where
  index : Nat
  length : Nat
deriving Repr, DecidableEq

/-- One level of the data. -/
structure Frame where
  head : Value
  iteration : Option Iteration
  /-- The key of a select, on the frame that the select opened. -/
  select : Option Value

/-- The body of a block in the template that defines it. -/
structure BlockRef where
  program : Program
  body : BodyId

/-- What a template renders against. -/
structure Context where
  /-- The frames, innermost first. -/
  frames : List Frame
  /-- Searched after every frame. -/
  globals : Value
  /-- The templates whose blocks are in scope, innermost first. -/
  blockChain : List Program
  templateName : Option String
  partialDepth : Nat
  blockDepth : Nat
  /-- How many frames were opened on the way here, those that were dropped included. -/
  level : Nat

namespace Context

def empty : Context := ⟨[], .null, [], none, 0, 0, 0⟩

instance : Inhabited Context := ⟨empty⟩

def pushFrame (context : Context) (frame : Frame) : Context :=
  { context with frames := frame :: context.frames, level := context.level + 1 }

/-- Opens a frame with a value. -/
def push (context : Context) (head : Value) : Context :=
  context.pushFrame ⟨head, none, none⟩

/-- Opens a frame with an element of an array. -/
def pushIndexed (context : Context) (head : Value) (index length : Nat) : Context :=
  context.pushFrame ⟨head, some ⟨index, length⟩, none⟩

/-- Opens the frame of a select. Its own value is null, so that lookups go on to the frames around
it. -/
def pushSelect (context : Context) (key : Value) : Context :=
  context.pushFrame ⟨.null, none, some key⟩

def ofValue (data : Value) : Context :=
  empty.push data

def ofGlobals (globals : Value) : Context :=
  { empty with globals := globals }

def rebase (context : Context) (head : Value) : Context :=
  { context with frames := [] }.push head

/-- Notes the template that is rendered. -/
def named (context : Context) (name : String) : Context :=
  { context with templateName := some name }

def current? (context : Context) : Option Value :=
  context.frames.head?.map Frame.head

/-- The key of the select whose frame is the innermost one. -/
def select? (context : Context) : Option Value :=
  context.frames.head?.bind Frame.select

def iteration? (context : Context) : Option Iteration :=
  context.frames.findSome? Frame.iteration

def index? (context : Context) : Option Nat :=
  context.iteration?.map Iteration.index

def length? (context : Context) : Option Nat :=
  context.iteration?.map Iteration.length

/-- A member of a frame: only objects and arrays are searched. -/
def memberOfFrame? (key : String) (frame : Frame) : Option Value :=
  match frame.head with
  | .object members => Value.child? (.object members) key
  | .array items => Value.child? (.array items) key
  | _ => none

def indexName : String := "$idx"

def lengthName : String := "$len"

/-- What a key stands for: the place and length of the iteration by their names, else the first
frame that has the key, from the innermost outward, and the global data after them. -/
def lookup? (context : Context) (key : String) : Option Value :=
  if key = indexName then context.index?.map Value.ofNat
  else if key = lengthName then context.length?.map Value.ofNat
  else
    match context.frames.findSome? (memberOfFrame? key) with
    | some found => some found
    | none => context.globals.child? key

def descend? (found : Option Value) (keys : List String) : Option Value :=
  keys.foldl (fun value key => value.bind fun inner => inner.child? key) found

/-- What a path stands for. A relative path starts at the innermost frame alone, and is that frame's
value where it has no keys. -/
def getPath? (context : Context) (relative : Bool) (keys : List String) : Option Value :=
  match keys with
  | [] => if relative then context.current? else none
  | first :: rest =>
    let found :=
      if relative then context.current?.bind fun head => head.child? first
      else context.lookup? first
    descend? found rest

/-- What a path written with dots stands for; a leading dot makes it relative. -/
def get? (context : Context) (path : String) : Option Value :=
  let (relative, keys) :=
    match path.toList with
    | '.' :: rest => (true, String.ofList rest)
    | _ => (false, path)
  context.getPath? relative (if keys.isEmpty then [] else keys.splitOn ".")

mutual

def resolve? (context : Context) : Identifier → Option Value
  | .key name => context.getPath? false [name]
  | .path relative segments =>
    match resolveKeys? context segments with
    | none => none
    | some keys => context.getPath? relative keys

/-- The keys of a path; a name in brackets stands for its text, and must stand for something. -/
def resolveKeys? (context : Context) : List PathSegment → Option (List String)
  | [] => some []
  | .key name :: rest => (resolveKeys? context rest).map (name :: ·)
  | .index digits :: rest => (resolveKeys? context rest).map (digits :: ·)
  | .lookup inner :: rest =>
    match resolve? context inner with
    | none => none
    | some value => (resolveKeys? context rest).map (value.display :: ·)

end

/-- Where a block is defined, by the innermost template that defines it. -/
def block? (context : Context) (name : String) : Option BlockRef :=
  context.blockChain.findSome? fun program =>
    (program.blocks.find? name).map fun body => ⟨program, body⟩

/-- The templates whose blocks are in scope where another one is entered. One without blocks brings
none, and one whose blocks are the innermost ones brings them once. -/
def enterBlocks (chain : List Program) (program : Program) : List Program :=
  if program.blocks.isEmpty || chain.head? = some program then chain else program :: chain

theorem mem_enterBlocks {chain : List Program} {program other : Program}
    (member : other ∈ enterBlocks chain program) : other = program ∨ other ∈ chain := by
  unfold enterBlocks at member
  split at member
  · exact .inr member
  · exact List.mem_cons.mp member

/-- Brings the blocks of a template into scope. -/
def withBlocks (context : Context) (program : Program) : Context :=
  { context with blockChain := enterBlocks context.blockChain program }

def forBlock (context : Context) : Context :=
  { context with blockDepth := nextWord context.blockDepth }

/-- The context of an inclusion: of the frames only the value and place of the innermost one, and on
top of it the parameters of the tag where there are any. -/
def forPartial (context : Context) (params : Value.Params) : Context :=
  let base : Context := { context with
    frames := context.frames.head?.toList.map fun frame => ⟨frame.head, frame.iteration, none⟩
    partialDepth := nextWord context.partialDepth
    level := context.level + 1 }
  if params.isEmpty then base else base.push (.object params)

/-- The context of the bodies of a tag: the frames give way to the value of the tag's own context
where it has one, null if that value is missing. -/
def forBodies (context : Context) (rebased : Option Identifier) : Context :=
  match rebased with
  | none => context
  | some identifier => context.rebase ((context.resolve? identifier).getD .null)

/-- The frames as JSON: each holds its value, its place in an array, and the frames around it. -/
def stackOfFrames : List Frame → Json
  | [] => .null
  | frame :: rest =>
    let place := match frame.iteration with
      | none => []
      | some iteration => [("index", Json.nat iteration.index), ("of", Json.nat iteration.length)]
    let outer := match rest with
      | [] => []
      | _ :: _ => [("tail", stackOfFrames rest)]
    Json.ofMembers ([("head", frame.head.toJson)] ++ place ++ outer)

def stackJson (context : Context) : Json :=
  stackOfFrames context.frames

end Context

end BraceTemplate
