import BraceTemplate.Context

/-!
Working on a context step by step: building it, looking things up in it, keeping it under a name and
going back to it. A select keeps one mark for all contexts that stand in its frame.
-/

namespace BraceTemplate.Context

/-- A step that builds a context from another one. -/
inductive Build where
  /-- Starts over with one frame. -/
  | fresh (head : Value)
  /-- Starts over with global data and no frame. -/
  | globals (data : Value)
  | push (head : Value)
  | pushIndexed (head : Value) (index length : Nat)
  | pushSelect (key : Value)
  | rebase (head : Value)
  | named (name : String)

/-- The context that a step builds. -/
def build (context : Context) : Build → Context
  | .fresh head => ofValue head
  | .globals data => ofGlobals data
  | .push head => context.push head
  | .pushIndexed head index length => context.pushIndexed head index length
  | .pushSelect key => context.pushSelect key
  | .rebase head => context.rebase head
  | .named name => context.named name

namespace Script

/-- A step of work on a context. -/
inductive Step where
  | build (how : Build)
  | get (path : String)
  | getPath (relative : Bool) (keys : List String)
  | info
  | stack
  | select
  /-- Marks the select whose frame is the innermost one. -/
  | mark
  | save (name : String)
  | restore (name : String)
  /-- Makes a template that defines blocks, with the bodies numbered from one. -/
  | program (name : String) (blocks : List String)
  | shiftBlocks (name : String)
  | getBlock (name : String)

/-- What a step shows. -/
inductive Shown where
  | nothing
  | flag (value : Bool)
  | value (found : Option Value)
  | context (context : Context)
  | text (text : String)
  | select (key : Value) (marked : Bool)
  | block (block : BlockRef)

/-- A context with the number of the mark of its select. -/
structure Marked where
  context : Context
  mark : Option Nat

/-- What is worked with. -/
structure Desk where
  current : Marked
  saved : Members Marked
  programs : Members Program
  marks : Array Bool

/-- An empty context and nothing kept. -/
def Desk.initial : Desk :=
  ⟨⟨Context.empty, none⟩, [], [], #[]⟩

/-- Builds the current context. A new select has a mark of its own, and a name changes no frame. -/
def Desk.build (desk : Desk) (how : Build) : Desk :=
  let context := desk.current.context.build how
  match how with
  | .pushSelect _ =>
    { desk with current := ⟨context, some desk.marks.size⟩, marks := desk.marks.push false }
  | .named _ => { desk with current := ⟨context, desk.current.mark⟩ }
  | _ => { desk with current := ⟨context, none⟩ }

def blockProgram (name : String) (blocks : List String) : Program :=
  ⟨some name, 0, [], Members.ofList (blocks.zip ((List.range blocks.length).map (· + 1)))⟩

def Desk.step (desk : Desk) : Step → Shown × Desk
  | .build how =>
    let built := desk.build how
    (.value built.current.context.current?, built)
  | .get path => (.value (desk.current.context.get? path), desk)
  | .getPath relative keys => (.value (desk.current.context.getPath? relative keys), desk)
  | .info => (.context desk.current.context, desk)
  | .stack => (.text desk.current.context.stackJson.compact, desk)
  | .select =>
    match desk.current.context.select?, desk.current.mark with
    | some key, some mark => (.select key (desk.marks.getD mark false), desk)
    | _, _ => (.nothing, desk)
  | .mark =>
    match desk.current.mark with
    | some mark => (.flag true, { desk with marks := desk.marks.modify mark fun _ => true })
    | none => (.flag false, desk)
  | .save name => (.nothing, { desk with saved := desk.saved.insert name desk.current })
  | .restore name =>
    match desk.saved.find? name with
    | some kept => (.flag true, { desk with current := kept })
    | none => (.flag false, desk)
  | .program name blocks =>
    (.nothing, { desk with programs := desk.programs.insert name (blockProgram name blocks) })
  | .shiftBlocks name =>
    match desk.programs.find? name with
    | some program =>
      let current := ⟨desk.current.context.withBlocks program, desk.current.mark⟩
      (.flag true, { desk with current })
    | none => (.flag false, desk)
  | .getBlock name =>
    match desk.current.context.block? name with
    | some block => (.block block, desk)
    | none => (.nothing, desk)

/-- Takes steps one after the other and shows what each of them shows. -/
def Desk.run (desk : Desk) : List Step → List Shown
  | [] => []
  | step :: rest =>
    let (shown, next) := desk.step step
    shown :: next.run rest

end Script

end BraceTemplate.Context
