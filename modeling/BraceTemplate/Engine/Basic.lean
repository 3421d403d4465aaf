import BraceTemplate.Context
import BraceTemplate.Output.Observer
import BraceTemplate.Output.Writer
import BraceTemplate.Program.Compile
import BraceTemplate.Render.Compare
import BraceTemplate.Render.Filter

/-!
Engines: tables of templates, helpers and filters by name, where missing templates come from, and
what waits: requests for templates, branches that host code keeps, and renders that have not begun.
-/

namespace BraceTemplate

/-- The helpers that every engine starts with. -/
inductive BuiltinHelper where
  /-- Renders its body between elements. -/
  | separator
  /-- Renders its body with the place in the array. -/
  | place
  | select
  | compare (comparison : Comparison)
  | math
  | size
  | contextDump
deriving Repr, DecidableEq

/-- What a helper tag calls. -/
inductive Helper where
  | builtin (helper : BuiltinHelper)
  | host (helper : HostHelper)

/-- The helpers that every engine starts with, by name. -/
def Helper.standard : Members Helper :=
  Members.ofList [
    ("sep", .builtin .separator),
    ("idx", .builtin .place),
    ("select", .builtin .select),
    ("eq", .builtin (.compare .eq)),
    ("ne", .builtin (.compare .ne)),
    ("lt", .builtin (.compare .lt)),
    ("lte", .builtin (.compare .lte)),
    ("gt", .builtin (.compare .gt)),
    ("gte", .builtin (.compare .gte)),
    ("default", .builtin (.compare .always)),
    ("math", .builtin .math),
    ("size", .builtin .size),
    ("contextDump", .builtin .contextDump)]

/-- Where sources of templates come from that nobody registered. -/
inductive Loader where
  /-- There are none. -/
  | none
  /-- Answers at once. -/
  | immediate (answer : String → Except RenderError String)
  /-- Registers a source under the name by itself, then answers at once. -/
  | registering (source answer : String → String)
  /-- Keeps requests until they are answered. -/
  | deferred

/-- A branch that waits for a template. -/
structure Request where
  template : String
  branch : Output.Writer
  context : Context

/-- A render that has been asked for and not begun. -/
inductive Task where
  /-- Of the template under a name. -/
  | named (template : String) (writer : Output.Writer) (context : Context)
  | program (program : Program) (writer : Output.Writer) (context : Context)

/-- An engine. -/
structure Engine where
  config : Config
  registry : Members Program
  helpers : Members Helper
  filters : Members Filter
  loader : Loader
  /-- Oldest first. -/
  requests : List Request
  /-- Branches that host code keeps, by slot, oldest first. -/
  held : List (String × Output.Writer)
  /-- Oldest first. -/
  queue : List Task

def Engine.ofConfig (config : Config) : Engine :=
  ⟨config, [], Helper.standard, Filter.standard, .none, [], [], []⟩

namespace Engine

/-- Registers a template under a name, in place of the one that is there. -/
def register (engine : Engine) (name : String) (program : Program) : Engine :=
  { engine with registry := engine.registry.insert name program }

/-- Compiles a source under a name. -/
def compile (engine : Engine) (name : Option String) (source : String) :
    Except ParseError Program :=
  Program.ofSource engine.config name source

/-- Compiles a source under its name and registers it; nothing is registered where the source is no
template. -/
def addTemplate (engine : Engine) (name source : String) : Except ParseError Engine :=
  (engine.compile (some name) source).map fun program => engine.register name program

/-- Registers a template under the name it was compiled under, if any. -/
def adopt (engine : Engine) (program : Program) : Engine :=
  match program.name with
  | none => engine
  | some name => engine.register name program

/-- Whether a template is registered under a name. -/
def hasTemplate (engine : Engine) (name : String) : Bool :=
  engine.registry.contains name

def removeTemplate (engine : Engine) (name : String) : Engine :=
  { engine with registry := engine.registry.erase name }

/-- Puts a helper under a name, in place of the one that is there. -/
def withHelper (engine : Engine) (name : String) (helper : Helper) : Engine :=
  { engine with helpers := engine.helpers.insert name helper }

def withFilter (engine : Engine) (name : String) (filter : Filter) : Engine :=
  { engine with filters := engine.filters.insert name filter }

def withLoader (engine : Engine) (loader : Loader) : Engine :=
  { engine with loader := loader }

end Engine

end BraceTemplate
