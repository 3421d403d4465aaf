import BraceTemplate.Proofs.Program.Defining
import BraceTemplate.Proofs.Program.Everywhere
import BraceTemplate.Proofs.Render.FirstMatch
import BraceTemplate.Proofs.Render.Scoping

/-!
# Which definition a block tag renders

A block tag renders the definition in the template that was entered last of those it stands in and
that defines the block at all. Where in its template a definition stands does not matter, as long as
it is compiled.
-/

namespace BraceTemplate.Render

open Output

/-- What a context says of blocks does not matter along a chain. -/
theorem renderBodyAlong_along (depth : Nat) (chain other : Chain) (program : Program)
    (body : BodyId) (writer : Writer) (context : Context) :
    renderBodyAlong depth chain program body writer (along context other) =
      renderBodyAlong depth chain program body writer context := by
  cases depth <;> rfl

/-- Blocks follow the inclusions that a render stands in. Every render is one along the chain of
templates that its context keeps: it starts without any, each template that is entered is put in
front of the chain of its tag for as long as it is rendered, whether it is there at once, is
captured by name or is answered for later, and everything else that is rendered there, overrides and
functions included, goes on along the same chain. A block tag renders the definition in the first
template of the chain that has one. A template that is not put in front, since it defines nothing or
stands there already, would change no definition that is found. A template has all definitions that
are compiled, wherever they stand in its tree, and of several under one name the one that ends last.
-/
theorem blocks_followInclusions (depth : Nat) :
    (∀ data, (Context.ofValue data).blockChain = []) ∧
    (∀ program writer (context : Context),
      renderTemplate (callsWithin depth) program writer context =
        renderTemplate (callsEntering depth context.blockChain) program writer context) ∧
    (∀ name writer (context : Context),
      renderNamedTemplate (callsWithin depth) name writer context =
        renderNamedTemplate (callsEntering depth context.blockChain) name writer context) ∧
    (∀ (request : Request) source,
      answer (callsWithin depth) request source =
        answer (callsEntering depth request.context.blockChain) request source) ∧
    (∀ continuation result,
      resumeWithin depth continuation result = resumeAlong depth continuation result) ∧
    (∀ program body writer (context : Context),
      renderBodyWithin depth program body writer context =
        renderBodyAlong depth context.blockChain program body writer context) ∧
    (∀ called writer (context : Context) bodies params,
      callWithin depth called writer context bodies params =
        callAlong depth context.blockChain called writer context bodies params) ∧
    (∀ chain other program body writer context,
      renderBodyAlong depth chain program body writer (along context other) =
        renderBodyAlong depth chain program body writer context) ∧
    (∀ (chain : Chain) block program body,
      chain.definition? block = some ⟨program, body⟩ ↔
        ∃ inner outer, chain = inner ++ program :: outer ∧
          program.blocks.find? block = some body ∧
            ∀ later ∈ inner, later.blocks.find? block = none) ∧
    (∀ (chain : Chain) block,
      chain.definition? block = none ↔ ∀ program ∈ chain, program.blocks.find? block = none) ∧
    (∀ (chain : Chain) (entered : List Program) block,
      Chain.definition? (entered.foldl Chain.enter chain) block =
        Chain.definition? (entered.reverse ++ chain) block) ∧
    (∀ name auto whitespace (tree : Node) block,
      let program := Program.ofNode name auto (tree.tidy whitespace)
      Option.Rel program.Implements
        ((tree.definition? auto block).map (Definition.tidied whitespace))
        (program.blocks.find? block)) := by
  have follows := followsChains depth
  refine ⟨fun _ => rfl, fun program writer context => ?_, fun name writer context => ?_,
    fun request source => ?_, fun continuation result => ?_, fun program body writer context => ?_,
    fun called writer context bodies params => ?_, renderBodyAlong_along depth,
    fun _ _ _ _ => Chain.definition?_eq_some_iff, fun _ _ => Chain.definition?_eq_none_iff,
    Chain.definition?_foldl_enter, fun name auto whitespace tree block => ?_⟩
  · exact ((follows.enterAlike _).renderTemplate rfl program).symm
  · exact ((follows.enterAlike _).renderNamedTemplate rfl name).symm
  · exact ((follows.enterAlike _).answer request rfl source).symm
  · rw [follows.resume]
  · rw [follows.renderBody, along_of_blockChain rfl]
  · rw [follows.call, along_of_blockChain rfl]
  · rw [← Node.definition?_tidy]
    exact Program.ofNode_blocks name auto (tree.tidy whitespace) block

/-- An override stands in the template that includes another; the block tag in it is reached where
the other one is rendered, whose definition counts. -/
example :
    let registry := Program.ofSources .standard
      [("base", "\x7b+outer/\x7d\x7b<inner\x7dbase\x7b/inner\x7d"),
        ("main", "\x7b>base/\x7d\x7b<outer\x7d[\x7b+inner/\x7d]\x7b/outer\x7d" ++
          "\x7b<inner\x7dpage\x7b/inner\x7d")]
    ((renderToString (callsWithin 9) "main" .null
      (Store.initial ⟨Engine.fresh .standard registry .none, false⟩)).bind fun found =>
        found.1.toOption) = some "[base]" := by
  decide +kernel

def isDefinition (name : String) : Node → Bool
  | .sectionTag .define identifier _ _ _ _ => identifier.text == name
  | _ => false

/-- Whether a definition of a block stands anywhere in a source. -/
def holdsDefinition (name source : String) : Bool :=
  (Node.parse source).toOption.any fun tree => !tree.all fun part => !isDefinition name part

/-- What stands in a pragma that is not known, or in a branch of a definition, defines nothing. -/
theorem blocks_leftOut :
    let ignored := "\x7b%skip\x7d\x7b<title\x7dCustom\x7b/title\x7d\x7b/skip\x7d" ++
      "\x7b+title\x7dOwn\x7b/title\x7d"
    let branch := "\x7b<other\x7d\x7b:else\x7d\x7b<title\x7dCustom\x7b/title\x7d\x7b/other\x7d" ++
      "\x7b+title\x7dOwn\x7b/title\x7d"
    (holdsDefinition "title" ignored = true ∧ textAlone? ignored .null = some "Own") ∧
      holdsDefinition "title" branch = true ∧ textAlone? branch .null = some "Own" := by
  decide +kernel

end BraceTemplate.Render
