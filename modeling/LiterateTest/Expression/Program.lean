import LiterateTest.Expression.Evaluation

/-! Programs: expressions whose variables are all known. -/

namespace LiterateTest.Expression

inductive Schema where
  /-- Any name. -/
  | anyName
  /-- The listed names only. -/
  | names (allowed : List String)

namespace Schema

def ofBindings (bindings : Record Json) : Schema := names (Record.keys bindings)

def admits : Schema → String → Bool
  | anyName, _ => true
  | names allowed, name => allowed.contains name

end Schema

mutual
/-- The variables of an expression that no loop around them binds, in the order in which
they are written. -/
def freeVariables (bound : List String) : Expr → List String
  | .literal _ => []
  | .reference name => if bound.contains name then [] else [name]
  | .list items => freeInItems bound items
  | .map entries => freeInEntries bound entries
  | .member target _ => freeVariables bound target
  | .index target key => freeVariables bound target ++ freeVariables bound key
  | .call _ arguments => freeInItems bound arguments
  | .method target _ arguments => freeVariables bound target ++ freeInItems bound arguments
  | .quantified target _ loopVariable body =>
      freeVariables bound target ++ freeVariables (loopVariable :: bound) body
  | .unary _ operand => freeVariables bound operand
  | .binary _ left right => freeVariables bound left ++ freeVariables bound right
  | .conditional condition whenTrue whenFalse =>
      freeVariables bound condition ++ freeVariables bound whenTrue
        ++ freeVariables bound whenFalse

def freeInItems (bound : List String) : List Expr → List String
  | [] => []
  | item :: rest => freeVariables bound item ++ freeInItems bound rest

def freeInEntries (bound : List String) : List (Expr × Expr) → List String
  | [] => []
  | (key, value) :: rest =>
      freeVariables bound key ++ freeVariables bound value ++ freeInEntries bound rest
end

def undeclared? (schema : Schema) (expr : Expr) : Option String :=
  (freeVariables [] expr).find? fun name => !schema.admits name

structure Program where
  source : String
  expr : Expr

def compile (schema : Schema) (source : String) : Except Fault Program := do
  let expr ← parse source
  match undeclared? schema expr with
  | some name => .error (.undeclared name)
  | none => .ok ⟨source, expr⟩

def Program.run (program : Program) (bindings : Record Json) : Except Fault Json :=
  evaluate bindings program.expr

def evaluateSource (bindings : Record Json) (source : String) : Except Fault Json := do
  let program ← compile (Schema.ofBindings bindings) source
  program.run bindings

end LiterateTest.Expression
