import LiterateTest.File.Glob
import LiterateTest.Tree.Node

/-! Expansion over files: where the front matter names files by a pattern, each test stands for
one copy per file, and refers to the file by template variables. -/

namespace LiterateTest

/-! ## Files -/

/-- The files that a pattern matches, in the order of their paths. A relative pattern starts in
the directory. -/
def matchedFiles (tree : FileTree) (pattern directory : String) : Except Fault (List String) :=
  match Glob.ofString (Path.join directory pattern) with
  | .error fault => .error (.invalidGlob fault)
  | .ok glob => .ok (Path.sort ((glob.paths tree).filter tree.isFile))

def withSlashes (path : String) : String := Text.replace path "\\" "/"

def directoryVariable (path : String) : String :=
  match (Path.parent? path).map withSlashes with
  | none => "."
  | some parent => if parent = "" then "." else parent

def fileVariables (tree : FileTree) (path directory : String) : Except Fault (Record String) :=
  match Path.absolute? tree.directoryPath path with
  | none => .error .unreadable
  | some absolute =>
      let relative := (Path.relativeTo? directory path).getD path
      .ok <| Record.ofList
        [("file", withSlashes relative), ("filename", (Path.fileName? path).getD ""),
          ("dir", directoryVariable relative), ("absfile", withSlashes absolute),
          ("absdir", ((Path.parent? absolute).map withSlashes).getD ""),
          ("basename", (Path.stem? path).getD ""),
          ("ext", ((Path.extension? path).map ("." ++ ·)).getD "")]

def expansionFiles (tree : FileTree) (frontMatter : FrontMatter) (directory : String) :
    Except Fault (List (Record String)) := do
  let pattern := Text.trim frontMatter.files
  if pattern = "" then return []
  let paths ← matchedFiles tree pattern directory
  paths.mapM fun path => fileVariables tree path directory

/-! ## Copies -/

namespace Fixture

def withFile (fixture : Fixture) (vars : Record String) : Fixture :=
  { fixture with
    name := fixture.name ++ " [" ++ (Record.get? "file" vars).getD "" ++ "]"
    templateVars := fixture.templateVars.extend vars }

def expand (files : List (Record String)) (fixture : Fixture) : List Fixture :=
  if files.isEmpty then [fixture] else files.map fixture.withFile

end Fixture

def expandFixtures (tree : FileTree) (frontMatter : FrontMatter) (directory : String)
    (fixtures : List Fixture) : Except Fault (List Fixture) := do
  let files ← expansionFiles tree frontMatter directory
  return fixtures.flatMap (Fixture.expand files)

namespace Node

mutual
def expandNode (files : List (Record String)) : Node → List Node
  | node info children =>
      match info.kind, info.test with
      | .test, some fixture => (files.map fixture.withFile).map ofTest
      | _, _ => [node info (expandNodes files children)]

def expandNodes (files : List (Record String)) : List Node → List Node
  | [] => []
  | child :: rest => expandNode files child ++ expandNodes files rest
end

def expand (files : List (Record String)) (tree : Node) : Node :=
  if files.isEmpty then tree else node tree.info (expandNodes files tree.children)

end Node

def expandTree (tree : FileTree) (frontMatter : FrontMatter) (directory : String) (root : Node) :
    Except Fault Node := do
  let files ← expansionFiles tree frontMatter directory
  return root.expand files

end LiterateTest
