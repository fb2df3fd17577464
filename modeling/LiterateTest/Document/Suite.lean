import LiterateTest.Document.Expansion
import LiterateTest.Document.Reader

/-! Documents in files, and suites of them. -/

namespace LiterateTest

namespace Document

def directoryOf (path : String) : String :=
  match Path.parent? path with
  | none => "."
  | some parent => if parent = "" then "." else parent

def load (tree : FileTree) (path : String) : Except Fault Node := do
  let content ← (tree.readText? path).elim (.error .unreadable) .ok
  let directory := directoryOf path
  let (frontMatter, root) ← read path content directory
  expandTree tree frontMatter directory root

def discover (tree : FileTree) (directory : String) : Except Fault (List String) :=
  match tree.entry? directory with
  | some (.directory entries) =>
      let files := (Entry.placesBelowAll Path.join directory entries).filter fun place =>
        place.2.isFile && (Path.extension? place.1).any (Text.equalIgnoringCase · "md")
      .ok (Path.sort (files.map Prod.fst))
  | _ => .error .unreadable

end Document

def loadSuite (tree : FileTree) (name : String) (paths : List String) : Except Fault Node := do
  let documents ← paths.mapM (Document.load tree)
  return .ofFile name documents

/-! ## Files that commands wrote -/

namespace TempFile

def load (tree : FileTree) (name path : String) : Except FileFault TempFile :=
  (tree.read path).map fun content =>
    ofContent name path (((Path.extension? path).map ("." ++ ·)).getD "")
      (Text.decodeUtf8Lossy content)

end TempFile

end LiterateTest
