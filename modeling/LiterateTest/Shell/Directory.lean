import LiterateTest.Shell.Call

/-! Programs that change or list files. -/

namespace LiterateTest.Shell.Tool

def eachPath (call : Call) (paths : List String)
    (change : FileTree → String → Except String FileTree) : Reply :=
  let step := fun (reply : Reply) (path : String) =>
    match change reply.files path with
    | .ok files => { reply with files }
    | .error text =>
        { reply with
          written := reply.written ++ [.error (call.program ++ ": " ++ text ++ "\n")]
          exitCode := 1 }
  paths.foldl step { files := call.files, input := call.input }

def quoted (path : String) : String := "'" ++ path ++ "'"

def pwd : Program := fun call => call.say (call.files.directoryPath ++ "\n")

def touch : Program := fun call =>
  eachPath call (Call.splitOptions call.arguments).2 fun files path =>
    if files.exists? path then .ok files
    else
      match files.write? path [] with
      | some next => .ok next
      | none => .error ("cannot touch " ++ quoted path ++ ": " ++ (files.fault path).text)

def mkdir : Program := fun call =>
  let (letters, paths) := Call.splitOptions call.arguments
  eachPath call paths fun files path =>
    let why := fun (text : String) => "cannot create directory " ++ quoted path ++ ": " ++ text
    if letters.contains 'p' then
      match files.makeDirectories? path with
      | some next => .ok next
      | none => .error (why "File exists")
    else if files.exists? path then .error (why "File exists")
    else
      match files.entry? ((Path.parent? path).getD ""), Path.parent? path with
      | some (.file _), _ => .error (why FileFault.notDirectory.text)
      | none, some parent =>
          if parent = "" then
            ((files.makeDirectories? path).elim (.error (why "File exists")) .ok)
          else .error (why (files.fault parent).text)
      | _, _ => (files.makeDirectories? path).elim (.error (why "File exists")) .ok

def rm : Program := fun call =>
  let (letters, paths) := Call.splitOptions call.arguments
  let whole := letters.contains 'r' || letters.contains 'R'
  eachPath call paths fun files path =>
    let why := fun (text : String) => "cannot remove " ++ quoted path ++ ": " ++ text
    match files.locate? path, files.entry? path with
    | some names, some entry =>
        if entry.isDirectory && !whole then .error (why FileFault.isDirectory.text)
        else .ok { files with top := files.top.remove names }
    | _, _ => if letters.contains 'f' then .ok files else .error (why (files.fault path).text)

def rmdir : Program := fun call =>
  eachPath call (Call.splitOptions call.arguments).2 fun files path =>
    let why := fun (text : String) => "failed to remove " ++ quoted path ++ ": " ++ text
    match files.locate? path, files.entry? path with
    | some names, some (.directory []) => .ok { files with top := files.top.remove names }
    | some _, some (.directory _) => .error (why "Directory not empty")
    | some _, some (.file _) => .error (why FileFault.notDirectory.text)
    | _, _ => .error (why (files.fault path).text)

def targetPath (files : FileTree) (source target : String) : String :=
  if files.isDirectory target then Path.join target ((Path.fileName? source).getD "") else target

def copyTo (files : FileTree) (source target : String) : Except FileFault FileTree :=
  let path := targetPath files source target
  match files.entry? source with
  | none => .error (files.fault source)
  | some entry =>
      match files.locate? path with
      | none => .error (files.fault path)
      | some names => .ok { files with top := Entry.put entry names files.top }

def cp : Program := fun call =>
  let (letters, paths) := Call.splitOptions call.arguments
  let target := paths.getLastD ""
  eachPath call paths.dropLast fun files source =>
    if files.isDirectory source && !(letters.any ['r', 'R', 'a'].contains) then
      .error ("-r not specified; omitting directory " ++ quoted source)
    else
      match copyTo files source target with
      | .ok next => .ok next
      | .error fault =>
          if files.exists? source then
            .error ("cannot create regular file " ++ quoted target ++ ": " ++ fault.text)
          else .error ("cannot stat " ++ quoted source ++ ": " ++ fault.text)

def mv : Program := fun call =>
  let paths := (Call.splitOptions call.arguments).2
  let target := paths.getLastD ""
  eachPath call paths.dropLast fun files source =>
    match files.locate? source, copyTo files source target with
    | some names, .ok next => .ok { next with top := next.top.remove names }
    | _, .error fault =>
        if files.exists? source then
          .error ("cannot move " ++ quoted source ++ " to " ++ quoted target ++ ": " ++ fault.text)
        else .error ("cannot stat " ++ quoted source ++ ": " ++ fault.text)
    | none, .ok next => .ok next

def ls : Program := fun call =>
  let (letters, paths) := Call.splitOptions call.arguments
  let paths := if paths.isEmpty then ["."] else Path.sort paths
  let shown := fun (entry : Entry) =>
    (if letters.contains 'a' then [".", ".."] else [])
      ++ (entry.entries.map Prod.fst).filter fun name =>
        letters.any ['a', 'A'].contains || !name.startsWith "."
  let lines := fun (names : List String) => String.join (names.map (· ++ "\n"))
  let missing := paths.filter fun path => !call.files.exists? path
  let complaints := missing.map fun path =>
    let fault := call.files.fault path
    Written.error ("ls: cannot access " ++ quoted path ++ ": " ++ fault.text ++ "\n")
  let places := paths.filterMap fun path => (call.files.entry? path).map (path, ·)
  let plain := places.filter fun place => place.2.isFile || letters.contains 'd'
  let inner := places.filter fun place => !(place.2.isFile || letters.contains 'd')
  let list := fun (place : Place) =>
    (if 1 < paths.length then place.1 ++ ":\n" else "") ++ lines (shown place.2)
  let blocks :=
    (if plain.isEmpty then [] else [lines (Path.sort (plain.map Prod.fst))]) ++ inner.map list
  { written := complaints ++ [.output (Text.utf8Bytes (Text.joinWith "\n" blocks))]
    exitCode := if missing.isEmpty then 0 else 2
    files := call.files
    input := call.input }

def basename : Program := fun call =>
  match call.arguments with
  | [] => call.complain "missing operand" 1
  | path :: rest =>
      let name := (Path.fileName? path).getD path
      let tail := rest.headD ""
      let short := if name = tail then name else (Text.dropTail? name tail).getD name
      call.say (short ++ "\n")

def dirname : Program := fun call =>
  match call.arguments with
  | [] => call.complain "missing operand" 1
  | paths =>
      call.say (String.join (paths.map fun path =>
        let parent := (Path.parent? path).getD path
        (if parent = "" then "." else parent) ++ "\n"))

end LiterateTest.Shell.Tool
