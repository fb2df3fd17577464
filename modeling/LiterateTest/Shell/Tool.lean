import LiterateTest.Shell.Condition
import LiterateTest.Shell.Directory
import LiterateTest.Shell.Filter

/-! The programs of a machine under their names. -/

namespace LiterateTest.Shell.Tool

def sleepTime? (text : String) : Option (Option Duration) :=
  let unit := fun (c : Char) =>
    match c with
    | 's' => some 1
    | 'm' => some 60
    | 'h' => some 3600
    | 'd' => some 86400
    | _ => none
  let last := text.toList.getLast?
  let factor := (last.bind unit).getD 1
  let digits := if (last.bind unit).isSome then text.toList.dropLast else text.toList
  let whole := digits.takeWhile Char.isDigit
  let rest := digits.drop whole.length
  let fraction := rest.drop 1
  if text = "infinity" || text = "inf" then some none
  else if digits.isEmpty || !(rest.isEmpty || rest.head? == some '.') || !fraction.all Char.isDigit
  then none
  else
    let parts := (String.ofList (whole ++ fraction)).toNat?.getD 0
    some (some ⟨parts * factor * 10 ^ 9 / 10 ^ fraction.length⟩)

def printenv : Program := fun call =>
  match call.arguments with
  | [] => call.say (String.join (call.env.map fun (name, value) => name ++ "=" ++ value ++ "\n"))
  | names =>
      let values := names.filterMap fun name => Record.get? name call.env
      { call.say (String.join (values.map (· ++ "\n"))) with
        exitCode := if values.length = names.length then 0 else 1 }

def all : List (String × Program) :=
  [("true", fun call => call.ending 0), ("false", fun call => call.ending 1),
    ("echo", echo false), ("printf", printf), ("seq", seq), ("cat", cat), ("tee", tee),
    ("tr", tr), ("head", head), ("tail", tail), ("wc", wc), ("sort", sort), ("uniq", uniq),
    ("grep", grep), ("pwd", pwd), ("touch", touch), ("mkdir", mkdir), ("rm", rm),
    ("rmdir", rmdir), ("cp", cp), ("mv", mv), ("ls", ls), ("basename", basename),
    ("dirname", dirname), ("test", test), ("[", test), ("printenv", printenv)]

def find? (name : String) : Option Program :=
  (all.find? fun entry => entry.1 == name).map Prod.snd

end LiterateTest.Shell.Tool
