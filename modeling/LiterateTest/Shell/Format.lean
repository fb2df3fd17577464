import LiterateTest.Shell.Call
import LiterateTest.Shell.Escape

/-! Programs that write their arguments. -/

namespace LiterateTest.Shell.Tool

def isEchoOption (known : List Char) (argument : String) : Bool :=
  match argument.toList with
  | '-' :: c :: letters => (c :: letters).all known.contains
  | _ => false

/-- Writes its arguments. If backslashes always have a meaning, `-n` is the only option; else it
depends on `-e` and `-E`. -/
def echo (escapes : Bool) (call : Call) : Reply :=
  let isOption := isEchoOption (if escapes then ['n'] else ['n', 'e', 'E'])
  let letters := (call.arguments.takeWhile isOption).flatMap fun option => option.toList.drop 1
  let text := Text.joinWith " " (call.arguments.dropWhile isOption)
  let escaped :=
    match letters.reverse.find? fun c => c == 'e' || c == 'E' with
    | some c => c == 'e'
    | none => escapes
  let (bytes, stopped) :=
    if escaped then Escape.write Escape.argument text else (Text.utf8Bytes text, false)
  call.output (if stopped || letters.contains 'n' then bytes else bytes ++ [10])

inductive FormatPart where
  | text (bytes : List UInt8)
  | place (flags : List Char) (width : Nat) (precision : Option Nat) (kind : Char)
  deriving DecidableEq, Repr

/-- The parts of a format. `skip` characters have been read before. -/
def formatParts : (skip : Nat) → List Char → List FormatPart
  | _, [] => []
  | skip + 1, _ :: rest => formatParts skip rest
  | 0, '%' :: '%' :: rest => .text [37] :: formatParts 1 ('%' :: rest)
  | 0, '%' :: rest =>
      let flags := rest.takeWhile ['-', '0', '+', ' ', '#'].contains
      let afterFlags := rest.drop flags.length
      let width := afterFlags.takeWhile Char.isDigit
      let afterWidth := afterFlags.drop width.length
      let digits := (afterWidth.drop 1).takeWhile Char.isDigit
      let hasPrecision := afterWidth.head? == some '.'
      let precision := if hasPrecision then digits.length + 1 else 0
      let count := flags.length + width.length + precision
      match rest[count]? with
      | some kind =>
          .place flags ((String.ofList width).toNat?.getD 0)
            (if hasPrecision then some ((String.ofList digits).toNat?.getD 0) else none) kind
            :: formatParts (count + 1) rest
      | none => .text [37] :: formatParts 0 rest
  | 0, '\\' :: rest =>
      match Escape.meaning? Escape.format rest with
      | some (bytes, count) => .text bytes :: formatParts count rest
      | none => .text [92] :: formatParts 0 rest
  | 0, c :: rest => .text (String.utf8EncodeChar c) :: formatParts 0 rest

def isPlace : FormatPart → Bool
  | .place .. => true
  | .text _ => false

def fill (flags : List Char) (width : Nat) (bytes : List UInt8) : List UInt8 :=
  let missing := width - bytes.length
  if flags.contains '-' then bytes ++ List.replicate missing 32
  else if flags.contains '0' then List.replicate missing 48 ++ bytes
  else List.replicate missing 32 ++ bytes

def integerOf (text : String) : Int :=
  match (Text.trim text).toList with
  | '+' :: digits => ((String.ofList digits).toNat?.getD 0 : Nat)
  | '\'' :: c :: _ => c.toNat
  | '"' :: c :: _ => c.toNat
  | _ => (Text.trim text).toInt?.getD 0

/-- How an argument is written at a place of a format, and whether all output ends with it. -/
def formatArgument (flags : List Char) (width : Nat) (precision : Option Nat) (kind : Char)
    (argument : String) : List UInt8 × Bool :=
  let signed := fun (value : Int) =>
    if flags.contains '+' && 0 ≤ value then "+" ++ toString value else toString value
  match kind with
  | 'b' =>
      let (bytes, stopped) := Escape.write Escape.argument argument
      (fill flags width bytes, stopped)
  | 'd' | 'i' | 'u' => (fill flags width (Text.utf8Bytes (signed (integerOf argument))), false)
  | 'x' =>
      let digits := Nat.toDigits 16 (integerOf argument).toNat
      (fill flags width (Text.utf8Bytes (String.ofList digits)), false)
  | 'X' =>
      let digits := Nat.toDigits 16 (integerOf argument).toNat
      (fill flags width (Text.utf8Bytes (Text.upperAscii (String.ofList digits))), false)
  | 'o' =>
      let digits := Nat.toDigits 8 (integerOf argument).toNat
      (fill flags width (Text.utf8Bytes (String.ofList digits)), false)
  | 'c' => (fill flags width (Text.utf8Bytes (String.ofList (argument.toList.take 1))), false)
  | _ =>
      let bytes := Text.utf8Bytes argument
      (fill (flags.filter (· != '0')) width ((precision.map bytes.take).getD bytes), false)

def formatOnce : List FormatPart → List String → List UInt8 × List String × Bool
  | [], arguments => ([], arguments, false)
  | .text bytes :: parts, arguments =>
      let (others, left, stopped) := formatOnce parts arguments
      (bytes ++ others, left, stopped)
  | .place flags width precision kind :: parts, arguments =>
      let (bytes, stopped) :=
        formatArgument flags width precision kind (arguments.headD "")
      if stopped then (bytes, [], true)
      else
        let (others, left, stopped) := formatOnce parts (arguments.drop 1)
        (bytes ++ others, left, stopped)

def formatAll (parts : List FormatPart) : (budget : Nat) → List String → List UInt8
  | 0, _ => []
  | budget + 1, arguments =>
      let (bytes, left, stopped) := formatOnce parts arguments
      if stopped || left.isEmpty || !parts.any isPlace then bytes
      else bytes ++ formatAll parts budget left

def printf : Program := fun call =>
  match (if call.arguments.head? = some "--" then call.arguments.drop 1 else call.arguments) with
  | [] => call.complain "usage: printf [-v var] format [arguments]" 2
  | format :: arguments =>
      call.output (formatAll (formatParts 0 format.toList) (arguments.length + 1) arguments)

def numbersFrom (first step last : Int) : List Int :=
  if step = 0 then []
  else
    let count := (last - first) / step + 1
    (List.range count.toNat).map fun (index : Nat) => first + step * (index : Int)

def seq : Program := fun call =>
  let numbers :=
    match call.arguments.map fun argument => argument.toInt? with
    | [some last] => some (numbersFrom 1 1 last)
    | [some first, some last] => some (numbersFrom first 1 last)
    | [some first, some step, some last] => some (numbersFrom first step last)
    | _ => none
  match numbers with
  | some numbers => call.say (String.join (numbers.map fun number => toString number ++ "\n"))
  | none => call.complain "missing operand" 1

end LiterateTest.Shell.Tool
