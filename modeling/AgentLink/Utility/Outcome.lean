import AgentLink.Host.FileSystem
import AgentLink.Text.Utf8
import AgentLink.Utility.Integer

/-!
# What a standard program does, without effects

A text program of the system reads its operands, then writes to its output and its
diagnostics and exits with a status. `Outcome` records those writes in order, so that the
program itself is a function from its arguments and the bytes it reads.

The options are read as the system's option reader reads them: options and operands may be
mixed, `--` ends the options, short options can be grouped (`-nv`) and take an argument either
attached (`-n5`) or as the next word, and a long option may be shortened to any prefix that
names one option only (or options that mean the same), its argument attached with `=` or given
as the next word; an optional argument is only ever attached.
-/

namespace AgentLink

/-- One write of a program: bytes to its output, or text to its diagnostics. -/
inductive Emit where
  | out (bytes : List UInt8)
  | err (text : String)

/-- The writes of a program, in order, and its exit status. -/
structure Outcome where
  emits : List Emit
  status : Nat

/-- The C library's text for a failed file operation. -/
def IoError.reason : IoError → String
  | .notFound => "No such file or directory"
  | .notADirectory => "Not a directory"
  | .isADirectory => "Is a directory"
  | .tooManyLinks => "Too many levels of symbolic links"
  | .permissionDenied => "Permission denied"
  | .nulInPath | .nulInCommand => "Invalid argument"

/-- The usual second line of a standard program's usage error. -/
def tryHelp (name : String) : String := "Try '" ++ name ++ " --help' for more information.\n"

/-- A usage error of program `name`: its diagnostic, the hint, and status `status`. -/
def usageError (name text : String) (status : Nat) : Outcome :=
  ⟨[.err (name ++ ": " ++ text ++ "\n" ++ tryHelp name)], status⟩

/-- Whether a character may stand in a file name shown without quotes. -/
def isPlainNameChar (c : Char) : Bool :=
  c.isAlphanum || "%+,-./:@_]\x7d".contains c

/-- A file name in quotes for a diagnostic: in single quotes, or in double quotes when it
holds a single quote and nothing that double quotes would change. -/
def quoteName (name : String) : String :=
  if !name.contains '\'' then "'" ++ name ++ "'"
  else if name.toList.any (fun c => "\"$`\\!".contains c) then
    "'" ++ "'\\''".intercalate (name.splitOn "'") ++ "'"
  else "\"" ++ name ++ "\""

/-- A file name for a diagnostic, in quotes only when it holds a character a shell would
read otherwise. -/
def quoteNameIfNeeded (name : String) : String :=
  let plain := !name.isEmpty && name.toList.all isPlainNameChar &&
    !(name.startsWith "#" || name.startsWith "~")
  if plain then name else quoteName name

/-- Whether an operand names the input. -/
def namesInput (o : String) : Bool := o = "-" || o = "/dev/stdin"

/-- What operands give when read in order, `source` giving each one's contents: the input goes
to the first operand that names it (none if `taken` already), and any later one finds the input
at its end, empty. -/
def readInOrder (taken : Bool) (source : String → Except IoError (List UInt8))
    (operands : List String) : List (String × Except IoError (List UInt8)) :=
  (operands.foldl (fun ((taken, acc) : Bool × List (String × Except IoError (List UInt8))) o =>
    if namesInput o then (true, (o, if taken then .ok [] else source o) :: acc)
    else (taken, (o, source o) :: acc)) (taken, [])).2.reverse

/-! ## Lines of bytes -/

/-- The newline byte. -/
def newlineByte : UInt8 := 10

/-- Bytes cut after each `sep`: the pieces, each ending with `sep` except perhaps the last,
join to the bytes. -/
def splitAfter (sep : UInt8) (bs : List UInt8) : List (List UInt8) :=
  let (done, cur) := bs.foldl (fun (done, cur) b =>
    if b = sep then ((b :: cur).reverse :: done, []) else (done, b :: cur)) ([], [])
  (if cur.isEmpty then done else cur.reverse :: done).reverse

/-- Bytes cut after each newline. -/
def splitAfterNewlines (bs : List UInt8) : List (List UInt8) := splitAfter newlineByte bs

/-- A line without the newline that ends it. -/
def dropNewline (line : List UInt8) : List UInt8 :=
  if line.getLast? = some newlineByte then line.dropLast else line

/-- The lines of bytes without their newlines; a last line without one counts too. -/
def textLines (bs : List UInt8) : List (List UInt8) :=
  (splitAfterNewlines bs).map dropNewline

/-- Lines written out, each followed by a newline. -/
def joinLines (lines : List (List UInt8)) : List UInt8 :=
  lines.flatMap (· ++ [newlineByte])

/-! ## Options -/

/-- Whether an option takes an argument: never, always, or only when attached to it. -/
inductive Takes where
  | nothing
  | argument
  | optional
  deriving DecidableEq

/-- An option a program knows: its letter, its long name, whether it takes an argument, and
the key it is reported under. -/
structure ProgramOption where
  short : Option Char
  long : Option String
  takes : Takes
  key : String

/-- The options read, in order, with their arguments, and the operands. -/
structure ReadOptions where
  given : List (String × String)
  operands : List String

/-- Whether option `key` was given. -/
def ReadOptions.has (r : ReadOptions) (key : String) : Bool := r.given.any (·.1 == key)

/-- The argument of the last `key` option given. -/
def ReadOptions.last? (r : ReadOptions) (key : String) : Option String :=
  (r.given.filter (·.1 == key)).getLast?.map (·.2)

/-- The long option a word names: the one spelled so, else the only one it begins. -/
def findLong (specs : List ProgramOption) (word : String) : Except String ProgramOption :=
  match specs.find? (·.long == some word) with
  | some o => .ok o
  | none =>
    let prefixed := specs.filter fun o => (o.long.map (·.startsWith word)).getD false
    match prefixed with
    | [o] => .ok o
    | [] => .error ("unrecognized option '--" ++ word ++ "'")
    | o :: more =>
      let others := more.filter (·.key != o.key)
      if others.isEmpty then .ok o
      else .error ("option '--" ++ word ++ "' is ambiguous; possibilities:" ++
        String.join ((o :: others).map fun p => " '--" ++ p.long.getD "" ++ "'"))

/-- Read a group of short options (the word without its `-`), with the words after it. -/
def readShort (specs : List ProgramOption) (acc : List (String × String)) :
    List Char → List String → Except String (List (String × String) × List String)
  | [], rest => .ok (acc, rest)
  | c :: more, rest =>
    match specs.find? (·.short == some c) with
    | none => .error ("invalid option -- '" ++ c.toString ++ "'")
    | some o =>
      if o.takes = .nothing then readShort specs (acc ++ [(o.key, "")]) more rest
      else if !more.isEmpty then .ok (acc ++ [(o.key, String.ofList more)], rest)
      else if o.takes = .optional then .ok (acc ++ [(o.key, "")], rest)
      else match rest with
        | arg :: rest' => .ok (acc ++ [(o.key, arg)], rest')
        | [] => .error ("option requires an argument -- '" ++ c.toString ++ "'")

/-- Read one word that holds options (a long option, or a group of short ones), with the words
after it for an argument: the options given and the words left. -/
def readOptionWord (specs : List ProgramOption) (a : String) (rest : List String) :
    Except String (List (String × String) × List String) :=
  if a.startsWith "--" then do
    let body := (a.drop 2).toString
    let (word, value) := match body.splitOn "=" with
      | w :: v :: more => (w, some ("=".intercalate (v :: more)))
      | _ => (body, none)
    let o ← findLong specs word
    let long := "--" ++ o.long.getD word
    match o.takes, value with
    | .nothing, some _ => .error ("option '" ++ long ++ "' doesn't allow an argument")
    | .nothing, none => .ok ([(o.key, "")], rest)
    | .argument, some v | .optional, some v => .ok ([(o.key, v)], rest)
    | .optional, none => .ok ([(o.key, "")], rest)
    | .argument, none =>
      match rest with
      | v :: rest' => .ok ([(o.key, v)], rest')
      | [] => .error ("option '" ++ long ++ "' requires an argument")
  else readShort specs [] (a.drop 1).toString.toList rest

/-- Read the options and operands of a program's arguments; each step reads at least one word,
so `fuel` above their number suffices. -/
def readProgramOptionsFor (specs : List ProgramOption) :
    Nat → List String → Except String ReadOptions
  | 0, _ => .ok ⟨[], []⟩
  | _, [] => .ok ⟨[], []⟩
  | _, "--" :: rest => .ok ⟨[], rest⟩
  | fuel + 1, a :: rest =>
    if a.startsWith "-" && a.length > 1 then do
      let (given, rest') ← readOptionWord specs a rest
      let r ← readProgramOptionsFor specs fuel rest'
      return { r with given := given ++ r.given }
    else
      (readProgramOptionsFor specs fuel rest).map fun r => { r with operands := a :: r.operands }

/-- Read the options and operands of a program's arguments. -/
def readProgramOptions (specs : List ProgramOption) (args : List String) :
    Except String ReadOptions :=
  readProgramOptionsFor specs (args.length + 1) args

end AgentLink
