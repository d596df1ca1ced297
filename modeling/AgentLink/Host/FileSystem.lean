/-!
# The host's file system

The bridge touches the file system only to resolve paths (the session directory, resources
named on the command line) and to read its configuration. `FileSystem` holds the entries as
absolute paths, each a directory, a file or a symbolic link, and a working directory.

`FileSystem.resolve` is the canonical form of a path: relative paths start from the working
directory; `.` and empty components are dropped; `..` goes to the parent (the root is its own
parent); every component must exist, every component that is followed by more must be a
directory, and links are replaced by their targets. `FileSystem.read` opens a path and reads a
file; a directory opens but cannot be read. A path with a NUL character reaches neither.
-/

namespace AgentLink

/-- Why a file system operation failed. -/
inductive IoError where
  | notFound
  | notADirectory
  | isADirectory
  | tooManyLinks
  | permissionDenied
  /-- A path with a NUL character, which no system call accepts. -/
  | nulInPath
  /-- A program, argument, variable or directory of a process to start with a NUL
  character. -/
  | nulInCommand
  deriving DecidableEq, Inhabited

/-- The operating system's text for the error. -/
def IoError.text : IoError → String
  | .notFound => "No such file or directory (os error 2)"
  | .notADirectory => "Not a directory (os error 20)"
  | .isADirectory => "Is a directory (os error 21)"
  | .tooManyLinks => "Too many levels of symbolic links (os error 40)"
  | .permissionDenied => "Permission denied (os error 13)"
  | .nulInPath => "file name contained an unexpected NUL byte"
  | .nulInCommand => "nul byte found in provided data"

/-- What a path names. -/
inductive Entry where
  | directory
  /-- A file and its bytes. -/
  | file (bytes : List UInt8)
  /-- A symbolic link and its target. -/
  | link (target : String)
  deriving Inhabited

/-- A file system: entries by absolute path, and the working directory. -/
structure FileSystem where
  entries : List (String × Entry)
  cwd : String
  deriving Inhabited

/-- The components of a path, split at `/`. -/
def pathParts (p : String) : List String := p.splitOn "/"

/-- The absolute path of resolved components. -/
def joinParts (parts : List String) : String := "/" ++ "/".intercalate parts

namespace FileSystem

/-- The entry at resolved components. -/
def lookup (fs : FileSystem) (parts : List String) : Option Entry :=
  if parts.isEmpty then some .directory else fs.entries.lookup (joinParts parts)

/-- Resolve components one at a time from the resolved prefix `done` (kept reversed). Each
step spends one unit of `fuel`, so a cycle of links ends as too many links. A failure comes
with the path (its components, reversed) at which resolving stopped. -/
def walk (fs : FileSystem) : Nat → List String → List String →
    Except (IoError × List String) (List String)
  | _, done, [] => .ok done
  | 0, done, _ :: _ => .error (.tooManyLinks, done)
  | fuel + 1, done, c :: rest =>
    match fs.lookup done.reverse with
    | some (.file _) => .error (.notADirectory, done)
    | _ =>
      if c = "" ∨ c = "." then walk fs fuel done rest
      else if c = ".." then walk fs fuel done.tail rest
      else
        let next := c :: done
        match fs.lookup next.reverse with
        | none => .error (.notFound, next)
        | some (.link target) =>
          let start := if target.startsWith "/" then [] else done
          walk fs fuel start (pathParts target ++ rest)
        | some _ => walk fs fuel next rest

/-- Resolve `p` from the working directory; none for the empty path. -/
def walkPath (fs : FileSystem) (p : String) :
    Option (Except (IoError × List String) (List String)) :=
  if p.isEmpty then none
  else
    let start := if p.startsWith "/" then [] else (pathParts fs.cwd).filter (· ≠ "") |>.reverse
    some (fs.walk 4096 start (pathParts p))

/-- The canonical absolute path of `p`; a path with a NUL character is refused first. -/
def resolve (fs : FileSystem) (p : String) : Except IoError String :=
  if p.contains '\x00' then .error .nulInPath
  else match fs.walkPath p with
  | none => .error .notFound
  | some (.ok parts) => .ok (joinParts parts.reverse)
  | some (.error (e, _)) => .error e

/-- The absolute path that resolving `p` looks for and does not find, if it stops there. -/
def firstMissing (fs : FileSystem) (p : String) : Option String :=
  match fs.walkPath p with
  | some (.error (.notFound, parts)) => some (joinParts parts.reverse)
  | _ => none

/-- The bytes of the file at `p`. -/
def read (fs : FileSystem) (p : String) : Except IoError (List UInt8) := do
  let canonical ← fs.resolve p
  match fs.lookup ((pathParts canonical).filter (· ≠ "")) with
  | some (.file bytes) => .ok bytes
  | some .directory => .error .isADirectory
  | _ => .error .notFound

/-- The names in directory `dir` (canonical), in byte order. -/
def children (fs : FileSystem) (dir : String) : List String :=
  let pre := if dir = "/" then "/" else dir ++ "/"
  let names := fs.entries.filterMap fun (p, _) =>
    if p.startsWith pre && p.length > pre.length then
      let rest := (p.drop pre.length).toString
      if rest.contains '/' then none else some rest
    else none
  names.mergeSort fun a b => decide (a ≤ b)

/-- Whether `p` lies at or under `dir`; both canonical. -/
def isUnder (p dir : String) : Bool := p == dir || p.startsWith (dir ++ "/")

end FileSystem

end AgentLink
