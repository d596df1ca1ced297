import AgentLink.Shell.Fields
import AgentLink.Host.FileSystem

/-!
# Pathname expansion

A field with an unquoted `*` or `?`, or an unquoted `[` with a `]` after it, is a pattern for
paths. Its components, split at `/`, are matched one at a time against the names in the
directories reached so far; a name that starts with `.` is matched only by a component that
starts with one. A component without a pattern character is taken as it is, and the path it
ends must exist. The field becomes the matching paths in byte order, or, when none matches,
stays as it is with its quotes removed.
-/

namespace AgentLink.Shell

/-- Whether a field holds an unquoted pattern character. -/
def hasPattern (cs : List Marked) : Bool :=
  (cs.zipIdx.any fun ((c, q), i) =>
    !q && (c = '*' || c = '?' || (c = '[' && (cs.drop (i + 1)).any (·.1 == ']'))))

/-- The components of a field, split at `/`. -/
def components (cs : List Marked) : List (List Marked) :=
  let (done, last) := cs.foldl (fun (done, cur) c =>
    if c.1 = '/' then (cur.reverse :: done, []) else (done, c :: cur)) ([], [])
  (last.reverse :: done).reverse

/-- The text of marked characters. -/
def markedText (cs : List Marked) : String := String.ofList (cs.map (·.1))

/-- The paths matching the components left, below the path `base` reached so far (empty for
the working directory, else ending with `/`). -/
def matchComponents (files : FileSystem) : Nat → String → List (List Marked) → List String
  | 0, _, _ => []
  | _, base, [] => [base]
  | fuel + 1, base, comp :: rest =>
    let path (name : String) : String := base ++ name ++ (if rest.isEmpty then "" else "/")
    if hasPattern comp then
      match files.resolve (if base.isEmpty then "." else base) with
      | .error _ => []
      | .ok dir =>
        let dotted := (comp.head?.map (·.1)) == some '.'
        let glob := Glob.ofChars comp
        let names := (files.children dir).filter fun n =>
          (dotted || !n.startsWith ".") && Glob.matchText glob n
        names.flatMap fun n => matchComponents files fuel (path n) rest
    else
      let next := path (markedText comp)
      if rest.isEmpty then
        match files.resolve next with
        | .ok _ => [next]
        | .error _ => []
      else matchComponents files fuel next rest

/-- The fields a field stands for after pathname expansion. -/
def expandPath (files : FileSystem) (field : List Marked) : List String :=
  if !hasPattern field then [markedText field]
  else
    let comps := components field
    match matchComponents files (comps.length + 1) "" comps with
    | [] => [markedText field]
    | found => found.mergeSort fun a b => decide (a ≤ b)

end AgentLink.Shell
