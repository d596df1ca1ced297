import AgentLink.Toml.Syntax
import AgentLink.Text.Utf8

/-!
# Showing a TOML problem

A problem with a range is shown with the line it starts on:

```
TOML parse error at line 2, column 11
  |
2 | command = 5
  |           ^
invalid type: integer `5`, expected a string
```

The line is the number of line feeds before the range's start, plus one. The column counts
characters from the line's start up to and including the byte at the start, less one; when
those bytes do not end on a character boundary it counts bytes instead. At the end of the
text the last byte is used and one is added. The carets cover the range, cut at the end of
the line, and there is always at least one. A problem without a range is its message alone.
-/

namespace AgentLink.Toml

/-- The zero-based line and column of byte offset `index` in `bytes`. -/
def linePosition (bytes : List UInt8) (index : Nat) : Nat × Nat :=
  if bytes.isEmpty then (0, index)
  else
    let safe := min index (bytes.length - 1)
    let extra := index - safe
    let lineStart := match (bytes.take safe).reverse.findIdx? (· == 10) with
      | some k => safe - k
      | none => 0
    let line := (bytes.take lineStart).count 10
    let piece := (bytes.drop lineStart).take (safe + 1 - lineStart)
    let column := match utf8Decode piece with
      | some s => s.length - 1
      | none => safe - lineStart
    (line, column + extra)

/-- A run of `n` spaces. -/
def spaces (n : Nat) : String := String.ofList (List.replicate n ' ')

/-- The problem as shown for the text it was found in. -/
def Problem.render (p : Problem) (text : String) : String :=
  match p.span with
  | none => p.message ++ "\n"
  | some s =>
    let (line, column) := linePosition (utf8Encode text) s.start
    let lineNum := toString (line + 1)
    let gutter := spaces (lineNum.length + 1)
    let content := (text.splitOn "\n").getD line ""
    let highlight := min (s.stop - s.start) (byteLength content - column)
    "TOML parse error at line " ++ lineNum ++ ", column " ++ toString (column + 1) ++ "\n" ++
      gutter ++ "|\n" ++
      lineNum ++ " | " ++ content ++ "\n" ++
      gutter ++ "|" ++ spaces (column + 1) ++ "^" ++
        String.ofList (List.replicate (highlight - 1) '^') ++ "\n" ++
      p.message ++ "\n"

end AgentLink.Toml
