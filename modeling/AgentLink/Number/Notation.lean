import AgentLink.Number.Shortest

/-!
# Writing a binary64 as text

Two notations share the shortest digits of `Binary64.shortest`. The wire notation is the one
JSON text uses: positional while the decimal exponent of the leading digit lies in `[-5, 15]`,
an integral value ending in `.0`, and otherwise one leading digit, a fraction if more digits
remain, and `e+X` or `e-X`. The display notation is always positional, as in messages that
quote a value; a caller that needs a visible decimal point adds it (`withPoint`).
-/

namespace AgentLink

/-- A run of `n` zero digits. -/
def zeros (n : Nat) : String := String.ofList (List.replicate n '0')

namespace Binary64

/-- The digit string and decimal exponent of a finite non-zero value's magnitude. -/
def digitsAndExp (x : Binary64) : String × Int :=
  let d := x.shortest
  (toString d.digits, d.exp)

/-- The magnitude of a finite non-zero value in the wire notation. -/
def wireMagnitude (x : Binary64) : String :=
  let (s, e) := x.digitsAndExp
  let len : Int := s.length
  let kk := len + e
  if 0 ≤ e ∧ kk ≤ 16 then s ++ zeros e.toNat ++ ".0"
  else if 0 < kk ∧ kk ≤ 16 then
    String.ofList (s.toList.take kk.toNat) ++ "." ++ String.ofList (s.toList.drop kk.toNat)
  else if -5 < kk ∧ kk ≤ 0 then "0." ++ zeros (-kk).toNat ++ s
  else
    let lead := String.ofList (s.toList.take 1)
    let rest := String.ofList (s.toList.drop 1)
    let mant := if rest.isEmpty then lead else lead ++ "." ++ rest
    let x10 := kk - 1
    mant ++ "e" ++ (if x10 < 0 then "-" else "+") ++ toString x10.natAbs

/-- A finite value in the wire notation; `0.0` and `-0.0` for the zeros. -/
def wireText (x : Binary64) : String :=
  let sign := if x.negative then "-" else ""
  if x.isZero then sign ++ "0.0" else sign ++ x.wireMagnitude

/-- The magnitude of a finite non-zero value, positional, with no exponent. -/
def displayMagnitude (x : Binary64) : String :=
  let (s, e) := x.digitsAndExp
  let len : Int := s.length
  let kk := len + e
  if 0 ≤ e then s ++ zeros e.toNat
  else if 0 < kk then
    String.ofList (s.toList.take kk.toNat) ++ "." ++ String.ofList (s.toList.drop kk.toNat)
  else "0." ++ zeros (-kk).toNat ++ s

/-- Any value in the display notation: `NaN`, `inf` and `-inf` for the non-finite ones. -/
def displayText (x : Binary64) : String :=
  let sign := if x.negative then "-" else ""
  if !x.isFinite then
    if x.fraction ≠ 0 then "NaN" else sign ++ "inf"
  else if x.isZero then sign ++ "0"
  else sign ++ x.displayMagnitude

/-- The display notation, with `.0` added to a finite value that shows no decimal point. -/
def withPoint (x : Binary64) : String :=
  let s := x.displayText
  if x.isFinite && !s.toList.contains '.' then s ++ ".0" else s

example : (ofNat (Nat.pow 10 16)).wireText = "1e+16" := by decide +kernel
example : (div (ofNat 1) (ofNat 10)).wireText = "0.1" := by decide +kernel
example : (ofNat 2).withPoint = "2.0" := by decide +kernel

end Binary64

end AgentLink
