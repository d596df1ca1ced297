import AgentLink.Toml.Syntax

/-!
# Building a TOML document

The document is built line by line. `Builder` holds the document root, the table being filled
(detached from the root until the next header finishes it), its header path, and whether it
is an element of an array of tables. Before the first header the table being filled is the
root itself.

* A key/value line walks its dotted prefix inside the current table, making dotted tables as
  it goes; it may not pass through a value or a table opened by a header, the key must be new,
  and a dotted line may only add to dotted tables and a plain line only to the current table.
  The current table's range grows to the end of the value.
* A header `[a.b]` walks `a` from the root, making implicit tables; `b` must be new or an
  implicit table, whose entries the new table takes over. A header `[[a.b]]` makes or extends
  an array of tables.
* Finishing a table puts it at its path (the end of an array of tables).

Walks that pass through an array of tables go into its last table. Failures are messages; the
reader places them.
-/

namespace AgentLink.Toml

/-- A table being built: its kind, entries and range. -/
structure Table where
  kind : TableKind
  entries : List (Key × Item)
  span : Option Span
  deriving Inhabited

namespace Table

/-- The table as an item. -/
def toItem (t : Table) : Item := .table t.kind t.entries t.span

/-- The item under a key name. -/
def find (t : Table) (name : String) : Option Item :=
  (t.entries.find? fun e => e.1.name == name).map (·.2)

/-- Set the item under a key: in place when the name is present (keeping the first key), at
the end otherwise. -/
def put (t : Table) (k : Key) (v : Item) : Table :=
  if t.entries.any (fun e => e.1.name == k.name) then
    { t with entries := t.entries.map fun e => if e.1.name == k.name then (e.1, v) else e }
  else { t with entries := t.entries ++ [(k, v)] }

/-- Remove the entry under a key name. -/
def remove (t : Table) (name : String) : Table :=
  { t with entries := t.entries.filter fun e => e.1.name != name }

end Table

/-- A dotted key's prefix up to index `i` named a value of type `actual`. -/
def extendWrongType (path : List Key) (i : Nat) (actual : String) : String :=
  "dotted key `" ++ ".".intercalate ((path.take (i + 1)).map (·.name)) ++
    "` attempted to extend non-table type (" ++ actual ++ ")"

/-- A key is defined twice; `table` is the header path it was defined under, when known. -/
def duplicateKey (key : String) : Option (List Key) → String
  | none => "duplicate key `" ++ key ++ "`"
  | some [] => "duplicate key `" ++ key ++ "` in document root"
  | some ks =>
    "duplicate key `" ++ key ++ "` in table `" ++ ".".intercalate (ks.map (·.name)) ++ "`"

/-- The last key of a header path is defined twice; it is quoted as written. -/
def duplicateLast (path : List Key) : String :=
  duplicateKey (path.getLast?.map (·.raw) |>.getD "") (some path.dropLast)

/-- Walk `path` from a table, making missing tables (dotted ones when `dotted`), apply `f`
to the table reached, and put everything back. `whole` is the full path, `i` the index of
the next key in it, for messages. -/
def descend {α : Type} (dotted : Bool) (whole : List Key)
    (f : Table → Except String (α × Table)) :
    Nat → List Key → Table → Except String (α × Table)
  | _, [], t => f t
  | i, k :: ks, t =>
    let inner (c : Table) (rebuild : Table → Item) : Except String (α × Table) := do
      let (a, c) ← descend dotted whole f (i + 1) ks c
      pure (a, t.put k (rebuild c))
    match t.find k.name with
    | none => inner ⟨if dotted then .dotted else .implicit, [], none⟩ Table.toItem
    | some (.array elems true sp) =>
      match elems.getLast? with
      | some (.table kind es s) =>
        inner ⟨kind, es, s⟩ fun c => .array (elems.dropLast ++ [c.toItem]) true sp
      | _ => .error (duplicateKey k.name none)
    | some (.table .header es s) =>
      if dotted then .error (duplicateKey k.name none) else inner ⟨.header, es, s⟩ Table.toItem
    | some (.table .implicit es s) => inner ⟨.implicit, es, s⟩ Table.toItem
    | some (.table .dotted es s) => inner ⟨.dotted, es, s⟩ Table.toItem
    | some other => .error (extendWrongType whole i other.typeName)

/-- Walk `path` inside an inline table, making missing tables; only the tables that dotted
keys made can be passed through, and a table written in braces is already defined. -/
def descendInline {α : Type} (whole : List Key) (f : Table → Except String (α × Table)) :
    Nat → List Key → Table → Except String (α × Table)
  | _, [], t => f t
  | i, k :: ks, t =>
    let inner (c : Table) : Except String (α × Table) := do
      let (a, c) ← descendInline whole f (i + 1) ks c
      pure (a, t.put k c.toItem)
    match t.find k.name with
    | none => inner ⟨.inlineDotted, [], none⟩
    | some (.table .inline _ _) => .error (duplicateKey k.name none)
    | some (.table .inlineDotted es s) => inner ⟨.inlineDotted, es, s⟩
    | some other => .error (extendWrongType whole i other.typeName)

/-- Add one `path.key = value` pair to an inline table. -/
def addInlinePair (t : Table) (path : List Key) (key : Key) (value : Item) :
    Except String Table := do
  let (_, t) ← descendInline path (fun s =>
    if (s.kind == .inlineDotted) == path.isEmpty then .error (duplicateKey key.name none)
    else if (s.find key.name).isSome then .error (duplicateKey key.name none)
    else .ok ((), s.put key value)) 0 path t
  pure t

/-- The state of a document being built. -/
structure Builder where
  root : Table
  current : Table
  path : List Key
  isArray : Bool
  deriving Inhabited

namespace Builder

/-- The state before the first line: the root is being filled, its range empty at 0. -/
def start : Builder := ⟨⟨.header, [], none⟩, ⟨.header, [], some ⟨0, 0⟩⟩, [], false⟩

/-- A fresh, empty table for the next header. -/
def blank : Table := ⟨.header, [], none⟩

/-- Add a `path.key = value` line to the current table. -/
def keyval (b : Builder) (path : List Key) (key : Key) (value : Item) : Except String Builder := do
  let (_, cur) ← descend true path (fun t =>
    if (t.kind == .dotted) == path.isEmpty then .error (duplicateKey key.name none)
    else if (t.find key.name).isSome then .error (duplicateKey key.name (some b.path))
    else .ok ((), t.put key value)) 0 path b.current
  let span := match cur.span, value.span? with
    | some s, some v => some ⟨s.start, v.stop⟩
    | s, _ => s
  pure { b with current := { cur with span := span } }

/-- Put the current table at its path. -/
def finish (b : Builder) : Except String Builder := do
  let t := b.current
  match b.path.getLast? with
  | none => pure ⟨t, blank, [], false⟩
  | some last =>
    let pre := b.path.dropLast
    let (_, root) ← descend false pre (fun parent =>
      if b.isArray then
        match parent.find last.name with
        | none => .ok ((), parent.put last (.array [t.toItem] true t.span))
        | some (.array elems true _) =>
          let elems := elems ++ [t.toItem]
          let span := match (elems.head?.bind Item.span?), (elems.getLast?.bind Item.span?) with
            | some a, some z => some ⟨a.start, z.stop⟩
            | _, _ => none
          .ok ((), parent.put last (.array elems true span))
        | some _ => .error (duplicateLast b.path)
      else
        match parent.find last.name with
        | none => .ok ((), parent.put last t.toItem)
        | some (.table .implicit _ _) | some (.table .dotted _ _) =>
          .ok ((), parent.put last t.toItem)
        | some _ => .error (duplicateLast b.path)) 0 pre b.root
    pure ⟨root, blank, [], false⟩

/-- Open the table of a `[path]` header whose text spans `span`. -/
def openTable (b : Builder) (path : List Key) (span : Span) : Except String Builder := do
  let b ← b.finish
  let last := path.getLast?.getD default
  let pre := path.dropLast
  let (reused, root) ← descend false pre (fun parent =>
    match parent.find last.name with
    | none => .ok ([], parent)
    | some (.table .implicit es _) => .ok (es, parent.remove last.name)
    | some _ => .error (duplicateLast path)) 0 pre b.root
  pure ⟨root, ⟨.header, reused, some span⟩, path, false⟩

/-- Open a new table of the array of tables of a `[[path]]` header whose text spans `span`. -/
def openArrayTable (b : Builder) (path : List Key) (span : Span) : Except String Builder := do
  let b ← b.finish
  let last := path.getLast?.getD default
  let pre := path.dropLast
  let (_, root) ← descend false pre (fun parent =>
    match parent.find last.name with
    | none => .ok ((), parent.put last (.array [] true none))
    | some (.array _ true _) => .ok ((), parent)
    | some _ => .error (duplicateLast path)) 0 pre b.root
  pure ⟨root, ⟨.header, [], some span⟩, path, true⟩

/-- The finished document: the root table as an item. -/
def document (b : Builder) : Except String Item := do
  let b ← b.finish
  pure b.root.toItem

end Builder

end AgentLink.Toml
