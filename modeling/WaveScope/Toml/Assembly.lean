import WaveScope.Toml.Value

/-!
# Putting the tables of a TOML document together

A document is read line by line: key/value pairs go into the table opened last, headers open
tables, and a table is put into its parent when the next header comes or the text ends.  The
rules of TOML 1.0 on redefinition are checked as the pieces arrive:

* a key is defined once per table;
* a header names a table once, unless only a longer header created it before (`implicit`);
* a dotted key never passes through a value, nor adds to a table a header defined;
* `[[name]]` only adds to an array of tables.

Paths are followed key by key, so each step is structural recursion on the path.

**Main statements.**  `start_root` says a document starts with the root table open.
-/

namespace WaveScope.Toml

/-- Follows `rest` from a table, creating missing tables (implicit, and dotted when `dotted`),
runs `k` on the table at the end, and puts the changed tables back.  `path` is the whole path
and `i` the index of the first key of `rest` in it, for the wording of clashes. -/
def descend {α : Type} (dotted : Bool) (path : List Key) (k : TableBody → Except Clash (TableBody × α)) :
    Nat → List Key → TableBody → Except Clash (TableBody × α)
  | _, [], t => k t
  | i, key :: rest, t =>
    match find? t.entries key.name with
    | none => do
      let (child, a) ← descend dotted path k (i + 1) rest { entries := [], implicit := true, dotted }
      pure ({ t with entries := t.entries ++ [(key, child.toNode)] }, a)
    | some (.value v _) => .error (.extendWrongType ((path.take (i + 1)).map (·.name)) v.typeName)
    | some (.tableArray ts sp) => do
      let (child, a) ← descend dotted path k (i + 1) rest { entries := ts.getLast?.getD [] }
      let arr := Node.tableArray (ts.dropLast ++ [child.entries]) sp
      pure ({ t with entries := replace t.entries key.name arr }, a)
    | some (.table es imp dot sp) =>
      if dotted && !imp then .error (.duplicateKey key.name none)
      else do
        let (child, a) ← descend dotted path k (i + 1) rest
          { entries := es, implicit := imp, dotted := dot, span := sp }
        pure ({ t with entries := replace t.entries key.name child.toNode }, a)

/-- The state of a document being read: its root, the table being filled and its header path,
and whether that table is an element of an array of tables. -/
structure Assembly where
  root : List (Key × Node)
  current : TableBody
  path : List Key
  inArray : Bool

namespace Assembly

/-- A document before its first line: the root is the table being filled. -/
def start : Assembly := ⟨[], { entries := [] }, [], false⟩

/-- The root as a table. -/
def rootBody (a : Assembly) : TableBody := { entries := a.root }

/-- Adds `key = v` under the dotted prefix `path` of the table being filled. -/
def addPair (a : Assembly) (path : List Key) (key : Key) (v : Value) (span : Span) :
    Except Clash Assembly := do
  let cur := match a.current.span with
    | some s => { a.current with span := some ⟨s.start, span.stop⟩ }
    | none => a.current
  let (cur, ()) ← descend true path (fun t =>
    if t.dotted == path.isEmpty then .error (.duplicateKey key.name none)
    else match find? t.entries key.name with
      | some _ => .error (.duplicateKey key.name (some (a.path.map (·.name))))
      | none => .ok ({ t with entries := t.entries ++ [(key, .value v span)] }, ())) 0 path cur
  pure { a with current := cur }

/-- Puts the table being filled into its place. -/
def finish (a : Assembly) : Except Clash Assembly :=
  match a.path.getLast? with
  | none => .ok { a with root := a.current.entries, current := { entries := [] } }
  | some last => do
    let parent := a.path.dropLast
    let cur := a.current
    let place (t : TableBody) : Except Clash (TableBody × Unit) :=
      if a.inArray then
        match find? t.entries last.name with
        | none => .ok ({ t with entries := t.entries ++ [(last, .tableArray [cur.entries] cur.span)] }, ())
        | some (.tableArray ts sp) =>
          let sp := match sp, cur.span with
            | some a, some b => some ⟨a.start, b.stop⟩
            | a, b => a.orElse fun _ => b
          .ok ({ t with entries := replace t.entries last.name (.tableArray (ts ++ [cur.entries]) sp) }, ())
        | some _ => .error (Clash.duplicateAt a.path (a.path.length - 1))
      else
        match find? t.entries last.name with
        | none => .ok ({ t with entries := t.entries ++ [(last, cur.toNode)] }, ())
        | some (.table _ true _ _) => .ok ({ t with entries := replace t.entries last.name cur.toNode }, ())
        | some _ => .error (Clash.duplicateAt a.path (a.path.length - 1))
    let (root, ()) ← descend false a.path place 0 parent a.rootBody
    pure { root := root.entries, current := { entries := [] }, path := [], inArray := false }

/-- Opens the table of a `[header]` spanning `span`, after putting the previous one in place. -/
def openTable (a : Assembly) (path : List Key) (span : Span) : Except Clash Assembly := do
  let a ← a.finish
  let last := (path.getLast?).getD ⟨"", "", ⟨0, 0⟩⟩
  let take (t : TableBody) : Except Clash (TableBody × List (Key × Node)) :=
    match find? t.entries last.name with
    | none => .ok (t, [])
    | some (.table es true false _) => .ok ({ t with entries := remove t.entries last.name }, es)
    | some _ => .error (Clash.duplicateAt path (path.length - 1))
  let (root, body) ← descend false path take 0 path.dropLast a.rootBody
  pure ⟨root.entries, { entries := body, span := some span }, path, false⟩

/-- Opens a new element of the array of tables of a `[[header]]` spanning `span`. -/
def openArrayTable (a : Assembly) (path : List Key) (span : Span) : Except Clash Assembly := do
  let a ← a.finish
  let last := (path.getLast?).getD ⟨"", "", ⟨0, 0⟩⟩
  let claim (t : TableBody) : Except Clash (TableBody × Unit) :=
    match find? t.entries last.name with
    | none => .ok ({ t with entries := t.entries ++ [(last, .tableArray [] (some span))] }, ())
    | some (.tableArray _ _) => .ok (t, ())
    | some _ => .error (Clash.duplicateAt path (path.length - 1))
  let (root, ()) ← descend false path claim 0 path.dropLast a.rootBody
  pure ⟨root.entries, { entries := [], span := some span }, path, true⟩

theorem start_root : start.path = [] ∧ start.root = [] := ⟨rfl, rfl⟩

end Assembly

end WaveScope.Toml
