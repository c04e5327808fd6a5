/-!
# Reading text with committed failures

A reader of a text held as an array of characters, going forward from a position.  A reader
that fails says where, and what it was reading: the names of the constructs it was inside
(`labels`), the tokens that would have been accepted there (`expected`), and a further cause.

A failure is either tentative or `committed`.  An alternative tries its next choice only after a
tentative failure; a committed one means the text is wrong, and ends the reading.  Once a
construct is recognised by its first characters the reader commits to it, so the failure that
is reported is the one inside that construct, at the place where it went wrong.

**Main statements.**  `Failure.message_cause` says the wording of a bare cause is the cause.
-/

namespace WaveScope.Toml

/-- Why and where reading stopped: the position, and how many bytes from it a report marks when
that is not the character there. -/
structure Failure where
  pos : Nat
  extent : Option Nat := none
  labels : List String := []
  expected : List String := []
  cause : Option String := none
  committed : Bool := false
deriving DecidableEq, Repr

/-- The wording of a failure: the construct it was inside, what was expected, and why. -/
def Failure.message (f : Failure) : String :=
  let parts := (f.labels.head?.map ("invalid " ++ ·)).toList ++
    (if f.expected.isEmpty then [] else ["expected " ++ ", ".intercalate f.expected]) ++
    f.cause.toList
  "\n".intercalate parts

theorem Failure.message_cause (p : Nat) (c : String) :
    ({ pos := p, cause := some c } : Failure).message = c := by
  simp [Failure.message]

/-- A reader of a text from a position: a value and the position after it, or a failure. -/
def Scan (α : Type) : Type := Array Char → Nat → Except Failure (α × Nat)

namespace Scan

instance : Monad Scan where
  pure a := fun _ i => .ok (a, i)
  bind p f := fun s i => match p s i with
    | .ok (a, j) => f a s j
    | .error e => .error e

/-- The current position. -/
def pos : Scan Nat := fun _ i => .ok (i, i)

/-- Moves to a position. -/
def seek (i : Nat) : Scan Unit := fun _ _ => .ok ((), i)

/-- The whole text. -/
def text : Scan (Array Char) := fun s i => .ok (s, i)

/-- A tentative failure here. -/
def fail : Scan α := fun _ i => .error { pos := i }

/-- A failure here with a cause. -/
def failWith (cause : String) (committed : Bool) : Scan α :=
  fun _ i => .error { pos := i, cause := some cause, committed }

/-- A tentative failure at a given position that marks `bytes` bytes from there. -/
def failSpanning (p bytes : Nat) : Scan α := fun _ _ => .error { pos := p, extent := some bytes }

/-- A failure at a given position with a cause. -/
def failAt (p : Nat) (cause : Option String) (committed : Bool) : Scan α :=
  fun _ _ => .error { pos := p, cause, committed }

/-- The next character, if any, without moving. -/
def peek? : Scan (Option Char) := fun s i => .ok (s[i]?, i)

/-- The characters from the position on, at most `n` of them, without moving. -/
def peekMany (n : Nat) : Scan (List Char) := fun s i => .ok ((s.extract i (i + n)).toList, i)

/-- The text between two positions. -/
def slice (a b : Nat) : Scan String := fun s i => .ok (String.ofList (s.extract a b).toList, i)

/-- The next character if it passes the test; a tentative failure here otherwise. -/
def charIf (f : Char → Bool) : Scan Char := fun s i =>
  match s[i]? with
  | some c => if f c then .ok (c, i + 1) else .error { pos := i }
  | none => .error { pos := i }

/-- Any next character. -/
def anyChar : Scan Char := charIf fun _ => true

/-- Exactly these characters next; a tentative failure here, before them, otherwise. -/
def literal (cs : List Char) : Scan Unit := fun s i =>
  if (s.extract i (i + cs.length)).toList == cs then .ok ((), i + cs.length)
  else .error { pos := i }

/-- The end of the text. -/
def eof : Scan Unit := fun s i => if i < s.size then .error { pos := i } else .ok ((), i)

/-- The longest run of characters that pass the test, at most `most` of them when a bound is
given; fewer than `least` of them is a tentative failure here. -/
def takeWhile (f : Char → Bool) (least : Nat) (most : Option Nat) : Scan String := fun s i =>
  let limit := match most with
    | some m => min s.size (i + m)
    | none => s.size
  let run := ((s.extract i limit).toList.takeWhile f)
  if run.length < least then .error { pos := i }
  else .ok (String.ofList run, i + run.length)

/-- A failure of the reader becomes committed. -/
def cut (p : Scan α) : Scan α := fun s i =>
  match p s i with
  | .error e => .error { e with committed := true }
  | r => r

/-- A failure of the reader is inside the named construct. -/
def label (l : String) (p : Scan α) : Scan α := fun s i =>
  match p s i with
  | .error e => .error { e with labels := e.labels ++ [l] }
  | r => r

/-- A failure of the reader says what would have been accepted. -/
def expect (x : String) (p : Scan α) : Scan α := fun s i =>
  match p s i with
  | .error e => .error { e with expected := e.expected ++ [x] }
  | r => r

/-- The reader's value, or nothing after a tentative failure, which moves nowhere. -/
def attempt (p : Scan α) : Scan (Option α) := fun s i =>
  match p s i with
  | .ok (a, j) => .ok (some a, j)
  | .error e => if e.committed then .error e else .ok (none, i)

/-- The reader's value; after a tentative failure the result of `q` from the same position. -/
def orElse (p q : Scan α) : Scan α := fun s i =>
  match p s i with
  | .error e => if e.committed then .error e else q s i
  | r => r

/-- The first of the readers that does not fail tentatively, each from the same position. -/
def firstOf : List (Scan α) → Scan α
  | [] => fail
  | [p] => p
  | p :: ps => orElse p (firstOf ps)

/-- The reader's value, checked: a refusal by the check fails where the reader started. -/
def check (p : Scan α) (f : α → Except String β) : Scan β := fun s i =>
  match p s i with
  | .ok (a, j) => match f a with
    | .ok b => .ok (b, j)
    | .error c => .error { pos := i, cause := some c }
  | .error e => .error e

/-- The reader's value, looked at without moving; a failure also moves nowhere. -/
def lookAhead (p : Scan α) : Scan α := fun s i =>
  match p s i with
  | .ok (a, _) => .ok (a, i)
  | .error e => .error { e with pos := i }

/-- The text the reader went over. -/
def recognize (p : Scan α) : Scan String := fun s i =>
  match p s i with
  | .ok (_, j) => .ok (String.ofList (s.extract i j).toList, j)
  | .error e => .error e

/-- Repeats the reader until it fails tentatively or stops moving; the failing attempt moves
nowhere.  At most `fuel` rounds. -/
def manyFuel (p : Scan α) : Nat → List α → Scan (List α)
  | 0, acc => pure acc.reverse
  | fuel + 1, acc => fun s i =>
    match p s i with
    | .ok (a, j) => if j ≤ i then .ok ((a :: acc).reverse, j) else manyFuel p fuel (a :: acc) s j
    | .error e => if e.committed then .error e else .ok (acc.reverse, i)

/-- Repeats the reader as long as it reads something. -/
def many (p : Scan α) : Scan (List α) := fun s i => manyFuel p (s.size + 1 - i) [] s i

/-- Repeats the reader, at least once. -/
def many1 (p : Scan α) : Scan (List α) := do
  let a ← p
  let rest ← many p
  pure (a :: rest)

/-- Items with a separator between them: after a separator, a tentative failure of the item
gives back the separator too. -/
def sepByFuel (item : Scan α) (sep : Scan Unit) : Nat → List α → Scan (List α)
  | 0, acc => pure acc.reverse
  | fuel + 1, acc => fun s i =>
    let step : Scan α := do sep; item
    match step s i with
    | .ok (a, j) => if j ≤ i then .ok ((a :: acc).reverse, j) else sepByFuel item sep fuel (a :: acc) s j
    | .error e => if e.committed then .error e else .ok (acc.reverse, i)

/-- One item or more, separated. -/
def sepBy1 (item : Scan α) (sep : Scan Unit) : Scan (List α) := do
  let a ← item
  let s ← text
  let i ← pos
  sepByFuel item sep (s.size + 1 - i) [a]

/-- No item or more, separated. -/
def sepBy (item : Scan α) (sep : Scan Unit) : Scan (List α) := fun s i =>
  match attempt (sepBy1 item sep) s i with
  | .ok (some xs, j) => .ok (xs, j)
  | .ok (none, j) => .ok ([], j)
  | .error e => .error e

/-- Runs a reader on a whole text. -/
def run (p : Scan α) (s : Array Char) : Except Failure α :=
  match p s 0 with
  | .ok (a, _) => .ok a
  | .error e => .error e

end Scan

end WaveScope.Toml
