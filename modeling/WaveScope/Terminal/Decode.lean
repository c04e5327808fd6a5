import WaveScope.Input.Event
import WaveScope.Text.IntSyntax

/-!
# Decoding what the terminal sends

A terminal in raw mode sends keys and mouse reports as bytes: printable characters as their
UTF-8 encoding, control keys as control bytes, and everything else as escape sequences.  The
bytes are read in chunks and decoded one byte at a time: each byte joins the bytes held back,
and the held bytes are decoded as a whole.  They make an event (and are dropped), are the start
of a longer sequence (and are kept), or cannot be one (and are dropped).

A lone escape byte is the Escape key when no more input is at hand, and otherwise waits: an
escape followed by a key is that key with Alt.  The sequences understood are those of the
xterm family: cursor and function keys, with modifiers, mouse reports in the normal, SGR and
rxvt encodings, focus changes, bracketed paste, and keys in the `CSI u` encoding.  Replies to
queries (cursor position, keyboard flags, device attributes) are read and dropped, as are keys
no binding can name (media, lock and modifier keys).
-/

namespace WaveScope.Terminal

open Text

/-- The bytes held so far, decoded. -/
inductive Decoded where
  /-- The start of a longer sequence. -/
  | incomplete
  /-- An event; `none` for a report the scope does not act on. -/
  | event (e : Option TerminalEvent)
  /-- No sequence starts this way. -/
  | invalid
deriving Repr

/-- A key press with modifiers. -/
def press (code : KeyCode) (mods : Modifiers := {}) : Decoded :=
  .event (some (.key ⟨code, mods, .press, {}⟩))

/-- The modifiers of a mask as keyboard sequences give it: one more than the sum of Shift `1`,
Alt `2`, Control `4`, Super `8`, Hyper `16` and Meta `32`. -/
def keyModifiers (mask : Nat) : Modifiers :=
  let m := mask - 1
  ⟨m % 2 == 1, m / 4 % 2 == 1, m / 2 % 2 == 1, m / 8 % 2 == 1, m / 16 % 2 == 1, m / 32 % 2 == 1⟩

/-- The extra state a modifier mask gives a key: Caps Lock `64` and Num Lock `128` (one more
than the sum, as for `keyModifiers`), and whether the key is on the keypad. -/
def keyState (mask : Nat) (keypad : Bool) : KeyState :=
  let m := mask - 1
  ⟨keypad, m / 64 % 2 == 1, m / 128 % 2 == 1⟩

/-- The kind of a key event by its code: `2` repeats, `3` releases, anything else presses. -/
def keyKind : Nat → KeyKind
  | 2 => .repeat
  | 3 => .release
  | _ => .press

/-- A number field of a sequence, read as an unsigned number of `bits` bits. -/
def numField (bits : Nat) (s : String) : Option Nat :=
  match readInt false 0 (Nat.pow 2 bits - 1) s with
  | .ok n => some n.toNat
  | .error _ => none

/-- The next field, read as a number. -/
def nextNum (bits : Nat) : List String → Option (Nat × List String)
  | [] => none
  | f :: rest => (numField bits f).map (·, rest)

/-- The text of a run of bytes, when it is UTF-8. -/
def utf8 (bytes : List UInt8) : Option String := String.fromUTF8? ⟨bytes.toArray⟩

/-- The fields between the first `skip` bytes and the final byte, split at `;`. -/
def fieldsOf (buf : List UInt8) (skip : Nat) : Option (List String) :=
  (utf8 ((buf.drop skip).dropLast)).map (·.splitOn ";")

/-- A modifier field `mask[:kind]`. -/
def modifierAndKind (fields : List String) : Option (Nat × Nat) :=
  match fields with
  | [] => none
  | f :: _ =>
    let parts := f.splitOn ":"
    match nextNum 8 parts with
    | none => none
    | some (mask, rest) =>
      match nextNum 8 rest with
      | some (kind, _) => some (mask, kind)
      | none => some (mask, 1)

/-- One less, in 16-bit arithmetic that wraps around at zero. -/
def pred16 (n : Nat) : Nat := (n + 65535) % 65536

/-- What a mouse report's button byte says: the action, and Shift `4`, Alt `8`, Control `16`. -/
def mouseKind (cb : Nat) : Option (MouseKind × Modifiers) :=
  let button := cb % 4 + (cb / 64 % 4) * 4
  let dragging := cb / 32 % 2 == 1
  let kind : Option MouseKind := match button, dragging with
    | 0, false => some (.down .left)
    | 1, false => some (.down .middle)
    | 2, false => some (.down .right)
    | 0, true => some (.drag .left)
    | 1, true => some (.drag .middle)
    | 2, true => some (.drag .right)
    | 3, false => some (.up .left)
    | 3, true | 4, true | 5, true => some .moved
    | 4, false => some .scrollUp
    | 5, false => some .scrollDown
    | 6, false => some .scrollLeft
    | 7, false => some .scrollRight
    | _, _ => none
  kind.map fun k => (k, { shift := cb / 4 % 2 == 1, alt := cb / 8 % 2 == 1, control := cb / 16 % 2 == 1 })

/-- A mouse event, or no sequence. -/
def mouse (kind : Option (MouseKind × Modifiers)) (column row : Nat) : Decoded :=
  match kind with
  | some (k, mods) => .event (some (.mouse ⟨k, column, row, mods⟩))
  | none => .invalid

/-- Sequence `ESC [ M b x y`: a mouse report with the values in single bytes offset by `32`. -/
def normalMouse (buf : List UInt8) : Decoded :=
  match buf.drop 3 with
  | b :: x :: y :: _ =>
    if b.toNat < 32 then .invalid
    else mouse (mouseKind (b.toNat - 32)) (pred16 (x.toNat - 32)) (pred16 (y.toNat - 32))
  | _ => .incomplete

/-- Sequence `ESC [ < b ; x ; y M` (press) or `m` (release). -/
def sgrMouse (buf : List UInt8) : Decoded :=
  match buf.getLast? with
  | some 0x4D | some 0x6D =>
    match fieldsOf buf 3 with
    | none => .invalid
    | some fs =>
      match nextNum 8 fs with
      | none => .invalid
      | some (b, fs) =>
        match mouseKind b, nextNum 16 fs with
        | some (k, mods), some (x, fs) =>
          match nextNum 16 fs with
          | some (y, _) =>
            let k := if buf.getLast? == some 0x6D then
                match k with
                | .down btn => .up btn
                | other => other
              else k
            mouse (some (k, mods)) (pred16 x) (pred16 y)
          | none => .invalid
        | _, _ => .invalid
  | _ => .incomplete

/-- Sequence `ESC [ b ; x ; y M`: the rxvt mouse report. -/
def rxvtMouse (buf : List UInt8) : Decoded :=
  match fieldsOf buf 2 with
  | none => .invalid
  | some fs =>
    match nextNum 8 fs with
    | some (b, fs) =>
      if b < 32 then .invalid
      else
        match mouseKind (b - 32), nextNum 16 fs with
        | some km, some (x, fs) =>
          match nextNum 16 fs with
          | some (y, _) => mouse (some km) (pred16 x) (pred16 y)
          | none => .invalid
        | _, _ => .invalid
    | none => .invalid

/-- The key of a `ESC [ n ~` sequence by its number. -/
def tildeKey : Nat → Option KeyCode
  | 1 | 7 => some .home
  | 2 => some .insert
  | 3 => some .delete
  | 4 | 8 => some .end
  | 5 => some .pageUp
  | 6 => some .pageDown
  | n =>
    if 11 ≤ n && n ≤ 15 then some (.function (n - 10))
    else if 17 ≤ n && n ≤ 21 then some (.function (n - 11))
    else if 23 ≤ n && n ≤ 26 then some (.function (n - 12))
    else if 28 ≤ n && n ≤ 29 then some (.function (n - 15))
    else if 31 ≤ n && n ≤ 34 then some (.function (n - 17))
    else none

/-- Sequence `ESC [ n ; m ~`: editing and function keys. -/
def specialKey (buf : List UInt8) : Decoded :=
  match fieldsOf buf 2 with
  | none => .invalid
  | some fs =>
    match nextNum 8 fs with
    | none => .invalid
    | some (n, rest) =>
      let (mods, kind, state) := match modifierAndKind rest with
        | some (mask, k) => (keyModifiers mask, keyKind k, keyState mask false)
        | none => ({}, .press, {})
      match tildeKey n with
      | some code => .event (some (.key ⟨code, mods, kind, state⟩))
      | none => .invalid

/-- The key of the final byte of a cursor or function key sequence. -/
def finalKey : UInt8 → Option KeyCode
  | 0x41 => some .up
  | 0x42 => some .down
  | 0x43 => some .right
  | 0x44 => some .left
  | 0x46 => some .end
  | 0x48 => some .home
  | 0x50 => some (.function 1)
  | 0x51 => some (.function 2)
  | 0x52 => some (.function 3)
  | 0x53 => some (.function 4)
  | _ => none

/-- Sequence `ESC [ 1 ; m X`: a cursor or function key with modifiers. -/
def modifierKey (buf : List UInt8) : Decoded :=
  match fieldsOf buf 2 with
  | none => .invalid
  | some fs =>
    let mk : Option (Modifiers × KeyKind) := match modifierAndKind (fs.drop 1) with
      | some (mask, k) => some (keyModifiers mask, keyKind k)
      | none =>
        if buf.length > 3 then
          match buf[buf.length - 2]? with
          | some d => if 0x30 ≤ d && d ≤ 0x39 then some (keyModifiers (d.toNat - 0x30), .press) else none
          | none => none
        else some ({}, .press)
    match mk, buf.getLast?.bind finalKey with
    | some (mods, kind), some code => .event (some (.key ⟨code, mods, kind, {}⟩))
    | _, _ => .invalid

/-- The key of a functional code of the `CSI u` encoding (keypad keys count as the keys they
stand for); `none` inside for a key no binding can name. -/
def functionalKey (n : Nat) : Option (Option KeyCode) :=
  if 57399 ≤ n && n ≤ 57408 then some (some (.char (Char.ofNat (n - 57399 + 0x30))))
  else match n with
    | 57409 => some (some (.char '.'))
    | 57410 => some (some (.char '/'))
    | 57411 => some (some (.char '*'))
    | 57412 => some (some (.char '-'))
    | 57413 => some (some (.char '+'))
    | 57414 => some (some .enter)
    | 57415 => some (some (.char '='))
    | 57416 => some (some (.char ','))
    | 57417 => some (some .left)
    | 57418 => some (some .right)
    | 57419 => some (some .up)
    | 57420 => some (some .down)
    | 57421 => some (some .pageUp)
    | 57422 => some (some .pageDown)
    | 57423 => some (some .home)
    | 57424 => some (some .end)
    | 57425 => some (some .insert)
    | 57426 => some (some .delete)
    | _ =>
      if 57376 ≤ n && n ≤ 57398 then some (some (.function (n - 57363)))
      else if n == 57427 || (57358 ≤ n && n ≤ 57363) || (57428 ≤ n && n ≤ 57452) then some none
      else none

/-- The modifier a modifier key itself sets, by its functional code. -/
def modifierOfKey (n : Nat) (m : Modifiers) : Modifiers :=
  match n with
  | 57441 | 57447 => { m with shift := true }
  | 57442 | 57448 => { m with control := true }
  | 57443 | 57449 => { m with alt := true }
  | 57444 | 57450 => { m with superKey := true }
  | 57445 | 57451 => { m with hyper := true }
  | 57446 | 57452 => { m with metaKey := true }
  | _ => m

/-- The character of a code point, when it is one. -/
def charOf? (n : Nat) : Option Char :=
  if n < 0xD800 || (0xE000 ≤ n && n ≤ 0x10FFFF) then some (Char.ofNat n) else none

/-- Sequence `ESC [ code[:shifted] ; mods[:kind] u`: a key in the `CSI u` encoding. -/
def uKey (buf : List UInt8) : Decoded :=
  match fieldsOf buf 2 with
  | none => .invalid
  | some [] => .invalid
  | some (first :: rest) =>
    let codes := first.splitOn ":"
    match nextNum 32 codes with
    | none => .invalid
    | some (cp, alternates) =>
      let (mods, kind, mask) := match modifierAndKind rest with
        | some (mask, k) => (keyModifiers mask, keyKind k, mask)
        | none => ({}, .press, 1)
      let state := keyState mask (57399 ≤ cp && cp ≤ 57426)
      let code : Option (Option KeyCode) := match functionalKey cp with
        | some c => some c
        | none =>
          (charOf? cp).map fun c =>
            if c == '\x1b' then some .esc
            else if c == '\r' then some .enter
            else if c == '\t' then some (if mods.shift then .backTab else .tab)
            else if c == '\x7f' then some .backspace
            else some (.char c)
      match code with
      | none => .invalid
      | some code =>
        let mods := modifierOfKey cp mods
        let shifted := if mods.shift then (nextNum 32 alternates).bind (fun (n, _) => charOf? n) else none
        let (code, mods) := match shifted with
          | some c => (some (KeyCode.char c), { mods with shift := false })
          | none => (code, mods)
        match code with
        | some c => .event (some (.key ⟨c, mods, kind, state⟩))
        | none => .event none

/-- Sequence `ESC [ y ; x R`: a cursor position reply. -/
def cursorPosition (buf : List UInt8) : Decoded :=
  match fieldsOf buf 2 with
  | some fs =>
    match nextNum 16 fs with
    | some (_, fs) => if (nextNum 16 fs).isSome then .event none else .invalid
    | none => .invalid
  | none => .invalid

/-- The bytes that open and close a bracketed paste. -/
def pasteStart : List UInt8 := [0x1B, 0x5B, 0x32, 0x30, 0x30, 0x7E]

/-- The bytes that close a bracketed paste. -/
def pasteEnd : List UInt8 := [0x1B, 0x5B, 0x32, 0x30, 0x31, 0x7E]

/-- Sequence `ESC [ 200 ~ text ESC [ 201 ~`: pasted text. -/
def paste (buf : List UInt8) : Decoded :=
  if pasteEnd.isSuffixOf buf then
    .event (some (.paste ((utf8 ((buf.drop 6).take (buf.length - 12))).getD "")))
  else .incomplete

/-- A sequence that starts `ESC [`. -/
def csi (buf : List UInt8) : Decoded :=
  match buf.drop 2 with
  | [] => .incomplete
  | b :: rest =>
    match b with
    | 0x5B =>
      match rest with
      | [] => .incomplete
      | c :: _ => if 0x41 ≤ c && c ≤ 0x45 then press (.function (c.toNat - 0x41 + 1)) else .invalid
    | 0x44 => press .left
    | 0x43 => press .right
    | 0x41 => press .up
    | 0x42 => press .down
    | 0x48 => press .home
    | 0x46 => press .end
    | 0x5A => press .backTab { shift := true }
    | 0x4D => normalMouse buf
    | 0x3C => sgrMouse buf
    | 0x49 => .event (some .focusGained)
    | 0x4F => .event (some .focusLost)
    | 0x3B => modifierKey buf
    | 0x50 => press (.function 1)
    | 0x51 => press (.function 2)
    | 0x53 => press (.function 4)
    | 0x3F =>
      match buf.getLast? with
      | some 0x75 => if buf.length < 5 then .incomplete else .event none
      | some 0x63 => .event none
      | _ => .incomplete
    | _ =>
      if 0x30 ≤ b && b ≤ 0x39 then
        if buf.length == 3 then .incomplete
        else
          match buf.getLast? with
          | some last =>
            if last < 64 || last > 126 then .incomplete
            else if pasteStart.isPrefixOf buf then paste buf
            else match last with
              | 0x4D => rxvtMouse buf
              | 0x7E => specialKey buf
              | 0x75 => uKey buf
              | 0x52 => cursorPosition buf
              | _ => modifierKey buf
          | none => .incomplete
      else .invalid

/-- The key of a character typed on its own: an upper-case letter comes with Shift. -/
def charKey (c : Char) : Decoded := press (.char c) { shift := c.isUpper }

/-- A character from its UTF-8 bytes: waits while the bytes so far may begin one. -/
def utf8Char (buf : List UInt8) : Decoded :=
  match utf8 buf with
  | some s =>
    match s.toList with
    | c :: _ => charKey c
    | [] => .invalid
  | none =>
    match buf with
    | [] => .incomplete
    | b :: more =>
      let needed := if b ≤ 0x7F then 1 else if 0xC0 ≤ b && b ≤ 0xDF then 2
        else if 0xE0 ≤ b && b ≤ 0xEF then 3 else if 0xF0 ≤ b && b ≤ 0xF7 then 4 else 0
      if needed == 0 then .invalid
      else if needed > 1 && more.any (fun x => x &&& 0xC0 != 0x80) then .invalid
      else if buf.length < needed then .incomplete
      else .invalid

/-- Adds Alt to a key event. -/
def withAlt : Decoded → Decoded
  | .event (some (.key k)) => .event (some (.key { k with modifiers := { k.modifiers with alt := true } }))
  | other => other

/-- Decodes the held bytes; `more` tells whether more input is at hand. -/
def decode : List UInt8 → Bool → Decoded
  | [], _ => .incomplete
  | 0x1B :: rest, more =>
    match rest with
    | [] => if more then .incomplete else press .esc
    | 0x4F :: rest2 =>
      match rest2 with
      | [] => .incomplete
      | c :: _ =>
        match c with
        | 0x44 => press .left
        | 0x43 => press .right
        | 0x41 => press .up
        | 0x42 => press .down
        | 0x48 => press .home
        | 0x46 => press .end
        | _ => if 0x50 ≤ c && c ≤ 0x53 then press (.function (c.toNat - 0x50 + 1)) else .invalid
    | 0x5B :: _ => csi (0x1B :: rest)
    | 0x1B :: _ => press .esc
    | _ => withAlt (decode rest more)
  | 0x0D :: _, _ => press .enter
  | 0x09 :: _, _ => press .tab
  | 0x7F :: _, _ => press .backspace
  | c :: rest, _ =>
    if 0x01 ≤ c && c ≤ 0x1A then press (.char (Char.ofNat (c.toNat - 1 + 0x61))) { control := true }
    else if 0x1C ≤ c && c ≤ 0x1F then press (.char (Char.ofNat (c.toNat - 0x1C + 0x34))) { control := true }
    else if c == 0 then press (.char ' ') { control := true }
    else utf8Char (c :: rest)

/-- The size of one read from the terminal. -/
def chunkSize : Nat := 1024

/-- Decodes a chunk byte by byte after the held bytes; `full` tells whether the chunk filled a
whole read, so that more input may follow it. -/
def feedChunk (held : List UInt8) (chunk : List UInt8) (full : Bool) :
    List TerminalEvent × List UInt8 :=
  let n := chunk.length
  let step (acc : Array TerminalEvent × List UInt8) (ib : Nat × UInt8) :=
    let (events, held) := acc
    let buf := held ++ [ib.2]
    match decode buf (ib.1 + 1 < n || full) with
    | .incomplete => (events, buf)
    | .event (some e) => (events.push e, [])
    | .event none => (events, [])
    | .invalid => (events, [])
  let (events, held) := (chunk.zipIdx.map fun (b, i) => (i, b)).foldl step (#[], held)
  (events.toList, held)

/-- Splits input into reads of at most `chunkSize` bytes. -/
def chunks (input : List UInt8) : List (List UInt8) :=
  go input.length input
where
  go : Nat → List UInt8 → List (List UInt8)
    | 0, _ => []
    | fuel + 1, bs => if bs.isEmpty then [] else bs.take chunkSize :: go fuel (bs.drop chunkSize)

/-- Decodes input written to the terminal at once, after the held bytes: the events, and the
bytes held for what comes next. -/
def feed (held : List UInt8) (input : List UInt8) : List TerminalEvent × List UInt8 :=
  (chunks input).foldl (fun (events, held) c =>
    let (more, held) := feedChunk held c (c.length == chunkSize)
    (events ++ more, held)) ([], held)

example :
    (match decode [0x71] false with
      | .event (some (.key k)) => k.code == .char 'q' && k.kind == .press
      | _ => false) = true := by
  decide

example :
    (match decode [0x1B] false with
      | .event (some (.key k)) => k.code == .esc
      | _ => false) = true := by
  decide

end WaveScope.Terminal
