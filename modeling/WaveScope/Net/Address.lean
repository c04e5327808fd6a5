/-!
# IP address literals

Reading and writing IPv4 and IPv6 addresses.

**Reading.**  IPv4 is four decimal parts of at most three digits, each below 256, with no leading
zero.  IPv6 is up to eight groups of one to four hexadecimal digits separated by colons, with at
most one `::` standing for one or more zero groups, and possibly an IPv4 address in place of the
last two groups.  Nothing else is accepted: no zone, no brackets, no blanks.

**Writing.**  IPv4 in decimal; IPv6 in lower-case hexadecimal with the longest run of two or more
zero groups (the first of equally long runs) written `::`, and an IPv4-mapped address as
`::ffff:a.b.c.d`.
-/

namespace WaveScope.Net

/-- An IP address: four octets or eight 16-bit groups. -/
inductive IpAddr where
  | v4 (octets : List Nat)
  | v6 (groups : List Nat)
deriving DecidableEq, Repr

/-- The value of a hexadecimal or decimal digit, if the character is one in that radix. -/
def digitValue (radix : Nat) (c : Char) : Option Nat :=
  let v :=
    if c.isDigit then some (c.toNat - '0'.toNat)
    else if 'a' ≤ c && c ≤ 'z' then some (c.toNat - 'a'.toNat + 10)
    else if 'A' ≤ c && c ≤ 'Z' then some (c.toNat - 'A'.toNat + 10)
    else none
  v.filter (· < radix)

/-- A number of at most `maxDigits` digits in `radix`, refusing a leading zero unless allowed;
returns it with the rest of the input. -/
def readNumber (radix maxDigits : Nat) (zeroPrefix : Bool) (cs : List Char) :
    Option (Nat × List Char) :=
  let ds := cs.takeWhile fun c => (digitValue radix c).isSome
  if ds.isEmpty || ds.length > maxDigits then none
  else if !zeroPrefix && ds.head? == some '0' && ds.length > 1 then none
  else some (ds.foldl (fun acc c => acc * radix + (digitValue radix c).getD 0) 0, cs.drop ds.length)

/-- An IPv4 address at the start of the input. -/
def readIpv4 (cs : List Char) : Option (List Nat × List Char) := do
  let octet (cs : List Char) : Option (Nat × List Char) := do
    let (v, rest) ← readNumber 10 3 false cs
    if v < 256 then some (v, rest) else none
  let (a, r) ← octet cs
  let r ← match r with | '.' :: r => some r | _ => none
  let (b, r) ← octet r
  let r ← match r with | '.' :: r => some r | _ => none
  let (c, r) ← octet r
  let r ← match r with | '.' :: r => some r | _ => none
  let (d, r) ← octet r
  pure ([a, b, c, d], r)

/-- Reads up to `limit` colon-separated groups, the last two possibly as an IPv4 address; returns
the groups, whether an IPv4 address ended them, and the rest of the input. -/
def readGroups (limit : Nat) (cs : List Char) : List Nat × Bool × List Char :=
  go limit 0 [] cs
where
  go : Nat → Nat → List Nat → List Char → List Nat × Bool × List Char
    | 0, _, acc, cs => (acc, false, cs)
    | fuel + 1, i, acc, cs =>
      let sep (cs : List Char) : Option (List Char) :=
        if i = 0 then some cs else match cs with | ':' :: r => some r | _ => none
      let v4 := if i + 1 < limit then (sep cs).bind readIpv4 else none
      match v4 with
      | some ([a, b, c, d], rest) => (acc ++ [a * 256 + b, c * 256 + d], true, rest)
      | _ =>
        match (sep cs).bind (readNumber 16 4 true) with
        | some (g, rest) => go fuel (i + 1) (acc ++ [g]) rest
        | none => (acc, false, cs)

/-- An IPv6 address at the start of the input. -/
def readIpv6 (cs : List Char) : Option (List Nat × List Char) :=
  let (head, headV4, rest) := readGroups 8 cs
  if head.length == 8 then some (head, rest)
  else if headV4 then none
  else match rest with
    | ':' :: ':' :: rest =>
      let (tail, _, rest) := readGroups (8 - (head.length + 1)) rest
      some (head ++ List.replicate (8 - head.length - tail.length) 0 ++ tail, rest)
    | _ => none

/-- The address a whole text spells, if any. -/
def parseIp (s : String) : Option IpAddr :=
  match readIpv4 s.toList with
  | some (v4, []) => some (.v4 v4)
  | _ => match readIpv6 s.toList with
    | some (v6, []) => some (.v6 v6)
    | _ => none

/-- Lower-case hexadecimal of a group. -/
def hexGroup (g : Nat) : String := String.ofList (Nat.toDigits 16 g)

/-- Dotted decimal of four octets. -/
def dotted (os : List Nat) : String := ".".intercalate (os.map toString)

/-- The first longest run of zero groups, as (start, length). -/
def longestZeroRun (gs : List Nat) : Nat × Nat :=
  let step (st : (Nat × Nat) × (Nat × Nat) × Nat) (g : Nat) :=
    let (best, cur, i) := st
    if g == 0 then
      let cur := if cur.2 == 0 then (i, 1) else (cur.1, cur.2 + 1)
      (if cur.2 > best.2 then cur else best, cur, i + 1)
    else (best, (0, 0), i + 1)
  (gs.foldl step ((0, 0), (0, 0), 0)).1

/-- The text of an address. -/
def IpAddr.text : IpAddr → String
  | .v4 os => dotted os
  | .v6 gs =>
    match gs with
    | [0, 0, 0, 0, 0, 0xFFFF, a, b] => "::ffff:" ++ dotted [a / 256, a % 256, b / 256, b % 256]
    | _ =>
      let (start, len) := longestZeroRun gs
      let part (xs : List Nat) := ":".intercalate (xs.map hexGroup)
      if len > 1 then part (gs.take start) ++ "::" ++ part (gs.drop (start + len))
      else part gs

/-- An address together with a port, as a socket address is written. -/
def socketText (ip : IpAddr) (port : Nat) : String :=
  match ip with
  | .v4 _ => ip.text ++ ":" ++ toString port
  | .v6 _ => "[" ++ ip.text ++ "]:" ++ toString port

/-- A multicast address, or the IPv4 limited broadcast address. -/
def IpAddr.isMulticastOrBroadcast : IpAddr → Bool
  | .v4 os => match os with
    | [a, b, c, d] => (224 ≤ a && a ≤ 239) || (a == 255 && b == 255 && c == 255 && d == 255)
    | _ => false
  | .v6 gs => match gs with
    | g :: _ => g / 256 == 0xFF
    | [] => false

example :
    parseIp "127.0.0.1" = some (.v4 [127, 0, 0, 1]) ∧
      parseIp "::1" = some (.v6 [0, 0, 0, 0, 0, 0, 0, 1]) := by
  decide

end WaveScope.Net
