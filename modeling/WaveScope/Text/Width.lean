import WaveScope.Text.Grapheme
import WaveScope.Text.EastAsianWidth
import WaveScope.Text.Emoji

/-!
# Display width

How many terminal columns text takes.  Each character has a width of its own:

* a character up to U+00A0 takes one column, controls included;
* U+115F and U+17A4 take two columns, U+17D8 three and U+2D7F one;
* the characters of `zeroWidthRanges` (default-ignorable characters, grapheme extenders and a
  few more) take none;
* East Asian Wide and Fullwidth characters take two;
* every other character takes one.

Some sequences take another width than the sum of their characters, so text is read from its
end, each character seeing what follows it (`Pending`):

* a carriage return before a line feed takes no column;
* the emoji presentation selector U+FE0F widens the emoji before it to two columns, and the
  text presentation selector U+FE0E narrows an emoji shown as emoji by default to one;
* a skin-tone modifier makes its base take no column, so the pair takes the modifier's two;
* two regional indicators make a flag of two columns;
* in emoji joined by zero-width joiners only the last emoji counts;
* a curly quotation mark before the variation selector U+FE01 takes two columns.

Rules that join characters of different grapheme clusters (script ligatures) are left out:
text is measured for display cluster by cluster.

**Main statements.**  `widthOfChars_printable` says printable ASCII takes one column a
character.
-/

namespace WaveScope.Text

/-- What the characters after a position make of the character at it. -/
inductive Pending where
  /-- Nothing: the character counts by itself. -/
  | none
  /-- A line feed follows. -/
  | lineFeed
  /-- An emoji presentation selector follows. -/
  | presentation
  /-- A text presentation selector follows. -/
  | text
  /-- An emoji follows. -/
  | emoji
  /-- A zero-width joiner and an emoji follow. -/
  | joinedEmoji
  /-- An emoji presentation selector, a joiner and an emoji follow. -/
  | presentationJoinedEmoji
  /-- A keycap mark, a joiner and an emoji follow. -/
  | keycapJoinedEmoji
  /-- An emoji presentation selector, a keycap mark, a joiner and an emoji follow. -/
  | presentationKeycapJoinedEmoji
  /-- A skin-tone modifier follows. -/
  | modifier
  /-- A regional indicator follows. -/
  | regional
  /-- A flag of two regional indicators follows. -/
  | flag
  /-- An odd number of regional indicators, a joiner and an emoji follow. -/
  | regionalJoinedOdd
  /-- An even number of regional indicators, a joiner and an emoji follow. -/
  | regionalJoinedEven
  /-- The variation selector U+FE01 follows. -/
  | quoteVariant
deriving DecidableEq, Repr

namespace Pending

/-- An emoji presentation selector waits for its base. -/
def asksPresentation : Pending → Bool
  | .presentation | .presentationJoinedEmoji | .presentationKeycapJoinedEmoji => true
  | _ => false

/-- The base that a presentation selector waits for is joined to a later emoji. -/
def joined : Pending → Bool
  | .presentationJoinedEmoji | .presentationKeycapJoinedEmoji => true
  | _ => false

/-- What follows once an emoji presentation selector stands before it. -/
def withPresentation : Pending → Pending
  | .joinedEmoji => .presentationJoinedEmoji
  | .keycapJoinedEmoji => .presentationKeycapJoinedEmoji
  | _ => .presentation

end Pending

/-- The character is a regional indicator. -/
def isRegionalIndicator (n : Nat) : Bool := 0x1F1E6 ≤ n && n ≤ 0x1F1FF

/-- The character is a skin-tone modifier. -/
def isSkinTone (n : Nat) : Bool := 0x1F3FB ≤ n && n ≤ 0x1F3FF

/-- The character can be asked to show as an emoji by a presentation selector. -/
def presentationBase (c : Char) : Bool :=
  emojiRanges.contains c && !isRegionalIndicator c.toNat && !isSkinTone c.toNat

/-- The character shows as an emoji by default and can be asked to show as text; the enclosed
ideographs keep their width. -/
def textBase (c : Char) : Bool :=
  let n := c.toNat
  emojiPresentationRanges.contains c && !(0x1F200 ≤ n && n ≤ 0x1F2FF) &&
    !isRegionalIndicator n && !isSkinTone n

/-- The width of a character by itself, with what it makes of the character before it. -/
def ownWidth (c : Char) : Nat × Pending :=
  let n := c.toNat
  if isRegionalIndicator n then (1, .regional)
  else if isSkinTone n then (2, .modifier)
  else if n == 0xFE0F then (0, .presentation)
  else if n == 0xFE0E then (0, .text)
  else if n == 0xFE01 then (0, .quoteVariant)
  else if n == 0x115F || n == 0x17A4 then (2, .none)
  else if n == 0x17D8 then (3, .none)
  else if n == 0x2D7F then (1, .none)
  else if zeroWidthRanges.containsCode n then (0, .none)
  else if emojiPresentationRanges.containsCode n then (2, .emoji)
  else if wideRanges.containsCode n then (2, .none)
  else (1, .none)

/-- The sequences in which a character above U+00A0 counts otherwise than by itself. -/
def sequel (p : Pending) (c : Char) : Option (Int × Pending) :=
  let n := c.toNat
  match p with
  | .modifier =>
    if modifierBaseRanges.containsCode n then some (0, .emoji)
    else if n == 0x200D then some (0, .joinedEmoji)
    else Option.none
  | .regional => if isRegionalIndicator n then some (1, .flag) else Option.none
  | .flag =>
    if isRegionalIndicator n then some (1, .flag)
    else if n == 0x200D then some (0, .joinedEmoji)
    else Option.none
  | .emoji | .regionalJoinedOdd | .regionalJoinedEven =>
    if n == 0x200D then some (0, .joinedEmoji)
    else if isRegionalIndicator n then
      match p with
      | .regionalJoinedOdd => some (-1, .regionalJoinedEven)
      | .regionalJoinedEven => some (3, .regionalJoinedOdd)
      | _ => Option.none
    else Option.none
  | .joinedEmoji =>
    if n == 0x20E3 then some (0, .keycapJoinedEmoji)
    else if isRegionalIndicator n then some (1, .regionalJoinedOdd)
    else if isSkinTone n then some (0, .modifier)
    else if (ownWidth c).2 == .emoji then some (0, .emoji)
    else Option.none
  | .quoteVariant =>
    if n == 0x2018 || n == 0x2019 || n == 0x201C || n == 0x201D then some (2, .none)
    else Option.none
  | _ => Option.none

/-- The columns a character adds when `p` follows it, with what it makes of the character
before it. -/
def widthStep (p : Pending) (c : Char) : Int × Pending :=
  let n := c.toNat
  if p.asksPresentation && presentationBase c then ((if p.joined then 0 else 2), .emoji)
  else
    let p := if p.asksPresentation then Pending.none else p
    if n ≤ 0xA0 then
      if c == '\n' then (1, .lineFeed)
      else if c == '\r' && p == .lineFeed then (0, .none)
      else (1, .none)
    else if p == .none then
      let (w, q) := ownWidth c
      (w, q)
    else if n == 0xFE0F then (0, p.withPresentation)
    else if n == 0xFE0E then (0, .text)
    else if p == .text then
      if textBase c then (1, .none)
      else
        let (w, q) := ownWidth c
        (w, q)
    else
      match sequel p c with
      | some r => r
      | Option.none =>
        let (w, q) := ownWidth c
        (w, q)

/-- The columns a list of characters takes, read from its end. -/
def widthOfChars (cs : List Char) : Nat :=
  (cs.foldr (fun c (acc : Int × Pending) =>
    let (w, p) := widthStep acc.2 c
    (acc.1 + w, p)) (0, .none)).1.toNat

/-- The number of columns text takes. -/
def width (s : String) : Nat := widthOfChars s.toList

theorem widthStep_printable (c : Char) (h : 0x20 ≤ c.toNat ∧ c.toNat < 0x7F) :
    widthStep .none c = (1, .none) := by
  have hn : c ≠ '\n' := fun e => by subst e; simp at h
  have hr : c ≠ '\r' := fun e => by subst e; simp at h
  -- a printable ASCII character takes the narrow branch, neither line break nor return
  have hlow : c.toNat ≤ 0xA0 := by omega
  simp [widthStep, Pending.asksPresentation, hn, hr, hlow]

theorem foldr_printable (cs : List Char) (h : ∀ c ∈ cs, 0x20 ≤ c.toNat ∧ c.toNat < 0x7F) :
    cs.foldr (fun c (acc : Int × Pending) =>
      let (w, p) := widthStep acc.2 c
      (acc.1 + w, p)) (0, .none) = ((cs.length : Int), .none) := by
  induction cs with
  | nil => rfl
  | cons c rest ih =>
    rw [List.foldr_cons, ih (fun d hd => h d (List.mem_cons_of_mem c hd))]
    simp only [widthStep_printable c (h c List.mem_cons_self)]
    simp

theorem widthOfChars_printable (cs : List Char) (h : ∀ c ∈ cs, 0x20 ≤ c.toNat ∧ c.toNat < 0x7F) :
    widthOfChars cs = cs.length := by
  simp [widthOfChars, foldr_printable cs h]

end WaveScope.Text
