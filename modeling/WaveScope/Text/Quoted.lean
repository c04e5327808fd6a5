import WaveScope.Os.Error
import WaveScope.Text.Printable

/-!
# Quoted text

Text inside double quotes as diagnostics show it: a quote, a backslash and the common controls
get a backslash escape, grapheme extenders and other characters that do not print become
`\u{hex}`, and everything else stands as it is, letters of any script included.  The same
quoting spells the structural form of errors (`Os { code: 2, kind: NotFound, message: "…" }`).

**Main statement.**  `escapeChar_letter` says a lower-case ASCII letter stands for itself.
-/

namespace WaveScope.Text

/-- Lower-case hexadecimal digits of a number, without leading zeros. -/
def hexText (n : Nat) : String := String.ofList (Nat.toDigits 16 n)

/-- The character is spelled as an escape inside quotes: an ASCII control, a grapheme extender,
which would attach to what stands before it, or a character that does not print. -/
def isHidden (c : Char) : Bool :=
  if c.toNat < 0x7F then c.toNat < 0x20
  else graphemeExtend.contains c || unprintable.contains c

/-- The escaped form of one character inside double quotes. -/
def escapeChar (c : Char) : String :=
  match c with
  | '"' => "\\\""
  | '\\' => "\\\\"
  | '\n' => "\\n"
  | '\r' => "\\r"
  | '\t' => "\\t"
  | '\x00' => "\\0"
  | c => if isHidden c then "\\u" ++ "\x7b" ++ hexText c.toNat ++ "\x7d" else c.toString

/-- Text in double quotes with the escapes above. -/
def quoted (s : String) : String :=
  "\"" ++ String.join (s.toList.map escapeChar) ++ "\""

theorem isHidden_printable (c : Char) (h : 0x20 ≤ c.toNat ∧ c.toNat < 0x7F) :
    isHidden c = false := by
  unfold isHidden
  rw [if_pos h.2]
  simp only [decide_eq_false_iff_not]
  omega

theorem escapeChar_letter (c : Char) (h : 'a' ≤ c ∧ c ≤ 'z') : escapeChar c = c.toString := by
  obtain ⟨h1, h2⟩ := h
  have hn : 97 ≤ c.toNat ∧ c.toNat ≤ 122 := ⟨h1, h2⟩
  have hh := isHidden_printable c (by omega)
  unfold escapeChar
  split <;> simp_all

/-- The structural form of an I/O error. -/
def Os.IoError.debug : Os.IoError → String
  | .os code kind d =>
    "Os \x7b code: " ++ toString code ++ ", kind: " ++ kind ++ ", message: " ++ quoted d ++ " \x7d"
  | .simple kind m => "Error \x7b kind: " ++ kind ++ ", message: " ++ quoted m ++ " \x7d"

end WaveScope.Text
