import Mathlib
import WaveScope.Input.Bindings

/-!
# What a binding can be found by

A lookup asks for a key in *lookup form*: a key going down with no extra state, a character key
with its ASCII capital lowered and without Shift.  Stored keys are compared after case normalisation, which
goes the other way (an ASCII capital gets Shift, Shift raises a letter).  So a binding is found
by the lookups whose lookup form is its key's normal form, and by no other.

* `upper_iff`, `asciiLower_of_upper`, `asciiLower_of_not_upper`, `asciiLower_asciiUpper`: the
  two case maps on character codes.
* `normalize_lookupKey`, `lookupKey_normalize`, `lookupKey_lookupKey`: lookup forms are
  normal, and normalising changes no lookup.
* `normalize_eq_lookupKey_iff`: a key is its own lookup form exactly when it is a key going
  down with no extra state and, for a character, a character other than an ASCII capital
  without Shift.
* `get_bind`: what a lookup finds after a binding.

**Main statements.**  `bind_then_get` says a bound key is found by its own lookup exactly when it
is in lookup form (or was bound to that action before), and a binding changes no lookup of a
different lookup form; `bind_upper_case_unreachable` is a capital letter bound and then missed.
-/

namespace WaveScope

namespace KeyEvent

/-! ## ASCII case on character codes -/

lemma toNat_ofNat_of_lt {n : Nat} (h : n < 0xd800) : (Char.ofNat n).toNat = n := by
  have hv : n.isValidChar := Or.inl h
  simp [Char.ofNat, hv, Char.ofNatAux, Char.toNat]

lemma upper_iff (c : Char) : ('A' ≤ c && c ≤ 'Z') = true ↔ 65 ≤ c.toNat ∧ c.toNat ≤ 90 := by
  simp only [Bool.and_eq_true, decide_eq_true_eq, Char.le_def, UInt32.le_iff_toNat_le,
    Char.toNat_val]
  rfl

lemma lower_iff (c : Char) : ('a' ≤ c && c ≤ 'z') = true ↔ 97 ≤ c.toNat ∧ c.toNat ≤ 122 := by
  simp only [Bool.and_eq_true, decide_eq_true_eq, Char.le_def, UInt32.le_iff_toNat_le,
    Char.toNat_val]
  rfl

lemma asciiLower_of_upper {c : Char} (h : ('A' ≤ c && c ≤ 'Z') = true) :
    (asciiLower c).toNat = c.toNat + 32 := by
  have := (upper_iff c).1 h
  rw [asciiLower, if_pos h, toNat_ofNat_of_lt (by omega)]

lemma asciiLower_of_not_upper {c : Char} (h : ¬ ('A' ≤ c && c ≤ 'Z') = true) :
    asciiLower c = c := by
  rw [asciiLower, if_neg h]

/-- A lowered character is never an ASCII capital. -/
lemma not_upper_asciiLower (c : Char) : ¬ ('A' ≤ asciiLower c && asciiLower c ≤ 'Z') = true := by
  rw [upper_iff]
  by_cases h : ('A' ≤ c && c ≤ 'Z') = true
  · have := (upper_iff c).1 h
    rw [asciiLower_of_upper h]
    omega
  · rw [asciiLower_of_not_upper h, ← upper_iff]
    exact h

/-- Raising then lowering gives back any character that was not a capital. -/
lemma asciiLower_asciiUpper {c : Char} (h : ¬ ('A' ≤ c && c ≤ 'Z') = true) :
    asciiLower (asciiUpper c) = c := by
  by_cases hl : ('a' ≤ c && c ≤ 'z') = true
  · -- a small letter goes to its capital and back
    have hc := (lower_iff c).1 hl
    have hup : (asciiUpper c).toNat = c.toNat - 32 := by
      rw [asciiUpper, if_pos hl, toNat_ofNat_of_lt (by omega)]
    have hU : ('A' ≤ asciiUpper c && asciiUpper c ≤ 'Z') = true := by
      rw [upper_iff, hup]
      omega
    apply Char.toNat_inj.1
    rw [asciiLower_of_upper hU, hup]
    omega
  · rw [asciiUpper, if_neg hl, asciiLower_of_not_upper h]

/-! ## Lookup forms and normal forms -/

/-- A key is in lookup form: a key going down with no extra state and, for a character, a
character other than an ASCII capital, without Shift. -/
def InLookupForm (k : KeyEvent) : Prop :=
  k.kind = .press ∧ k.state = {} ∧
    ∀ c, k.code = .char c → k.modifiers.shift = false ∧ ¬ ('A' ≤ c ∧ c ≤ 'Z')

end KeyEvent

namespace KeyBindings

open KeyEvent

/-- A lookup form is already normal. -/
lemma normalize_lookupKey (k : KeyEvent) : (lookupKey k).normalize = lookupKey k := by
  obtain ⟨code, mods, kind, state⟩ := k
  cases code with
  | char c => simp [KeyEvent.normalize, lookupKey, not_upper_asciiLower c]
  | _ => rfl

/-- Normalising a key changes none of its lookups. -/
lemma lookupKey_normalize (k : KeyEvent) : lookupKey k.normalize = lookupKey k := by
  obtain ⟨code, mods, kind, state⟩ := k
  cases code with
  | char c =>
    by_cases hU : ('A' ≤ c && c ≤ 'Z') = true
    · simp [KeyEvent.normalize, lookupKey, hU]
    · -- with Shift a small letter is raised, which the lookup lowers again
      by_cases hs : mods.shift = true <;>
        simp [KeyEvent.normalize, lookupKey, hU, hs, asciiLower_asciiUpper hU,
          asciiLower_of_not_upper hU]
  | _ => rfl

lemma lookupKey_lookupKey (k : KeyEvent) : lookupKey (lookupKey k) = lookupKey k := by
  obtain ⟨code, mods, kind, state⟩ := k
  cases code with
  | char c => simp [lookupKey, asciiLower_of_not_upper (not_upper_asciiLower c)]
  | _ => rfl

/-- **A key is its own lookup form exactly when it is in lookup form.** -/
theorem normalize_eq_lookupKey_iff (k : KeyEvent) : k.normalize = lookupKey k ↔ k.InLookupForm := by
  obtain ⟨code, mods, kind, state⟩ := k
  cases code with
  | char c =>
    by_cases hU : ('A' ≤ c && c ≤ 'Z') = true
    · -- a capital keeps its code under normalising but is lowered for the lookup
      have hU' : 'A' ≤ c ∧ c ≤ 'Z' := by simpa using hU
      have hne : asciiLower c ≠ c := fun h => by
        have := asciiLower_of_upper hU
        rw [h] at this
        omega
      simp [KeyEvent.normalize, lookupKey, InLookupForm, Ne.symm hne, hU']
    · have hU' : ¬ ('A' ≤ c ∧ c ≤ 'Z') := by simpa using hU
      by_cases hs : mods.shift = true
      · -- Shift stays in the normal form but not in the lookup form
        have hmods : { mods with shift := false } ≠ mods := fun h => by
          rw [← h] at hs
          simp at hs
        simp [KeyEvent.normalize, lookupKey, hU, hs, InLookupForm, Ne.symm hmods]
      · have hs' : mods.shift = false := by simpa using hs
        have hmods : { mods with shift := false } = mods := by cases mods; simp_all
        have hU'' : 'A' ≤ c → 'Z' < c := by simpa using hU
        simp [KeyEvent.normalize, lookupKey, hU, hs', InLookupForm, asciiLower_of_not_upper hU,
          hmods]
        exact fun _ _ => hU''
  | _ => simp [KeyEvent.normalize, lookupKey, InLookupForm]

/-! ## Lookups after a binding -/

/-- Entries of other keys than the bound one are searched as before: the search skips only
entries that could not match a lookup the bound key does not match. -/
lemma find?_filter_of_not_sameKey (entries : List (KeyEvent × Action)) (k q : KeyEvent)
    (hq : q.normalize = q) (hne : k.normalize ≠ q) :
    (entries.filter fun e => !e.1.sameKey k).find? (fun e => e.1.sameKey q) =
      entries.find? (fun e => e.1.sameKey q) := by
  induction entries with
  | nil => rfl
  | cons e es ih =>
    by_cases hm : e.1.sameKey q = true
    · -- a matching entry is not the bound key's, so the filter keeps it
      have hkeep : (!e.1.sameKey k) = true := by
        simp only [sameKey, beq_iff_eq, hq] at hm
        simp only [sameKey, Bool.not_eq_true', beq_eq_false_iff_ne, hm]
        exact Ne.symm hne
      simp [hkeep, hm]
    · by_cases hk : (!e.1.sameKey k) = true <;> simp [hk, hm, ih]

/-- **What a lookup finds after a binding.**  It finds the new action when the bound key's normal
form is the lookup's form, and otherwise what it found before. -/
theorem get_bind (b : KeyBindings) (k : KeyEvent) (a : Action) (k' : KeyEvent) :
    (b.bind k a).get k' = if k.normalize = lookupKey k' then some a else b.get k' := by
  by_cases h : k.normalize = lookupKey k'
  · simp [get, find?, bind, sameKey, h, normalize_lookupKey]
  · have hfind := find?_filter_of_not_sameKey b.entries k (lookupKey k') (normalize_lookupKey k') h
    simp only [get, find?, bind, List.find?_cons, sameKey, normalize_lookupKey, h, if_false]
      at hfind ⊢
    simp only [beq_eq_false_iff_ne.2 h, hfind]

/-- **Binding, then looking up.**  A bound key is found by its own lookup exactly when it is in
lookup form, unless the lookup found the same action already; and a binding changes no lookup
whose lookup form differs from the bound key's. -/
theorem bind_then_get (b : KeyBindings) (k : KeyEvent) (a : Action) :
    ((b.bind k a).get k = some a ↔ k.InLookupForm ∨ b.get k = some a) ∧
      ∀ k', lookupKey k' ≠ lookupKey k → (b.bind k a).get k' = b.get k' := by
  refine ⟨?_, fun k' hk' => ?_⟩
  · rw [get_bind, ← normalize_eq_lookupKey_iff]
    by_cases h : k.normalize = lookupKey k <;> simp [h]
  · rw [get_bind, if_neg]
    -- a bound key whose normal form is the lookup's form has that lookup form itself
    intro h
    apply hk'
    rw [← lookupKey_normalize k, h, lookupKey_lookupKey]

/-- A capital letter bound as it is reported, with no Shift, is missed by its own lookup, which
asks for the small letter. -/
theorem bind_upper_case_unreachable :
    (defaults.bind ⟨.char 'X', {}, .press, {}⟩ .quit).get ⟨.char 'X', {}, .press, {}⟩ = none := by
  decide

end KeyBindings

end WaveScope
