import Mathlib.Data.List.DropRight
import PluginSandbox.Proofs.Network.Patterns
import PluginSandbox.Proofs.Text.Lowercase

/-!
# Patterns that are stored for good

A stored pattern that is stored again may lose more of its ends: only one pair
of brackets is taken off, and no blank that stood inside it. The pattern stays
as it is exactly if there was nothing of the kind.
-/

namespace PluginSandbox.Network

/-! ## Bare text -/

/-- No blank at either end, and no pair of brackets around the whole. -/
def IsBare (cs : List Char) : Prop :=
  (∀ c ∈ cs.head?, Text.isBlank c = false) ∧ (∀ c ∈ cs.getLast?, Text.isBlank c = false) ∧
    ¬ (cs.head? = some '[' ∧ cs.getLast? = some ']')

def bare (cs : List Char) : List Char :=
  (inBrackets? (Text.trim cs)).getD (Text.trim cs)

theorem trim_suffix_prefix (cs : List Char) :
    Text.trim cs <+: cs.dropWhile Text.isBlank ∧ cs.dropWhile Text.isBlank <:+ cs :=
  ⟨List.rdropWhile_prefix _ _, List.dropWhile_suffix _⟩

theorem trim_eq_self_iff {cs : List Char} : Text.trim cs = cs ↔
    (∀ c ∈ cs.head?, Text.isBlank c = false) ∧ ∀ c ∈ cs.getLast?, Text.isBlank c = false := by
  have hhead : cs.dropWhile Text.isBlank = cs ↔ ∀ c ∈ cs.head?, Text.isBlank c = false := by
    cases cs <;> simp [List.dropWhile_eq_self_iff]
  have hlast : cs.rdropWhile Text.isBlank = cs ↔ ∀ c ∈ cs.getLast?, Text.isBlank c = false := by
    rcases List.eq_nil_or_concat cs with rfl | ⟨cs, c, rfl⟩ <;> simp [List.rdropWhile_eq_self_iff]
  rw [← hhead, ← hlast]
  constructor
  · intro h
    obtain ⟨hfront, hsuffix⟩ := trim_suffix_prefix cs
    rw [h] at hfront
    have hdrop : cs.dropWhile Text.isBlank = cs := hsuffix.eq_of_length_le hfront.length_le
    refine ⟨hdrop, ?_⟩
    rw [Text.trim, hdrop] at h
    exact h
  · intro ⟨hfront, hback⟩
    rw [Text.trim, hfront]
    exact hback

theorem inBrackets?_eq_none_iff {cs : List Char} :
    inBrackets? cs = none ↔ ¬ (cs.head? = some '[' ∧ cs.getLast? = some ']') := by
  rw [inBrackets?_eq_none]
  constructor
  · rintro h ⟨hhead, hlast⟩
    obtain ⟨front, rfl⟩ := List.getLast?_eq_some_iff.mp hlast
    cases front with
    | nil => cases hhead
    | cons c inner =>
      cases hhead
      exact h inner rfl
  · rintro h inner rfl
    exact h ⟨rfl, List.getLast?_concat⟩

theorem isBare_iff {cs : List Char} : IsBare cs ↔ Text.trim cs = cs ∧ inBrackets? cs = none := by
  rw [trim_eq_self_iff, inBrackets?_eq_none_iff, IsBare, and_assoc]

instance (cs : List Char) : Decidable (IsBare cs) :=
  decidable_of_iff _ isBare_iff.symm

theorem bare_isInfix (cs : List Char) : bare cs <:+: cs := by
  obtain ⟨hfront, hsuffix⟩ := trim_suffix_prefix cs
  have htrim : Text.trim cs <:+: cs := hfront.isInfix.trans hsuffix.isInfix
  unfold bare
  cases h : inBrackets? (Text.trim cs) with
  | none => exact htrim
  | some inner =>
    rw [inBrackets?_eq_some] at h
    exact List.IsInfix.trans ⟨['['], [']'], h.symm⟩ htrim

theorem bare_eq_self_iff {cs : List Char} : bare cs = cs ↔ IsBare cs := by
  rw [isBare_iff]
  constructor
  · intro h
    obtain ⟨hfront, hsuffix⟩ := trim_suffix_prefix cs
    have htrim : (Text.trim cs).length ≤ cs.length := hfront.length_le.trans hsuffix.length_le
    unfold bare at h
    cases hinner : inBrackets? (Text.trim cs) with
    | none =>
      rw [hinner, Option.getD_none] at h
      rw [h] at hinner
      exact ⟨h, hinner⟩
    | some inner =>
      -- a pair of brackets less, `cs` would be longer than it is
      rw [hinner, Option.getD_some] at h
      rw [inBrackets?_eq_some, h] at hinner
      rw [hinner, List.length_append, List.length_cons, List.length_singleton] at htrim
      omega
  · intro ⟨htrim, hnone⟩
    rw [bare, htrim, hnone, Option.getD_none]

/-! ## Lower case -/

theorem edgesAgree_blank {c d : Option Char} (h : Text.EdgesAgree c d) :
    (∀ e ∈ d, Text.isBlank e = false) ↔ ∀ e ∈ c, Text.isBlank e = false := by
  have hblank {x y : Option Char} (hxy : ∀ e, Text.isEdge e = true → (x = some e → y = some e))
      (hy : ∀ e ∈ y, Text.isBlank e = false) : ∀ e ∈ x, Text.isBlank e = false := by
    intro e he
    cases hb : Text.isBlank e with
    | false => rfl
    | true =>
      have hedge : Text.isEdge e = true := by rw [Text.isEdge, hb, Bool.or_true]
      exact hb.symm.trans (hy e (hxy e hedge he))
  exact ⟨hblank fun e he => (h e he).mpr, hblank fun e he => (h e he).mp⟩

theorem isBare_lowerChars {cs : List Char} : IsBare (Text.lowerChars cs) ↔ IsBare cs := by
  have hhead := Text.edgesAgree_head? cs
  have hlast : Text.EdgesAgree cs.getLast? (Text.lowerChars cs).getLast? := Text.edgesAgree_getLast? [] cs
  unfold IsBare
  rw [edgesAgree_blank hhead, edgesAgree_blank hlast, hhead '[' (by decide), hlast ']' (by decide)]

/-! ## Stored again -/

def IsPlain (pattern : String) : Prop :=
  IsBare (bare pattern.toList)

instance (pattern : String) : Decidable (IsPlain pattern) :=
  inferInstanceAs (Decidable (IsBare _))

theorem canonicalPattern_eq (pattern : String) :
    canonicalPattern pattern = String.ofList (Text.lowerChars (bare pattern.toList)) := rfl

/-- **A canonical form is canonical again exactly for plain patterns.** -/
theorem canonicalPattern_canonicalPattern_iff {pattern : String} :
    canonicalPattern (canonicalPattern pattern) = canonicalPattern pattern ↔ IsPlain pattern := by
  rw [canonicalPattern_eq (canonicalPattern pattern), canonicalPattern_eq pattern, String.toList_ofList,
    Text.lowerChars_of_subset (bare_isInfix _).subset, String.ofList_inj, bare_eq_self_iff, isBare_lowerChars]
  rfl

end PluginSandbox.Network
