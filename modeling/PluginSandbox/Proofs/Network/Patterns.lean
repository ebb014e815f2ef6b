import Mathlib.Data.List.Basic
import PluginSandbox.Network

/-!
# What a host pattern matches

The canonical form of a pattern and the hosts that it matches, told in terms of
texts put together, and the definitions that run compared with that.
-/

namespace PluginSandbox.Network

/-! ## The reference -/

/-- `u` is `t` without the brackets that enclose it, if both are there. -/
def Unbracketed (t u : String) : Prop :=
  t = "[" ++ u ++ "]" ∨ u = t ∧ ∀ v, t ≠ "[" ++ v ++ "]"

def IsCanonical (pattern c : String) : Prop :=
  ∃ u, Unbracketed (String.ofList (Text.trim pattern.toList)) u ∧ c = Text.lowercase u

/-- A canonical pattern stands for itself and, after `*.`, for what ends in a dot and its suffix. -/
def Matches (c host : String) : Prop :=
  c = host ∨ ∃ s x, c = "*." ++ s ∧ x ≠ "" ∧ host = x ++ "." ++ s

/-! ## Canonical forms -/

theorem inBrackets?_eq_some {cs inner : List Char} :
    inBrackets? cs = some inner ↔ cs = '[' :: inner ++ [']'] := by
  constructor
  · intro h
    unfold inBrackets? at h
    split at h
    next rest =>
      split at h
      next hlast =>
        cases h
        rw [List.cons_append, List.dropLast_append_getLast? _ hlast]
      · cases h
    · cases h
  · rintro rfl
    simp [inBrackets?]

theorem inBrackets?_eq_none {cs : List Char} :
    inBrackets? cs = none ↔ ∀ inner, cs ≠ '[' :: inner ++ [']'] := by
  rw [Option.eq_none_iff_forall_ne_some]
  simp only [ne_eq, inBrackets?_eq_some]

theorem eq_brackets_iff {t u : String} : t = "[" ++ u ++ "]" ↔ t.toList = '[' :: u.toList ++ [']'] := by
  rw [← String.toList_inj, String.toList_append, String.toList_append]
  rfl

theorem unbracketed_iff {t u : String} :
    Unbracketed t u ↔ u = String.ofList ((inBrackets? t.toList).getD t.toList) := by
  unfold Unbracketed
  cases h : inBrackets? t.toList with
  | some inner =>
    have ht : t.toList = '[' :: inner ++ [']'] := inBrackets?_eq_some.mp h
    constructor
    · rintro (hu | ⟨-, hnot⟩)
      · rw [eq_brackets_iff, ht] at hu
        have hinner : inner = u.toList := by simpa using hu
        rw [Option.getD_some, hinner, String.ofList_toList]
      · exact absurd (eq_brackets_iff.mpr (by rw [ht, String.toList_ofList])) (hnot (String.ofList inner))
    · rintro rfl
      exact .inl (eq_brackets_iff.mpr (by rw [ht, Option.getD_some, String.toList_ofList]))
  | none =>
    have hnot (v : String) : t ≠ "[" ++ v ++ "]" :=
      fun hv => inBrackets?_eq_none.mp h v.toList (eq_brackets_iff.mp hv)
    rw [Option.getD_none, String.ofList_toList]
    constructor
    · rintro (hu | ⟨hu, -⟩)
      · exact absurd hu (hnot u)
      · exact hu
    · intro hu
      exact .inr ⟨hu, hnot⟩

theorem isCanonical_iff {pattern c : String} : IsCanonical pattern c ↔ c = canonicalPattern pattern := by
  unfold IsCanonical canonicalPattern
  simp only [unbracketed_iff, String.toList_ofList, exists_eq_left]
  rw [Text.lowercase, String.toList_ofList]

/-! ## Matching -/

theorem dropTail?_eq_some {tail cs before : List Char} :
    dropTail? tail cs = some before ↔ cs = before ++ tail := by
  unfold dropTail?
  constructor
  · intro h
    split at h
    next htail =>
      obtain ⟨before', rfl⟩ := List.isSuffixOf_iff_suffix.mp htail
      cases h
      simp
    · cases h
  · rintro rfl
    simp

theorem one_lt_length_and_getLast?_eq_dot {label : List Char} :
    (1 < label.length ∧ label.getLast? = some '.') ↔ ∃ x, x ≠ [] ∧ label = x ++ ['.'] := by
  constructor
  · intro ⟨hlength, hlast⟩
    have hlabel := List.dropLast_append_getLast? _ hlast
    refine ⟨label.dropLast, ?_, hlabel.symm⟩
    intro hnil
    rw [← hlabel, hnil] at hlength
    exact absurd hlength (by simp)
  · rintro ⟨x, hx, rfl⟩
    exact ⟨by simpa using List.length_pos_iff.mpr hx, by simp⟩

theorem hostMatches_wildcard (suffix host : List Char) :
    (match dropTail? suffix host with
      | some label => 1 < label.length && label.getLast? == some '.'
      | none => false) = true ↔ ∃ x, x ≠ [] ∧ host = x ++ ['.'] ++ suffix := by
  cases h : dropTail? suffix host with
  | some label =>
    have hhost : host = label ++ suffix := dropTail?_eq_some.mp h
    simp only [Bool.and_eq_true, decide_eq_true_eq, beq_iff_eq, one_lt_length_and_getLast?_eq_dot, hhost,
      List.append_cancel_right_eq]
  | none =>
    constructor
    · intro hfalse
      cases hfalse
    · rintro ⟨x, -, hhost⟩
      rw [dropTail?_eq_some.mpr hhost] at h
      cases h

theorem eq_wildcard_iff {c s : String} : c = "*." ++ s ↔ c.toList = '*' :: '.' :: s.toList := by
  rw [← String.toList_inj, String.toList_append]
  rfl

theorem eq_subdomain_iff {host x s : String} :
    host = x ++ "." ++ s ↔ host.toList = x.toList ++ ['.'] ++ s.toList := by
  rw [← String.toList_inj, String.toList_append, String.toList_append]
  rfl

theorem hostMatches_iff {c host : String} : hostMatches c host = true ↔ Matches c host := by
  unfold hostMatches Matches
  rw [Bool.or_eq_true, beq_iff_eq]
  refine or_congr_right ?_
  split
  next suffix hc =>
    refine (hostMatches_wildcard suffix host.toList).trans ?_
    constructor
    · intro ⟨x, hx, hhost⟩
      refine ⟨String.ofList suffix, String.ofList x, ?_, ?_, ?_⟩
      · exact eq_wildcard_iff.mpr (by rw [hc, String.toList_ofList])
      · exact fun hempty => hx (by rw [← String.toList_ofList (l := x), hempty, String.toList_empty])
      · exact eq_subdomain_iff.mpr (by rw [hhost, String.toList_ofList, String.toList_ofList])
    · intro ⟨s, x, hs, hx, hhost⟩
      have hsuffix : suffix = s.toList := by simpa [hc] using eq_wildcard_iff.mp hs
      exact ⟨x.toList, by simpa using hx, hsuffix ▸ eq_subdomain_iff.mp hhost⟩
  next hnot =>
    constructor
    · intro hfalse
      cases hfalse
    · intro ⟨s, x, hs, _⟩
      exact absurd (eq_wildcard_iff.mp hs) (hnot s.toList)

instance (c host : String) : Decidable (Matches c host) :=
  decidable_of_iff (hostMatches c host = true) hostMatches_iff

end PluginSandbox.Network
