import Mathlib.Data.List.Basic
import PluginSandbox.Text.Lowercase

/-!
# ASCII text in any letter case

Lowercasing treats each ASCII character on its own. Two spellings of an ASCII
text that differ in the case of letters only have the same lowercase text, and
the same brackets, colons and blanks in the same places.
-/

namespace PluginSandbox.Text

def IsAscii (cs : List Char) : Prop :=
  ∀ c ∈ cs, c.toNat < 128

instance (cs : List Char) : Decidable (IsAscii cs) :=
  List.decidableBAll _ cs

theorem isAscii_append {as bs : List Char} : IsAscii (as ++ bs) ↔ IsAscii as ∧ IsAscii bs :=
  List.forall_mem_append

/-- `ds` is `cs` but for the case of ASCII letters. -/
def SameLetters (ds cs : List Char) : Prop :=
  ds.map Char.toLower = cs.map Char.toLower

instance (ds cs : List Char) : Decidable (SameLetters ds cs) :=
  inferInstanceAs (Decidable (_ = _))

/-! ## Characters -/

theorem toNat_toLower (c : Char) :
    c.toLower.toNat = if 65 ≤ c.toNat ∧ c.toNat ≤ 90 then c.toNat + 32 else c.toNat := by
  have hupper : (c.val ≥ 'A'.val ∧ c.val ≤ 'Z'.val) ↔ 65 ≤ c.toNat ∧ c.toNat ≤ 90 := by
    simp only [Char.toNat, ge_iff_le, UInt32.le_iff_toNat_le]
    exact Iff.rfl
  unfold Char.toLower
  by_cases h : 65 ≤ c.toNat ∧ c.toNat ≤ 90
  · rw [dif_pos (hupper.mpr h), if_pos h]
    refine (UInt32.toNat_add _ _).trans (Nat.mod_eq_of_lt ?_)
    show c.toNat + 32 < 2 ^ 32
    omega
  · rw [dif_neg (mt hupper.mp h), if_neg h]

def IsMark (m : Char) : Prop :=
  ¬ (65 ≤ m.toNat ∧ m.toNat ≤ 90) ∧ ¬ (97 ≤ m.toNat ∧ m.toNat ≤ 122)

instance (m : Char) : Decidable (IsMark m) :=
  inferInstanceAs (Decidable (_ ∧ _))

theorem toLower_eq_iff {c m : Char} (hm : IsMark m) : c.toLower = m ↔ c = m := by
  have hlower := toNat_toLower c
  unfold IsMark at hm
  rw [← Char.toNat_inj, ← Char.toNat_inj]
  split at hlower <;> omega

theorem isBlank_toLower (c : Char) : isBlank c.toLower = isBlank c := by
  have hletters : ∀ n < 123, 65 ≤ n → n ≤ 90 →
      inRanges (n + 32) blankRanges = inRanges n blankRanges := by decide
  unfold isBlank
  rw [toNat_toLower]
  by_cases h : 65 ≤ c.toNat ∧ c.toNat ≤ 90
  · rw [if_pos h]
    exact hletters c.toNat (by omega) h.1 h.2
  · rw [if_neg h]

theorem lowerChar_table : ∀ n < 128, lowerChar (Char.ofNat n) = (Char.ofNat n).toLower := by
  decide +kernel

theorem lowerChar_of_lt {c : Char} (h : c.toNat < 128) : lowerChar c = c.toLower := by
  have htable := lowerChar_table c.toNat h
  rwa [Char.ofNat_toNat] at htable

/-! ## Lower case -/

theorem lowerAfter_of_isAscii {before cs : List Char} (h : IsAscii cs) :
    lowerAfter before cs = cs.map Char.toLower := by
  induction cs generalizing before with
  | nil => rfl
  | cons c rest ih =>
    unfold IsAscii at h
    rw [List.forall_mem_cons] at h
    have hsigma : c ≠ 'Σ' := by
      rintro rfl
      exact absurd h.1 (by decide)
    have hdotted : c ≠ 'İ' := by
      rintro rfl
      exact absurd h.1 (by decide)
    rw [lowerAfter, if_neg hsigma, if_neg hdotted, lowerChar_of_lt h.1, ih h.2]
    rfl

theorem lowerChars_of_isAscii {cs : List Char} (h : IsAscii cs) : lowerChars cs = cs.map Char.toLower :=
  lowerAfter_of_isAscii h

/-! ## Spellings -/

section
variable {ds cs : List Char} (h : SameLetters ds cs)
include h

theorem SameLetters.isAscii (hcs : IsAscii cs) : IsAscii ds := by
  have hlower : ∀ c ∈ ds.map Char.toLower, c.toNat < 128 := by
    rw [h]
    intro c hc
    obtain ⟨e, he, rfl⟩ := List.mem_map.mp hc
    have hlt := hcs e he
    rw [toNat_toLower]
    split <;> omega
  intro d hd
  have hlt := hlower _ (List.mem_map_of_mem hd)
  rw [toNat_toLower] at hlt
  split at hlt <;> omega

theorem SameLetters.lowerChars_eq (hcs : IsAscii cs) : lowerChars ds = lowerChars cs := by
  rw [lowerChars_of_isAscii hcs, lowerChars_of_isAscii (h.isAscii hcs)]
  exact h

theorem SameLetters.count_eq {m : Char} (hm : IsMark m) : ds.count m = cs.count m := by
  have hcount (l : List Char) : (l.map Char.toLower).count m = l.count m := by
    rw [List.count_eq_countP, List.count_eq_countP, List.countP_map]
    refine List.countP_congr fun c _ => ?_
    simp [toLower_eq_iff hm]
  rw [← hcount ds, ← hcount cs, h]

theorem SameLetters.mem_iff {m : Char} (hm : IsMark m) : m ∈ ds ↔ m ∈ cs := by
  rw [← List.count_pos_iff, ← List.count_pos_iff, h.count_eq hm]

theorem SameLetters.head?_not_blank :
    (∀ c ∈ ds.head?, isBlank c = false) ↔ ∀ c ∈ cs.head?, isBlank c = false := by
  have hhead (l : List Char) :
      (∀ c ∈ (l.map Char.toLower).head?, isBlank c = false) ↔ ∀ c ∈ l.head?, isBlank c = false := by
    simp [List.head?_map, isBlank_toLower]
  rw [← hhead ds, ← hhead cs, h]

theorem SameLetters.getLast?_not_blank :
    (∀ c ∈ ds.getLast?, isBlank c = false) ↔ ∀ c ∈ cs.getLast?, isBlank c = false := by
  have hlast (l : List Char) :
      (∀ c ∈ (l.map Char.toLower).getLast?, isBlank c = false) ↔ ∀ c ∈ l.getLast?, isBlank c = false := by
    simp [List.getLast?_map, isBlank_toLower]
  rw [← hlast ds, ← hlast cs, h]

end

end PluginSandbox.Text
