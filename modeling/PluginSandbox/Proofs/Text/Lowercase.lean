import Mathlib.Data.List.Basic
import PluginSandbox.Text.Lowercase

/-!
# Text in lower case

Lowercasing text that is in lower case changes nothing, since no run of the
table covers what a run yields. Blanks and brackets are neither changed nor
yielded, so a text has them at its ends if it has them there in lower case.
-/

namespace PluginSandbox.Text

/-- What may be taken off the ends of a text before it is lowercased. -/
def isEdge (c : Char) : Bool :=
  c == '[' || c == ']' || isBlank c

/-! ## The table -/

namespace CaseRun

def low (r : CaseRun) : Nat :=
  (r.first + r.shift).toNat

def high (r : CaseRun) : Nat :=
  (r.last + r.shift).toNat

/-- What `r` yields and what `r'` covers lie apart, or interleave as odd and even places. -/
def misses (r r' : CaseRun) : Bool :=
  Nat.blt r.high r'.first || Nat.blt r'.last r.low ||
    (Nat.beq r.step 2 || Nat.beq r.first r.last) && Nat.beq r'.step 2 && Nat.beq ((r.low + r'.first) % 2) 1

def avoids (r : CaseRun) (range : Nat × Nat) : Bool :=
  (Nat.blt r.last range.1 || Nat.blt range.2 r.first) && (Nat.blt r.high range.1 || Nat.blt range.2 r.low)

def isScalar (r : CaseRun) : Bool :=
  decide (0 ≤ r.first + r.shift) && (Nat.blt r.high 0xD800 || Nat.blt 0xDFFF r.low && Nat.blt r.high 0x110000)

end CaseRun

/-- `[`, `]`, `İ` and the blanks. -/
def avoided : List (Nat × Nat) :=
  (0x5B, 0x5B) :: (0x5D, 0x5D) :: (0x130, 0x130) :: blankRanges

theorem caseRuns_sound :
    (caseRuns.all fun r => r.isScalar && avoided.all r.avoids && caseRuns.all r.misses) = true := by
  decide +kernel

/-! ## Characters -/

namespace CaseRun

variable {r r' : CaseRun} {n : Nat}

theorem covers_iff : r.covers n = true ↔ r.first ≤ n ∧ n ≤ r.last ∧ (n - r.first) % r.step = 0 := by
  simp [covers, and_assoc]

theorem toNat_apply (hr : r.isScalar = true) (h : r.covers n = true) :
    (r.apply n).toNat + r.first = r.low + n ∧ (r.apply n).toNat ≤ r.high := by
  obtain ⟨hfirst, hlast, -⟩ := covers_iff.mp h
  simp only [isScalar, low, high, Bool.and_eq_true, Bool.or_eq_true, decide_eq_true_eq, Nat.blt_eq] at hr
  have hvalid : (n + r.shift).toNat.isValidChar := by
    rw [Nat.isValidChar]
    omega
  have happly : (r.apply n).toNat = (n + r.shift).toNat := by
    rw [apply, Char.ofNat, dif_pos hvalid]
    rfl
  rw [happly, low, high]
  omega

theorem covers_of_misses (hr : r.isScalar = true) (h : r.covers n = true) (hm : r.misses r' = true) :
    r'.covers (r.apply n).toNat = false := by
  obtain ⟨happly, hhigh⟩ := toNat_apply hr h
  obtain ⟨hfirst, hlast, hstep⟩ := covers_iff.mp h
  rw [← Bool.not_eq_true, covers_iff]
  rintro ⟨hfirst', hlast', hstep'⟩
  simp only [misses, Bool.or_eq_true, Bool.and_eq_true, Nat.blt_eq, Nat.beq_eq] at hm
  rcases hm with (hbelow | habove) | ⟨⟨hodd, htwo⟩, hplaces⟩
  · omega
  · omega
  · rw [htwo] at hstep'
    rcases hodd with htwo | hsingle
    · rw [htwo] at hstep
      omega
    · omega

theorem not_mem_of_avoids (hr : r.isScalar = true) (h : r.covers n = true) {range : Nat × Nat}
    (ha : r.avoids range = true) :
    ¬ (range.1 ≤ n ∧ n ≤ range.2) ∧ ¬ (range.1 ≤ (r.apply n).toNat ∧ (r.apply n).toNat ≤ range.2) := by
  obtain ⟨happly, hhigh⟩ := toNat_apply hr h
  obtain ⟨hfirst, hlast, -⟩ := covers_iff.mp h
  simp only [avoids, Bool.and_eq_true, Bool.or_eq_true, Nat.blt_eq] at ha
  omega

end CaseRun

theorem exists_range_of_inRanges {n : Nat} {ranges : List (Nat × Nat)} (h : inRanges n ranges = true) :
    ∃ range ∈ ranges, range.1 ≤ n ∧ n ≤ range.2 := by
  induction ranges with
  | nil => cases h
  | cons range ranges ih =>
    rw [inRanges] at h
    split at h
    · cases h
    next hfirst =>
      rcases Bool.or_eq_true_iff.mp h with hlast | hrest
      · exact ⟨range, List.mem_cons_self, Nat.not_lt.mp hfirst, of_decide_eq_true hlast⟩
      · obtain ⟨range', hmem, hin⟩ := ih hrest
        exact ⟨range', List.mem_cons_of_mem _ hmem, hin⟩

theorem exists_avoided_of_isEdge {c : Char} (h : isEdge c = true) :
    ∃ range ∈ avoided, range.1 ≤ c.toNat ∧ c.toNat ≤ range.2 := by
  simp only [isEdge, Bool.or_eq_true, beq_iff_eq] at h
  rcases h with (rfl | rfl) | hblank
  · exact ⟨(0x5B, 0x5B), by decide, by decide⟩
  · exact ⟨(0x5D, 0x5D), by decide, by decide⟩
  · obtain ⟨range, hmem, hin⟩ := exists_range_of_inRanges hblank
    exact ⟨range, List.mem_cons_of_mem _ (List.mem_cons_of_mem _ (List.mem_cons_of_mem _ hmem)), hin⟩

def IsLowered (c : Char) : Prop :=
  lowerChar c = c ∧ c ≠ 'İ'

/-- `d` may be among the characters that lowercasing puts in the place of `c`. -/
structure Lowers (c d : Char) : Prop where
  isLowered : IsLowered d
  edge : isEdge c = true ∨ isEdge d = true → d = c

theorem lowers_lowerChar {c : Char} (h : c ≠ 'İ') : Lowers c (lowerChar c) := by
  cases hfind : caseRuns.find? (·.covers c.toNat) with
  | none =>
    have hc : lowerChar c = c := by rw [lowerChar, hfind]
    rw [hc]
    exact ⟨⟨hc, h⟩, fun _ => rfl⟩
  | some r =>
    have hd : lowerChar c = r.apply c.toNat := by rw [lowerChar, hfind]
    have hcovers : r.covers c.toNat = true := by simpa using List.find?_some hfind
    have hsound := List.all_eq_true.mp caseRuns_sound r (List.mem_of_find?_eq_some hfind)
    rw [Bool.and_eq_true, Bool.and_eq_true, List.all_eq_true, List.all_eq_true] at hsound
    obtain ⟨⟨hscalar, havoids⟩, hmisses⟩ := hsound
    rw [hd]
    refine ⟨⟨?_, ?_⟩, ?_⟩
    · have hnone : caseRuns.find? (·.covers (r.apply c.toNat).toNat) = none := by
        rw [List.find?_eq_none]
        intro r' hr'
        rw [Bool.not_eq_true]
        exact CaseRun.covers_of_misses hscalar hcovers (hmisses r' hr')
      rw [lowerChar, hnone]
    · intro hdotted
      have hne := (CaseRun.not_mem_of_avoids hscalar hcovers (havoids (0x130, 0x130) (by decide))).2
      rw [hdotted] at hne
      exact hne (by decide)
    · rintro (hedge | hedge)
      · obtain ⟨range, hmem, hin⟩ := exists_avoided_of_isEdge hedge
        exact absurd hin (CaseRun.not_mem_of_avoids hscalar hcovers (havoids range hmem)).1
      · obtain ⟨range, hmem, hin⟩ := exists_avoided_of_isEdge hedge
        exact absurd hin (CaseRun.not_mem_of_avoids hscalar hcovers (havoids range hmem)).2

/-! ## Texts -/

theorem lowerAfter_cons (before : List Char) (c : Char) (rest : List Char) :
    ∃ part, lowerAfter before (c :: rest) = part ++ lowerAfter (c :: before) rest ∧ part ≠ [] ∧
      ∀ d ∈ part, Lowers c d := by
  refine ⟨_, (rfl : lowerAfter before (c :: rest) = _ ++ lowerAfter (c :: before) rest), ?_⟩
  by_cases hsigma : c = 'Σ'
  · subst hsigma
    rw [if_pos rfl]
    refine ⟨List.cons_ne_nil _ _, ?_⟩
    rw [List.forall_mem_singleton]
    split
    · exact ⟨⟨by decide +kernel, by decide⟩, by decide⟩
    · exact ⟨⟨by decide +kernel, by decide⟩, by decide⟩
  · rw [if_neg hsigma]
    by_cases hdotted : c = 'İ'
    · subst hdotted
      rw [if_pos rfl]
      refine ⟨List.cons_ne_nil _ _, ?_⟩
      rw [List.forall_mem_cons, List.forall_mem_singleton]
      exact ⟨⟨⟨by decide +kernel, by decide⟩, by decide⟩, ⟨⟨by decide +kernel, by decide⟩, by decide⟩⟩
    · rw [if_neg hdotted]
      refine ⟨List.cons_ne_nil _ _, ?_⟩
      rw [List.forall_mem_singleton]
      exact lowers_lowerChar hdotted

theorem isLowered_of_mem_lowerAfter {before cs : List Char} {d : Char} (h : d ∈ lowerAfter before cs) :
    IsLowered d := by
  induction cs generalizing before with
  | nil => cases h
  | cons c rest ih =>
    obtain ⟨part, heq, -, hlowers⟩ := lowerAfter_cons before c rest
    rw [heq, List.mem_append] at h
    rcases h with hpart | hrest
    · exact (hlowers d hpart).isLowered
    · exact ih hrest

theorem lowerAfter_of_isLowered {before cs : List Char} (h : ∀ c ∈ cs, IsLowered c) :
    lowerAfter before cs = cs := by
  induction cs generalizing before with
  | nil => rfl
  | cons c rest ih =>
    rw [List.forall_mem_cons] at h
    obtain ⟨⟨hlower, hdotted⟩, hrest⟩ := h
    have hsigma : c ≠ 'Σ' := by
      rintro rfl
      exact absurd hlower (by decide +kernel)
    rw [lowerAfter, if_neg hsigma, if_neg hdotted, hlower, ih hrest]
    rfl

theorem lowerChars_of_subset {cs lowered : List Char} (h : cs ⊆ lowerChars lowered) : lowerChars cs = cs :=
  lowerAfter_of_isLowered fun _ hc => isLowered_of_mem_lowerAfter (h hc)

/-! ## The ends of a text -/

theorem lowerAfter_eq_nil {before cs : List Char} : lowerAfter before cs = [] ↔ cs = [] := by
  cases cs with
  | nil => exact iff_of_true rfl rfl
  | cons c rest =>
    obtain ⟨part, heq, hne, -⟩ := lowerAfter_cons before c rest
    rw [heq, List.append_eq_nil_iff]
    exact iff_of_false (fun h => hne h.1) (List.cons_ne_nil _ _)

/-- Where the one is an edge, it is the other. -/
def EdgesAgree (c d : Option Char) : Prop :=
  ∀ e, isEdge e = true → (d = some e ↔ c = some e)

theorem Lowers.edgesAgree {c d : Char} (h : Lowers c d) : EdgesAgree (some c) (some d) := by
  intro e he
  rw [Option.some_inj, Option.some_inj]
  constructor
  · rintro rfl
    exact (h.edge (.inr he)).symm
  · rintro rfl
    exact h.edge (.inl he)

theorem edgesAgree_head? (cs : List Char) : EdgesAgree cs.head? (lowerChars cs).head? := by
  cases cs with
  | nil => exact fun _ _ => Iff.rfl
  | cons c rest =>
    obtain ⟨part, heq, hne, hlowers⟩ := lowerAfter_cons [] c rest
    obtain ⟨d, part, rfl⟩ := List.exists_cons_of_ne_nil hne
    rw [lowerChars, heq]
    exact (hlowers d List.mem_cons_self).edgesAgree

theorem edgesAgree_getLast? (before cs : List Char) :
    EdgesAgree cs.getLast? (lowerAfter before cs).getLast? := by
  induction cs generalizing before with
  | nil => exact fun _ _ => Iff.rfl
  | cons c rest ih =>
    obtain ⟨part, heq, hne, hlowers⟩ := lowerAfter_cons before c rest
    rw [heq]
    rcases List.eq_nil_or_concat part with rfl | ⟨part, d, rfl⟩
    · exact absurd rfl hne
    cases rest with
    | nil =>
      have hd : Lowers c d := hlowers d (by simp)
      simpa [lowerAfter] using hd.edgesAgree
    | cons c' rest =>
      have hrest : lowerAfter (c :: before) (c' :: rest) ≠ [] := mt lowerAfter_eq_nil.mp (List.cons_ne_nil _ _)
      rw [List.getLast?_append_of_ne_nil _ hrest, List.getLast?_cons_cons]
      exact ih (c :: before)

end PluginSandbox.Text
