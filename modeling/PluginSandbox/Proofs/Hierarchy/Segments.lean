import Mathlib.Data.List.TFAE
import Mathlib.Data.List.TakeWhile
import Mathlib.Logic.Relation
import Mathlib.Order.Preorder.Chain
import Mathlib.Tactic.TFAE
import PluginSandbox.Proofs.Hierarchy

/-!
# Capabilities as lists of segments

A name read as its segments between dots, and the parents above it. Implication
is the prefix order of the segments and the climb from parent to parent, also
where segments are empty.
-/

namespace PluginSandbox.Capability

def segments (c : Capability) : List (List Char) :=
  c.name.toList.splitOn '.'

def IsAncestor (a b : Capability) : Prop :=
  Relation.ReflTransGen (fun x y : Capability => x.parent? = some y) b a

/-! ## Names and segments -/

theorem segments_of_eq {c p : Capability} {rest : List Char}
    (h : c.name.toList = p.name.toList ++ '.' :: rest) : c.segments = p.segments ++ rest.splitOn '.' := by
  unfold segments
  rw [h, List.splitOn_append_cons_self]

theorem isNested_iff_exists {c p : Capability} :
    c.isNested p = true ↔ ∃ rest, c.name.toList = p.name.toList ++ '.' :: rest := by
  rw [isNested_iff_dotted, dotted]
  constructor
  · rintro ⟨rest, h⟩
    exact ⟨rest, by rw [← h, List.append_assoc]; rfl⟩
  · rintro ⟨rest, h⟩
    exact ⟨rest, by rw [h, List.append_assoc]; rfl⟩

theorem segments_prefix_of_implies {a b : Capability} (h : a.implies b = true) : a.segments <+: b.segments := by
  rcases eq_or_isNested_of_implies h with rfl | hn
  · exact List.prefix_refl _
  · obtain ⟨rest, hrest⟩ := isNested_iff_exists.mp hn
    exact ⟨rest.splitOn '.', (segments_of_eq hrest).symm⟩

theorem segments_injective {a b : Capability} (h : a.segments = b.segments) : a = b := by
  have hjoin (c : Capability) : ['.'].intercalate c.segments = c.name.toList := List.intercalate_splitOn '.'
  have hname : a.name.toList = b.name.toList := by rw [← hjoin, h, hjoin]
  cases a; cases b
  exact congrArg Capability.mk (String.toList_inj.mp hname)

/-! ## Parents -/

/-- The last dot parts what comes before it from a rest without dots. -/
theorem parentChars_spec (cs : List Char) :
    (parentChars cs = none ∧ '.' ∉ cs) ∨
      ∃ before rest, parentChars cs = some before ∧ cs = before ++ '.' :: rest ∧ '.' ∉ rest := by
  have hback : cs.reverse.takeWhile (· != '.') ++ cs.reverse.dropWhile (· != '.') = cs.reverse :=
    List.takeWhile_append_dropWhile
  have hdots : '.' ∉ cs.reverse.takeWhile (· != '.') := fun hm => by simpa using List.mem_takeWhile_imp hm
  unfold parentChars
  cases hd : cs.reverse.dropWhile (· != '.') with
  | nil =>
    rw [hd, List.append_nil] at hback
    rw [hback, List.mem_reverse] at hdots
    exact .inl ⟨rfl, hdots⟩
  | cons mark before =>
    have hmark : mark = '.' := by simpa [hd] using List.head?_dropWhile_not (· != '.') cs.reverse
    refine .inr ⟨before.reverse, (cs.reverse.takeWhile (· != '.')).reverse, rfl, ?_, by simpa using hdots⟩
    rw [hd, hmark] at hback
    simpa using (congrArg List.reverse hback).symm

theorem parent?_spec (c : Capability) :
    (c.parent? = none ∧ c.segments.length = 1) ∨
      ∃ p s, c.parent? = some p ∧ c.isNested p = true ∧ c.segments = p.segments ++ [s] := by
  unfold parent?
  rcases parentChars_spec c.name.toList with ⟨hnone, hdots⟩ | ⟨before, rest, hsome, hname, hdots⟩
  · refine .inl ⟨by rw [hnone]; rfl, ?_⟩
    rw [segments, List.splitOn_eq_singleton hdots]
    rfl
  · have hparent : c.name.toList = (⟨String.ofList before⟩ : Capability).name.toList ++ '.' :: rest := by
      rw [hname, String.toList_ofList]
    refine .inr ⟨⟨String.ofList before⟩, rest, by rw [hsome]; rfl, isNested_iff_exists.mpr ⟨rest, hparent⟩, ?_⟩
    rw [segments_of_eq hparent, List.splitOn_eq_singleton hdots]

theorem isNested_parent {c p : Capability} (h : c.parent? = some p) : c.isNested p = true := by
  rcases c.parent?_spec with ⟨hnone, -⟩ | ⟨q, s, hq, hn, -⟩
  · rw [hnone] at h; cases h
  · rw [hq] at h; cases h
    exact hn

theorem exists_parent {c : Capability} {ss : List (List Char)} {s : List Char} (hne : ss ≠ [])
    (h : c.segments = ss ++ [s]) : ∃ p, c.parent? = some p ∧ p.segments = ss := by
  rcases c.parent?_spec with ⟨-, hone⟩ | ⟨p, s', hp, -, hsegments⟩
  · rw [h, List.length_append, List.length_singleton] at hone
    exact absurd (List.length_eq_zero_iff.mp (by omega)) hne
  · rw [h] at hsegments
    exact ⟨p, hp, (List.append_inj' hsegments rfl).1.symm⟩

/-! ## Climbing -/

theorem implies_of_isAncestor {a b : Capability} (h : a.IsAncestor b) : a.implies b = true := by
  induction h with
  | refl => exact implies_refl b
  | tail _ hparent ih => exact implies_trans (implies_of_isNested (isNested_parent hparent)) ih

theorem isAncestor_of_segments {a b : Capability} {rest : List (List Char)}
    (h : b.segments = a.segments ++ rest) : a.IsAncestor b := by
  -- the last segment goes first: what is left of `rest` after it belongs to the parent
  induction rest using List.reverseRecOn generalizing b with
  | nil =>
    rw [List.append_nil] at h
    rw [segments_injective h]
    exact .refl
  | append_singleton rest s ih =>
    have hne : a.segments ++ rest ≠ [] := fun hnil => List.splitOn_ne_nil _ _ (List.append_eq_nil_iff.mp hnil).1
    obtain ⟨p, hparent, hp⟩ := exists_parent hne (by rw [h, List.append_assoc])
    exact (ih hp).head hparent

/-- **One hierarchy, three readings.** To imply is to have fewer segments of the same and to be an
ancestor, and nesting is the same between two different capabilities. This is a partial order, and
whatever implies a given capability lies on one chain. -/
theorem implies_tfae :
    (∀ a b : Capability,
      [a.implies b = true, a.segments <+: b.segments, a.IsAncestor b].TFAE ∧
        (b.isNested a = true ↔ a.segments <+: b.segments ∧ a ≠ b)) ∧
      IsPartialOrder Capability (fun a b : Capability => a.implies b = true) ∧
      ∀ c : Capability, IsChain (fun a b : Capability => a.implies b = true) {g | g.implies c = true} := by
  have htfae (a b : Capability) : [a.implies b = true, a.segments <+: b.segments, a.IsAncestor b].TFAE := by
    tfae_have 1 → 2 := segments_prefix_of_implies
    tfae_have 2 → 3 := fun ⟨_, h⟩ => isAncestor_of_segments h.symm
    tfae_have 3 → 1 := implies_of_isAncestor
    tfae_finish
  refine ⟨fun a b => ⟨htfae a b, ?_⟩, ?_, ?_⟩
  · have hprefix : a.implies b = true ↔ a.segments <+: b.segments := (htfae a b).out 0 1
    rw [isNested_iff, hprefix, ne_comm]
  · exact {
      refl := implies_refl
      trans := fun _ _ _ => implies_trans
      antisymm := fun _ _ => implies_antisymm }
  · intro c a ha b hb _
    exact implies_or_implies ha hb

end PluginSandbox.Capability
