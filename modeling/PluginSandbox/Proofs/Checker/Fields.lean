import Mathlib.Data.List.Nodup
import PluginSandbox.Permission.Checker

/-!
# The fields of a checker

Lists that take each entry once, and what applying a whole permission set
does to each field of a checker.
-/

namespace PluginSandbox

/-! ## Adding once -/

theorem mem_foldl_insertion {α β : Type} {add : List β → α → List β} {f : α → β}
    (hadd : ∀ l a x, x ∈ add l a ↔ x ∈ l ∨ f a = x) (as : List α) :
    ∀ (l : List β) (x : β), x ∈ as.foldl add l ↔ x ∈ l ∨ ∃ a ∈ as, f a = x := by
  induction as with
  | nil => simp
  | cons a as ih =>
    intro l x
    rw [List.foldl_cons, ih, hadd, List.exists_mem_cons_iff, or_assoc]

theorem Capability.mem_addTo {c x : Capability} {cs : List Capability} :
    x ∈ c.addTo cs ↔ x ∈ cs ∨ c = x := by
  unfold addTo
  by_cases hc : c ∈ cs
  · rw [if_pos hc]
    exact (or_iff_left_of_imp fun h => h ▸ hc).symm
  · rw [if_neg hc, List.mem_append, List.mem_singleton, eq_comm]

theorem Capability.mem_foldl_addTo {cs gs : List Capability} {x : Capability} :
    x ∈ cs.foldl (fun gs c => c.addTo gs) gs ↔ x ∈ gs ∨ x ∈ cs := by
  have hadd : ∀ (gs : List Capability) (c x : Capability), x ∈ c.addTo gs ↔ x ∈ gs ∨ id c = x :=
    fun _ _ _ => mem_addTo
  rw [mem_foldl_insertion hadd cs gs x]
  simp

/-! ## Adding to the end what is new -/

section
variable {β : Type} [DecidableEq β] {add : List β → β → List β}
  (hadd : ∀ l b, add l b = if b ∈ l then l else l ++ [b])
include hadd

theorem nodup_foldl_add (bs : List β) : ∀ l : List β, l.Nodup → (bs.foldl add l).Nodup := by
  induction bs with
  | nil => exact fun _ h => h
  | cons b bs ih =>
    intro l h
    refine ih _ ?_
    rw [hadd]
    split
    · exact h
    next hb => rw [← List.concat_eq_append]; exact h.concat hb

theorem foldl_add_of_nodup (bs : List β) : ∀ l : List β, (l ++ bs).Nodup → bs.foldl add l = l ++ bs := by
  induction bs with
  | nil => exact fun l _ => (List.append_nil l).symm
  | cons b bs ih =>
    intro l h
    have hb : b ∉ l := fun hmem => (List.nodup_append.mp h).2.2 b hmem b List.mem_cons_self rfl
    have hcons : l ++ b :: bs = l ++ [b] ++ bs := by rw [List.append_assoc]; rfl
    rw [hcons] at h ⊢
    rw [List.foldl_cons, hadd, if_neg hb]
    exact ih _ h

theorem foldl_add_sublist (bs : List β) : ∀ l : List β, (bs.foldl add l).Sublist (l ++ bs) := by
  induction bs with
  | nil => exact fun l => (List.append_nil l).symm ▸ List.Sublist.refl l
  | cons b bs ih =>
    intro l
    refine (ih _).trans ?_
    rw [hadd]
    split
    · exact (List.Sublist.refl l).append (List.sublist_cons_self b bs)
    · rw [List.append_assoc]
      exact List.Sublist.refl _

theorem foldl_add_eq (bs : List β) :
    ∀ l : List β, bs.foldl add l = l ++ (bs.filter fun b => b ∉ l).eraseDups := by
  induction bs with
  | nil => exact fun l => (List.append_nil l).symm
  | cons b bs ih =>
    intro l
    rw [List.foldl_cons, ih, hadd]
    by_cases hb : b ∈ l
    · simp [hb]
    -- the others equal to `b` count as repetitions of it from here on
    · have hrest : (bs.filter fun c => c ∉ l ++ [b]) = (bs.filter fun c => c ∉ l).filter fun c => !c == b := by
        rw [List.filter_filter]
        refine List.filter_congr fun c _ => ?_
        by_cases hc : c = b
        · simp [hc]
        · simp [hc]
      rw [if_neg hb, hrest, List.filter_cons_of_pos (by simpa using hb), List.eraseDups_cons, List.append_assoc,
        List.singleton_append]

/-- Storing the images of a list that holds each entry once gives it back exactly if each entry is
its own image. -/
theorem foldl_add_map_eq_self_iff {f : β → β} {bs : List β} (h : bs.Nodup) :
    (bs.map f).foldl add [] = bs ↔ ∀ b ∈ bs, f b = b := by
  have hmap : bs.map f = bs ↔ ∀ b ∈ bs, f b = b := by
    simpa using List.map_inj_left (l := bs) (f := f) (g := id)
  rw [← hmap]
  constructor
  · intro hsame
    have hsub := foldl_add_sublist hadd (bs.map f) []
    rw [hsame, List.nil_append] at hsub
    exact (hsub.eq_of_length (List.length_map f).symm).symm
  · intro hsame
    rw [hsame]
    exact foldl_add_of_nodup hadd bs [] h

end

theorem Capability.addTo_eq (cs : List Capability) (c : Capability) :
    c.addTo cs = if c ∈ cs then cs else cs ++ [c] := rfl

namespace Checker

theorem mem_addOnce {item x : String} {items : List String} :
    x ∈ addOnce item items ↔ x ∈ items ∨ item = x := by
  unfold addOnce
  by_cases hi : item ∈ items
  · rw [if_pos hi]
    exact (or_iff_left_of_imp fun h => h ▸ hi).symm
  · rw [if_neg hi, List.mem_append, List.mem_singleton, eq_comm]

theorem mem_foldl_addOnce {f : String → String} {ps items : List String} {x : String} :
    x ∈ ps.foldl (fun l p => addOnce (f p) l) items ↔ x ∈ items ∨ ∃ p ∈ ps, f p = x := by
  have hadd : ∀ (l : List String) (p x : String), x ∈ addOnce (f p) l ↔ x ∈ l ∨ f p = x :=
    fun _ _ _ => mem_addOnce
  exact mem_foldl_insertion hadd ps items x

/-! ## Applying a set -/

section
variable (cwd : Option String) (k : Checker)

theorem foldl_grant (cs : List Capability) :
    cs.foldl grant k = { k with granted := cs.foldl (fun gs c => c.addTo gs) k.granted } :=
  List.foldl_hom (fun gs => { k with granted := gs }) fun _ _ => rfl

theorem foldl_deny (cs : List Capability) :
    cs.foldl deny k = { k with denied := cs.foldl (fun ds c => c.addTo ds) k.denied } :=
  List.foldl_hom (fun ds => { k with denied := ds }) fun _ _ => rfl

theorem foldl_allowPath (ps : List String) :
    ps.foldl (allowPath cwd) k =
      { k with allowedPaths := ps.foldl (fun l p => addOnce (Path.normalize cwd p) l) k.allowedPaths } :=
  List.foldl_hom (fun l => { k with allowedPaths := l }) fun _ _ => rfl

theorem foldl_blockPath (ps : List String) :
    ps.foldl (blockPath cwd) k =
      { k with blockedPaths := ps.foldl (fun l p => addOnce (Path.normalize cwd p) l) k.blockedPaths } :=
  List.foldl_hom (fun l => { k with blockedPaths := l }) fun _ _ => rfl

theorem foldl_allowHost (hs : List String) :
    hs.foldl allowHost k =
      { k with allowedHosts := hs.foldl (fun l p => addOnce (Network.canonicalPattern p) l) k.allowedHosts } :=
  List.foldl_hom (fun l => { k with allowedHosts := l }) fun _ _ => rfl

theorem foldl_blockHost (hs : List String) :
    hs.foldl blockHost k =
      { k with blockedHosts := hs.foldl (fun l p => addOnce (Network.canonicalPattern p) l) k.blockedHosts } :=
  List.foldl_hom (fun l => { k with blockedHosts := l }) fun _ _ => rfl

theorem apply_eq (s : PermissionSet) :
    k.apply cwd s =
      { granted := s.capabilities.foldl (fun gs c => c.addTo gs) k.granted
        denied := s.deniedCapabilities.foldl (fun ds c => c.addTo ds) k.denied
        allowedPaths := s.allowedPaths.foldl (fun l p => addOnce (Path.normalize cwd p) l) k.allowedPaths
        blockedPaths := s.blockedPaths.foldl (fun l p => addOnce (Path.normalize cwd p) l) k.blockedPaths
        workspace := k.workspace
        allowedHosts := s.allowedHosts.foldl (fun l p => addOnce (Network.canonicalPattern p) l) k.allowedHosts
        blockedHosts := s.blockedHosts.foldl (fun l p => addOnce (Network.canonicalPattern p) l) k.blockedHosts } := by
  unfold apply
  dsimp only
  rw [foldl_grant, foldl_deny, foldl_allowPath, foldl_blockPath, foldl_allowHost, foldl_blockHost]

end

theorem grantAll_eq (k : Checker) (cs : List Capability) :
    k.grantAll cs = { k with granted := cs.foldl (fun gs c => c.addTo gs) k.granted } :=
  foldl_grant k cs

/-! ## A checker made from a set -/

theorem mem_granted_ofPermissions {cwd : Option String} {s : PermissionSet} {c : Capability} :
    c ∈ (ofPermissions cwd s).granted ↔ c ∈ s.capabilities := by
  rw [ofPermissions, apply_eq]
  simp [Capability.mem_foldl_addTo]

theorem mem_denied_ofPermissions {cwd : Option String} {s : PermissionSet} {c : Capability} :
    c ∈ (ofPermissions cwd s).denied ↔ c ∈ s.deniedCapabilities := by
  rw [ofPermissions, apply_eq]
  simp [Capability.mem_foldl_addTo]

theorem workspace_ofPermissions (cwd : Option String) (s : PermissionSet) :
    (ofPermissions cwd s).workspace = none := by
  rw [ofPermissions, apply_eq]

theorem has_iff {k : Checker} {c : Capability} :
    k.has c = true ↔ (∀ d ∈ k.denied, d.implies c = false) ∧ ∃ g ∈ k.granted, g.implies c = true := by
  unfold has
  rw [Bool.and_eq_true, Bool.not_eq_true', List.any_eq_false, List.any_eq_true]
  simp only [Bool.not_eq_true]

end Checker

end PluginSandbox
