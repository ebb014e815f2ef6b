import Mathlib.Data.List.Sort
import Mathlib.Data.String.Basic
import PluginSandbox.Proofs.Delivery.Topics

/-!
# One flat list

Handlers kept by topic stand for one list of subscriptions in the order in
which they were made. Adding and keeping handlers commute with this reading,
as long as each topic stands once and none is empty.
-/

namespace PluginSandbox

structure Subscription where
  topic : String
  handler : Registration
deriving DecidableEq

namespace Topics

def onTopic (live : List Subscription) (topic : String) : List Registration :=
  (live.filter (·.topic = topic)).map (·.handler)

theorem onTopic_append (live more : List Subscription) (topic : String) :
    onTopic (live ++ more) topic = onTopic live topic ++ onTopic more topic := by
  simp [onTopic]

theorem onTopic_filter (live : List Subscription) (p : Registration → Bool) (topic : String) :
    onTopic (live.filter (p ·.handler)) topic = (onTopic live topic).filter p := by
  simp [onTopic, List.filter_map, List.filter_filter, Function.comp_def, Bool.and_comm]

/-- Each topic stands once, with its part of the list, and stands only if it has one. -/
structure Represents (ts : Topics) (live : List Subscription) : Prop where
  keyed : ts.Keyed
  occupied : ∀ bucket ∈ ts.buckets, bucket.2 ≠ []
  handlers : ∀ topic, ts.handlers topic = onTopic live topic

theorem represents_empty : ({} : Topics).Represents [] where
  keyed := keyed_empty
  occupied := by simp
  handlers := fun _ => rfl

/-! ## Adding and keeping -/

theorem occupied_insert {ts : Topics} (h : ∀ bucket ∈ ts.buckets, bucket.2 ≠ []) (topic : String)
    (r : Registration) : ∀ bucket ∈ (ts.insert topic r).buckets, bucket.2 ≠ [] := by
  obtain ⟨buckets⟩ := ts
  unfold insert
  dsimp only at *
  induction buckets with
  | nil => simp [insertInto]
  | cons bucket rest ih =>
    obtain ⟨t, rs⟩ := bucket
    rw [List.forall_mem_cons] at h
    unfold insertInto
    by_cases ht : t = topic
    · rw [if_pos ht, List.forall_mem_cons]
      exact ⟨by simp, h.2⟩
    · rw [if_neg ht, List.forall_mem_cons]
      exact ⟨h.1, ih h.2⟩

theorem occupied_keep (ts : Topics) (p : Registration → Bool) :
    ∀ bucket ∈ (ts.keep p).buckets, bucket.2 ≠ [] := by
  intro bucket hb
  have hkept := (List.mem_filter.mp hb).2
  simpa using hkept

theorem Represents.insert {ts : Topics} {live : List Subscription} (h : ts.Represents live) (topic : String)
    (r : Registration) : (ts.insert topic r).Represents (live ++ [⟨topic, r⟩]) where
  keyed := h.keyed.insert topic r
  occupied := occupied_insert h.occupied topic r
  handlers := by
    intro other
    rw [handlers_insert, h.handlers, onTopic_append]
    by_cases ho : other = topic
    · simp [onTopic, ho]
    · simp [onTopic, ho, Ne.symm ho]

theorem Represents.keep {ts : Topics} {live : List Subscription} (h : ts.Represents live)
    (p : Registration → Bool) : (ts.keep p).Represents (live.filter (p ·.handler)) where
  keyed := h.keyed.keep p
  occupied := occupied_keep ts p
  handlers := fun topic => by rw [handlers_keep h.keyed, h.handlers, onTopic_filter]

/-! ## All handlers at once -/

theorem eq_nil_of_onTopic {live : List Subscription} (h : ∀ topic, onTopic live topic = []) : live = [] := by
  rw [List.eq_nil_iff_forall_not_mem]
  intro x hx
  have hnil := h x.topic
  simp only [onTopic, List.map_eq_nil_iff, List.filter_eq_nil_iff, decide_eq_true_eq] at hnil
  exact hnil x hx rfl

section
variable {t : String} {rs : List Registration} {rest : List (String × List Registration)}
  {live : List Subscription} (h : Represents ⟨(t, rs) :: rest⟩ live)
include h

theorem Represents.head : rs = onTopic live t := by
  rw [← h.handlers t, Topics.handlers, List.lookup_cons_self]
  rfl

theorem Represents.tail : Represents ⟨rest⟩ (live.filter fun x => x.topic ≠ t) where
  keyed := (List.nodup_cons.mp h.keyed).2
  occupied := (List.forall_mem_cons.mp h.occupied).2
  handlers := by
    intro topic
    by_cases ht : topic = t
    · have hnone := lookup_of_not_mem_keys (List.nodup_cons.mp h.keyed).1
      rw [ht, Topics.handlers, hnone]
      simp [onTopic, List.filter_filter]
    · have hother := h.handlers topic
      rw [Topics.handlers, lookup_cons_of_ne ht] at hother
      rw [Topics.handlers, hother]
      simp only [onTopic, List.filter_filter]
      congr 1
      refine List.filter_congr fun x _ => ?_
      by_cases hx : x.topic = topic <;> simp [hx, ht]

end

theorem Represents.all_perm {ts : Topics} {live : List Subscription} (h : ts.Represents live) :
    ts.all.Perm (live.map (·.handler)) := by
  obtain ⟨buckets⟩ := ts
  induction buckets generalizing live with
  | nil =>
    have hnil : live = [] := eq_nil_of_onTopic fun topic => (h.handlers topic).symm
    rw [hnil]
    exact .refl _
  | cons bucket rest ih =>
    obtain ⟨t, rs⟩ := bucket
    -- the first bucket holds the part of the list with its topic, and the others hold the rest
    have hsplit : (live.filter (·.topic = t) ++ live.filter fun x => x.topic ≠ t).Perm live := by
      simpa only [decide_not] using List.filter_append_perm (·.topic = t) live
    have hparts := hsplit.map (·.handler)
    rw [List.map_append] at hparts
    rw [all, List.flatMap_cons, h.head]
    exact ((ih h.tail).append_left _).trans hparts

/-! ## The topics of a plugin -/

theorem pairwise_topicsOf {ts : Topics} (h : ts.Keyed) (plugin : String) :
    (ts.topicsOf plugin).Pairwise (· < ·) := by
  have hle (a b : String) : (compare a b).isLE = true ↔ a ≤ b := Std.LawfulBCmp.isLE_iff_le
  have hsorted : (ts.topicsOf plugin).Pairwise fun a b => (compare a b).isLE = true := by
    refine List.pairwise_mergeSort (fun a b c => ?_) (fun a b => ?_) _
    · simp only [hle]
      exact le_trans
    · simp only [Bool.or_eq_true, hle]
      exact le_total a b
  have hnodup : (ts.topicsOf plugin).Nodup := by
    refine (List.mergeSort_perm _ _).nodup_iff.mpr ?_
    exact List.Nodup.sublist (List.filter_sublist.map _) h
  refine (hsorted.and hnodup).imp fun ⟨hab, hne⟩ => ?_
  exact lt_of_le_of_ne ((hle _ _).mp hab) hne

theorem Represents.mem_topicsOf {ts : Topics} {live : List Subscription} (h : ts.Represents live)
    {plugin topic : String} :
    topic ∈ ts.topicsOf plugin ↔ ∃ x ∈ live, x.topic = topic ∧ x.handler.plugin = plugin := by
  unfold topicsOf
  rw [List.mem_mergeSort, List.mem_map]
  constructor
  · rintro ⟨⟨t, rs⟩, hmem, rfl⟩
    rw [List.mem_filter, mem_buckets_iff h.keyed] at hmem
    obtain ⟨r, hr, hplugin⟩ := List.any_eq_true.mp hmem.2
    have hrs : rs = onTopic live t := by rw [← h.handlers t, Topics.handlers, hmem.1, Option.getD_some]
    rw [hrs] at hr
    obtain ⟨x, hx, rfl⟩ := List.mem_map.mp hr
    rw [List.mem_filter, decide_eq_true_eq] at hx
    exact ⟨x, hx.1, hx.2, beq_iff_eq.mp hplugin⟩
  · rintro ⟨x, hx, rfl, rfl⟩
    have hhandler : x.handler ∈ ts.handlers x.topic := by
      rw [h.handlers]
      exact List.mem_map_of_mem (List.mem_filter.mpr ⟨hx, decide_eq_true rfl⟩)
    cases hrs : ts.buckets.lookup x.topic with
    | none => rw [Topics.handlers, hrs] at hhandler; cases hhandler
    | some rs =>
      rw [Topics.handlers, hrs, Option.getD_some] at hhandler
      refine ⟨(x.topic, rs), List.mem_filter.mpr ⟨(mem_buckets_iff h.keyed).mpr hrs, ?_⟩, rfl⟩
      exact List.any_eq_true.mpr ⟨x.handler, hhandler, beq_iff_eq.mpr rfl⟩

end Topics

end PluginSandbox
