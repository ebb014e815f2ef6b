import Mathlib.Data.List.Induction
import PluginSandbox.Proofs.Lookup
import PluginSandbox.Tree

/-!
# Spellings of a record

A record is written as an object or as an array. In an object the members come in
any order and among members that mean nothing to it, and one that has the value
it counts as anyway can be left out; in an array the values come in the order of
the fields.
-/

namespace PluginSandbox

namespace Json

/-! ## Members -/

theorem lookup_insertMember (key k : String) (value : Json) (members : List (String × Json)) :
    (insertMember k value members).lookup key = if key = k then some value else members.lookup key := by
  induction members with
  | nil => rw [insertMember, lookup_cons]
  | cons m rest ih =>
    obtain ⟨l, v⟩ := m
    unfold insertMember
    split
    next heq =>
      subst heq
      rw [lookup_cons, lookup_cons]
      by_cases hkey : key = k <;> simp [hkey]
    next hne =>
      split
      · rw [lookup_cons]
      · rw [lookup_cons, lookup_cons, ih]
        by_cases hkey : key = k
        · simp [hkey, hne]
        · simp [hkey]

theorem lookup_foldl_insertMember (members : List (String × Json)) (key : String) :
    (members.foldl (fun acc m => insertMember m.1 m.2 acc) []).lookup key = members.reverse.lookup key := by
  induction members using List.reverseRecOn with
  | nil => rfl
  | append_singleton members m ih =>
    rw [List.foldl_concat, lookup_insertMember, ih, List.reverse_concat, lookup_cons]

/-! ## Documents -/

theorem treeItems_eq (items : List Json) : treeItems items = items.map tree := by
  induction items with
  | nil => rfl
  | cons j items ih => rw [treeItems, ih, List.map_cons]

theorem lookup_treeMembers (members : List (String × Json)) (key : String) :
    (treeMembers members).lookup key = (members.lookup key).map tree := by
  induction members with
  | nil => rfl
  | cons m rest ih =>
    obtain ⟨k, v⟩ := m
    rw [treeMembers, List.lookup_cons, List.lookup_cons, ih]
    split <;> rfl

/-! ## Spellings -/

/-- A field of a record as it is written, and what it counts as where its key is missing. -/
structure Field where
  key : String
  value : Json
  absent : Option Json
deriving DecidableEq

def Field.member (f : Field) : String × Json :=
  (f.key, f.value)

/-- The members are those of the fields, some left out and others added, in any order. -/
def Spells (members : List (String × Json)) (fields : List Field) : Prop :=
  ∃ (kept leftOut : List Field) (others : List (String × Json)),
    (kept ++ leftOut).Perm fields ∧ (∀ f ∈ leftOut, f.absent = some f.value) ∧
      (∀ m ∈ others, m.1 ∉ fields.map Field.key) ∧ members.Perm (kept.map Field.member ++ others)

/-- How a record of these fields is written: as an object, with the members as they stand or as they
are read from text, or as an array. -/
inductive Spelling (fields : List Field) : Json → Prop where
  | keyed {members : List (String × Json)} (h : Spells members fields) : Spelling fields (obj members)
  | sorted {members : List (String × Json)} (h : Spells members fields) : Spelling fields (object members)
  | placed : Spelling fields (arr (fields.map Field.value))

theorem spelling_object {fields kept leftOut : List Field} (hfields : fields = kept ++ leftOut)
    (hleft : ∀ f ∈ leftOut, f.absent = some f.value) : Spelling fields (object (kept.map Field.member)) := by
  subst hfields
  refine .sorted ⟨kept, leftOut, [], .refl _, hleft, List.forall_mem_nil _, ?_⟩
  rw [List.append_nil]

theorem spelling_all (fields : List Field) : Spelling fields (object (fields.map Field.member)) :=
  spelling_object (List.append_nil fields).symm (List.forall_mem_nil _)

section
variable {members : List (String × Json)} {fields : List Field} (h : Spells members fields)
include h

theorem Spells.reverse : Spells members.reverse fields := by
  obtain ⟨kept, leftOut, others, hfields, hleft, hothers, hmembers⟩ := h
  exact ⟨kept, leftOut, others, hfields, hleft, hothers, (List.reverse_perm _).trans hmembers⟩

theorem Spells.lookup (hkeys : (fields.map Field.key).Nodup) {f : Field} (hf : f ∈ fields) :
    members.lookup f.key = some f.value ∨ (members.lookup f.key = none ∧ f.absent = some f.value) := by
  obtain ⟨kept, leftOut, others, hfields, hleft, hothers, hmembers⟩ := h
  -- A member with the key of the field is no other one, and it is the field itself by its key.
  have hunique : ∀ value, (f.key, value) ∈ members → f ∈ kept ∧ value = f.value := by
    intro value hmem
    rcases List.mem_append.mp (hmembers.subset hmem) with hkept | hother
    · obtain ⟨g, hg, heq⟩ := List.mem_map.mp hkept
      obtain ⟨hkey, hvalue⟩ := Prod.mk.inj heq
      have hfield : g ∈ fields := hfields.subset (List.mem_append_left _ hg)
      obtain rfl : g = f := List.inj_on_of_nodup_map hkeys hfield hf hkey
      exact ⟨hg, hvalue.symm⟩
    · exact absurd (List.mem_map_of_mem hf) (hothers _ hother)
  by_cases hkept : f ∈ kept
  · left
    have hmem : f.member ∈ members := hmembers.symm.subset (List.mem_append_left _ (List.mem_map_of_mem hkept))
    exact lookup_of_unique hmem fun other hother => (hunique other hother).2
  · right
    have hnone : members.lookup f.key = none := by
      refine lookup_of_not_mem_keys fun hkey => ?_
      obtain ⟨⟨key, value⟩, hm, rfl⟩ := List.mem_map.mp hkey
      exact hkept (hunique value hm).1
    have hout : f ∈ leftOut := (List.mem_append.mp (hfields.symm.subset hf)).resolve_left hkept
    exact ⟨hnone, hleft f hout⟩

end

end Json

/-! ## What a record reads -/

namespace Tree.Fields

open Json (Field)

inductive Holds (fs : Fields) (place : Nat) (f : Field) : Prop where
  | found (h : fs.get? place f.key = some f.value.tree)
  | missing {entries : List (String × Tree)} (hkeyed : fs = .keyed entries)
      (h : fs.get? place f.key = none) (hvalue : f.absent = some f.value)

theorem optional_of_ne_null {fs : Fields} {place : Nat} {key : String} {t : Tree} {α : Type}
    {decode : Tree → Option α} (h : fs.get? place key = some t) (ht : t ≠ .null) : fs.optional place key decode = (decode t).map some := by
  unfold Fields.optional
  rw [h]
  cases t with
  | null => exact absurd rfl ht
  | _ => rfl

section
variable {fs : Fields} {place : Nat} {f : Field} {α : Type} {decode : Tree → Option α} (h : fs.Holds place f)
include h

theorem Holds.required {a : α} (habsent : f.absent = none) (hvalue : decode f.value.tree = some a) :
    fs.required place f.key decode = some a := by
  cases h with
  | found h => rw [Fields.required, h, Option.bind_some, hvalue]
  | missing _ _ hmissing => cases habsent.symm.trans hmissing

theorem Holds.defaulted {a fallback : α} {d : Json} (habsent : f.absent = some d)
    (hfallback : decode d.tree = some fallback) (hvalue : decode f.value.tree = some a) :
    fs.defaulted place f.key decode fallback = some a := by
  unfold Fields.defaulted
  cases h with
  | found h =>
    rw [h]
    exact hvalue
  | missing _ h hmissing =>
    obtain rfl : d = f.value := Option.some_inj.mp (habsent.symm.trans hmissing)
    rw [h, ← hfallback]
    exact hvalue

theorem Holds.optional {write : α → Json} {a? : Option α} (habsent : f.absent = some .null)
    (hvalue : f.value = .ofOption write a?) (hnull : decode .null = none)
    (hwrite : ∀ a, decode (write a).tree = some a) : fs.optional place f.key decode = some a? := by
  have hwritten (a : α) : (write a).tree ≠ .null := by
    intro heq
    have hnone := hwrite a
    rw [heq, hnull] at hnone
    cases hnone
  cases h with
  | found h =>
    rw [hvalue] at h
    cases a? with
    | none =>
      unfold Fields.optional
      rw [h]
      rfl
    | some a => exact (optional_of_ne_null h (hwritten a)).trans (congrArg (Option.map some) (hwrite a))
  | missing hkeyed h hmissing =>
    have hdefault : Json.ofOption write a? = .null := by
      rw [← hvalue]
      exact Option.some_inj.mp (hmissing.symm.trans habsent)
    cases a? with
    | none =>
      subst hkeyed
      unfold Fields.optional
      rw [h]
    | some a => exact absurd (congrArg Json.tree hdefault) (hwritten a)

end

theorem holds_keyed {fields : List Field} {entries members : List (String × Json)} (h : Json.Spells members fields)
    (hkeys : (fields.map Field.key).Nodup) (hlookup : ∀ key, entries.lookup key = members.lookup key) {place : Nat}
    {f : Field} (hf : fields[place]? = some f) : (keyed (Json.treeMembers entries)).Holds place f := by
  have hget : (keyed (Json.treeMembers entries)).get? place f.key = (members.lookup f.key).map Json.tree := by
    rw [← hlookup]
    exact Json.lookup_treeMembers entries f.key
  rcases h.lookup hkeys (List.mem_of_getElem? hf) with hfound | ⟨hmissing, hvalue⟩
  · rw [hfound] at hget
    exact .found hget
  · rw [hmissing] at hget
    exact .missing rfl hget hvalue

theorem holds_placed {fields : List Field} {place : Nat} {f : Field} (hf : fields[place]? = some f) :
    (placed (Json.treeItems (fields.map Field.value))).Holds place f := by
  refine .found ?_
  show (Json.treeItems (fields.map Field.value))[place]? = some f.value.tree
  rw [Json.treeItems_eq, List.getElem?_map, List.getElem?_map, hf]
  rfl

end Tree.Fields

theorem Json.Spelling.holds {fields : List Field} {j : Json} (h : Spelling fields j)
    (hkeys : (fields.map Field.key).Nodup) :
    ∃ fs, j.tree.fields? .json fields.length = some fs ∧
      ∀ place f, fields[place]? = some f → fs.Holds place f := by
  cases h with
  | @keyed members h =>
    exact ⟨.keyed (treeMembers members), rfl, fun _ _ => Tree.Fields.holds_keyed h hkeys fun _ => rfl⟩
  | @sorted members h =>
    refine ⟨_, rfl, fun _ _ => Tree.Fields.holds_keyed h.reverse hkeys ?_⟩
    exact lookup_foldl_insertMember members
  | placed =>
    have hwidth : ¬ (DataFormat.json = .json ∧ fields.length < (treeItems (fields.map Field.value)).length) := by
      rw [treeItems_eq, List.length_map, List.length_map]
      exact fun hlonger => Nat.lt_irrefl _ hlonger.2
    exact ⟨_, if_neg hwidth, fun _ _ => Tree.Fields.holds_placed⟩

end PluginSandbox
