import Mathlib.Data.List.TakeWhile
import PluginSandbox.Proofs.Network.Patterns

/-!
# The host of a target

The grammar of targets with a port, and the host that is read off by it: the one
before the port, or else the target itself, freed of the brackets around it.
-/

namespace PluginSandbox.Network

/-! ## The grammar -/

def NoBrackets (cs : List Char) : Prop :=
  '[' ∉ cs ∧ ']' ∉ cs

def NoMarks (cs : List Char) : Prop :=
  ':' ∉ cs ∧ NoBrackets cs

/-- `target` is a host with a port; a host that holds a colon stands in brackets. -/
inductive Addressed : String → String → Prop where
  | plain {h p : String} (hhost : NoMarks h.toList) (hport : NoMarks p.toList) : Addressed (h ++ ":" ++ p) h
  | bracketed {h p : String} (hhost : NoBrackets h.toList) (hport : NoMarks p.toList) :
      Addressed ("[" ++ h ++ "]:" ++ p) h

/-- `h` is the host before the port, or else the target without the brackets that enclose it. -/
def IsHostOf (target h : String) : Prop :=
  Addressed target h ∨ (∀ other, ¬ Addressed target other) ∧ Unbracketed target h

def AddressedChars (target h : List Char) : Prop :=
  ∃ p, NoMarks p ∧ (NoMarks h ∧ target = h ++ ':' :: p ∨ NoBrackets h ∧ target = '[' :: h ++ ']' :: ':' :: p)

theorem addressed_iff {target h : String} : Addressed target h ↔ AddressedChars target.toList h.toList := by
  constructor
  · rintro (⟨hhost, hport⟩ | ⟨hhost, hport⟩)
    · exact ⟨_, hport, .inl ⟨hhost, by simp⟩⟩
    · exact ⟨_, hport, .inr ⟨hhost, by simp⟩⟩
  · rintro ⟨p, hport, ⟨hhost, htarget⟩ | ⟨hhost, htarget⟩⟩
    · have heq : target = h ++ ":" ++ String.ofList p := by rw [← String.toList_inj, htarget]; simp
      exact heq ▸ .plain hhost (by rwa [String.toList_ofList])
    · have heq : target = "[" ++ h ++ "]:" ++ String.ofList p := by rw [← String.toList_inj, htarget]; simp
      exact heq ▸ .bracketed hhost (by rwa [String.toList_ofList])

theorem addressedChars_open_iff {rest h : List Char} : AddressedChars ('[' :: rest) h ↔
    ∃ p, NoMarks p ∧ NoBrackets h ∧ rest = h ++ ']' :: ':' :: p := by
  refine exists_congr fun p => and_congr_right fun _ => ?_
  constructor
  · rintro (⟨⟨-, hhost⟩, htarget⟩ | ⟨hhost, htarget⟩)
    · -- a host without brackets does not begin with one
      cases h with
      | nil => cases (List.cons.inj htarget).1
      | cons c cs =>
        have hc : '[' = c := (List.cons.inj htarget).1
        exact absurd (hc ▸ List.mem_cons_self ..) hhost.1
    · exact ⟨hhost, (List.cons.inj htarget).2⟩
  · rintro ⟨hhost, rfl⟩
    exact .inr ⟨hhost, rfl⟩

theorem addressedChars_plain_iff {target h : List Char} (hopen : ∀ rest, target ≠ '[' :: rest) :
    AddressedChars target h ↔ ∃ p, NoMarks p ∧ NoMarks h ∧ target = h ++ ':' :: p := by
  refine exists_congr fun p => and_congr_right fun _ => ?_
  constructor
  · rintro (⟨hhost, htarget⟩ | ⟨-, htarget⟩)
    · exact ⟨hhost, htarget⟩
    · exact absurd htarget (hopen _)
  · exact .inl

/-! ## The host before the port -/

theorem cut?_append {mark : Char} {before : List Char} (h : mark ∉ before) (after : List Char) :
    cut? mark (before ++ mark :: after) = some (before, after) := by
  have hskip : ∀ c ∈ before, (c != mark) = true := fun c hc => bne_iff_ne.mpr fun heq => h (heq ▸ hc)
  rw [cut?, List.dropWhile_append_of_pos hskip, List.takeWhile_append_of_pos hskip]
  simp

theorem cut?_eq_none_iff {mark : Char} {cs : List Char} : cut? mark cs = none ↔ mark ∉ cs := by
  constructor
  · intro h hmem
    obtain ⟨before, after, rfl, hbefore⟩ := List.eq_append_cons_of_mem hmem
    rw [cut?_append hbefore] at h
    cases h
  · intro h
    have hskip : ∀ c ∈ cs, (c != mark) = true := fun c hc => bne_iff_ne.mpr fun heq => h (heq ▸ hc)
    rw [cut?, List.dropWhile_eq_nil_iff.mpr hskip]

theorem cut?_eq_some_iff {mark : Char} {cs before after : List Char} :
    cut? mark cs = some (before, after) ↔ cs = before ++ mark :: after ∧ mark ∉ before := by
  constructor
  · intro h
    have hmem : mark ∈ cs := by
      by_contra hnot
      rw [cut?_eq_none_iff.mpr hnot] at h
      cases h
    obtain ⟨before', after', rfl, hbefore⟩ := List.eq_append_cons_of_mem hmem
    rw [cut?_append hbefore] at h
    cases h
    exact ⟨rfl, hbefore⟩
  · rintro ⟨rfl, hbefore⟩
    exact cut?_append hbefore after

theorem any_isBracket_eq_false_iff {cs : List Char} : cs.any isBracket = false ↔ NoBrackets cs := by
  simp only [NoBrackets, List.any_eq_false, isBracket, Bool.or_eq_true, beq_iff_eq, not_or]
  exact ⟨fun h => ⟨fun hl => (h _ hl).1 rfl, fun hr => (h _ hr).2 rfl⟩,
    fun h c hc => ⟨fun hl => h.1 (hl ▸ hc), fun hr => h.2 (hr ▸ hc)⟩⟩

theorem ite_refused_iff {host port h : List Char} :
    (if port.contains ':' || host.any isBracket || port.any isBracket then none else some host) = some h ↔
      host = h ∧ NoBrackets h ∧ NoMarks port := by
  have hcond : (port.contains ':' || host.any isBracket || port.any isBracket) = false ↔
      (':' ∉ port ∧ NoBrackets host) ∧ NoBrackets port := by
    rw [Bool.or_eq_false_iff, Bool.or_eq_false_iff, any_isBracket_eq_false_iff, any_isBracket_eq_false_iff,
      List.contains_eq_mem, decide_eq_false_iff_not]
  rw [Option.ite_none_left_eq_some, Bool.not_eq_true, hcond, Option.some.injEq, NoMarks]
  constructor
  · rintro ⟨⟨⟨hcolon, hhost⟩, hport⟩, rfl⟩
    exact ⟨rfl, hhost, hcolon, hport⟩
  · rintro ⟨rfl, hhost, hcolon, hport⟩
    exact ⟨⟨⟨hcolon, hhost⟩, hport⟩, rfl⟩

theorem hostBeforePort?_open_iff {rest h : List Char} :
    hostBeforePort? ('[' :: rest) = some h ↔ AddressedChars ('[' :: rest) h := by
  rw [addressedChars_open_iff]
  constructor
  · intro heq
    simp only [hostBeforePort?] at heq
    split at heq
    next host port hcut =>
      obtain ⟨rfl, hhost, hport⟩ := ite_refused_iff.mp heq
      exact ⟨port, hport, hhost, (cut?_eq_some_iff.mp hcut).1⟩
    · cases heq
  · rintro ⟨p, hport, hhost, rfl⟩
    simp only [hostBeforePort?, cut?_append hhost.2]
    exact ite_refused_iff.mpr ⟨rfl, hhost, hport⟩

theorem hostBeforePort?_plain_iff {target h : List Char} (hopen : ∀ rest, target ≠ '[' :: rest) :
    hostBeforePort? target = some h ↔ AddressedChars target h := by
  rw [addressedChars_plain_iff hopen, hostBeforePort?.eq_2 target hopen]
  constructor
  · intro heq
    split at heq
    next host port hcut =>
      obtain ⟨rfl, hhost, hport⟩ := ite_refused_iff.mp heq
      obtain ⟨htarget, hcolon⟩ := cut?_eq_some_iff.mp hcut
      exact ⟨port, hport, ⟨hcolon, hhost⟩, htarget⟩
    · cases heq
  · rintro ⟨p, hport, hhost, rfl⟩
    rw [cut?_append hhost.1]
    exact ite_refused_iff.mpr ⟨rfl, hhost.2, hport⟩

theorem hostBeforePort?_eq_some_iff {target h : List Char} :
    hostBeforePort? target = some h ↔ AddressedChars target h := by
  by_cases hopen : ∃ rest, target = '[' :: rest
  · obtain ⟨rest, rfl⟩ := hopen
    exact hostBeforePort?_open_iff
  · exact hostBeforePort?_plain_iff fun rest hrest => hopen ⟨rest, hrest⟩

/-! ## The host -/

theorem host_eq_iff {target h : String} : host target = h ↔ IsHostOf target h := by
  unfold IsHostOf
  rw [host, hostChars]
  cases hport : hostBeforePort? target.toList with
  | some found =>
    have haddressed : Addressed target (String.ofList found) := by
      rw [addressed_iff, String.toList_ofList]
      exact hostBeforePort?_eq_some_iff.mp hport
    constructor
    · rintro rfl
      exact .inl haddressed
    · rintro (hother | ⟨hnone, -⟩)
      · have hfound : some found = some h.toList :=
          hport.symm.trans (hostBeforePort?_eq_some_iff.mpr (addressed_iff.mp hother))
        rw [Option.some.inj hfound, String.ofList_toList]
      · exact absurd haddressed (hnone _)
  | none =>
    have hnone (other : String) : ¬ Addressed target other := fun hother => by
      rw [hostBeforePort?_eq_some_iff.mpr (addressed_iff.mp hother)] at hport
      cases hport
    rw [unbracketed_iff]
    constructor
    · rintro rfl
      exact .inr ⟨hnone, rfl⟩
    · rintro (hother | ⟨-, rfl⟩)
      · exact absurd hother (hnone h)
      · rfl

end PluginSandbox.Network
