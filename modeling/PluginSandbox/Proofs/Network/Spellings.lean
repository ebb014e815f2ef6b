import PluginSandbox.Proofs.Network.Plain
import PluginSandbox.Proofs.Network.Targets
import PluginSandbox.Proofs.Text.Ascii

/-!
# Spellings of a host

A host is written in patterns and in targets in more than one way: in any
letter case, with or without brackets, among blanks or before a port. Each way
through the one definition leads to the same text as each through the other.
-/

namespace PluginSandbox.Network

instance (cs : List Char) : Decidable (NoBrackets cs) :=
  inferInstanceAs (Decidable (_ ∧ _))

instance (cs : List Char) : Decidable (NoMarks cs) :=
  inferInstanceAs (Decidable (_ ∧ _))

/-- A host as it is written alone: ASCII, without brackets, and no blank at either end. -/
structure IsHostText (h : String) : Prop where
  ascii : Text.IsAscii h.toList
  brackets : NoBrackets h.toList
  front : ∀ c ∈ h.toList.head?, Text.isBlank c = false
  back : ∀ c ∈ h.toList.getLast?, Text.isBlank c = false

theorem all_not_blank_iff {c? : Option Char} :
    c?.all (!Text.isBlank ·) = true ↔ ∀ c ∈ c?, Text.isBlank c = false := by
  simp [Option.all_eq_true]

instance (h : String) : Decidable (IsHostText h) :=
  decidable_of_iff
    (Text.IsAscii h.toList ∧ NoBrackets h.toList ∧ h.toList.head?.all (!Text.isBlank ·) = true ∧
      h.toList.getLast?.all (!Text.isBlank ·) = true)
    ⟨fun ⟨hascii, hbrackets, hfront, hback⟩ =>
        ⟨hascii, hbrackets, all_not_blank_iff.mp hfront, all_not_blank_iff.mp hback⟩,
      fun hh => ⟨hh.ascii, hh.brackets, all_not_blank_iff.mpr hh.front, all_not_blank_iff.mpr hh.back⟩⟩

def Blank (s : String) : Prop :=
  ∀ c ∈ s.toList, Text.isBlank c = true

instance (s : String) : Decidable (Blank s) :=
  List.decidableBAll _ s.toList

/-- `p` is `h` or `[h]` in some letter case among blanks. -/
inductive SpellsPattern (h : String) : String → Prop where
  | plain {before h' after : String} (hcase : Text.SameLetters h'.toList h.toList) (hbefore : Blank before)
      (hafter : Blank after) : SpellsPattern h (before ++ h' ++ after)
  | bracketed {before h' after : String} (hcase : Text.SameLetters h'.toList h.toList) (hbefore : Blank before)
      (hafter : Blank after) : SpellsPattern h (before ++ ("[" ++ h' ++ "]") ++ after)

/-- `t` addresses `h` in some letter case: alone, unless it would be read as a pair of host and port,
in brackets, or before a port. -/
inductive SpellsTarget (h : String) : String → Prop where
  | plain {h' : String} (hcase : Text.SameLetters h'.toList h.toList) (hcolon : h.toList.count ':' ≠ 1) :
      SpellsTarget h h'
  | bracketed {h' : String} (hcase : Text.SameLetters h'.toList h.toList) : SpellsTarget h ("[" ++ h' ++ "]")
  | port {h' p : String} (hcase : Text.SameLetters h'.toList h.toList) (hcolon : ':' ∉ h.toList)
      (hport : NoMarks p.toList) : SpellsTarget h (h' ++ ":" ++ p)
  | bracketedPort {h' p : String} (hcase : Text.SameLetters h'.toList h.toList) (hport : NoMarks p.toList) :
      SpellsTarget h ("[" ++ h' ++ "]:" ++ p)

theorem NoBrackets.of_sameLetters {ds cs : List Char} (hcs : NoBrackets cs) (h : Text.SameLetters ds cs) :
    NoBrackets ds :=
  ⟨mt (h.mem_iff (by decide)).mp hcs.1, mt (h.mem_iff (by decide)).mp hcs.2⟩

/-! ## Patterns -/

theorem trim_among_blanks {before cs after : List Char} (hbefore : ∀ c ∈ before, Text.isBlank c = true)
    (hafter : ∀ c ∈ after, Text.isBlank c = true) : Text.trim (before ++ cs ++ after) = Text.trim cs := by
  have hreverse : ∀ c ∈ after.reverse, Text.isBlank c = true := by simpa using hafter
  unfold Text.trim
  rw [List.append_assoc, List.dropWhile_append_of_pos hbefore, List.dropWhile_append]
  by_cases hblank : (cs.dropWhile Text.isBlank).isEmpty = true
  · have hnil : after.dropWhile Text.isBlank = [] := List.dropWhile_eq_nil_iff.mpr hafter
    rw [if_pos hblank, hnil, List.isEmpty_iff.mp hblank]
  · rw [if_neg hblank, List.reverse_append, List.dropWhile_append_of_pos hreverse]

theorem bare_among_blanks {before cs after : List Char} (hbefore : ∀ c ∈ before, Text.isBlank c = true)
    (hafter : ∀ c ∈ after, Text.isBlank c = true) : bare (before ++ cs ++ after) = bare cs := by
  unfold bare
  rw [trim_among_blanks hbefore hafter]

theorem bare_brackets (cs : List Char) : bare ('[' :: cs ++ [']']) = cs := by
  have htrim : Text.trim ('[' :: cs ++ [']']) = '[' :: cs ++ [']'] := by
    rw [trim_eq_self_iff, List.getLast?_concat]
    simp only [List.cons_append, List.head?_cons, Option.mem_some_iff, forall_eq']
    decide
  rw [bare, htrim, inBrackets?_eq_some.mpr rfl, Option.getD_some]

theorem IsHostText.bare_eq {h : String} (hh : IsHostText h) {cs : List Char} (hcase : Text.SameLetters cs h.toList) :
    bare cs = cs := by
  refine bare_eq_self_iff.mpr ⟨hcase.head?_not_blank.mpr hh.front, hcase.getLast?_not_blank.mpr hh.back, ?_⟩
  intro hboth
  exact (hh.brackets.of_sameLetters hcase).1 (List.mem_of_mem_head? hboth.1)

theorem canonicalPattern_of_spells {h p : String} (hh : IsHostText h) (hp : SpellsPattern h p) :
    canonicalPattern p = Text.lowercase h := by
  have hlower {h' : String} (hcase : Text.SameLetters h'.toList h.toList) {cs : List Char}
      (hbare : bare cs = h'.toList) : String.ofList (Text.lowerChars (bare cs)) = Text.lowercase h := by
    rw [hbare, hcase.lowerChars_eq hh.ascii, Text.lowercase]
  rw [canonicalPattern_eq]
  cases hp with
  | plain hcase hbefore hafter =>
    refine hlower hcase ?_
    rw [String.toList_append, String.toList_append, bare_among_blanks hbefore hafter]
    exact hh.bare_eq hcase
  | @bracketed _ h' _ hcase hbefore hafter =>
    refine hlower hcase ?_
    have hbrackets : ("[" ++ h' ++ "]").toList = '[' :: h'.toList ++ [']'] := by simp
    rw [String.toList_append, String.toList_append, bare_among_blanks hbefore hafter, hbrackets, bare_brackets]

/-! ## Targets -/

theorem host_of_noBrackets {t : String} (hbrackets : NoBrackets t.toList) (hcolon : t.toList.count ':' ≠ 1) :
    host t = t := by
  refine host_eq_iff.mpr (.inr ⟨fun other hother => ?_, .inr ⟨rfl, fun v hv => ?_⟩⟩)
  · cases hother with
    | @plain h p hhost hport =>
      refine hcolon ?_
      rw [String.toList_append, String.toList_append, List.count_append, List.count_append,
        List.count_eq_zero.mpr hhost.1, List.count_eq_zero.mpr hport.1]
      rfl
    | bracketed hhost hport => exact hbrackets.1 (by simp)
  · rw [hv] at hbrackets
    exact hbrackets.1 (by simp)

theorem host_brackets {h : String} (hbrackets : NoBrackets h.toList) : host ("[" ++ h ++ "]") = h := by
  have htarget : ("[" ++ h ++ "]").toList = '[' :: (h.toList ++ [']']) := by simp
  have hnone : hostBeforePort? ('[' :: (h.toList ++ [']'])) = none := by
    simp only [hostBeforePort?, cut?_append hbrackets.2]
  have hinside : inBrackets? ('[' :: (h.toList ++ [']'])) = some h.toList := inBrackets?_eq_some.mpr rfl
  rw [host, hostChars, htarget, hnone, hinside, Option.getD_some, String.ofList_toList]

theorem host_of_spells {h t : String} (hbrackets : NoBrackets h.toList) (ht : SpellsTarget h t) :
    Text.SameLetters (host t).toList h.toList := by
  cases ht with
  | plain hcase hcolon =>
    rw [host_of_noBrackets (hbrackets.of_sameLetters hcase) (by rwa [hcase.count_eq (by decide)])]
    exact hcase
  | bracketed hcase =>
    rw [host_brackets (hbrackets.of_sameLetters hcase)]
    exact hcase
  | port hcase hcolon hport =>
    have hmarks := And.intro (mt (hcase.mem_iff (by decide)).mp hcolon) (hbrackets.of_sameLetters hcase)
    rw [host_eq_iff.mpr (.inl (.plain hmarks hport))]
    exact hcase
  | bracketedPort hcase hport =>
    rw [host_eq_iff.mpr (.inl (.bracketed (hbrackets.of_sameLetters hcase) hport))]
    exact hcase

theorem lowercase_host_of_spells {h t : String} (hascii : Text.IsAscii h.toList) (hbrackets : NoBrackets h.toList)
    (ht : SpellsTarget h t) : Text.lowercase (host t) = Text.lowercase h := by
  rw [Text.lowercase, (host_of_spells hbrackets ht).lowerChars_eq hascii, Text.lowercase]

/-! ## Wildcards -/

section
variable {h x s : String} (hh : IsHostText h) (hsub : h = x ++ "." ++ s)
include hh hsub

theorem IsHostText.ascii_parts : Text.IsAscii (x ++ ".").toList ∧ Text.IsAscii s.toList := by
  rw [← Text.isAscii_append, ← String.toList_append, ← hsub]
  exact hh.ascii

theorem IsHostText.noBrackets_suffix : NoBrackets s.toList := by
  have hmem : ∀ c ∈ s.toList, c ∈ h.toList := fun c hc => by rw [hsub]; simp [hc]
  exact ⟨mt (hmem _) hh.brackets.1, mt (hmem _) hh.brackets.2⟩

theorem IsHostText.wildcard : IsHostText ("*." ++ s) := by
  have htext : ("*." ++ s).toList = '*' :: '.' :: s.toList := eq_wildcard_iff.mp rfl
  have hbrackets := hh.noBrackets_suffix hsub
  refine ⟨?_, ?_, ?_, ?_⟩
  · rw [String.toList_append, Text.isAscii_append]
    exact ⟨by decide, (hh.ascii_parts hsub).2⟩
  · rw [htext]
    simpa [NoBrackets] using hbrackets
  · rw [htext, List.head?_cons]
    simp only [Option.mem_some_iff, forall_eq']
    decide
  · have hback := hh.back
    have hh' : h.toList = (x.toList) ++ '.' :: s.toList := by rw [hsub]; simp
    rw [hh', List.getLast?_append_of_ne_nil _ (List.cons_ne_nil _ _)] at hback
    rw [htext, List.getLast?_cons_cons]
    exact hback

end

theorem lowercase_append {a b : String} (ha : Text.IsAscii a.toList) (hb : Text.IsAscii b.toList) :
    Text.lowercase (a ++ b) = Text.lowercase a ++ Text.lowercase b := by
  have hab : Text.IsAscii (a ++ b).toList := by
    rw [String.toList_append, Text.isAscii_append]
    exact ⟨ha, hb⟩
  unfold Text.lowercase
  rw [Text.lowerChars_of_isAscii ha, Text.lowerChars_of_isAscii hb, Text.lowerChars_of_isAscii hab,
    String.toList_append, List.map_append, String.ofList_append]

theorem lowercase_wildcard {s : String} (hs : Text.IsAscii s.toList) :
    Text.lowercase ("*." ++ s) = "*." ++ Text.lowercase s := by
  have hstar : Text.lowercase "*." = "*." := by decide +kernel
  rw [lowercase_append (by decide) hs, hstar]

theorem lowercase_eq_empty {s : String} (h : Text.lowercase s = "") : s = "" := by
  have hnil : Text.lowerChars s.toList = [] := by simpa [Text.lowercase] using h
  simpa using Text.lowerAfter_eq_nil.mp hnil

theorem matches_wildcard {h x s : String} (hh : IsHostText h) (hx : x ≠ "") (hsub : h = x ++ "." ++ s) :
    Matches (Text.lowercase ("*." ++ s)) (Text.lowercase h) := by
  obtain ⟨hbefore, hs⟩ := hh.ascii_parts hsub
  have hx' : Text.IsAscii x.toList ∧ Text.IsAscii ".".toList := by
    rwa [String.toList_append, Text.isAscii_append] at hbefore
  have hdot : Text.lowercase "." = "." := by decide +kernel
  refine .inr ⟨Text.lowercase s, Text.lowercase x, lowercase_wildcard hs, mt lowercase_eq_empty hx, ?_⟩
  rw [hsub, lowercase_append hbefore hs, lowercase_append hx'.1 hx'.2, hdot]

theorem not_matches_apex (s : String) : ¬ Matches ("*." ++ s) s := by
  rintro (hsame | ⟨s', x, hs', -, hhost⟩)
  · have hlength := congrArg String.length hsame
    rw [String.length_append] at hlength
    exact absurd hlength (by simp)
  · have hsuffix : s = s' := by simpa using hs'
    have hlength := congrArg String.length hhost
    rw [String.length_append, String.length_append, ← hsuffix] at hlength
    simp at hlength

end PluginSandbox.Network
