import PluginSandbox.Proofs.Checker.NetworkDecisions
import PluginSandbox.Proofs.Network.Spellings

/-!
# Rules in any spelling

A rule for a host reaches the host however the two are written. Once given as
blocked, a pattern keeps every spelling of its host out until the next reset,
and given as allowed it lets every spelling in that no blocked pattern matches.
-/

namespace PluginSandbox.Checker

theorem sinceReset_append (ops : List Op) {later : List Op} (h : Op.reset ∉ later) :
    sinceReset (ops ++ later) = sinceReset ops ++ later := by
  induction later using List.reverseRecOn with
  | nil => rw [List.append_nil, List.append_nil]
  | append_singleton later op ih =>
    rw [List.mem_append, List.mem_singleton, not_or] at h
    have hop : op.isReset = false := by
      cases hreset : op.isReset with
      | false => rfl
      | true => exact absurd (eq_reset_of_isReset hreset).symm h.2
    rw [← List.append_assoc, sinceReset_concat _ hop, ih h.1, List.append_assoc]

theorem mem_given_blockHost (before : List Op) (pattern : String) {later : List Op} (h : Op.reset ∉ later) :
    pattern ∈ given Op.blockedHosts (before ++ .blockHost pattern :: later) := by
  have hlater : Op.reset ∉ Op.blockHost pattern :: later := by simpa using h
  rw [given, sinceReset_append before hlater, List.flatMap_append, List.flatMap_cons]
  simp [Op.blockedHosts]

/-- The pattern decides about the target wherever it is given. -/
structure Governs (cwd : Option String) (pattern target : String) : Prop where
  blocks : ∀ before later : List Op, Op.reset ∉ later →
    let k := run cwd (before ++ .blockHost pattern :: later)
    k.checkNetwork target = .error ⟨.network, "connect " ++ target,
      if k.has .network = true then Denial.hostBlocked else Denial.notGranted⟩
  admits : ∀ ops : List Op, pattern ∈ given Op.allowedHosts ops →
    ¬ SomeMatches (given Op.blockedHosts ops) (Text.lowercase (Network.host target)) →
    (run cwd ops).has .network = true → (run cwd ops).checkNetwork target = .ok ()

theorem governs_of_matches (cwd : Option String) {pattern target : String}
    (h : Network.Matches (Network.canonicalPattern pattern) (Text.lowercase (Network.host target))) :
    Governs cwd pattern target := by
  have hsome {patterns : List String} (hmem : pattern ∈ patterns) :
      SomeMatches patterns (Text.lowercase (Network.host target)) := someMatches_iff.mpr ⟨pattern, hmem, h⟩
  constructor
  · intro before later hlater k
    have hblocked := hsome (mem_given_blockHost before pattern hlater)
    rw [checkNetwork_run_eq, networkAnswer, networkRefusal?, hostRefusalSince?, if_pos hblocked]
    cases hheld : (run cwd (before ++ .blockHost pattern :: later)).has .network with
    | false => rfl
    | true => rfl
  · intro ops hmem hblocked hheld
    have hallowed : ¬ (given Op.allowedHosts ops ≠ [] ∧
        ¬ SomeMatches (given Op.allowedHosts ops) (Text.lowercase (Network.host target))) :=
      fun hnone => hnone.2 (hsome hmem)
    rw [checkNetwork_run_eq, networkAnswer, networkRefusal?, hheld, hostRefusalSince?, if_neg hblocked,
      if_neg hallowed]
    rfl

section
variable {h : String} (hh : Network.IsHostText h)
include hh

theorem matches_of_spells {p t : String} (hp : Network.SpellsPattern h p) (ht : Network.SpellsTarget h t) :
    Network.Matches (Network.canonicalPattern p) (Text.lowercase (Network.host t)) := by
  rw [Network.canonicalPattern_of_spells hh hp, Network.lowercase_host_of_spells hh.ascii hh.brackets ht]
  exact .inl rfl

section
variable {x s p : String} (hsub : h = x ++ "." ++ s) (hp : Network.SpellsPattern ("*." ++ s) p)
include hsub hp

theorem matches_wildcard_of_spells (hx : x ≠ "") {t : String} (ht : Network.SpellsTarget h t) :
    Network.Matches (Network.canonicalPattern p) (Text.lowercase (Network.host t)) := by
  rw [Network.canonicalPattern_of_spells (hh.wildcard hsub) hp,
    Network.lowercase_host_of_spells hh.ascii hh.brackets ht]
  exact Network.matches_wildcard hh hx hsub

theorem hostMatches_apex_eq_false {t : String} (ht : Network.SpellsTarget s t) :
    Network.hostMatches (Network.canonicalPattern p) (Text.lowercase (Network.host t)) = false := by
  have hs := (hh.ascii_parts hsub).2
  rw [← Bool.not_eq_true, Network.hostMatches_iff, Network.canonicalPattern_of_spells (hh.wildcard hsub) hp,
    Network.lowercase_wildcard hs, Network.lowercase_host_of_spells hs (hh.noBrackets_suffix hsub) ht]
  exact Network.not_matches_apex _

end

/-- **Every spelling of a host meets every spelling of its pattern,** and of the wildcard of what the
host ends in. What it ends in is met by that wildcard in no spelling. -/
theorem every_spelling_meets (cwd : Option String) {t : String} (ht : Network.SpellsTarget h t) :
    (∀ p, Network.SpellsPattern h p → Governs cwd p t) ∧
      ∀ x s, x ≠ "" → h = x ++ "." ++ s → ∀ p, Network.SpellsPattern ("*." ++ s) p →
        Governs cwd p t ∧ ∀ t', Network.SpellsTarget s t' →
          Network.hostMatches (Network.canonicalPattern p) (Text.lowercase (Network.host t')) = false := by
  refine ⟨fun p hp => governs_of_matches cwd (matches_of_spells hh hp ht), fun x s hx hsub p hp => ⟨?_, ?_⟩⟩
  · exact governs_of_matches cwd (matches_wildcard_of_spells hh hsub hp hx ht)
  · exact fun t' ht' => hostMatches_apex_eq_false hh hsub hp ht'

end

theorem every_spelling_meets_api :
    let h := "api.Example.com"
    let t := "[API.example.com]:443"
    Network.IsHostText h ∧ Network.SpellsTarget h t ∧ Network.SpellsPattern h "\t[api.EXAMPLE.com]\u00a0" ∧
      h = "api" ++ "." ++ "Example.com" ∧ Network.SpellsPattern ("*." ++ "Example.com") " *.example.COM" ∧
      Network.SpellsTarget "Example.com" "EXAMPLE.com:80" ∧
      (run none [.blockHost "\t[api.EXAMPLE.com]\u00a0", .allowHost "*", .grant .network]).checkNetwork t =
        .error ⟨.network, "connect [API.example.com]:443", Denial.hostBlocked⟩ ∧
      (run none [.allowHost " *.example.COM", .grant .network]).checkNetwork t = .ok () ∧
      Network.hostMatches (Network.canonicalPattern " *.example.COM")
        (Text.lowercase (Network.host "EXAMPLE.com:80")) = false := by
  intro h t
  have hh : Network.IsHostText h := by decide
  have ht : Network.SpellsTarget h t :=
    @Network.SpellsTarget.bracketedPort h "API.example.com" "443" (by decide) (by decide)
  have hp : Network.SpellsPattern h "\t[api.EXAMPLE.com]\u00a0" :=
    @Network.SpellsPattern.bracketed h "\t" "api.EXAMPLE.com" "\u00a0" (by decide) (by decide) (by decide)
  have hw : Network.SpellsPattern ("*." ++ "Example.com") " *.example.COM" :=
    @Network.SpellsPattern.plain _ " " "*.example.COM" "" (by decide) (by decide) (by decide)
  have ht' : Network.SpellsTarget "Example.com" "EXAMPLE.com:80" :=
    @Network.SpellsTarget.port _ "EXAMPLE.com" "80" (by decide) (by decide) (by decide)
  obtain ⟨hplain, hwild⟩ := every_spelling_meets hh none ht
  obtain ⟨hgoverns, hapex⟩ := hwild "api" "Example.com" (by decide) rfl " *.example.COM" hw
  refine ⟨hh, ht, hp, rfl, hw, ht', ?_, ?_, hapex _ ht'⟩
  · exact ((hplain _ hp).blocks [] [.allowHost "*", .grant .network] (by simp)).trans (by decide +kernel)
  · exact hgoverns.admits _ (by decide) (by decide +kernel) (by decide +kernel)

end PluginSandbox.Checker
