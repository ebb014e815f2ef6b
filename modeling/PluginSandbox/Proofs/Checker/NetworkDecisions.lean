import PluginSandbox.Proofs.Checker.History
import PluginSandbox.Proofs.Network.Patterns

/-!
# Network decisions

What a checker answers to a connection after any run of operations, told from
the patterns given since the last reset. Neither the order of the allow and
block operations nor how often each came plays a part in it.
-/

namespace PluginSandbox.Checker

def SomeMatches (patterns : List String) (host : String) : Prop :=
  ∃ p ∈ patterns, ∃ c, Network.IsCanonical p c ∧ Network.Matches c host

theorem someMatches_iff {patterns : List String} {host : String} :
    SomeMatches patterns host ↔ ∃ p ∈ patterns, Network.Matches (Network.canonicalPattern p) host := by
  unfold SomeMatches
  simp only [Network.isCanonical_iff, exists_eq_left]

instance (patterns : List String) (host : String) : Decidable (SomeMatches patterns host) :=
  decidable_of_iff _ someMatches_iff.symm

/-- The rule that keeps a holder of `network` from `host`, if one does: blocked patterns come
first, and allowed ones restrict only where there are any. -/
def hostRefusalSince? (ops : List Op) (host : String) : Option String :=
  if SomeMatches (given Op.blockedHosts ops) host then some Denial.hostBlocked
  else if given Op.allowedHosts ops ≠ [] ∧ ¬ SomeMatches (given Op.allowedHosts ops) host then
    some Denial.hostNotAllowed
  else none

def networkRefusal? (cwd : Option String) (ops : List Op) (host : String) : Option String :=
  if (run cwd ops).has .network = false then some Denial.notGranted
  else hostRefusalSince? ops host

def networkAnswer (cwd : Option String) (ops : List Op) (target : String) : Except Denial Unit :=
  match networkRefusal? cwd ops (Text.lowercase (Network.host target)) with
  | some reason => .error ⟨.network, "connect " ++ target, reason⟩
  | none => .ok ()

/-! ## The answer after a run -/

theorem hostRefusal?_run (cwd : Option String) (ops : List Op) (host : String) :
    (run cwd ops).hostRefusal? host = hostRefusalSince? ops host := by
  have hblocked : (run cwd ops).blockedHosts.any (Network.hostMatches · host) = true ↔
      SomeMatches (given Op.blockedHosts ops) host := by
    rw [someMatches_iff]
    exact Rules.blockedHosts.any_run_iff fun _ _ => Network.hostMatches_iff
  have hallowed : (run cwd ops).allowedHosts.any (Network.hostMatches · host) = true ↔
      SomeMatches (given Op.allowedHosts ops) host := by
    rw [someMatches_iff]
    exact Rules.allowedHosts.any_run_iff fun _ _ => Network.hostMatches_iff
  have hnone : (run cwd ops).allowedHosts = [] ↔ given Op.allowedHosts ops = [] := Rules.allowedHosts.run_eq_nil cwd ops
  have hrestricts : (!(run cwd ops).allowedHosts.isEmpty &&
      !(run cwd ops).allowedHosts.any (Network.hostMatches · host)) = true ↔
      given Op.allowedHosts ops ≠ [] ∧ ¬ SomeMatches (given Op.allowedHosts ops) host := by
    rw [Bool.and_eq_true, Bool.not_eq_true', Bool.not_eq_true', List.isEmpty_eq_false_iff,
      ← Bool.not_eq_true, hallowed, ne_eq, hnone]
  unfold hostRefusal? hostRefusalSince?
  simp only [hblocked, hrestricts]

theorem checkNetwork_run_eq (cwd : Option String) (ops : List Op) (target : String) :
    (run cwd ops).checkNetwork target = networkAnswer cwd ops target := by
  unfold checkNetwork networkAnswer networkRefusal?
  dsimp only
  rw [hostRefusal?_run]
  cases (run cwd ops).has .network with
  | false => rfl
  | true => rfl

/-! ## Order and repetition -/

namespace Op

def isRule : Op → Bool
  | allowPath _ | blockPath _ | allowHost _ | blockHost _ => true
  | _ => false

end Op

def withoutRules (ops : List Op) : List Op :=
  ops.filter fun op => !op.isRule

/-- Two runs that differ only in the order and the repetition of the allow and block operations. -/
structure SameUpToRules (ops ops' : List Op) : Prop where
  rest : withoutRules ops = withoutRules ops'
  rules : ∀ op : Op, op.isRule = true → (op ∈ sinceReset ops ↔ op ∈ sinceReset ops')

theorem isReset_eq_false_of_isRule {op : Op} (h : op.isRule = true) : op.isReset = false := by
  cases op <;> first | rfl | cases h

theorem withoutRules_concat_rule (ops : List Op) {op : Op} (h : op.isRule = true) :
    withoutRules (ops ++ [op]) = withoutRules ops := by
  simp [withoutRules, h]

theorem withoutRules_concat (ops : List Op) {op : Op} (h : op.isRule = false) :
    withoutRules (ops ++ [op]) = withoutRules ops ++ [op] := by
  simp [withoutRules, h]

theorem sinceReset_withoutRules (ops : List Op) :
    sinceReset (withoutRules ops) = withoutRules (sinceReset ops) := by
  induction ops using List.reverseRecOn with
  | nil => rfl
  | append_singleton ops op ih =>
    cases hrule : op.isRule with
    | true =>
      rw [withoutRules_concat_rule ops hrule, sinceReset_concat ops (isReset_eq_false_of_isRule hrule),
        withoutRules_concat_rule _ hrule, ih]
    | false =>
      rw [withoutRules_concat ops hrule]
      cases hreset : op.isReset with
      | true =>
        rw [eq_reset_of_isReset hreset, sinceReset_concat_reset, sinceReset_concat_reset]
        rfl
      | false =>
        rw [sinceReset_concat _ hreset, sinceReset_concat ops hreset, withoutRules_concat _ hrule, ih]

/-! What is held hangs on grants and denials alone, and no allow or block operation touches these. -/

theorem grants_step {cwd : Option String} {k k' : Checker} (h : k.granted = k'.granted ∧ k.denied = k'.denied)
    (op : Op) : (step cwd k op).granted = (step cwd k' op).granted ∧
      (step cwd k op).denied = (step cwd k' op).denied := by
  cases op with
  | grantAll cs => simp [step, grantAll_eq, h]
  | apply s => simp [step, apply_eq, h]
  | _ => simp [step, grant, revoke, deny, allowPath, blockPath, setWorkspace, allowHost, blockHost, h]

theorem grants_run_withoutRules (cwd : Option String) (ops : List Op) :
    (run cwd (withoutRules ops)).granted = (run cwd ops).granted ∧
      (run cwd (withoutRules ops)).denied = (run cwd ops).denied := by
  induction ops using List.reverseRecOn with
  | nil => exact ⟨rfl, rfl⟩
  | append_singleton ops op ih =>
    rw [run_concat]
    cases h : op.isRule with
    | true =>
      rw [withoutRules_concat_rule ops h]
      cases op <;> first | exact ih | cases h
    | false =>
      rw [withoutRules_concat ops h, run_concat]
      exact grants_step ih op

theorem has_run_withoutRules (cwd : Option String) (ops : List Op) (c : Capability) :
    (run cwd (withoutRules ops)).has c = (run cwd ops).has c := by
  obtain ⟨hgranted, hdenied⟩ := grants_run_withoutRules cwd ops
  unfold has
  rw [hgranted, hdenied]

section
variable {ops ops' : List Op} (h : SameUpToRules ops ops')
include h

theorem SameUpToRules.mem_sinceReset (op : Op) : op ∈ sinceReset ops ↔ op ∈ sinceReset ops' := by
  cases hrule : op.isRule with
  | true => exact h.rules op hrule
  | false =>
    have hmem (l : List Op) : op ∈ sinceReset l ↔ op ∈ sinceReset (withoutRules l) := by
      rw [sinceReset_withoutRules, withoutRules, List.mem_filter, hrule]
      simp
    rw [hmem ops, hmem ops', h.rest]

theorem SameUpToRules.mem_given {α : Type} (part : Op → List α) (a : α) :
    a ∈ given part ops ↔ a ∈ given part ops' := by
  unfold given
  simp only [List.mem_flatMap, h.mem_sinceReset]

theorem SameUpToRules.someMatches_given (part : Op → List String) (host : String) :
    SomeMatches (given part ops) host ↔ SomeMatches (given part ops') host := by
  unfold SomeMatches
  simp only [h.mem_given]

theorem SameUpToRules.given_eq_nil {α : Type} (part : Op → List α) :
    given part ops = [] ↔ given part ops' = [] := by
  rw [List.eq_nil_iff_forall_not_mem, List.eq_nil_iff_forall_not_mem]
  simp only [h.mem_given]

theorem SameUpToRules.networkAnswer_eq (cwd : Option String) (target : String) :
    networkAnswer cwd ops target = networkAnswer cwd ops' target := by
  unfold networkAnswer networkRefusal? hostRefusalSince?
  rw [← has_run_withoutRules cwd ops, ← has_run_withoutRules cwd ops', h.rest]
  simp only [h.someMatches_given, ne_eq, h.given_eq_nil]

end

/-- **Network decisions over whole runs.** The answer is told from the patterns given since the
last reset, whatever the order and the repetition of the allow and block operations. -/
theorem checkNetwork_run (cwd : Option String) (ops : List Op) (target : String) :
    (run cwd ops).checkNetwork target = networkAnswer cwd ops target ∧
      ∀ ops' : List Op, SameUpToRules ops ops' →
        (run cwd ops').checkNetwork target = (run cwd ops).checkNetwork target := by
  refine ⟨checkNetwork_run_eq cwd ops target, ?_⟩
  intro ops' h
  rw [checkNetwork_run_eq, checkNetwork_run_eq, h.networkAnswer_eq]

theorem checkNetwork_run_wildcard :
    let ops := [.blockHost "api.example.com", .reset, .grant .network, .allowHost " *.Example.COM ",
      .blockHost "bad.example.com", .allowHost "[::1]"]
    let ops' := [.reset, .blockHost "bad.example.com", .allowHost "[::1]", .grant .network,
      .allowHost " *.Example.COM ", .allowHost "[::1]"]
    SameUpToRules ops ops' ∧
      (run none ops').checkNetwork "API.example.com:443" = .ok () ∧
      (run none ops').checkNetwork "bad.example.com" =
        .error ⟨.network, "connect bad.example.com", Denial.hostBlocked⟩ ∧
      (run none ops').checkNetwork "example.com:443" =
        .error ⟨.network, "connect example.com:443", Denial.hostNotAllowed⟩ := by
  intro ops ops'
  have hsame : SameUpToRules ops ops' := by
    refine ⟨rfl, ?_⟩
    intro op _
    have hops : sinceReset ops = [.grant .network, .allowHost " *.Example.COM ",
      .blockHost "bad.example.com", .allowHost "[::1]"] := rfl
    have hops' : sinceReset ops' = [.blockHost "bad.example.com", .allowHost "[::1]", .grant .network,
      .allowHost " *.Example.COM ", .allowHost "[::1]"] := rfl
    rw [hops, hops']
    simp only [List.mem_cons, List.not_mem_nil, or_false]
    tauto
  have hanswer (target : String) : (run none ops').checkNetwork target = networkAnswer none ops target := by
    obtain ⟨htold, hrules⟩ := checkNetwork_run none ops target
    exact (hrules ops' hsame).trans htold
  refine ⟨hsame, ?_, ?_, ?_⟩
  · exact (hanswer _).trans (by decide +kernel)
  · exact (hanswer _).trans (by decide +kernel)
  · exact (hanswer _).trans (by decide +kernel)

end PluginSandbox.Checker
