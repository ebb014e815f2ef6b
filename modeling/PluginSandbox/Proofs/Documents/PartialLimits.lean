import PluginSandbox.Proofs.Documents.RoundTrip

/-!
# Partial limits

A table that gives some of the limits means the same however it is read: as limits
the rest of which are the standard ones, or as partial limits laid over these.
Partial limits laid over one another are partial limits again, and of two that set
a field the later ones count.
-/

namespace PluginSandbox

/-! ## Two ways to read a field -/

namespace Tree.Fields

theorem defaulted_eq_optional {entries : List (String × Tree)} {key : String} (h : entries.lookup key ≠ some .null)
    {α : Type} (place : Nat) (decode : Tree → Option α) (fallback : α) :
    (keyed entries).defaulted place key decode fallback =
      ((keyed entries).optional place key decode).map (·.getD fallback) := by
  have hget : (keyed entries).get? place key = entries.lookup key := rfl
  unfold Fields.defaulted
  cases hl : entries.lookup key with
  | none =>
    unfold Fields.optional
    rw [hget, hl]
    rfl
  | some t =>
    have hnull : t ≠ .null := fun ht => h (ht ▸ hl)
    rw [optional_of_ne_null (hget.trans hl) hnull, hget, hl, Option.map_map]
    exact Option.map_id'.symm

end Tree.Fields

def Limits.keys : List String :=
  Limits.standard.fields.map Json.Field.key

/-! ## Laying over -/

namespace Overrides

/-- The fields that `later` sets, and the others as they are in `o`. -/
def overlay (o later : Overrides) : Overrides where
  memory := later.memory.or o.memory
  timeoutMs := later.timeoutMs.or o.timeoutMs
  instructions := later.instructions.or o.instructions
  fileOpsPerSecond := later.fileOpsPerSecond.or o.fileOpsPerSecond
  networkRequestsPerSecond := later.networkRequestsPerSecond.or o.networkRequestsPerSecond
  tasks := later.tasks.or o.tasks
  output := later.output.or o.output

theorem apply_overlay (o later : Overrides) (l : Limits) : (o.overlay later).apply l = later.apply (o.apply l) := by
  unfold apply overlay
  simp only [Option.getD_or]

theorem apply_none (l : Limits) : none.apply l = l := rfl

theorem eq_none_of_getD {α : Type} {a? : Option α} {d e : α} (hne : d ≠ e) (hd : a?.getD d = d)
    (he : a?.getD e = e) : a? = Option.none := by
  cases a? with
  | none => rfl
  | some a => exact absurd (hd.symm.trans he) hne

/-- What is set shows on one of two limits that differ in every field. -/
theorem eq_none_of_apply {o : Overrides} (hu : o.apply .unlimited = .unlimited) (hs : o.apply .strict = .strict) :
    o = none := by
  have hmemory : o.memory = Option.none :=
    eq_none_of_getD (by decide) (congrArg Limits.memory hu) (congrArg Limits.memory hs)
  have htimeoutMs : o.timeoutMs = Option.none :=
    eq_none_of_getD (by decide) (congrArg Limits.timeoutMs hu) (congrArg Limits.timeoutMs hs)
  have hinstructions : o.instructions = Option.none :=
    eq_none_of_getD (by decide) (congrArg Limits.instructions hu) (congrArg Limits.instructions hs)
  have hfileOps : o.fileOpsPerSecond = Option.none :=
    eq_none_of_getD (by decide) (congrArg Limits.fileOpsPerSecond hu) (congrArg Limits.fileOpsPerSecond hs)
  have hnetwork : o.networkRequestsPerSecond = Option.none :=
    eq_none_of_getD (by decide) (congrArg Limits.networkRequestsPerSecond hu)
      (congrArg Limits.networkRequestsPerSecond hs)
  have htasks : o.tasks = Option.none :=
    eq_none_of_getD (by decide) (congrArg Limits.tasks hu) (congrArg Limits.tasks hs)
  have houtput : o.output = Option.none :=
    eq_none_of_getD (by decide) (congrArg Limits.output hu) (congrArg Limits.output hs)
  cases o
  simp_all only [none]

theorem isEmpty_iff {o : Overrides} : o.isEmpty = true ↔ o = none :=
  beq_iff_eq

end Overrides

/-! ## Reading a table -/

theorem Limits.decode?_table (how : DataFormat) {entries : List (String × Tree)}
    (h : ∀ key ∈ keys, entries.lookup key ≠ some .null) :
    decode? how (.table entries) = (Overrides.decode? how (.table entries)).map (·.apply standard) := by
  have hfield {key : String} (hkey : key ∈ keys) {α : Type} (place : Nat) (decode : Tree → Option α) (fallback : α) :
      (Tree.Fields.keyed entries).defaulted place key decode fallback =
        ((Tree.Fields.keyed entries).optional place key decode).map (·.getD fallback) :=
    Tree.Fields.defaulted_eq_optional (h key hkey) place decode fallback
  have hmemory : "memory-limit" ∈ keys := by decide +kernel
  have htimeoutMs : "execution-timeout-ms" ∈ keys := by decide +kernel
  have hinstructions : "instruction-limit" ∈ keys := by decide +kernel
  have hfileOps : "file-ops-per-second" ∈ keys := by decide +kernel
  have hnetwork : "network-requests-per-second" ∈ keys := by decide +kernel
  have htasks : "max-tasks" ∈ keys := by decide +kernel
  have houtput : "max-output-size" ∈ keys := by decide +kernel
  have hfields : (Tree.table entries).fields? how 7 = some (.keyed entries) := rfl
  simp only [decode?, Overrides.decode?, hfields, hfield hmemory, hfield htimeoutMs, hfield hinstructions,
    hfield hfileOps, hfield hnetwork, hfield htasks, hfield houtput, Option.bind_eq_bind, Option.bind_some,
    Option.pure_def, Option.bind_map, Option.map_bind, Option.map_some, Function.comp_def]
  rfl

/-! ## The main result -/

/-- **Partial limits mean the same on both paths.** A table that can be read as partial limits can be
read as limits, and then these are the partial ones laid over the standard limits; a table that cannot
be read as the ones cannot be read as the others. Laying over once more is laying over both at once,
field by field, and what sets no field is what changes no limits. -/
theorem partial_limits_agree :
    (∀ (how : DataFormat) (entries : List (String × Tree)),
      (∀ key ∈ Limits.keys, entries.lookup key ≠ some .null) →
      Limits.decode? how (.table entries) = (Overrides.decode? how (.table entries)).map (·.apply .standard)) ∧
    (∀ (o later : Overrides) (l : Limits), later.apply (o.apply l) = (o.overlay later).apply l) ∧
    ∀ o : Overrides, o.isEmpty = true ↔ ∀ l, o.apply l = l := by
  refine ⟨fun how _ h => Limits.decode?_table how h, fun o later l => (o.apply_overlay later l).symm, fun o => ?_⟩
  rw [Overrides.isEmpty_iff]
  constructor
  · rintro rfl l
    exact Overrides.apply_none l
  · intro h
    exact Overrides.eq_none_of_apply (h .unlimited) (h .strict)

/-- A table that sets two limits, beside a null that means nothing, and one that sets a limit that is
too wide. -/
theorem partial_limits_agree_two_set :
    let two : List (String × Tree) := [("note", .null), ("instruction-limit", .whole 500), ("max-tasks", .whole 2)]
    let wide : List (String × Tree) := [("max-tasks", .whole 4294967296)]
    let o : Overrides := { instructions := some 500, tasks := some 2 }
    (∀ key ∈ Limits.keys, two.lookup key ≠ some .null) ∧ (∀ key ∈ Limits.keys, wide.lookup key ≠ some .null) ∧
      Overrides.decode? .toml (.table two) = some o ∧
      Limits.decode? .toml (.table two) = some { Limits.standard with instructions := 500, tasks := 2 } ∧
      Overrides.decode? .json (.table wide) = none ∧ Limits.decode? .json (.table wide) = none := by
  intro two wide o
  have htwo : ∀ key ∈ Limits.keys, two.lookup key ≠ some .null := by
    intro key hkey hnull
    obtain rfl : key = "note" := by simpa [two] using mem_of_lookup hnull
    exact absurd hkey (by decide +kernel)
  have hwide : ∀ key ∈ Limits.keys, wide.lookup key ≠ some .null := by
    intro key _ hnull
    simpa [wide] using mem_of_lookup hnull
  have ho : Overrides.decode? .toml (.table two) = some o := by decide +kernel
  have hnone : Overrides.decode? .json (.table wide) = none := by decide +kernel
  refine ⟨htwo, hwide, ho, ?_, hnone, ?_⟩
  · rw [partial_limits_agree.1 .toml two htwo, ho]
    rfl
  · rw [partial_limits_agree.1 .json wide hwide, hnone]
    rfl

end PluginSandbox
