import PluginSandbox.Policy.Format
import PluginSandbox.Proofs.Documents.Spellings

/-!
# Records and their spellings

Limits, partial limits, permission sets and policies are read back from whatever
spells them. The written form of each is one of its spellings.
-/

namespace PluginSandbox

/-! ## Leaves -/

namespace Tree

theorem word64?_nat (w : UInt64) : word64? (Json.nat w.toNat).tree = some w := by
  have hfits : (0 : Int) ≤ w.toNat ∧ (w.toNat : Int) < UInt64.size :=
    ⟨Int.natCast_nonneg _, Int.ofNat_lt.mpr w.toNat_lt⟩
  rw [Json.nat, Json.tree, word64?, if_pos hfits, Int.toNat_natCast, UInt64.ofNat_toNat]

theorem word32?_nat (w : UInt32) : word32? (Json.nat w.toNat).tree = some w := by
  have hfits : (0 : Int) ≤ w.toNat ∧ (w.toNat : Int) < UInt32.size :=
    ⟨Int.natCast_nonneg _, Int.ofNat_lt.mpr w.toNat_lt⟩
  rw [Json.nat, Json.tree, word32?, if_pos hfits, Int.toNat_natCast, UInt32.ofNat_toNat]

theorem list?_arr {α : Type} {item : Tree → Option α} {write : α → Json}
    (h : ∀ a, item (write a).tree = some a) (items : List α) :
    list? item (Json.arr (items.map write)).tree = some items := by
  show (Json.treeItems (items.map write)).mapM item = some items
  rw [Json.treeItems_eq, List.map_map]
  induction items with
  | nil => rfl
  | cons a items ih => simp [h, ih]

theorem texts?_strs (items : List String) : texts? (Json.strs items).tree = some items :=
  list?_arr (fun _ => rfl) items

end Tree

theorem Capability.list?_listToJson (cs : List Capability) :
    Tree.list? Capability.decode? (Capability.listToJson cs).tree = some cs := by
  have hwrite : Capability.listToJson cs = .arr (cs.map Capability.toJson) := congrArg Json.arr List.map_map
  rw [hwrite]
  exact Tree.list?_arr (fun _ => rfl) cs

theorem Preset.decode?_text (preset : Preset) : Preset.decode? .json (Json.str preset.text).tree = some preset := by
  cases preset <;> rfl

theorem Admission.decode?_text (mode : Admission) : Admission.decode? .json (Json.str mode.text).tree = some mode := by
  cases mode <;> rfl

/-! ## Limits -/

namespace Limits

/-- The fields of limits, in order. One that is missing has the standard value. -/
def fields (l : Limits) : List Json.Field :=
  [ ⟨"memory-limit", .nat l.memory.toNat, some (.nat standard.memory.toNat)⟩,
    ⟨"execution-timeout-ms", .nat l.timeoutMs.toNat, some (.nat standard.timeoutMs.toNat)⟩,
    ⟨"instruction-limit", .nat l.instructions.toNat, some (.nat standard.instructions.toNat)⟩,
    ⟨"file-ops-per-second", .nat l.fileOpsPerSecond.toNat, some (.nat standard.fileOpsPerSecond.toNat)⟩,
    ⟨"network-requests-per-second", .nat l.networkRequestsPerSecond.toNat,
      some (.nat standard.networkRequestsPerSecond.toNat)⟩,
    ⟨"max-tasks", .nat l.tasks.toNat, some (.nat standard.tasks.toNat)⟩,
    ⟨"max-output-size", .nat l.output.toNat, some (.nat standard.output.toNat)⟩ ]

theorem nodup_fields (l : Limits) : (l.fields.map Json.Field.key).Nodup := by
  show List.Nodup ["memory-limit", "execution-timeout-ms", "instruction-limit", "file-ops-per-second",
    "network-requests-per-second", "max-tasks", "max-output-size"]
  decide

theorem spelling_toJson (l : Limits) : Json.Spelling l.fields l.toJson :=
  Json.spelling_all l.fields

theorem decode_spelling {l : Limits} {j : Json} (h : Json.Spelling l.fields j) : decode? .json j.tree = some l := by
  obtain ⟨fs, hfs, hholds⟩ := h.holds l.nodup_fields
  have hfs : j.tree.fields? .json 7 = some fs := hfs
  have hword64 (place : Nat) {key : String} {w fallback : UInt64}
      (hplace : l.fields[place]? = some ⟨key, .nat w.toNat, some (.nat fallback.toNat)⟩) :
      fs.defaulted place key Tree.word64? fallback = some w :=
    (hholds place _ hplace).defaulted rfl (Tree.word64?_nat fallback) (Tree.word64?_nat w)
  have hword32 (place : Nat) {key : String} {w fallback : UInt32}
      (hplace : l.fields[place]? = some ⟨key, .nat w.toNat, some (.nat fallback.toNat)⟩) :
      fs.defaulted place key Tree.word32? fallback = some w :=
    (hholds place _ hplace).defaulted rfl (Tree.word32?_nat fallback) (Tree.word32?_nat w)
  simp only [decode?, hfs, Option.bind_eq_bind, Option.bind_some, hword64 0 rfl, hword64 1 rfl, hword64 2 rfl,
    hword32 3 rfl, hword32 4 rfl, hword32 5 rfl, hword64 6 rfl, Option.pure_def]

end Limits

/-! ## Partial limits -/

namespace Overrides

def fields (o : Overrides) : List Json.Field :=
  [ ⟨"memory-limit", .ofOption (.nat ·.toNat) o.memory, some .null⟩,
    ⟨"execution-timeout-ms", .ofOption (.nat ·.toNat) o.timeoutMs, some .null⟩,
    ⟨"instruction-limit", .ofOption (.nat ·.toNat) o.instructions, some .null⟩,
    ⟨"file-ops-per-second", .ofOption (.nat ·.toNat) o.fileOpsPerSecond, some .null⟩,
    ⟨"network-requests-per-second", .ofOption (.nat ·.toNat) o.networkRequestsPerSecond, some .null⟩,
    ⟨"max-tasks", .ofOption (.nat ·.toNat) o.tasks, some .null⟩,
    ⟨"max-output-size", .ofOption (.nat ·.toNat) o.output, some .null⟩ ]

theorem nodup_fields (o : Overrides) : (o.fields.map Json.Field.key).Nodup :=
  Limits.standard.nodup_fields

theorem spelling_toJson (o : Overrides) : Json.Spelling o.fields o.toJson :=
  Json.spelling_all o.fields

theorem decode_spelling {o : Overrides} {j : Json} (h : Json.Spelling o.fields j) : decode? .json j.tree = some o := by
  obtain ⟨fs, hfs, hholds⟩ := h.holds o.nodup_fields
  have hfs : j.tree.fields? .json 7 = some fs := hfs
  have hword64 (place : Nat) {key : String} {w? : Option UInt64}
      (hplace : o.fields[place]? = some ⟨key, .ofOption (.nat ·.toNat) w?, some .null⟩) :
      fs.optional place key Tree.word64? = some w? :=
    (hholds place _ hplace).optional rfl rfl rfl Tree.word64?_nat
  have hword32 (place : Nat) {key : String} {w? : Option UInt32}
      (hplace : o.fields[place]? = some ⟨key, .ofOption (.nat ·.toNat) w?, some .null⟩) :
      fs.optional place key Tree.word32? = some w? :=
    (hholds place _ hplace).optional rfl rfl rfl Tree.word32?_nat
  simp only [decode?, hfs, Option.bind_eq_bind, Option.bind_some, hword64 0 rfl, hword64 1 rfl, hword64 2 rfl,
    hword32 3 rfl, hword32 4 rfl, hword32 5 rfl, hword64 6 rfl, Option.pure_def]

end Overrides

/-! ## Permission sets -/

namespace PermissionSet

def fields (s : PermissionSet) : List Json.Field :=
  [ ⟨"capabilities", Capability.listToJson s.capabilities, some (.arr [])⟩,
    ⟨"allowed-paths", .strs s.allowedPaths, some (.arr [])⟩,
    ⟨"blocked-paths", .strs s.blockedPaths, some (.arr [])⟩,
    ⟨"allowed-hosts", .strs s.allowedHosts, some (.arr [])⟩,
    ⟨"blocked-hosts", .strs s.blockedHosts, some (.arr [])⟩,
    ⟨"denied-capabilities", Capability.listToJson s.deniedCapabilities, some (.arr [])⟩ ]

theorem nodup_fields (s : PermissionSet) : (s.fields.map Json.Field.key).Nodup := by
  show List.Nodup ["capabilities", "allowed-paths", "blocked-paths", "allowed-hosts", "blocked-hosts",
    "denied-capabilities"]
  decide

/-- The written form leaves out the denials where there are none. -/
theorem spelling_toJson (s : PermissionSet) : Json.Spelling s.fields s.toJson := by
  unfold toJson members
  split
  next hnone =>
    have hsplit : s.fields = s.fields.take 5 ++ s.fields.drop 5 := (List.take_append_drop 5 s.fields).symm
    refine Json.spelling_object hsplit fun f hf => ?_
    obtain rfl := List.mem_singleton.mp hf
    rw [List.isEmpty_iff.mp hnone]
    rfl
  next => exact Json.spelling_all s.fields

theorem decode_spelling {s : PermissionSet} {j : Json} (h : Json.Spelling s.fields j) :
    decode? .json j.tree = some s := by
  obtain ⟨fs, hfs, hholds⟩ := h.holds s.nodup_fields
  have hfs : j.tree.fields? .json 6 = some fs := hfs
  have htexts (place : Nat) {key : String} {items : List String}
      (hplace : s.fields[place]? = some ⟨key, .strs items, some (.arr [])⟩) :
      fs.defaulted place key Tree.texts? [] = some items :=
    (hholds place _ hplace).defaulted rfl (Tree.texts?_strs []) (Tree.texts?_strs items)
  have hcapabilities (place : Nat) {key : String} {cs : List Capability}
      (hplace : s.fields[place]? = some ⟨key, Capability.listToJson cs, some (.arr [])⟩) :
      fs.defaulted place key (Tree.list? Capability.decode?) [] = some cs :=
    (hholds place _ hplace).defaulted rfl (Capability.list?_listToJson []) (Capability.list?_listToJson cs)
  simp only [decode?, hfs, Option.bind_eq_bind, Option.bind_some, hcapabilities 0 rfl, htexts 1 rfl, htexts 2 rfl,
    htexts 3 rfl, htexts 4 rfl, hcapabilities 5 rfl, Option.pure_def]

end PermissionSet

/-! ## Policies -/

namespace Policy

def fields (p : Policy) (limits : Json) : List Json.Field :=
  [ ⟨"mode", .str p.mode.text, none⟩,
    ⟨"plugin_ids", .strs p.pluginIds, none⟩,
    ⟨"trusted_plugins", .strs p.trusted, none⟩,
    ⟨"untrusted_plugins", .strs p.untrusted, none⟩,
    ⟨"default_preset", .str p.defaultPreset.text, none⟩,
    ⟨"limit_overrides", limits, none⟩,
    ⟨"denied_capabilities", Capability.listToJson p.denied, none⟩,
    ⟨"queue_capacity", .nat p.queueCapacity.toNat, none⟩ ]

theorem nodup_fields (p : Policy) (limits : Json) : ((p.fields limits).map Json.Field.key).Nodup := by
  show List.Nodup ["mode", "plugin_ids", "trusted_plugins", "untrusted_plugins", "default_preset", "limit_overrides",
    "denied_capabilities", "queue_capacity"]
  decide

def Spelling (p : Policy) (j : Json) : Prop :=
  ∃ limits, Json.Spelling p.overrides.fields limits ∧ Json.Spelling (p.fields limits) j

theorem spelling_toJson (p : Policy) : p.Spelling p.toJson :=
  ⟨p.overrides.toJson, p.overrides.spelling_toJson, Json.spelling_all (p.fields p.overrides.toJson)⟩

theorem decode_spelling {p : Policy} {j : Json} (h : p.Spelling j) : decode? .json j.tree = some p := by
  obtain ⟨limits, hlimits, h⟩ := h
  obtain ⟨fs, hfs, hholds⟩ := h.holds (p.nodup_fields limits)
  have hfs : j.tree.fields? .json 8 = some fs := hfs
  have hrequired (place : Nat) {key : String} {value : Json} {α : Type} {decode : Tree → Option α} {a : α}
      (hplace : (p.fields limits)[place]? = some ⟨key, value, none⟩) (hvalue : decode value.tree = some a) :
      fs.required place key decode = some a :=
    (hholds place _ hplace).required rfl hvalue
  simp only [decode?, hfs, Option.bind_eq_bind, Option.bind_some, hrequired 0 rfl p.mode.decode?_text,
    hrequired 1 rfl (Tree.texts?_strs p.pluginIds), hrequired 2 rfl (Tree.texts?_strs p.trusted),
    hrequired 3 rfl (Tree.texts?_strs p.untrusted), hrequired 4 rfl p.defaultPreset.decode?_text,
    hrequired 5 rfl (Overrides.decode_spelling hlimits), hrequired 6 rfl (Capability.list?_listToJson p.denied),
    hrequired 7 rfl (Tree.word64?_nat p.queueCapacity), Option.pure_def]

end Policy

/-! ## The main result -/

/-- **Every spelling of a record is read as that record**, the one in which it is written among them:
an object with its members in any order, with others that the record does not know, and without those
that have the value which a missing one counts as, or an array. What holds of a policy holds of the
partial limits in it, too. -/
theorem every_spelling_decodes (l : Limits) (o : Overrides) (s : PermissionSet) (p : Policy) :
    (Limits.decode? .json l.toJson.tree = some l ∧
      ∀ j, Json.Spelling l.fields j → Limits.decode? .json j.tree = some l) ∧
    (Overrides.decode? .json o.toJson.tree = some o ∧
      ∀ j, Json.Spelling o.fields j → Overrides.decode? .json j.tree = some o) ∧
    (PermissionSet.decode? .json s.toJson.tree = some s ∧
      ∀ j, Json.Spelling s.fields j → PermissionSet.decode? .json j.tree = some s) ∧
    (Policy.decode? .json p.toJson.tree = some p ∧
      ∀ j, p.Spelling j → Policy.decode? .json j.tree = some p) :=
  ⟨⟨Limits.decode_spelling l.spelling_toJson, fun _ h => Limits.decode_spelling h⟩,
    ⟨Overrides.decode_spelling o.spelling_toJson, fun _ h => Overrides.decode_spelling h⟩,
    ⟨PermissionSet.decode_spelling s.spelling_toJson, fun _ h => PermissionSet.decode_spelling h⟩,
    ⟨Policy.decode_spelling p.spelling_toJson, fun _ h => Policy.decode_spelling h⟩⟩

/-- Limits that say no more than what is not standard, partial limits in an array, a permission set
without its empty lists, and a policy from its last field to its first. -/
theorem every_spelling_decodes_shuffled :
    let l : Limits := { Limits.standard with tasks := 2 }
    let o : Overrides := { memory := some 1024 }
    let s : PermissionSet := { capabilities := [.network], blockedHosts := ["ads.example"] }
    let p : Policy := { trusted := ["tools"], overrides := o }
    let limits : Json := .obj [("note", .null), ("max-tasks", .nat 2)]
    let partly : Json := .arr [.nat 1024, .null, .null, .null, .null, .null, .null]
    let set : Json := .object [("blocked-hosts", .strs ["ads.example"]), ("capabilities", .strs ["network"])]
    let policy : Json := .obj
      [ ("note", .null),
        ("queue_capacity", .nat 256),
        ("denied_capabilities", .strs []),
        ("limit_overrides", .obj [("memory-limit", .nat 1024)]),
        ("default_preset", .str "default"),
        ("untrusted_plugins", .strs []),
        ("trusted_plugins", .strs ["tools"]),
        ("plugin_ids", .strs []),
        ("mode", .str "unrestricted") ]
    (Json.Spelling l.fields limits ∧ Limits.decode? .json limits.tree = some l) ∧
      (Json.Spelling o.fields partly ∧ Overrides.decode? .json partly.tree = some o) ∧
      (Json.Spelling s.fields set ∧ PermissionSet.decode? .json set.tree = some s) ∧
      (p.Spelling policy ∧ Policy.decode? .json policy.tree = some p) := by
  intro l o s p limits partly set policy
  obtain ⟨⟨-, hl⟩, ⟨-, ho⟩, ⟨-, hs⟩, ⟨-, hp⟩⟩ := every_spelling_decodes l o s p
  have hlimits : Json.Spelling l.fields limits :=
    .keyed ⟨[l.fields[5]], l.fields.eraseIdx 5, [("note", .null)], by decide +kernel, by decide +kernel,
      by decide +kernel, by decide +kernel⟩
  have hset : Json.Spelling s.fields set :=
    .sorted ⟨[s.fields[4], s.fields[0]], (s.fields.drop 1).eraseIdx 3, [], by decide +kernel, by decide +kernel,
      by decide +kernel, by decide +kernel⟩
  have hpolicy : p.Spelling policy :=
    ⟨.obj [("memory-limit", .nat 1024)],
      .keyed ⟨o.fields.take 1, o.fields.drop 1, [], by decide +kernel, by decide +kernel, by decide +kernel,
        by decide +kernel⟩,
      .keyed ⟨p.fields (.obj [("memory-limit", .nat 1024)]), [], [("note", .null)], by decide +kernel,
        by decide +kernel, by decide +kernel, by decide +kernel⟩⟩
  exact ⟨⟨hlimits, hl limits hlimits⟩, ⟨.placed, ho partly .placed⟩, ⟨hset, hs set hset⟩, hpolicy,
    hp policy hpolicy⟩

end PluginSandbox
