import Mathlib.Data.List.Infix
import PluginSandbox.Proofs.Path.Composition

/-!
# Containment read on text

Containment compares components, but what is shown is text. On normal forms
the two agree: below a path stands what continues its text after a slash.
-/

namespace PluginSandbox.Path

/-! ## The text of names -/

theorem toList_absoluteText {names : List (List Char)} (h : names ≠ []) :
    (absoluteText names).toList = names.flatMap ('/' :: ·) := by
  rw [absoluteText, String.toList_ofList]
  induction names with
  | nil => exact absurd rfl h
  | cons name names ih =>
    rw [List.flatMap_cons]
    by_cases hnames : names = []
    · rw [hnames, List.intercalate_singleton, List.flatMap_nil, List.append_nil]
    · rw [List.intercalate_cons_of_ne_nil hnames, List.append_assoc, List.singleton_append, ih hnames]
      rfl

theorem splitOn_absoluteText {names : List (List Char)} (hnames : ∀ s ∈ names, IsName s) (h : names ≠ []) :
    (absoluteText names).toList.splitOn '/' = [] :: names := by
  rw [absoluteText, String.toList_ofList, List.splitOn_cons_eq_if_modifyHead, if_pos (by rfl),
    List.splitOn_intercalate '/' (fun s hs => (hnames s hs).2.2.2) h]

theorem eq_append_slash_iff {b t rest : String} :
    t = b ++ "/" ++ rest ↔ t.toList = b.toList ++ '/' :: rest.toList := by
  rw [← String.toList_inj, String.toList_append, String.toList_append, List.append_assoc]
  rfl

theorem absoluteText_append {above below : List (List Char)} (habove : above ≠ []) (hbelow : below ≠ []) :
    absoluteText (above ++ below) = absoluteText above ++ "/" ++ String.ofList (['/'].intercalate below) := by
  rw [eq_append_slash_iff, String.toList_ofList, toList_absoluteText habove,
    toList_absoluteText (List.append_ne_nil_of_left_ne_nil habove below), List.flatMap_append,
    ← toList_absoluteText hbelow, absoluteText, String.toList_ofList]

theorem prefix_of_absoluteText_eq {above names : List (List Char)} (habove : ∀ s ∈ above, IsName s)
    (hnames : ∀ s ∈ names, IsName s) (hne : above ≠ []) {rest : String}
    (h : absoluteText names = absoluteText above ++ "/" ++ rest) : above <+: names := by
  have hsplit := congrArg (List.splitOn '/') (eq_append_slash_iff.mp h)
  rw [List.splitOn_append_cons_self, splitOn_absoluteText habove hne, List.cons_append] at hsplit
  by_cases hnil : names = []
  · -- the root alone has an empty segment where `above` has a name
    have hroot : (absoluteText []).toList.splitOn '/' = [[], []] := by decide
    rw [hnil, hroot] at hsplit
    obtain ⟨first, others, rfl⟩ := List.exists_cons_of_ne_nil hne
    have hempty : [] = first := (List.cons.inj (List.cons.inj hsplit).2).1
    exact absurd hempty.symm (habove first (List.mem_cons_self ..)).1
  · rw [splitOn_absoluteText hnames hnil] at hsplit
    exact ⟨_, (List.cons.inj hsplit).2.symm⟩

/-! ## Containment of normal forms -/

/-- Below a normal form stands what continues its text after a slash; below the root, everything. -/
theorem isWithin_absoluteText_iff_text {above names : List (List Char)} (habove : ∀ s ∈ above, IsName s)
    (hnames : ∀ s ∈ names, IsName s) :
    isWithin (absoluteText above) (absoluteText names) = true ↔
      absoluteText names = absoluteText above ∨ absoluteText above = "/" ∨
        ∃ rest, absoluteText names = absoluteText above ++ "/" ++ rest := by
  rw [isWithin_absoluteText habove hnames]
  constructor
  · rintro ⟨below, rfl⟩
    by_cases hroot : above = []
    · exact .inr (.inl (by rw [hroot, absoluteText_nil]))
    by_cases hsame : below = []
    · exact .inl (by rw [hsame, List.append_nil])
    · exact .inr (.inr ⟨_, absoluteText_append hroot hsame⟩)
  · rintro (hsame | hroot | ⟨rest, hrest⟩)
    · rw [(absoluteText_inj hnames habove).mp hsame]
    · rw [← absoluteText_nil, absoluteText_inj habove (by simp)] at hroot
      rw [hroot]
      exact List.nil_prefix
    · by_cases hroot : above = []
      · rw [hroot]
        exact List.nil_prefix
      · exact prefix_of_absoluteText_eq habove hnames hroot hrest

/-! ## Longer names -/

theorem isName_append {name more : List Char} (h : IsName name) (hmore : more ≠ []) (hslash : '/' ∉ more) :
    IsName (name ++ more) := by
  obtain ⟨hempty, hhere, -, hslash'⟩ := h
  obtain ⟨c, cs, rfl⟩ := List.exists_cons_of_ne_nil hempty
  obtain ⟨d, ds, rfl⟩ := List.exists_cons_of_ne_nil hmore
  refine ⟨List.cons_ne_nil _ _, ?_, ?_, ?_⟩
  · intro h
    simp at h
  · intro h
    -- two dots would make the name in front a single one
    have hc : c = '.' := (List.cons.inj h).1
    have hcs : cs = [] := by
      have hlength := congrArg List.length h
      simp at hlength
      exact List.length_eq_zero_iff.mp (by omega)
    exact hhere (by rw [hc, hcs])
  · rw [List.mem_append, not_or]
    exact ⟨hslash', hslash⟩

theorem absoluteText_concat_append (above : List (List Char)) (name more : List Char) :
    absoluteText (above ++ [name]) ++ String.ofList more = absoluteText (above ++ [name ++ more]) := by
  rw [← String.toList_inj, String.toList_append, String.toList_ofList, toList_absoluteText (by simp),
    toList_absoluteText (by simp), List.flatMap_append, List.flatMap_append, List.append_assoc]
  simp

theorem not_prefix_longer_name {above : List (List Char)} {name more : List Char} (h : more ≠ []) :
    ¬ above ++ [name] <+: above ++ [name ++ more] := by
  rw [List.prefix_append_right_inj, List.cons_prefix_cons]
  rintro ⟨hname, -⟩
  exact h (List.self_eq_append_right.mp hname)

/-! ## Paths that stay below -/

def Component.isName : Component → Bool
  | name _ => true
  | _ => false

/-- At no point has the path gone up more often than down. -/
def StaysBelow (p : String) : Prop :=
  ∀ front, front <+: components p.toList → front.count .up ≤ front.countP Component.isName

instance (p : String) : Decidable (StaysBelow p) :=
  decidable_of_iff (∀ front ∈ (components p.toList).inits, front.count .up ≤ front.countP Component.isName)
    (forall_congr' fun front => imp_congr_left (List.mem_inits front _))

theorem rise_foldl_step (segs : List (List Char)) : ∀ r : Route, r.rise = 0 →
    (∀ front, front <+: segs.filterMap step? → front.count .up ≤ r.names.length + front.countP Component.isName) →
    (segs.foldl Route.step r).rise = 0 := by
  -- the names kept so far are what may still be taken back
  induction segs with
  | nil => exact fun _ hrise _ => hrise
  | cons seg segs ih =>
    intro r hrise hdepth
    rw [List.foldl_cons]
    by_cases hdot : seg = [] ∨ seg = ['.']
    · rw [List.filterMap_cons_none (by rw [step?, if_pos hdot])] at hdepth
      rw [Route.step, if_pos hdot]
      exact ih r hrise hdepth
    by_cases hup : seg = ['.', '.']
    · rw [List.filterMap_cons_some (by rw [step?, if_neg hdot, if_pos hup])] at hdepth
      have hnames : r.names ≠ [] := by
        intro hnil
        have hfirst := hdepth [.up] ((List.cons_prefix_cons).mpr ⟨rfl, List.nil_prefix⟩)
        rw [hnil] at hfirst
        exact absurd hfirst (by decide)
      rw [Route.step, if_neg hdot, if_pos hup, if_neg hnames]
      refine ih _ hrise fun front hfront => ?_
      have hlater := hdepth (.up :: front) ((List.cons_prefix_cons).mpr ⟨rfl, hfront⟩)
      rw [List.count_cons_self, List.countP_cons_of_neg (by simp [Component.isName])] at hlater
      rw [List.length_dropLast]
      omega
    · rw [List.filterMap_cons_some (by rw [step?, if_neg hdot, if_neg hup])] at hdepth
      rw [Route.step, if_neg hdot, if_neg hup]
      refine ih _ hrise fun front hfront => ?_
      have hlater := hdepth (.name seg :: front) ((List.cons_prefix_cons).mpr ⟨rfl, hfront⟩)
      rw [List.count_cons_of_ne (by simp), List.countP_cons_of_pos (by simp [Component.isName])] at hlater
      rw [List.length_append, List.length_singleton]
      omega

theorem rise_route_of_staysBelow {p : String} (hp : isAbsolute p.toList = false) (h : StaysBelow p) :
    (route p).rise = 0 := by
  refine rise_foldl_step _ ⟨0, []⟩ rfl fun front hfront => ?_
  rw [List.length_nil, Nat.zero_add]
  unfold StaysBelow components at h
  rw [segments_eq_splitOn] at h
  simp only [hp, Bool.false_eq_true, if_false] at h
  split at h
  · -- a `.` in front goes neither up nor down
    have hlater := h (.here :: front) ((List.cons_prefix_cons).mpr ⟨rfl, hfront⟩)
    rwa [List.count_cons_of_ne (by simp), List.countP_cons_of_neg (by simp [Component.isName])] at hlater
  · exact h front hfront

/-! ## Below the current directory or anywhere else -/

section
variable {cwd : String} (hcwd : isAbsolute cwd.toList = true)
include hcwd

theorem isWithin_normalize_iff_text (p q : String) :
    isWithin (normalize (some cwd) p) (normalize (some cwd) q) = true ↔
      normalize (some cwd) q = normalize (some cwd) p ∨ normalize (some cwd) p = "/" ∨
        ∃ rest, normalize (some cwd) q = normalize (some cwd) p ++ "/" ++ rest := by
  rw [normalize_eq_absoluteText hcwd p, normalize_eq_absoluteText hcwd q]
  exact isWithin_absoluteText_iff_text isName_of_mem_resolution isName_of_mem_resolution

theorem isWithin_normalize_antisymm (p q : String) (hpq : isWithin (normalize (some cwd) p) (normalize (some cwd) q) = true)
    (hqp : isWithin (normalize (some cwd) q) (normalize (some cwd) p) = true) :
    normalize (some cwd) p = normalize (some cwd) q := by
  rw [isWithin_normalize_iff hcwd] at hpq hqp
  have hsame : resolution cwd p = resolution cwd q := hpq.eq_of_length_le hqp.length_le
  rw [normalize_eq_absoluteText hcwd, normalize_eq_absoluteText hcwd, hsame]

omit hcwd in
theorem normalize_root : normalize (some cwd) "/" = "/" :=
  normalize_of_isAbsolute (some cwd) (by decide)

theorem longer_name_outside {p more : String} (hmore : more ≠ "") (hslash : '/' ∉ more.toList)
    (hroot : normalize (some cwd) p ≠ "/") :
    normalize (some cwd) (normalize (some cwd) p ++ more) = normalize (some cwd) p ++ more ∧
      isWithin (normalize (some cwd) p) (normalize (some cwd) p ++ more) = false := by
  have hmore' : more.toList ≠ [] := by simpa using hmore
  rw [normalize_eq_absoluteText hcwd p] at hroot ⊢
  have hnames : ∀ s ∈ resolution cwd p, IsName s := isName_of_mem_resolution
  rcases List.eq_nil_or_concat (resolution cwd p) with hnil | ⟨above, name, hconcat⟩
  · rw [hnil, absoluteText_nil] at hroot
    exact absurd rfl hroot
  rw [hconcat, List.concat_eq_append] at hnames ⊢
  rw [List.forall_mem_append, List.forall_mem_singleton] at hnames
  obtain ⟨habove, hname⟩ := hnames
  have hlonger : absoluteText (above ++ [name]) ++ more = absoluteText (above ++ [name ++ more.toList]) := by
    rw [← absoluteText_concat_append, String.ofList_toList]
  have hshort : ∀ s ∈ above ++ [name], IsName s := by
    rw [List.forall_mem_append, List.forall_mem_singleton]
    exact ⟨habove, hname⟩
  have hlong : ∀ s ∈ above ++ [name ++ more.toList], IsName s := by
    rw [List.forall_mem_append, List.forall_mem_singleton]
    exact ⟨habove, isName_append hname hmore' hslash⟩
  rw [hlonger, normalize_absoluteText _ hlong, ← Bool.not_eq_true, isWithin_absoluteText hshort hlong]
  exact ⟨rfl, not_prefix_longer_name hmore'⟩

theorem isWithin_joined (p : String) {q : String} (hq : isAbsolute q.toList = false) (h : StaysBelow q) :
    isWithin (normalize (some cwd) p) (normalize (some cwd) (joined p q)) = true := by
  rw [isWithin_normalize_iff hcwd, Covers, resolution_joined cwd p hq, Route.reach,
    rise_route_of_staysBelow hq h, List.rdrop_zero]
  exact List.prefix_append _ _

/-- **Containment read on text.** On normal forms it is a partial order above the root; a longer name
is another path; and a path that never goes up more than down stays below where it starts. -/
theorem containment_on_text :
    (∀ p q, isWithin (normalize (some cwd) p) (normalize (some cwd) q) = true ↔
        normalize (some cwd) q = normalize (some cwd) p ∨ normalize (some cwd) p = "/" ∨
          ∃ rest, normalize (some cwd) q = normalize (some cwd) p ++ "/" ++ rest) ∧
      ((∀ p, isWithin (normalize (some cwd) p) (normalize (some cwd) p) = true) ∧
        (∀ p q r, isWithin (normalize (some cwd) p) (normalize (some cwd) q) = true →
          isWithin (normalize (some cwd) q) (normalize (some cwd) r) = true →
            isWithin (normalize (some cwd) p) (normalize (some cwd) r) = true) ∧
        (∀ p q, isWithin (normalize (some cwd) p) (normalize (some cwd) q) = true →
          isWithin (normalize (some cwd) q) (normalize (some cwd) p) = true →
            normalize (some cwd) p = normalize (some cwd) q) ∧
        normalize (some cwd) "/" = "/" ∧ ∀ p, isWithin "/" (normalize (some cwd) p) = true) ∧
      (∀ p more : String, more ≠ "" → '/' ∉ more.toList → normalize (some cwd) p ≠ "/" →
        normalize (some cwd) (normalize (some cwd) p ++ more) = normalize (some cwd) p ++ more ∧
          isWithin (normalize (some cwd) p) (normalize (some cwd) p ++ more) = false) ∧
      ∀ p q : String, isAbsolute q.toList = false → StaysBelow q →
        isWithin (normalize (some cwd) p) (normalize (some cwd) (joined p q)) = true := by
  refine ⟨isWithin_normalize_iff_text hcwd, ⟨?_, ?_, isWithin_normalize_antisymm hcwd, ?_, ?_⟩, ?_,
    fun p q => isWithin_joined hcwd p⟩
  · exact fun p => (isWithin_normalize_iff hcwd).mpr List.prefix_rfl
  · intro p q r hpq hqr
    rw [isWithin_normalize_iff hcwd] at hpq hqr ⊢
    exact hpq.trans hqr
  · exact normalize_root
  · intro p
    rw [← normalize_root, isWithin_normalize_iff hcwd, Covers, resolution_of_isAbsolute cwd (by decide)]
    exact List.nil_prefix
  · exact fun p more hmore hslash hroot => longer_name_outside hcwd hmore hslash hroot

end

theorem containment_on_text_home :
    isAbsolute "/home/u".toList = true ∧
      (isWithin "/home/u" "/home/user" = true ↔
        "/home/user" = "/home/u" ∨ "/home/u" = "/" ∨ ∃ rest, "/home/user" = "/home/u" ++ "/" ++ rest) ∧
      isWithin "/home/u" ("/home/u" ++ ".bak") = false ∧
      isWithin "/home/u" (normalize (some "/home/u") (joined "." "./a/b/../../c")) = true := by
  have habs : isAbsolute "/home/u".toList = true := by decide
  have hhome : normalize (some "/home/u") "." = "/home/u" := by decide
  have huser : normalize (some "/home/u") "../user" = "/home/user" := by decide
  obtain ⟨htext, -, hlonger, hbelow⟩ := containment_on_text habs
  have htext' := htext "." "../user"
  have hlonger' := (hlonger "." ".bak" (by decide) (by decide) (by decide)).2
  have hbelow' := hbelow "." "./a/b/../../c" (by decide) (by decide)
  rw [hhome] at htext' hlonger' hbelow'
  rw [huser] at htext'
  exact ⟨habs, htext', hlonger', hbelow'⟩

end PluginSandbox.Path
