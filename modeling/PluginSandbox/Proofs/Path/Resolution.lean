import Mathlib.Data.List.Basic
import PluginSandbox.Path

/-!
# Paths as lists of segments

The reference reading of a path: its segments between slashes, taken from the
current directory one after another. Below an absolute directory the normal
form of a path writes exactly this list, so containment is its prefix order.
-/

namespace PluginSandbox.Path

/-! ## The reference -/

/-- Empty and `.` segments stay where they are, `..` goes up unless at the root. -/
def descend (kept : List (List Char)) (segment : List Char) : List (List Char) :=
  if segment = [] ∨ segment = ['.'] then kept
  else if segment = ['.', '.'] then kept.dropLast
  else kept ++ [segment]

/-- Where `p` leads from the directory `cwd`, as the names on the way from the root. -/
def resolution (cwd p : String) : List (List Char) :=
  let whole := if isAbsolute p.toList then p.toList else cwd.toList ++ '/' :: p.toList
  (whole.splitOn '/').foldl descend []

def absoluteText (names : List (List Char)) : String :=
  String.ofList ('/' :: ['/'].intercalate names)

/-- `t` leads to where `b` leads or below it. -/
def Covers (cwd b t : String) : Prop :=
  resolution cwd b <+: resolution cwd t

instance (cwd b t : String) : Decidable (Covers cwd b t) :=
  inferInstanceAs (Decidable (resolution cwd b <+: resolution cwd t))

/-! ## Segments -/

theorem segments_eq_splitOn (p : List Char) : segments p = p.splitOn '/' := by
  induction p with
  | nil => rfl
  | cons c cs ih =>
    rw [List.splitOn_cons_eq_if_modifyHead, segments, ih]
    by_cases hc : c = '/'
    · simp [hc]
    · rw [if_neg hc, if_neg (by simpa using hc)]
      cases hs : cs.splitOn '/' with
      | nil => exact absurd hs (List.splitOn_ne_nil _ _)
      | cons s rest => rfl

theorem slash_not_mem_of_mem_splitOn (p : List Char) : ∀ s ∈ p.splitOn '/', '/' ∉ s := by
  induction p with
  | nil => simp
  | cons c cs ih =>
    rw [List.splitOn_cons_eq_if_modifyHead]
    by_cases hc : c = '/'
    · simpa [hc] using ih
    · rw [if_neg (by simpa using hc)]
      cases hs : cs.splitOn '/' with
      | nil => exact absurd hs (List.splitOn_ne_nil _ _)
      | cons s rest =>
        rw [hs] at ih
        intro t ht
        rcases List.mem_cons.mp ht with rfl | hr
        · have := ih s (List.mem_cons_self ..)
          simp [Ne.symm hc, this]
        · exact ih t (List.mem_cons_of_mem _ hr)

def IsName (s : List Char) : Prop :=
  s ≠ [] ∧ s ≠ ['.'] ∧ s ≠ ['.', '.'] ∧ '/' ∉ s

theorem step?_of_isName {s : List Char} (h : IsName s) : step? s = some (.name s) := by
  unfold step?
  rw [if_neg (by simp [h.1, h.2.1]), if_neg h.2.2.1]

theorem isName_of_mem_foldl_descend (segs : List (List Char)) :
    ∀ kept : List (List Char), (∀ s ∈ kept, IsName s) → (∀ s ∈ segs, '/' ∉ s) →
      ∀ s ∈ segs.foldl descend kept, IsName s := by
  induction segs with
  | nil => intro kept hk _; exact hk
  | cons seg segs ih =>
    intro kept hk hs
    refine ih _ ?_ fun s h => hs s (List.mem_cons_of_mem _ h)
    unfold descend
    split
    · exact hk
    · split
      · exact fun s h => hk s (kept.dropLast_subset h)
      · rename_i hdot hup
        rw [not_or] at hdot
        intro s h
        rcases List.mem_append.mp h with h | h
        · exact hk s h
        · rw [List.mem_singleton.mp h]
          exact ⟨hdot.1, hdot.2, hup, hs seg (List.mem_cons_self ..)⟩

theorem isName_of_mem_resolution {cwd p : String} : ∀ s ∈ resolution cwd p, IsName s :=
  isName_of_mem_foldl_descend _ _ (fun _ h => absurd h List.not_mem_nil)
    (slash_not_mem_of_mem_splitOn _)

/-! ## Joining -/

theorem isAbsolute_join (base : List Char) {p : List Char} (h : isAbsolute p = false) :
    isAbsolute (join base p) = isAbsolute base := by
  rw [join, if_neg (by simp [h])]
  cases base with
  | nil => rw [if_pos (.inl rfl), List.nil_append, h]; rfl
  | cons c cs => split <;> rfl

/-- Segment by segment, a joined path is the one path after the other; the empty segments at the seam
lead nowhere. -/
theorem foldl_splitOn_join {β : Type} {f : β → List Char → β} (hempty : ∀ z, f z [] = z) (base : List Char)
    {p : List Char} (h : isAbsolute p = false) (z : β) :
    ((join base p).splitOn '/').foldl f z = (p.splitOn '/').foldl f ((base.splitOn '/').foldl f z) := by
  rw [join, if_neg (by simp [h])]
  by_cases hnil : base = []
  · rw [if_pos (.inl hnil), hnil, List.nil_append, List.splitOn_nil, List.foldl_cons, hempty, List.foldl_nil]
  by_cases hend : base.getLast? = some '/'
  · obtain ⟨front, rfl⟩ := List.getLast?_eq_some_iff.mp hend
    rw [if_pos (.inr hend), List.append_assoc, List.singleton_append, List.splitOn_append_cons_self,
      List.splitOn_append_cons_self, List.foldl_append, List.foldl_append, List.splitOn_nil, List.foldl_cons,
      hempty, List.foldl_nil]
  · rw [if_neg (not_or.mpr ⟨hnil, hend⟩), List.splitOn_append_cons_self, List.foldl_append]

theorem descend_nil (kept : List (List Char)) : descend kept [] = kept := rfl

/-! ## Cleaning an absolute path -/

theorem cleanAfter_steps (segs : List (List Char)) : ∀ kept : List (List Char),
    cleanAfter ((kept.map Component.name).reverse ++ [.root]) (segs.filterMap step?) =
      .root :: (segs.foldl descend kept).map Component.name := by
  -- the stack of `cleanAfter` is the kept names, last first, on the root
  induction segs with
  | nil => intro kept; simp [cleanAfter]
  | cons seg segs ih =>
    intro kept
    rw [List.foldl_cons, descend]
    by_cases hdot : seg = [] ∨ seg = ['.']
    · rw [List.filterMap_cons_none (by rw [step?, if_pos hdot]), if_pos hdot]
      exact ih kept
    · by_cases hup : seg = ['.', '.']
      · have hs : step? seg = some .up := by rw [step?, if_neg hdot, if_pos hup]
        rw [List.filterMap_cons_some hs, if_neg hdot, if_pos hup, cleanAfter, ← ih]
        rcases List.eq_nil_or_concat kept with rfl | ⟨ks, k, rfl⟩
        · rfl
        · simp [ascend]
      · have hs : step? seg = some (.name seg) := by rw [step?, if_neg hdot, if_neg hup]
        rw [List.filterMap_cons_some hs, if_neg hdot, if_neg hup, ← ih]
        rw [List.map_append, List.reverse_append]
        rfl

theorem clean_components_of_isAbsolute {a : List Char} (h : isAbsolute a = true) :
    clean (components a) = .root :: ((a.splitOn '/').foldl descend []).map Component.name := by
  have hsteps : cleanAfter [] (.root :: (a.splitOn '/').filterMap step?) = _ :=
    cleanAfter_steps (a.splitOn '/') []
  unfold components clean
  rw [segments_eq_splitOn]
  simp only [h, if_true, hsteps]

theorem foldl_descend_resolve {cwd : String} (h : isAbsolute cwd.toList = true) (p : String) :
    isAbsolute (resolve (some cwd) p.toList) = true ∧
      ((resolve (some cwd) p.toList).splitOn '/').foldl descend [] = resolution cwd p := by
  unfold resolve resolution
  cases hp : isAbsolute p.toList with
  | true => exact ⟨hp, rfl⟩
  | false =>
    simp only [Bool.false_eq_true, if_false]
    refine ⟨(isAbsolute_join cwd.toList hp).trans h, ?_⟩
    rw [foldl_splitOn_join descend_nil cwd.toList hp, List.splitOn_append_cons_self, List.foldl_append]

theorem normalize_eq_absoluteText {cwd : String} (h : isAbsolute cwd.toList = true) (p : String) :
    normalize (some cwd) p = absoluteText (resolution cwd p) := by
  obtain ⟨habs, hres⟩ := foldl_descend_resolve h p
  unfold normalize normalizeChars absoluteText
  rw [clean_components_of_isAbsolute habs, hres, write, List.map_map]
  congr 2
  exact congrArg _ (List.map_id' _)

/-! ## Containment -/

theorem filterMap_step?_names {names : List (List Char)} (h : ∀ s ∈ names, IsName s) :
    names.filterMap step? = names.map Component.name := by
  rw [← List.filterMap_eq_map]
  exact List.filterMap_congr fun s hs => step?_of_isName (h s hs)

theorem components_absoluteText {names : List (List Char)} (h : ∀ s ∈ names, IsName s) :
    components (absoluteText names).toList = .root :: names.map Component.name := by
  unfold absoluteText components
  rw [String.toList_ofList, segments_eq_splitOn, List.splitOn_cons_eq_if_modifyHead]
  simp only [isAbsolute, List.head?_cons, beq_self_eq_true, if_true]
  rw [List.filterMap_cons_none (by simp [step?])]
  by_cases hn : names = []
  · subst hn; simp [step?]
  · rw [List.splitOn_intercalate '/' (fun s hs => (h s hs).2.2.2) hn, filterMap_step?_names h]

theorem isWithin_absoluteText {above names : List (List Char)} (habove : ∀ s ∈ above, IsName s)
    (hnames : ∀ s ∈ names, IsName s) :
    isWithin (absoluteText above) (absoluteText names) = true ↔ above <+: names := by
  have hinj : Function.Injective Component.name := fun _ _ e => Component.name.inj e
  rw [isWithin, components_absoluteText habove, components_absoluteText hnames, List.isPrefixOf_iff_prefix,
    List.cons_prefix_cons, List.prefix_map_iff_of_injective hinj]
  exact and_iff_right rfl

/-- **Containment of normal forms is the prefix order of what they resolve to.** -/
theorem isWithin_normalize_iff {cwd : String} (h : isAbsolute cwd.toList = true) {b t : String} :
    isWithin (normalize (some cwd) b) (normalize (some cwd) t) = true ↔ Covers cwd b t := by
  rw [normalize_eq_absoluteText h, normalize_eq_absoluteText h,
    isWithin_absoluteText isName_of_mem_resolution isName_of_mem_resolution, Covers]

/-! ## Normal forms again -/

theorem foldl_descend_names {names : List (List Char)} (h : ∀ s ∈ names, IsName s) (kept : List (List Char)) :
    names.foldl descend kept = kept ++ names := by
  induction names generalizing kept with
  | nil => exact (List.append_nil kept).symm
  | cons name names ih =>
    rw [List.forall_mem_cons] at h
    obtain ⟨⟨hempty, hhere, hup, -⟩, hrest⟩ := h
    rw [List.foldl_cons, descend, if_neg (not_or.mpr ⟨hempty, hhere⟩), if_neg hup, ih hrest, List.append_assoc]
    rfl

theorem resolution_absoluteText (cwd : String) {names : List (List Char)} (h : ∀ s ∈ names, IsName s) :
    resolution cwd (absoluteText names) = names := by
  unfold resolution absoluteText
  simp only [String.toList_ofList, isAbsolute, List.head?_cons, beq_self_eq_true, if_true,
    List.splitOn_cons_eq_if_modifyHead, List.foldl_cons]
  by_cases hn : names = []
  · subst hn; rfl
  · rw [List.splitOn_intercalate '/' (fun s hs => (h s hs).2.2.2) hn]
    exact foldl_descend_names h []

theorem normalize_normalize {cwd : String} (h : isAbsolute cwd.toList = true) (p : String) :
    normalize (some cwd) (normalize (some cwd) p) = normalize (some cwd) p := by
  rw [normalize_eq_absoluteText h (normalize (some cwd) p), normalize_eq_absoluteText h p,
    resolution_absoluteText cwd isName_of_mem_resolution]

end PluginSandbox.Path
