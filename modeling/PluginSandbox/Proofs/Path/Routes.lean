import Mathlib.Data.List.DropRight
import PluginSandbox.Proofs.Path.Resolution

/-!
# Relative paths as routes

A relative path that has no directory to start from leads some way up and from
there down through names. Its normal form writes just that, and to take the
path from a directory is to follow this route from there.
-/

namespace PluginSandbox.Path

/-- So many directories up, then down through the names. -/
structure Route where
  rise : Nat
  names : List (List Char)
deriving DecidableEq

namespace Route

def step (r : Route) (segment : List Char) : Route :=
  if segment = [] ∨ segment = ['.'] then r
  else if segment = ['.', '.'] then
    if r.names = [] then { r with rise := r.rise + 1 } else { r with names := r.names.dropLast }
  else { r with names := r.names ++ [segment] }

/-- Where the route leads from the directory `dir`; there is no way up from the root. -/
def reach (r : Route) (dir : List (List Char)) : List (List Char) :=
  dir.rdrop r.rise ++ r.names

def segments (r : Route) : List (List Char) :=
  List.replicate r.rise ['.', '.'] ++ r.names

def text (r : Route) : String :=
  if r.segments = [] then "." else String.ofList (['/'].intercalate r.segments)

def kept (r : Route) : List Component :=
  List.replicate r.rise .up ++ r.names.map .name

/-! ## One segment more -/

theorem descend_reach (r : Route) (dir : List (List Char)) (segment : List Char) :
    descend (r.reach dir) segment = (r.step segment).reach dir := by
  unfold descend step reach
  by_cases hdot : segment = [] ∨ segment = ['.']
  · rw [if_pos hdot, if_pos hdot]
  rw [if_neg hdot, if_neg hdot]
  by_cases hup : segment = ['.', '.']
  · rw [if_pos hup, if_pos hup]
    by_cases hnames : r.names = []
    · rw [if_pos hnames, hnames, List.append_nil, List.append_nil, ← List.rdrop_add, List.dropLast_eq_take]
      rfl
    · rw [if_neg hnames, List.dropLast_append_of_ne_nil hnames]
  · rw [if_neg hup, if_neg hup, List.append_assoc]

theorem foldl_descend_reach (segs dir : List (List Char)) : ∀ r : Route,
    segs.foldl descend (r.reach dir) = (segs.foldl step r).reach dir := by
  induction segs with
  | nil => exact fun _ => rfl
  | cons seg segs ih =>
    intro r
    rw [List.foldl_cons, List.foldl_cons, descend_reach, ih]

theorem isName_of_mem_step {r : Route} {segment : List Char} (hr : ∀ s ∈ r.names, IsName s)
    (hslash : '/' ∉ segment) : ∀ s ∈ (r.step segment).names, IsName s := by
  unfold step
  split
  · exact hr
  · next hdot =>
    rw [not_or] at hdot
    split
    · split
      · exact hr
      · exact fun s hs => hr s (r.names.dropLast_subset hs)
    · next hup =>
      intro s hs
      rcases List.mem_append.mp hs with hs | hs
      · exact hr s hs
      · rw [List.mem_singleton.mp hs]
        exact ⟨hdot.1, hdot.2, hup, hslash⟩

theorem isName_of_mem_foldl_step (segs : List (List Char)) : ∀ r : Route,
    (∀ s ∈ r.names, IsName s) → (∀ s ∈ segs, '/' ∉ s) → ∀ s ∈ (segs.foldl step r).names, IsName s := by
  induction segs with
  | nil => exact fun _ hr _ => hr
  | cons seg segs ih =>
    intro r hr hsegs
    rw [List.forall_mem_cons] at hsegs
    exact ih _ (isName_of_mem_step hr hsegs.1) hsegs.2

theorem foldl_step_names {names : List (List Char)} (h : ∀ s ∈ names, IsName s) (r : Route) :
    names.foldl step r = { r with names := r.names ++ names } := by
  induction names generalizing r with
  | nil => rw [List.foldl_nil, List.append_nil]
  | cons name names ih =>
    rw [List.forall_mem_cons] at h
    obtain ⟨⟨hempty, hhere, hup, -⟩, hrest⟩ := h
    rw [List.foldl_cons, step, if_neg (not_or.mpr ⟨hempty, hhere⟩), if_neg hup, ih hrest, List.append_assoc]
    rfl

theorem foldl_step_replicate_up (k rise : Nat) :
    (List.replicate k ['.', '.']).foldl step ⟨rise, []⟩ = ⟨rise + k, []⟩ := by
  induction k generalizing rise with
  | zero => rfl
  | succ k ih =>
    rw [List.replicate_succ, List.foldl_cons, step, if_neg (by decide), if_pos rfl, if_pos rfl, ih]
    exact congrArg (mk · []) (Nat.succ_add_eq_add_succ rise k)

theorem foldl_step_segments {r : Route} (h : ∀ s ∈ r.names, IsName s) :
    r.segments.foldl step ⟨0, []⟩ = r := by
  rw [segments, List.foldl_append, foldl_step_replicate_up, foldl_step_names h, Nat.zero_add, List.nil_append]

end Route

def route (p : String) : Route :=
  (p.toList.splitOn '/').foldl Route.step ⟨0, []⟩

theorem isName_of_mem_route {p : String} : ∀ s ∈ (route p).names, IsName s :=
  Route.isName_of_mem_foldl_step _ _ (fun _ h => absurd h List.not_mem_nil) (slash_not_mem_of_mem_splitOn _)

/-! ## Cleaning a relative path -/

theorem reverse_kept (r : Route) :
    r.kept.reverse = (r.names.map Component.name).reverse ++ List.replicate r.rise .up := by
  rw [Route.kept, List.reverse_append, List.reverse_replicate]

theorem ascend_kept (r : Route) : ascend r.kept.reverse = (r.step ['.', '.']).kept.reverse := by
  rw [reverse_kept, reverse_kept, Route.step, if_neg (by decide), if_pos rfl]
  rcases List.eq_nil_or_concat r.names with hnames | ⟨names, name, hnames⟩
  · rw [if_pos hnames, hnames]
    cases r.rise <;> rfl
  · rw [if_neg (by simp [hnames]), hnames]
    simp [ascend]

theorem cleanAfter_kept (segs : List (List Char)) : ∀ r : Route,
    cleanAfter r.kept.reverse (segs.filterMap step?) = (segs.foldl Route.step r).kept := by
  -- the stack of `cleanAfter` is what is kept of the route so far, last first
  induction segs with
  | nil => exact fun r => List.reverse_reverse r.kept
  | cons seg segs ih =>
    intro r
    rw [List.foldl_cons]
    by_cases hdot : seg = [] ∨ seg = ['.']
    · rw [List.filterMap_cons_none (by rw [step?, if_pos hdot]), ih, Route.step, if_pos hdot]
    by_cases hup : seg = ['.', '.']
    · rw [List.filterMap_cons_some (by rw [step?, if_neg hdot, if_pos hup]), cleanAfter, ascend_kept, ih, hup]
    · rw [List.filterMap_cons_some (by rw [step?, if_neg hdot, if_neg hup]), Route.step, if_neg hdot, if_neg hup,
        ← ih, reverse_kept, reverse_kept, List.map_append, List.reverse_append]
      rfl

theorem cleanAfter_components {p : String} (h : isAbsolute p.toList = false) :
    cleanAfter [] (components p.toList) = (route p).kept := by
  have hsteps : cleanAfter [] ((p.toList.splitOn '/').filterMap step?) = (route p).kept :=
    cleanAfter_kept (p.toList.splitOn '/') ⟨0, []⟩
  unfold components
  rw [segments_eq_splitOn]
  simp only [h, Bool.false_eq_true, if_false]
  split
  · exact hsteps
  · exact hsteps

/-! ## The normal form -/

theorem write_kept {r : Route} (h : r.segments ≠ []) : write r.kept = ['/'].intercalate r.segments := by
  have hmap : r.kept.map Component.chars = r.segments := by
    rw [Route.kept, Route.segments, List.map_append, List.map_replicate, List.map_map]
    exact congrArg _ (List.map_id' _)
  unfold write
  split
  · next hnil => rw [hnil] at hmap; exact absurd hmap.symm h
  · next rest hroot =>
    have hmem : Component.root ∈ r.kept := by rw [hroot]; exact List.mem_cons_self ..
    simp [Route.kept] at hmem
  · rw [hmap]

theorem segments_eq_nil_iff {r : Route} : r.segments = [] ↔ r.kept = [] := by
  simp [Route.segments, Route.kept]

theorem normalize_none_of_relative {p : String} (h : isAbsolute p.toList = false) :
    normalize none p = (route p).text := by
  unfold normalize normalizeChars resolve clean Route.text
  rw [if_neg (by simp [h]), cleanAfter_components h]
  by_cases hseg : (route p).segments = []
  · rw [if_pos hseg, segments_eq_nil_iff.mp hseg]
    rfl
  · rw [if_neg hseg, ← write_kept hseg]
    split
    · next hkept => exact absurd (segments_eq_nil_iff.mpr hkept) hseg
    · rfl

theorem leads_of_mem_segments {r : Route} (h : ∀ s ∈ r.names, IsName s) :
    ∀ s ∈ r.segments, s ≠ [] ∧ s ≠ ['.'] ∧ '/' ∉ s := by
  intro s hs
  rcases List.mem_append.mp hs with hs | hs
  · rw [List.eq_of_mem_replicate hs]; decide
  · obtain ⟨hempty, hhere, -, hslash⟩ := h s hs
    exact ⟨hempty, hhere, hslash⟩

theorem splitOn_text {r : Route} (h : ∀ s ∈ r.names, IsName s) :
    r.text.toList.splitOn '/' = if r.segments = [] then [['.']] else r.segments := by
  unfold Route.text
  by_cases hseg : r.segments = []
  · rw [if_pos hseg, if_pos hseg]
    rfl
  · rw [if_neg hseg, if_neg hseg, String.toList_ofList,
      List.splitOn_intercalate '/' (fun s hs => (leads_of_mem_segments h s hs).2.2) hseg]

theorem route_text {r : Route} (h : ∀ s ∈ r.names, IsName s) : route r.text = r := by
  have hfold := Route.foldl_step_segments h
  rw [route, splitOn_text h]
  split
  · next hseg => rw [← hfold, hseg]; rfl
  · exact hfold

theorem isAbsolute_text {r : Route} (h : ∀ s ∈ r.names, IsName s) : isAbsolute r.text.toList = false := by
  -- the text of an absolute path would begin with an empty segment
  have hsplit := splitOn_text h
  cases htext : r.text.toList with
  | nil => rfl
  | cons c cs =>
    rw [isAbsolute, List.head?_cons, beq_eq_false_iff_ne, ne_eq, Option.some.injEq]
    rintro rfl
    rw [htext, List.splitOn_cons_eq_if_modifyHead, if_pos (by rfl)] at hsplit
    split at hsplit
    · cases (List.cons.inj hsplit).1
    · have hempty : [] ∈ r.segments := by rw [← hsplit]; exact List.mem_cons_self ..
      exact (leads_of_mem_segments h [] hempty).1 rfl

end PluginSandbox.Path
